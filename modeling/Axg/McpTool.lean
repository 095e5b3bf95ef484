/-
# The check inside an MCP tool (`verify_mcp_tool_call`)

A tool receives its arguments, and in the request's `_meta` a Passport and the payload that the
Passport authorizes.  It verifies the Passport for the payload, and then looks up each argument it
received in the payload.  It never looks the other way: a call with arguments left out is accepted,
and one with the fields that the engine or a rule added to the payload.  So wherever the Passport
itself is accepted, calls are that were not decided on (`exact_call_iff`).

The Passport is stored in the replay cache before the arguments are looked up, so a call that is
refused over an argument uses a fresh Passport up, and no other refusal does
(`refused_unspent_iff`).
-/
import Axg.Decisions
import Axg.Passports

namespace Axg

open Python

/-! ## 1. `verify_mcp_tool_call` -/

/-- `PASSPORT_META_KEY` -/
def passportMetaKey : Str := lit "io.axg/passport"

/-- `PAYLOAD_META_KEY` -/
def payloadMetaKey : Str := lit "io.axg/actionable_payload"

/-- The argument that integrations add to a call. -/
def axgArgument : Str := lit "axg"

/-- `isinstance(v, dict)`, with the dictionary. -/
def asObject : {v : Json // v.Wf} → Option JsonObject
  | ⟨.obj members, h⟩ => some ⟨members, h⟩
  | _ => none

/-- The token of a JSON value.  `jwt.decode` reads strings, and refuses anything else. -/
def tokenOf (parse : Str → Token) : Json → Token
  | .str s => parse s
  | _ => .malformed []

/-- The arguments of a `verify_mcp_tool_call` call. -/
structure McpToolCall where
  requestMeta : Option JsonObject
  toolName : Str
  arguments : JsonObject
  appId : Str
  tenantId : Option Str
  keySource : KeySource
  ignoredArguments : List Str := [axgArgument]

/-- `authorized[key] == value`, where there is an `authorized[key]`. -/
def argumentIs (authorized : JsonObject) (p : Str × Json) : Bool :=
  match authorized.members.lookup p.1 with
  | some v => v.pyEq p.2
  | none => false

/-- Every argument that is not ignored is in the payload. -/
def argumentsIn (ignored : List Str) (arguments authorized : JsonObject) : Bool :=
  arguments.members.all (fun p => ignored.contains p.1 || argumentIs authorized p)

theorem argumentIs_iff {authorized : JsonObject} {p : Str × Json} :
    argumentIs authorized p = true ↔
      ∃ v, authorized.members.lookup p.1 = some v ∧ v.pyEq p.2 = true := by
  unfold argumentIs
  cases authorized.members.lookup p.1 <;> simp

theorem argumentsIn_iff {ignored : List Str} {arguments authorized : JsonObject} :
    argumentsIn ignored arguments authorized = true ↔
      ∀ p ∈ arguments.members, p.1 ∉ ignored → argumentIs authorized p = true := by
  simp only [argumentsIn, List.all_eq_true, Bool.or_eq_true, List.contains_iff_mem,
    or_iff_not_imp_left]

namespace McpToolCall

/-- `meta.get(key)` -/
def metaGet (call : McpToolCall) (key : Str) : Option {v : Json // v.Wf} :=
  call.requestMeta.bind (fun m => m.find key)

/-- The `verify_passport` call of a `verify_mcp_tool_call` call. -/
def verifyCall (call : McpToolCall) (token : Token) (authorized : JsonObject) : VerifyCall where
  token := token
  payload := authorized
  appId := call.appId
  tenantId := call.tenantId
  allowedActionTypes := some [call.toolName]
  keySource := call.keySource

end McpToolCall

/-- `verify_mcp_tool_call` -/
def verifyMcpToolCall (sha : Sha256) (parse : Str → Token) (call : McpToolCall)
    (cache : Option ReplayCache) (now later : Clock) :
    Except VerificationCode (Dict Json) × Option ReplayCache :=
  match call.metaGet passportMetaKey, (call.metaGet payloadMetaKey).bind asObject with
  | some passport, some authorized =>
    if passport.val.truthy = false then (.error .missingPassport, cache)
    else
      match verifyPassport sha (call.verifyCall (tokenOf parse passport.val) authorized) cache now
          later with
      | (.error code, cache) => (.error code, cache)
      | (.ok claims, cache) =>
        if argumentsIn call.ignoredArguments call.arguments authorized then (.ok claims, cache)
        else (.error .argumentsMismatch, cache)
  | _, _ => (.error .missingPassport, cache)

/-! ## 2. What it accepts -/

section Accepts

variable {sha : Sha256} {parse : Str → Token} {call : McpToolCall} {cache : Option ReplayCache}
  {now later : Clock} {claims : Dict Json}

/-- The `_meta` of a call carries a token, as text, and a payload. -/
structure McpToolCall.Carries (parse : Str → Token) (call : McpToolCall) (token : Token)
    (authorized : JsonObject) : Prop where
  passport : ∃ m text, call.requestMeta = some m ∧
    m.members.lookup passportMetaKey = some (.str text) ∧ text ≠ [] ∧ parse text = token
  payload : ∃ m, call.requestMeta = some m ∧
    m.members.lookup payloadMetaKey = some authorized.json

theorem asObject_eq_some_iff {v : {v : Json // v.Wf}} {o : JsonObject} :
    asObject v = some o ↔ v.val = o.json := by
  obtain ⟨v, hv⟩ := v
  obtain ⟨members, hwf⟩ := o
  cases v <;> simp [asObject, JsonObject.json]

theorem find_eq_some_iff {o : JsonObject} {key : Str} {v : {v : Json // v.Wf}} :
    o.find key = some v ↔ o.members.lookup key = some v.val := by
  rw [← o.find_map key]
  cases o.find key with
  | none => simp
  | some w => simp [Subtype.ext_iff]

/-- A call is accepted when its Passport is, and every argument is in the payload. -/
theorem verifyMcpToolCall_eq_ok_iff {token : Token} {authorized : JsonObject}
    (hmeta : call.Carries parse token authorized) :
    (verifyMcpToolCall sha parse call cache now later).1 = .ok claims ↔
      (verifyPassport sha (call.verifyCall token authorized) cache now later).1 = .ok claims ∧
        argumentsIn call.ignoredArguments call.arguments authorized = true := by
  obtain ⟨⟨m, text, hm, htext, hne, hparse⟩, ⟨m', hm', hpayload⟩⟩ := hmeta
  cases hm.symm.trans hm'
  have hpassport : call.metaGet passportMetaKey = some ⟨.str text, rfl⟩ := by
    rw [McpToolCall.metaGet, hm]
    exact find_eq_some_iff.mpr htext
  have hauthorized : (call.metaGet payloadMetaKey).bind asObject = some authorized := by
    have hfind : m.find payloadMetaKey = some ⟨authorized.json, authorized.wf⟩ :=
      find_eq_some_iff.mpr hpayload
    rw [McpToolCall.metaGet, hm, Option.bind_some, hfind, Option.bind_some]
    exact asObject_eq_some_iff.mpr rfl
  have htruthy : (Json.str text).truthy = true := by
    cases text with
    | nil => exact absurd rfl hne
    | cons c text => rfl
  unfold verifyMcpToolCall
  rw [hpassport, hauthorized]
  simp only [htruthy, tokenOf, hparse, Bool.true_eq_false, ↓reduceIte]
  rcases verifyPassport sha (call.verifyCall token authorized) cache now later with ⟨r, c⟩
  cases r with
  | error code => simp
  | ok cs =>
    simp only [Except.ok.injEq]
    split
    · rename_i h
      simp [h]
    · rename_i h
      simp [h]

/-- What an accepted call has shown. -/
theorem verifyMcpToolCall_eq_ok
    (h : (verifyMcpToolCall sha parse call cache now later).1 = .ok claims) :
    ∃ passport authorized, call.metaGet passportMetaKey = some passport ∧
      (call.metaGet payloadMetaKey).bind asObject = some authorized ∧
      passport.val.truthy = true ∧
      (verifyPassport sha (call.verifyCall (tokenOf parse passport.val) authorized) cache now
        later).1 = .ok claims ∧
      argumentsIn call.ignoredArguments call.arguments authorized = true := by
  unfold verifyMcpToolCall at h
  split at h
  · rename_i passport authorized hpassport hauthorized
    split at h
    · cases h
    rename_i htruthy
    split at h
    · cases h
    rename_i cs c hverify
    split at h
    · rename_i hin
      cases h
      exact ⟨passport, authorized, hpassport, hauthorized, by simpa using htruthy,
        congrArg Prod.fst hverify, hin⟩
    · cases h
  · cases h

end Accepts

/-! ## 3. The call that was decided on -/

/-- The arguments of two calls are the same JSON data, apart from `axg`, which is the gateway's
to write. -/
def SameArguments (a b : JsonObject) : Prop :=
  Json.sameData (.obj (a.members.without axgArgument)) (.obj (b.members.without axgArgument)) = true

theorem not_sameArguments_empty {a : JsonObject} (h : a.members.without axgArgument ≠ []) :
    ¬ SameArguments a .empty := by
  intro hsame
  obtain ⟨hlen, -⟩ := Json.same_obj.mp hsame
  exact h (List.length_eq_zero_iff.mp hlen)

/-- One argument, with a value. -/
def oneArgument (key : Str) (v : Json) (h : v.Wf) : JsonObject := JsonObject.empty.set key v h

theorem not_sameArguments_oneArgument {a : JsonObject} (h : a.members.without axgArgument = [])
    {key : Str} {v : Json} (hv : v.Wf) (hkey : key ≠ axgArgument) :
    ¬ SameArguments a (oneArgument key v hv) := by
  intro hsame
  obtain ⟨hlen, -⟩ := Json.same_obj.mp hsame
  rw [h] at hlen
  simp [oneArgument, JsonObject.empty, Dict.set, Dict.without, hkey] at hlen

theorem isSome_lookup_set {d : Dict Json} {k : Str} (j : Str) (v : Json)
    (h : (d.lookup k).isSome = true) : ((d.set j v).lookup k).isSome = true := by
  rw [Dict.lookup_set]
  split
  · rfl
  · exact h

theorem isSome_lookup_update {d : Dict Json} {k : Str} (e : Dict Json)
    (h : (d.lookup k).isSome = true) : ((d.update e).lookup k).isSome = true := by
  induction e generalizing d with
  | nil => exact h
  | cons p e ih => exact ih (isSome_lookup_set p.1 p.2 h)

/-- A rule only adds and replaces fields. -/
theorem isSome_lookup_rules {o : JsonObject} {k : Str} (triggered : List PolicyRule)
    (h : (o.members.lookup k).isSome = true) :
    ((triggered.foldl (fun o rule => o.update rule.actionablePayload) o).members.lookup k).isSome
      = true := by
  induction triggered generalizing o with
  | nil => exact h
  | cons rule triggered ih => exact ih (isSome_lookup_update rule.actionablePayload.members h)

/-- The engine writes the proposed action into every payload. -/
theorem exists_proposedAction (request : DecisionRequest) (triggered : List PolicyRule) :
    ∃ v, (actionablePayload request triggered).members.lookup (lit "proposed_action") = some v := by
  refine Option.isSome_iff_exists.mp (isSome_lookup_rules triggered ?_)
  have hset : ((request.payload.setdefault (lit "proposed_action") (.str request.actionType)
      rfl).members.lookup (lit "proposed_action")).isSome = true := by
    unfold JsonObject.setdefault
    split
    · assumption
    · change ((request.payload.members.set _ _).lookup _).isSome = true
      rw [Dict.lookup_set, if_pos rfl]
      rfl
  split
  · exact isSome_lookup_set _ _ hset
  · exact hset

/-- No arguments are in every payload. -/
theorem argumentsIn_empty (ignored : List Str) (authorized : JsonObject) :
    argumentsIn ignored .empty authorized = true := rfl

/-- A field of the payload is an argument that it authorizes. -/
theorem argumentsIn_oneArgument (ignored : List Str) {authorized : JsonObject}
    (htext : authorized.json.isText = true) {key : Str} {v : Json}
    (hv : authorized.members.lookup key = some v) :
    argumentsIn ignored (oneArgument key v (authorized.wf_of_lookup hv)) authorized = true := by
  have hmem := Dict.lookup_mem hv
  have ht : v.isText = true := (Json.every_obj.mp htext).2 _ hmem
  have heq : argumentIs authorized (key, v) = true := by
    rw [argumentIs, hv]
    exact Json.pyEq_refl (authorized.wf_of_lookup hv) ht
  simp [argumentsIn, oneArgument, JsonObject.empty, Dict.set, heq]

/-- Wherever the Passport of a decision is accepted, the tool accepts calls that were not decided
on; so it executes exactly the authorized call only where it refuses the Passport.  It looks up
the arguments that it received and never asks for those that it did not, and the engine adds
`proposed_action` to every payload, which is an argument more that it accepts. -/
theorem exact_call_iff {request : DecisionRequest} {py : Interpreter} {sha : Sha256}
    {keys : KeyManager} {caller : Caller} {decidedAt : Clock} {uuid : Text}
    {loaded : Except Text Plugin} {context : Except PyError VerifiedContext}
    {response : DecisionResponse} {token : Token}
    (hdecide : decide request py sha keys caller decidedAt uuid loaded context = .ok response)
    (hpassport : response.passport = some token) {parse : Str → Token} {call : McpToolCall}
    (hmeta : call.Carries parse token response.actionablePayload) (cache : Option ReplayCache)
    (now later : Clock) :
    (∀ arguments claims, (verifyMcpToolCall sha parse { call with arguments := arguments } cache
        now later).1 = .ok claims → SameArguments request.payload arguments) ↔
      ∀ claims, (verifyPassport sha (call.verifyCall token response.actionablePayload) cache now
        later).1 ≠ .ok claims := by
  have hcarries : ∀ arguments, McpToolCall.Carries parse { call with arguments := arguments } token
      response.actionablePayload := fun arguments => ⟨hmeta.passport, hmeta.payload⟩
  constructor
  · intro h claims hclaims
    have haccept : ∀ arguments, argumentsIn call.ignoredArguments arguments
        response.actionablePayload = true → SameArguments request.payload arguments := by
      intro arguments hin
      exact h arguments claims ((verifyMcpToolCall_eq_ok_iff (hcarries arguments)).mpr
        ⟨hclaims, hin⟩)
    -- the call without arguments is accepted, so there were none
    have hempty : request.payload.members.without axgArgument = [] := by
      by_contra hne
      exact not_sameArguments_empty hne (haccept .empty (argumentsIn_empty _ _))
    -- and the field that the engine adds is accepted as an argument
    obtain ⟨plugin, triggered, jti, -, -, -, hpayload, hsign⟩ := decide_passport hdecide hpassport
    obtain ⟨hash, key, hhash, -⟩ := signDecision_eq_ok hsign
    have htext : response.actionablePayload.json.isText = true := by
      rw [hpayload]
      exact (canonicalHash_isOk_iff.mp ⟨hash, hhash⟩).1
    obtain ⟨v, hv⟩ := exists_proposedAction request triggered
    rw [← hpayload] at hv
    exact not_sameArguments_oneArgument hempty _
      (show lit "proposed_action" ≠ axgArgument by decide)
      (haccept _ (argumentsIn_oneArgument _ htext hv))
  · intro h arguments claims haccept
    exact absurd ((verifyMcpToolCall_eq_ok_iff (hcarries arguments)).mp haccept).1 (h claims)

/-- A request to pay an amount. -/
def invoiceRequest : DecisionRequest := { payRequest with payload := amount 5 }

def invoiceResponse : DecisionResponse :=
  respond payPolicy invoiceRequest .trustedLocal plainSha pairedKeys 0 (.lit "j1") .none [] false

theorem decide_invoice :
    decide invoiceRequest plainInterpreter plainSha pairedKeys .trustedLocal 0 (.lit "j1")
      (.ok payPolicy) (.ok .none) = .ok invoiceResponse :=
  decide_eq_ok.mpr (.inr ⟨_, _, [], false, rfl, rfl, rfl, rfl, rfl, .of_empty rfl⟩)

def passportText : Str := lit "header.claims.signature"

/-- The library's reading of one Passport. -/
def parseOnly (token : Token) (text : Str) : Token :=
  if text = passportText then token else .malformed text

/-- A request's `_meta` with a Passport and a payload. -/
def passportMeta (authorized : JsonObject) : JsonObject :=
  (JsonObject.empty.set passportMetaKey (.str passportText) rfl).set payloadMetaKey authorized.json
    authorized.wf

/-- A call of the tool `pay`. -/
def invoiceCall (authorized : JsonObject) : McpToolCall where
  requestMeta := some (passportMeta authorized)
  toolName := lit "pay"
  arguments := .empty
  appId := lit "app"
  tenantId := some (lit "tenant")
  keySource := .publicKey pairedKeys.publicKey

theorem invoiceCall_carries (token : Token) (authorized : JsonObject) :
    (invoiceCall authorized).Carries (parseOnly token) token authorized :=
  ⟨⟨_, passportText, rfl, rfl, by decide, if_pos rfl⟩, ⟨_, rfl, rfl⟩⟩

/-- The Passport of the payment passes the checks, and can be stored. -/
theorem invoice_decoded : ∃ token claims key, invoiceResponse.passport = some token ∧
    decodeStep plainSha ((invoiceCall invoiceResponse.actionablePayload).verifyCall token
      invoiceResponse.actionablePayload) 0 = .ok claims ∧
    replayKey claims = .ok key ∧ 0 < key.2 := by
  obtain ⟨token, htoken⟩ := Option.isSome_iff_exists.mp
    (show invoiceResponse.passport.isSome = true by decide +kernel)
  obtain ⟨plugin, triggered, jti, -, -, -, hpayload, hsign⟩ := decide_passport decide_invoice htoken
  obtain ⟨claims, hclaims⟩ := @decodeStep_fresh plainSha
    ((invoiceCall invoiceResponse.actionablePayload).verifyCall token
      invoiceResponse.actionablePayload) 0 pairedKeys 0 _ _ _ hsign rfl rfl (List.cons_ne_nil _ _)
    (fun t ht _ => by cases ht; rfl)
    (fun as has _ => by cases has; exact List.mem_singleton.mpr rfl)
    (congrArg (hashPayload plainSha) hpayload) (le_refl _) (by decide)
  obtain ⟨hash, key, -, -, -, hjti, rfl⟩ := signDecision_eq_ok hsign
  obtain ⟨rfl, -⟩ := (decodeStep_issued rfl rfl).mp hclaims
  have hexp : (0 : Int) < Clock.seconds (0 + passportLifetime) := by decide
  refine ⟨_, _, _, htoken, hclaims, PassportClaims.replayKey_dump _ ?_, hexp⟩
  rw [passportClaims, hjti]
  exact List.cons_ne_nil _ _

/-- The Passport of the payment is accepted. -/
theorem invoice_passport : ∃ token claims, invoiceResponse.passport = some token ∧
    (verifyPassport plainSha ((invoiceCall invoiceResponse.actionablePayload).verifyCall token
      invoiceResponse.actionablePayload) none 0 0).1 = .ok claims := by
  obtain ⟨token, claims, key, htoken, hclaims, -⟩ := invoice_decoded
  exact ⟨token, claims, htoken, by rw [verifyPassport, hclaims]⟩

/-- The payment of 5 is decided on, and the call without an amount is accepted. -/
theorem dropped_argument_accepted : ∃ token,
    decide invoiceRequest plainInterpreter plainSha pairedKeys .trustedLocal 0 (.lit "j1")
      (.ok payPolicy) (.ok .none) = .ok invoiceResponse ∧
    invoiceResponse.decision = .allow ∧ invoiceResponse.passport = some token ∧
    (invoiceCall invoiceResponse.actionablePayload).Carries (parseOnly token) token
      invoiceResponse.actionablePayload ∧
    (∃ claims, (verifyMcpToolCall plainSha (parseOnly token)
      { invoiceCall invoiceResponse.actionablePayload with arguments := .empty } none 0 0).1 =
        .ok claims) ∧
    ¬ SameArguments invoiceRequest.payload .empty := by
  obtain ⟨token, claims, htoken, hclaims⟩ := invoice_passport
  refine ⟨token, decide_invoice, by decide +kernel, htoken, invoiceCall_carries _ _, ⟨claims, ?_⟩,
    not_sameArguments_empty (by decide)⟩
  exact (verifyMcpToolCall_eq_ok_iff (invoiceCall_carries _ _)).mpr ⟨hclaims, argumentsIn_empty _ _⟩

/-- The tool that takes the Passport of this payment does not execute it exactly. -/
theorem exact_call_iff_invoice : ∃ token, invoiceResponse.passport = some token ∧
    ¬ ∀ arguments claims, (verifyMcpToolCall plainSha (parseOnly token)
      { invoiceCall invoiceResponse.actionablePayload with arguments := arguments } none 0 0).1 =
        .ok claims → SameArguments invoiceRequest.payload arguments := by
  obtain ⟨token, claims, htoken, hclaims⟩ := invoice_passport
  refine ⟨token, htoken, ?_⟩
  intro h
  exact (exact_call_iff decide_invoice htoken (invoiceCall_carries _ _) none 0 0).mp h claims
    hclaims

/-! ## 4. What a refused call leaves -/

/-- The entries of the cache that have not expired. -/
def ReplayCache.live (cache : ReplayCache) (now : Clock) : Set (Str × Int) :=
  {p | p ∈ cache ∧ Clock.seconds now < p.2}

theorem ReplayCache.mem_filter_iff {cache : ReplayCache} {now : Clock} {p : Str × Int} :
    p ∈ cache.filter (fun p => Clock.seconds now < p.2) ↔ p ∈ cache.live now := by
  rw [List.mem_filter, decide_eq_true_iff]
  rfl

/-- The cache refuses a `jti` that is live, and stores another one behind its live entries. -/
theorem ReplayCache.checkAndStore_cases (cache : ReplayCache) (jti : Str) (exp : Int)
    (now : Clock) :
    ((∃ e, (jti, e) ∈ cache.live now) ∧ cache.checkAndStore jti exp now =
        (false, cache.filter (fun p => Clock.seconds now < p.2))) ∨
      ((∀ e, (jti, e) ∉ cache.live now) ∧ cache.checkAndStore jti exp now =
        (true, cache.filter (fun p => Clock.seconds now < p.2) ++ [(jti, exp)])) := by
  have hiff : (List.lookup jti (cache.filter (fun p => Clock.seconds now < p.2))).isSome = true ↔
      ∃ e, (jti, e) ∈ cache.live now := by
    rw [Dict.lookup_isSome_iff, Dict.keys]
    simp only [List.mem_map, Prod.exists, mem_filter_iff, exists_and_right, exists_eq_right]
  unfold checkAndStore
  by_cases hlive : ∃ e, (jti, e) ∈ cache.live now
  · exact .inl ⟨hlive, by simp only [hiff.mpr hlive, ↓reduceIte]⟩
  · have hnone : jti ∉ Dict.keys (cache.filter (fun p => Clock.seconds now < p.2)) := by
      rw [← Dict.lookup_isSome_iff, hiff]
      exact hlive
    refine .inr ⟨fun e he => hlive ⟨e, he⟩, ?_⟩
    simp only [mt hiff.mp hlive, Bool.false_eq_true, ↓reduceIte, Dict.set_of_not_mem exp hnone]

/-- Expired entries are not live, so dropping them changes nothing. -/
theorem ReplayCache.live_filter (cache : ReplayCache) (now : Clock) :
    ReplayCache.live (cache.filter (fun p => Clock.seconds now < p.2)) now = cache.live now := by
  ext p
  simp only [live, Set.mem_ofPred_eq, List.mem_filter, decide_eq_true_iff]
  tauto

theorem ReplayCache.live_append (cache : ReplayCache) (jti : Str) (exp : Int) (now : Clock) :
    ReplayCache.live (cache.filter (fun p => Clock.seconds now < p.2) ++ [(jti, exp)]) now =
      cache.live now ∪ {p | p = (jti, exp) ∧ Clock.seconds now < exp} := by
  ext p
  simp only [live, Set.mem_ofPred_eq, Set.mem_union, List.mem_append, List.mem_filter,
    List.mem_singleton, decide_eq_true_iff]
  constructor
  · rintro ⟨⟨hp, -⟩ | rfl, hlt⟩
    · exact .inl ⟨hp, hlt⟩
    · exact .inr ⟨rfl, hlt⟩
  · rintro (⟨hp, hlt⟩ | ⟨rfl, hlt⟩)
    · exact ⟨.inl ⟨hp, hlt⟩, hlt⟩
    · exact ⟨.inr rfl, hlt⟩

/-- What is live later is live now. -/
theorem ReplayCache.live_later {cache : ReplayCache} {now later : Clock} (h : now ≤ later) :
    cache.live later = {p | p ∈ cache.live now ∧ Clock.seconds later < p.2} := by
  ext p
  simp only [live, Set.mem_ofPred_eq]
  constructor
  · rintro ⟨hp, hlt⟩
    exact ⟨⟨hp, (Clock.seconds_mono h).trans_lt hlt⟩, hlt⟩
  · rintro ⟨⟨hp, -⟩, hlt⟩
    exact ⟨hp, hlt⟩

/-- A Passport passes every check, and the cache has no live entry for it. -/
structure FreshPassport (sha : Sha256) (verify : VerifyCall) (cache : ReplayCache)
    (now later : Clock)
    (claims : Dict Json) (key : Str × Int) : Prop where
  decoded : decodeStep sha verify now = .ok claims
  keyed : replayKey claims = .ok key
  unused : ∀ e, (key.1, e) ∉ cache.live later

/-- A call carries a Passport, of whatever type, and a payload. -/
structure McpToolCall.Presents (call : McpToolCall) (passport : {v : Json // v.Wf})
    (authorized : JsonObject) : Prop where
  found : call.metaGet passportMetaKey = some passport
  truthy : passport.val.truthy = true
  payload : (call.metaGet payloadMetaKey).bind asObject = some authorized

section Refused

variable {sha : Sha256} {parse : Str → Token} {call : McpToolCall} {cache after : ReplayCache}
  {now later : Clock}

/-- A Passport that is refused leaves the live entries, and one that is accepted is stored. -/
theorem verifyPassport_cases (sha : Sha256) (verify : VerifyCall) (cache : ReplayCache)
    (now later : Clock) :
    ((∀ claims key, ¬ FreshPassport sha verify cache now later claims key) ∧
        ∃ code after, verifyPassport sha verify (some cache) now later = (.error code, some after) ∧
          after.live later = cache.live later) ∨
      ∃ claims key, FreshPassport sha verify cache now later claims key ∧
        verifyPassport sha verify (some cache) now later =
          (.ok claims, some (cache.filter (fun p => Clock.seconds later < p.2) ++ [key])) := by
  cases hdecode : decodeStep sha verify now with
  | error code =>
    refine .inl ⟨fun claims key h => ?_, code, cache, ?_, rfl⟩
    · cases hdecode.symm.trans h.decoded
    · simp only [verifyPassport, hdecode]
  | ok claims =>
    cases hkey : replayKey claims with
    | error code =>
      refine .inl ⟨fun claims' key h => ?_, code, cache, ?_, rfl⟩
      · cases hdecode.symm.trans h.decoded
        cases hkey.symm.trans h.keyed
      · simp only [verifyPassport, hdecode, storeStep, hkey, Prod.map_apply, id_eq]
    | ok key =>
      rcases cache.checkAndStore_cases key.1 key.2 later with ⟨⟨e, he⟩, hstore⟩ | ⟨hfresh, hstore⟩
      -- the sweep runs all the same, and takes only entries that are dead
      · refine .inl ⟨fun claims' key' h => ?_, .passportReplayed, _, ?_, cache.live_filter later⟩
        · cases hdecode.symm.trans h.decoded
          cases hkey.symm.trans h.keyed
          exact h.unused e he
        · simp only [verifyPassport, hdecode, storeStep, hkey, hstore, Prod.map_apply, id_eq,
            Bool.false_eq_true, ↓reduceIte]
      · refine .inr ⟨claims, key, ⟨hdecode, hkey, hfresh⟩, ?_⟩
        simp only [verifyPassport, hdecode, storeStep, hkey, hstore, Prod.map_apply, id_eq,
          ↓reduceIte]

theorem McpToolCall.Presents.unique {p q : {v : Json // v.Wf}} {a b : JsonObject}
    (h : call.Presents p a) (h' : call.Presents q b) : p = q ∧ a = b := by
  constructor
  · exact Option.some.inj (h.found.symm.trans h'.found)
  · exact Option.some.inj (h.payload.symm.trans h'.payload)

theorem verifyMcpToolCall_of_not_presents {store : Option ReplayCache}
    (h : ∀ passport authorized, ¬ call.Presents passport authorized) :
    verifyMcpToolCall sha parse call store now later = (.error .missingPassport, store) := by
  unfold verifyMcpToolCall
  split
  · next passport authorized hpassport hauthorized =>
    split
    · rfl
    · next htruthy => exact absurd ⟨hpassport, by simpa using htruthy, hauthorized⟩ (h _ _)
  · rfl

theorem verifyMcpToolCall_of_presents {passport : {v : Json // v.Wf}} {authorized : JsonObject}
    (h : call.Presents passport authorized) {result : Except VerificationCode (Dict Json)}
    {store kept : Option ReplayCache}
    (hverify : verifyPassport sha (call.verifyCall (tokenOf parse passport.val) authorized) store
      now later = (result, kept)) :
    verifyMcpToolCall sha parse call store now later =
      (result.bind (fun claims =>
        if argumentsIn call.ignoredArguments call.arguments authorized then .ok claims
        else .error .argumentsMismatch), kept) := by
  simp only [verifyMcpToolCall, h.found, h.payload, h.truthy, Bool.true_eq_false, ↓reduceIte,
    hverify]
  cases result with
  | error code => rfl
  | ok claims =>
    simp only [Except.bind]
    split <;> rfl

/-- Whether a call is accepted depends on the live entries alone. -/
theorem verifyMcpToolCall_isOk_iff :
    (verifyMcpToolCall sha parse call (some cache) now later).1.isOk = true ↔
      ∃ passport authorized claims key, call.Presents passport authorized ∧
        FreshPassport sha
          (call.verifyCall (tokenOf parse passport.val) authorized) cache now later claims
          key ∧
        argumentsIn call.ignoredArguments call.arguments authorized = true := by
  by_cases hpresents : ∃ passport authorized, call.Presents passport authorized
  · obtain ⟨passport, authorized, hpresents⟩ := hpresents
    rcases verifyPassport_cases sha (call.verifyCall (tokenOf parse passport.val) authorized) cache
      now later with ⟨hnot, code, after, hverify, -⟩ | ⟨claims, key, hfresh, hverify⟩
    · rw [verifyMcpToolCall_of_presents hpresents hverify]
      refine iff_of_false (by simp [Except.bind, Except.isOk, Except.toBool]) ?_
      rintro ⟨p, a, claims, key, hp, hfresh, -⟩
      obtain ⟨rfl, rfl⟩ := hpresents.unique hp
      exact hnot claims key hfresh
    · rw [verifyMcpToolCall_of_presents hpresents hverify]
      simp only [Except.bind]
      split
      · next hin => exact iff_of_true rfl ⟨_, _, _, _, hpresents, hfresh, hin⟩
      · next hin =>
        refine iff_of_false (by simp [Except.isOk, Except.toBool]) ?_
        rintro ⟨p, a, -, -, hp, -, hin'⟩
        obtain ⟨rfl, rfl⟩ := hpresents.unique hp
        exact hin hin'
  · rw [verifyMcpToolCall_of_not_presents (fun p a h => hpresents ⟨p, a, h⟩)]
    refine iff_of_false (by simp [Except.isOk, Except.toBool]) ?_
    rintro ⟨p, a, -, -, hp, -⟩
    exact hpresents ⟨p, a, hp⟩

/-- A refusal has left the Passport as it was: the live entries are those of before, and so every
call that the cache of before would accept is still accepted. -/
structure Unspent (sha : Sha256) (parse : Str → Token) (cache after : ReplayCache)
    (later : Clock) : Prop where
  live : after.live later = cache.live later
  accepted : ∀ (again : McpToolCall) (now' later' : Clock), later ≤ later' →
    (verifyMcpToolCall sha parse again (some cache) now' later').1.isOk = true →
      (verifyMcpToolCall sha parse again (some after) now' later').1.isOk = true

theorem Unspent.of_live (h : after.live later = cache.live later) :
    Unspent sha parse cache after later := by
  refine ⟨h, ?_⟩
  intro again now' later' hle haccept
  obtain ⟨passport, authorized, claims, key, hpresents, hfresh, hin⟩ :=
    verifyMcpToolCall_isOk_iff.mp haccept
  refine verifyMcpToolCall_isOk_iff.mpr ⟨passport, authorized, claims, key, hpresents,
    ⟨hfresh.decoded, hfresh.keyed, ?_⟩, hin⟩
  intro e he
  refine hfresh.unused e ?_
  rw [ReplayCache.live_later hle] at he ⊢
  rwa [h] at he

/-- A refused call leaves the Passport unspent exactly when it is not refused over an argument,
with a Passport that is fresh and does not expire before the cache is asked.  The cache is asked
by `verify_passport`, before the arguments are compared, so a call with a wrong argument uses the
Passport up. -/
theorem refused_unspent_iff (sha : Sha256) (parse : Str → Token) (call : McpToolCall)
    (cache : ReplayCache) (now later : Clock) :
    (∀ code, (verifyMcpToolCall sha parse call (some cache) now later).1 = .error code →
        ∃ after, (verifyMcpToolCall sha parse call (some cache) now later).2 = some after ∧
          Unspent sha parse cache after later) ↔
      ∀ passport authorized claims key, call.Presents passport authorized →
        FreshPassport sha
          (call.verifyCall (tokenOf parse passport.val) authorized) cache now later claims
          key →
        Clock.seconds later < key.2 →
        argumentsIn call.ignoredArguments call.arguments authorized = true := by
  constructor
  · intro h passport authorized claims key hpresents hfresh hexp
    by_contra hin
    rcases verifyPassport_cases sha (call.verifyCall (tokenOf parse passport.val) authorized) cache
      now later with ⟨hnot, -⟩ | ⟨claims', key', hfresh', hverify⟩
    · exact hnot claims key hfresh
    · -- the cache has stored the Passport
      cases hfresh.decoded.symm.trans hfresh'.decoded
      cases hfresh.keyed.symm.trans hfresh'.keyed
      rw [verifyMcpToolCall_of_presents hpresents hverify] at h
      simp only [Except.bind, hin, Bool.false_eq_true, ↓reduceIte] at h
      obtain ⟨after, hafter, hunspent⟩ := h _ rfl
      cases hafter
      have hmem : (key.1, key.2) ∈ cache.live later := by
        rw [← hunspent.live, ReplayCache.live_append]
        exact .inr ⟨rfl, hexp⟩
      exact hfresh.unused key.2 hmem
  · intro h code hcode
    by_cases hpresents : ∃ passport authorized, call.Presents passport authorized
    · obtain ⟨passport, authorized, hpresents⟩ := hpresents
      rcases verifyPassport_cases sha (call.verifyCall (tokenOf parse passport.val) authorized)
        cache now later with ⟨-, code', after, hverify, hlive⟩ | ⟨claims, key, hfresh, hverify⟩
      · rw [verifyMcpToolCall_of_presents hpresents hverify]
        exact ⟨after, rfl, .of_live hlive⟩
      · rw [verifyMcpToolCall_of_presents hpresents hverify] at hcode ⊢
        refine ⟨_, rfl, .of_live ?_⟩
        rw [ReplayCache.live_append, Set.union_eq_left]
        rintro p ⟨-, hexp⟩
        -- an argument in the payload would have been accepted
        have hin := h passport authorized claims key hpresents hfresh hexp
        rw [hin] at hcode
        cases hcode
    · rw [verifyMcpToolCall_of_not_presents (fun p a h => hpresents ⟨p, a, h⟩)]
      exact ⟨cache, rfl, .of_live rfl⟩

end Refused

/-- The call of `pay` with one argument. -/
def payWith (key : Str) (n : Int) : McpToolCall :=
  { invoiceCall invoiceResponse.actionablePayload with
    arguments := oneArgument key (.int n) rfl }

theorem payWith_presents (key : Str) (n : Int) : (payWith key n).Presents ⟨.str passportText, rfl⟩
    invoiceResponse.actionablePayload where
  found := by
    change (passportMeta invoiceResponse.actionablePayload).find passportMetaKey = _
    exact find_eq_some_iff.mpr rfl
  truthy := rfl
  payload := by
    have hfind : (passportMeta invoiceResponse.actionablePayload).find payloadMetaKey =
        some ⟨invoiceResponse.actionablePayload.json, invoiceResponse.actionablePayload.wf⟩ :=
      find_eq_some_iff.mpr rfl
    change ((passportMeta invoiceResponse.actionablePayload).find payloadMetaKey).bind asObject = _
    rw [hfind, Option.bind_some]
    exact asObject_eq_some_iff.mpr rfl

/-- A call with an amount of 6 is refused, and then so is the one with the amount that was decided
on.  Without the first call it is accepted. -/
theorem refused_call_spends : ∃ token, invoiceResponse.passport = some token ∧
    ∃ after,
      verifyMcpToolCall plainSha (parseOnly token) (payWith (lit "amount") 6) (some []) 0 0 =
        (.error .argumentsMismatch, some after) ∧
      (verifyMcpToolCall plainSha (parseOnly token) (payWith (lit "amount") 5) (some after)
        0 0).1.isOk = false ∧
      (verifyMcpToolCall plainSha (parseOnly token) (payWith (lit "amount") 5) (some [])
        0 0).1.isOk = true := by
  obtain ⟨token, claims, key, htoken, hclaims, hkey, hexp⟩ := invoice_decoded
  have hparse : parseOnly token passportText = token := if_pos rfl
  have hfresh : ∀ n, FreshPassport plainSha ((payWith (lit "amount") n).verifyCall
      (tokenOf (parseOnly token) (.str passportText)) invoiceResponse.actionablePayload) [] 0 0
      claims key := by
    intro n
    refine ⟨?_, hkey, fun e he => List.not_mem_nil he.1⟩
    rw [tokenOf, hparse]
    exact hclaims
  refine ⟨token, htoken, [key], ?_, ?_, ?_⟩
  · rcases verifyPassport_cases plainSha ((payWith (lit "amount") 6).verifyCall
      (tokenOf (parseOnly token) (.str passportText)) invoiceResponse.actionablePayload) [] 0 0
      with ⟨hnot, -⟩ | ⟨claims', key', hfresh', hverify⟩
    · exact absurd (hfresh 6) (hnot claims key)
    · cases (hfresh 6).decoded.symm.trans hfresh'.decoded
      cases hkey.symm.trans hfresh'.keyed
      rw [verifyMcpToolCall_of_presents (payWith_presents _ _) hverify]
      have hin : argumentsIn [axgArgument] (payWith (lit "amount") 6).arguments
          invoiceResponse.actionablePayload = false := by decide +kernel
      have hignored : (payWith (lit "amount") 6).ignoredArguments = [axgArgument] := rfl
      rw [hignored, Except.bind, hin]
      rfl
  · rw [← Bool.not_eq_true, verifyMcpToolCall_isOk_iff]
    rintro ⟨p, a, claims', key', hp, hfresh', -⟩
    obtain ⟨rfl, rfl⟩ := hp.unique (payWith_presents _ _)
    cases (hfresh 5).decoded.symm.trans hfresh'.decoded
    cases hkey.symm.trans hfresh'.keyed
    exact hfresh'.unused key.2 ⟨List.mem_singleton.mpr rfl, hexp⟩
  · exact verifyMcpToolCall_isOk_iff.mpr
      ⟨_, _, claims, key, payWith_presents _ _, hfresh 5, by decide +kernel⟩

end Axg
