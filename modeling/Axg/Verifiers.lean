/-
# The Python and the Node verifiers

Both verify a Passport for a payload, and a Passport and the arguments of a tool call.  On a token
that the two JWT libraries read alike, and on JSON that the two languages do, the verifiers of a
Passport agree unless the list of allowed actions is empty, and those of a tool call unless one of
three things happens (`verifiers_agree_iff`): Python takes `True` for `1`, JavaScript takes the
prototype for an argument, or it takes a list for the payload.
-/
import Axg.NodeSdk

namespace Axg

open Python

/-! ## 1. The checks of a Passport -/

/-- A call has been accepted. -/
def Succeeds {ε α : Type} (r : Except ε α) : Prop := ∃ a, r = .ok a

/-- Claims of version 2. -/
def IsV2 (claims : Dict Json) : Prop :=
  (claims.lookup (lit "ver")).any (fun v => v.sameNumber (.int 2)) = true

/-- A token that both JWT libraries take, with the same claims of version 2, or both refuse. -/
structure SameDecode (libs : Node.Libraries) (source : KeySource) (appId : Str) (token : Token)
    (value : Json) (now : Clock) : Prop where
  same : ∀ claims, libs.jwtVerify value appId = some claims ↔
    ∃ key, source.signingKey token = some key ∧
      jwtDecode token key now issuer (some appId) [] = .ok claims
  isV2 : ∀ claims, libs.jwtVerify value appId = some claims → IsV2 claims

/-- The claims allow a payload, for a tenant.  On this part the two verifiers agree. -/
structure ValidFor (sha : Sha256) (libs : Node.Libraries) (claims : Dict Json)
    (tenantId : Option Str) (payload : Json) : Prop where
  decision : claimIs claims "decision" (Decision.value .allow) = true
  tenant : ∀ t ∈ tenantId, t ≠ [] → claimIs claims "tenant_id" t = true
  payload : claimIs claims "payload_hash" (sha.hexdigest (libs.stringify payload)) = true

theorem sameNumber_two {v : Json} (h : v.sameNumber (.int 2) = true) :
    v = .int 2 ∨ ∃ x, v = .float x := by
  cases v with
  | int i =>
    left
    simp only [Json.sameNumber, Json.worth, Bool.and_eq_true, beq_iff_eq,
      Json.Worth.finite.injEq] at h
    rw [mul_right_cancel₀ (show ((one : Nat) : Int) ≠ 0 by decide +kernel) h.1]
  | float x => exact .inr ⟨x, rfl⟩
  | _ => cases h

theorem two_toBinary64 : (Json.int 2).toBinary64.sameNumber (.int 2) = true := by decide +kernel

/-- Claims of version 2 are that to both languages. -/
theorem IsV2.both {claims : Dict Json} (h : IsV2 claims) :
    (claims.lookup (lit "ver")).any (fun v => v.pyEq (.int 2)) = true ∧
      (claims.lookup (lit "ver")).any Node.isTwo = true := by
  obtain ⟨v, hv, hsame⟩ := (Option.any_eq_true _ _).mp h
  rw [hv, Option.any_some, Option.any_some]
  rcases sameNumber_two hsame with rfl | ⟨x, rfl⟩
  · exact ⟨hsame, two_toBinary64⟩
  · exact ⟨hsame, hsame⟩

section Checks

variable {sha : Sha256} {libs : Node.Libraries}

theorem node_expectedHash {payload : Json} {claims : Dict Json} (h : IsV2 claims) :
    Node.expectedHash sha libs claims payload = sha.hexdigest (libs.stringify payload) := by
  rw [Node.expectedHash, if_pos h.both.2]
  rfl

/-- Everything `verifyPassport` asks of claims of version 2. -/
theorem node_verifyPassport_eq_ok_iff (hsha : ∀ s, sha.hexdigest s ≠ []) {token payload : Json}
    {options : Node.VerificationOptions} {claims : Dict Json}
    (hv2 : libs.jwtVerify token options.appId = some claims → IsV2 claims) :
    Node.verifyPassport sha libs token payload options = .ok claims ↔
      libs.jwtVerify token options.appId = some claims ∧
        ValidFor sha libs claims options.tenantId payload ∧
        ∀ as ∈ options.allowedActionTypes, claimIn claims "action_type" as = true := by
  unfold Node.verifyPassport
  cases hjwt : libs.jwtVerify token options.appId with
  | none => simp
  | some cs =>
    have htenant : options.tenantId.any (fun t => t ≠ [] && !claimIs cs "tenant_id" t) = false ↔
        ∀ t ∈ options.tenantId, t ≠ [] → claimIs cs "tenant_id" t = true := by
      cases options.tenantId <;> simp
    have haction : options.allowedActionTypes.any (fun as => !claimIn cs "action_type" as) =
        false ↔ ∀ as ∈ options.allowedActionTypes, claimIn cs "action_type" as = true := by
      cases options.allowedActionTypes <;> simp
    constructor
    · intro h
      dsimp only at h
      split at h
      · cases h
      rename_i h1
      split at h
      · cases h
      rename_i h2
      split at h
      · cases h
      rename_i h3
      split at h
      · cases h
      split at h
      · cases h
      rename_i h5
      cases h
      rw [node_expectedHash (hv2 hjwt)] at h5
      exact ⟨rfl, ⟨by simpa using h1, htenant.mp (by simpa using h2), by simpa using h5⟩,
        haction.mp (by simpa using h3)⟩
    · rintro ⟨hcs, ⟨hdecision, ht, hpayload⟩, ha⟩
      cases hcs
      have hexp := @node_expectedHash sha libs payload _ (hv2 hjwt)
      -- a hash that is missing or empty is refused first, and SHA-256 is never empty
      have hhash : (claims.lookup (lit "payload_hash")).any Node.truthy = true := by
        rw [claimIs_iff.mp hpayload, Option.any_some]
        cases hd : sha.hexdigest (libs.stringify payload) with
        | nil => exact absurd hd (hsha _)
        | cons c t => rfl
      simp only [hdecision, htenant.mpr ht, haction.mpr ha, hhash, hexp, hpayload,
        Bool.true_eq_false, Bool.false_eq_true, ↓reduceIte]

/-- Everything `verify_passport` asks of claims of version 2. -/
theorem checked_iff_validFor (hlibs : Stringifies libs) {call : VerifyCall} {claims : Dict Json}
    (hpayload : Portable call.payload.json) (hv2 : IsV2 claims) :
    Checked sha call claims ↔ ValidFor sha libs claims call.tenantId call.payload.json ∧
      ∀ as ∈ call.allowedActionTypes, as ≠ [] → claimIn claims "action_type" as = true := by
  have hexp : expectedHash sha claims call.payload =
      .ok (sha.hexdigest (libs.stringify call.payload.json)) := by
    rw [expectedHash, if_pos hv2.both.1]
    obtain ⟨hash, hhash⟩ := canonicalHash_isOk_iff.mpr ⟨hpayload.isText, hpayload.hasDoubles⟩
    obtain ⟨s, hs, -, rfl⟩ := canonicalHash_eq_ok hhash
    cases (canonicalJson_stringify hlibs hpayload.data).symm.trans hs
    exact hhash
  constructor
  · rintro ⟨hdecision, htenant, haction, hash, hhash, hclaim⟩
    cases hexp.symm.trans hhash
    exact ⟨⟨hdecision, htenant, hclaim⟩, haction⟩
  · rintro ⟨⟨hdecision, htenant, hclaim⟩, haction⟩
    exact ⟨hdecision, htenant, haction, _, hexp, hclaim⟩

theorem verifyPassport_none_eq_ok_iff {call : VerifyCall} {now later : Clock} {claims : Dict Json} :
    (verifyPassport sha call none now later).1 = .ok claims ↔
      decodeStep sha call now = .ok claims := by
  unfold verifyPassport
  cases decodeStep sha call now <;> simp

end Checks

/-! ## 2. Where the verifiers part -/

/-- The options of a `verifyPassport` call. -/
def VerifyCall.nodeOptions (call : VerifyCall) : Node.VerificationOptions :=
  ⟨call.appId, call.tenantId, call.allowedActionTypes⟩

/-- The verdict on the arguments of a tool call differs: Python's `==` takes a boolean for a
number, or JavaScript finds an argument in the prototype, or a list passes for a payload. -/
def ArgumentsPart (libs : Node.Libraries) (ignored : List Str) (args : JsonObject)
    (authorized : Json) : Prop :=
  (∃ o : JsonObject, authorized = o.json ∧ argumentsIn ignored args o = true ∧
      ∃ p ∈ args.members, p.1 ∉ ignored ∧
        ∀ v ∈ o.members.lookup p.1, Json.sameData v p.2 = false) ∨
    (∃ o : JsonObject, authorized = o.json ∧ o.members.lookup Node.protoKey = none ∧
      Node.protoKey ∈ args.members.keys ∧ Node.protoKey ∉ ignored ∧
        Node.argumentsIn libs ignored args authorized = true) ∨
    ∃ items, authorized = .arr items ∧ Node.argumentsIn libs ignored args authorized = true

section Agreement

variable {sha : Sha256} {libs : Node.Libraries}

/-- The acceptance of a Passport by both verifiers, given the claims. -/
theorem accepts_python_iff (hlibs : Stringifies libs) {call : VerifyCall} {value : Json}
    {now later : Clock} (hdecode : SameDecode libs call.keySource call.appId call.token value now)
    (hpayload : Portable call.payload.json) :
    Succeeds (verifyPassport sha call none now later).1 ↔
      ∃ claims, libs.jwtVerify value call.appId = some claims ∧
        ValidFor sha libs claims call.tenantId call.payload.json ∧
          ∀ as ∈ call.allowedActionTypes, as ≠ [] → claimIn claims "action_type" as = true := by
  refine exists_congr (fun claims => ?_)
  rw [verifyPassport_none_eq_ok_iff, decodeStep_eq_ok_iff]
  constructor
  · rintro ⟨key, hkey, hjwt, hchecked⟩
    have hnode := (hdecode.same claims).mpr ⟨key, hkey, hjwt⟩
    exact ⟨hnode, (checked_iff_validFor hlibs hpayload (hdecode.isV2 claims hnode)).mp hchecked⟩
  · rintro ⟨hnode, hvalid⟩
    obtain ⟨key, hkey, hjwt⟩ := (hdecode.same claims).mp hnode
    exact ⟨key, hkey, hjwt,
      (checked_iff_validFor hlibs hpayload (hdecode.isV2 claims hnode)).mpr hvalid⟩

theorem accepts_node_iff (hsha : ∀ s, sha.hexdigest s ≠ []) {value payload : Json}
    {options : Node.VerificationOptions}
    (hv2 : ∀ claims, libs.jwtVerify value options.appId = some claims → IsV2 claims) :
    Succeeds (Node.verifyPassport sha libs value payload options) ↔
      ∃ claims, libs.jwtVerify value options.appId = some claims ∧
        ValidFor sha libs claims options.tenantId payload ∧
          ∀ as ∈ options.allowedActionTypes, claimIn claims "action_type" as = true :=
  exists_congr (fun claims => node_verifyPassport_eq_ok_iff hsha (hv2 claims))

/-- The verifiers of a Passport agree unless the list of allowed actions is empty. -/
theorem passport_agree_iff (hlibs : Stringifies libs) (hsha : ∀ s, sha.hexdigest s ≠ [])
    {call : VerifyCall} {value : Json} {now later : Clock}
    (hdecode : SameDecode libs call.keySource call.appId call.token value now)
    (hpayload : Portable call.payload.json) :
    (Succeeds (verifyPassport sha call none now later).1 ↔
        Succeeds (Node.verifyPassport sha libs value call.payload.json call.nodeOptions)) ↔
      ¬ (call.allowedActionTypes = some [] ∧
        ∃ claims, libs.jwtVerify value call.appId = some claims ∧
          ValidFor sha libs claims call.tenantId call.payload.json) := by
  rw [accepts_python_iff hlibs hdecode hpayload, accepts_node_iff hsha hdecode.isV2]
  change ((∃ claims, libs.jwtVerify value call.appId = some claims ∧ _) ↔
    ∃ claims, libs.jwtVerify value call.appId = some claims ∧
      ValidFor sha libs claims call.tenantId call.payload.json ∧
        ∀ as ∈ call.allowedActionTypes, claimIn claims "action_type" as = true) ↔ _
  by_cases hempty : call.allowedActionTypes = some []
  · simp [hempty, claimIn]
  · have hne : ∀ as ∈ call.allowedActionTypes, as ≠ [] := by
      rintro as has rfl
      exact hempty has
    simp only [hempty, false_and, not_false_eq_true, iff_true]
    refine exists_congr (fun claims => and_congr Iff.rfl (and_congr Iff.rfl ?_))
    exact forall₂_congr (fun as has => ⟨fun h => h (hne as has), fun h _ => h⟩)

/-- The options of a `verifyMcpToolCall` call. -/
def McpToolCall.nodeOptions (call : McpToolCall) : Node.VerificationOptions :=
  ⟨call.appId, call.tenantId, none⟩

/-- A member of the request's `_meta`. -/
def McpToolCall.Has (call : McpToolCall) (key : Str) (v : Json) : Prop :=
  ∃ m, call.requestMeta = some m ∧ m.members.lookup key = some v

theorem McpToolCall.metaGet_eq_some_iff {call : McpToolCall} {key : Str} {v : {v : Json // v.Wf}} :
    call.metaGet key = some v ↔ call.Has key v.val := by
  unfold McpToolCall.metaGet McpToolCall.Has
  cases call.requestMeta with
  | none => simp
  | some m => simp [find_eq_some_iff]

theorem McpToolCall.Has.unique {call : McpToolCall} {key : Str} {v w : Json}
    (hv : call.Has key v) (hw : call.Has key w) : v = w := by
  obtain ⟨m, hm, hv⟩ := hv
  obtain ⟨m', hm', hw⟩ := hw
  cases hm.symm.trans hm'
  exact Option.some.inj (hv.symm.trans hw)

/-- The Passport of a tool call is valid for what is in the payload's place. -/
structure ValidCall (sha : Sha256) (libs : Node.Libraries) (call : McpToolCall)
    (authorized : Json) : Prop where
  payload : call.Has payloadMetaKey authorized
  passport : ∃ text claims, call.Has passportMetaKey (.str text) ∧ text ≠ [] ∧
    libs.jwtVerify (.str text) call.appId = some claims ∧
      ValidFor sha libs claims call.tenantId authorized ∧
        claimIs claims "action_type" call.toolName = true

theorem claimIn_singleton {claims : Dict Json} {name : String} {s : Str} :
    claimIn claims name [s] = claimIs claims name s := by
  simp [claimIn]

/-- `jwt.decode` takes strings only. -/
theorem isString_of_jwtVerify {parse : Str → Token} {source : KeySource} {appId : Str}
    {value : Json} {now : Clock} {claims : Dict Json}
    (hdecode : SameDecode libs source appId (tokenOf parse value) value now)
    (h : libs.jwtVerify value appId = some claims) : ∃ text, value = .str text := by
  obtain ⟨key, -, hjwt⟩ := (hdecode.same claims).mp h
  cases value with
  | str text => exact ⟨text, rfl⟩
  | _ => cases hjwt

/-- When the Python verifier accepts a tool call. -/
theorem accepts_pythonCall_iff (hlibs : Stringifies libs) {parse : Str → Token}
    {call : McpToolCall} {now later : Clock}
    (hdecode : ∀ value, call.Has passportMetaKey value →
      SameDecode libs call.keySource call.appId (tokenOf parse value) value now)
    (hmeta : ∀ m ∈ call.requestMeta, Portable m.json) :
    Succeeds (verifyMcpToolCall sha parse call none now later).1 ↔
      ∃ o : JsonObject, ValidCall sha libs call o.json ∧
        argumentsIn call.ignoredArguments call.arguments o = true := by
  have hportable : ∀ o : JsonObject, call.Has payloadMetaKey o.json → Portable o.json := by
    rintro o ⟨m, hm, hlookup⟩
    exact (hmeta m hm).of_member (Dict.lookup_mem hlookup)
  constructor
  · rintro ⟨claims, h⟩
    obtain ⟨passport, o, hpassport, hpayload, htruthy, hverify, hin⟩ := verifyMcpToolCall_eq_ok h
    obtain ⟨v, hv, hobject⟩ := Option.bind_eq_some_iff.mp hpayload
    have hhas : call.Has payloadMetaKey o.json := by
      rw [← asObject_eq_some_iff.mp hobject]
      exact McpToolCall.metaGet_eq_some_iff.mp hv
    have hcarried := McpToolCall.metaGet_eq_some_iff.mp hpassport
    obtain ⟨cs, hnode, hvalid, haction⟩ :=
      (@accepts_python_iff sha libs hlibs (call.verifyCall (tokenOf parse passport.val) o) _ now
        later (hdecode _ hcarried) (hportable o hhas)).mp ⟨claims, hverify⟩
    obtain ⟨text, htext⟩ := isString_of_jwtVerify (hdecode _ hcarried) hnode
    rw [htext] at hcarried hnode htruthy
    have hne : text ≠ [] := by
      rintro rfl
      cases htruthy
    refine ⟨o, ⟨hhas, text, cs, hcarried, hne, hnode, hvalid, ?_⟩, hin⟩
    rw [← claimIn_singleton]
    exact haction [call.toolName] rfl (List.cons_ne_nil _ _)
  · rintro ⟨o, ⟨hhas, text, cs, hcarried, hne, hnode, hvalid, haction⟩, hin⟩
    have hcarries : call.Carries parse (parse text) o := by
      obtain ⟨m, hm, htext⟩ := hcarried
      exact ⟨⟨m, text, hm, htext, hne, rfl⟩, hhas⟩
    have haccept :
        Succeeds (verifyPassport sha (call.verifyCall (parse text) o) none now later).1 := by
      refine (@accepts_python_iff sha libs hlibs (call.verifyCall (parse text) o) _ now later
        (hdecode _ hcarried) (hportable o hhas)).mpr ⟨cs, hnode, hvalid, ?_⟩
      intro as has _
      cases has
      rw [claimIn_singleton]
      exact haction
    obtain ⟨claims, hclaims⟩ := haccept
    exact ⟨claims, (verifyMcpToolCall_eq_ok_iff hcarries).mpr ⟨hclaims, hin⟩⟩

/-- When the Node verifier does. -/
theorem accepts_nodeCall_iff (hsha : ∀ s, sha.hexdigest s ≠ []) {parse : Str → Token}
    {call : McpToolCall} {now : Clock}
    (hdecode : ∀ value, call.Has passportMetaKey value →
      SameDecode libs call.keySource call.appId (tokenOf parse value) value now) :
    Succeeds (Node.verifyMcpToolCall sha libs call.requestMeta call.toolName call.arguments
        call.nodeOptions call.ignoredArguments) ↔
      ∃ a, ValidCall sha libs call a ∧ Node.isObject a = true ∧
        Node.argumentsIn libs call.ignoredArguments call.arguments a = true := by
  have haccepts : ∀ value a, call.Has passportMetaKey value →
      (Succeeds (Node.verifyPassport sha libs value a
          { call.nodeOptions with allowedActionTypes := some [call.toolName] }) ↔
        ∃ claims, libs.jwtVerify value call.appId = some claims ∧
          ValidFor sha libs claims call.tenantId a ∧
            claimIs claims "action_type" call.toolName = true) := by
    intro value a hhas
    refine (accepts_node_iff hsha (hdecode value hhas).isV2).trans (exists_congr (fun claims => ?_))
    simp [McpToolCall.nodeOptions, claimIn_singleton]
  constructor
  · rintro ⟨claims, h⟩
    unfold Node.verifyMcpToolCall at h
    split at h
    · rename_i value a hvalue ha
      split at h
      · cases h
      rename_i hcheck
      split at h
      · cases h
      rename_i cs hverify
      split at h
      · rename_i hin
        rw [not_or, Bool.not_eq_false, Bool.not_eq_false] at hcheck
        have hcarried : call.Has passportMetaKey value := Option.bind_eq_some_iff.mp hvalue
        have hpayload : call.Has payloadMetaKey a := Option.bind_eq_some_iff.mp ha
        obtain ⟨cs', hnode, hvalid, haction⟩ := (haccepts value a hcarried).mp ⟨cs, hverify⟩
        obtain ⟨text, rfl⟩ := isString_of_jwtVerify (hdecode _ hcarried) hnode
        have hne : text ≠ [] := by
          rintro rfl
          cases hcheck.1
        exact ⟨a, ⟨hpayload, text, cs', hcarried, hne, hnode, hvalid, haction⟩, hcheck.2, hin⟩
      · cases h
    · cases h
  · rintro ⟨a, ⟨⟨m, hm, hpayload⟩, text, cs, hcarried, hne, hnode, hvalid, haction⟩, hobject, hin⟩
    obtain ⟨claims, hclaims⟩ := (haccepts (.str text) a hcarried).mpr ⟨cs, hnode, hvalid, haction⟩
    obtain ⟨m', hm', htext⟩ := hcarried
    cases hm.symm.trans hm'
    have htruthy : Node.truthy (.str text) = true := by
      cases text with
      | nil => exact absurd rfl hne
      | cons c text => rfl
    refine ⟨claims, ?_⟩
    unfold Node.verifyMcpToolCall
    rw [hm, Option.bind_some, Option.bind_some, htext, hpayload]
    simp only [htruthy, hobject, hclaims, hin, Bool.true_eq_false, or_self, ↓reduceIte]

theorem node_argumentsIn_iff {ignored : List Str} {args : JsonObject} {a : Json} :
    Node.argumentsIn libs ignored args a = true ↔
      ∀ p ∈ args.members, p.1 ∉ ignored → Node.argumentIs libs a p = true := by
  simp only [Node.argumentsIn, List.all_eq_true, Bool.or_eq_true, List.contains_iff_mem]
  refine forall₂_congr (fun p _ => ?_)
  rw [← imp_iff_not_or.trans (or_congr not_not Iff.rfl)]

/-- An argument that the payload has itself. -/
theorem node_argumentIs_own (hlibs : Stringifies libs) {o : JsonObject} (ho : Portable o.json)
    {p : Str × Json} (hp : Portable p.2) {v : Json} (hv : o.members.lookup p.1 = some v) :
    Node.argumentIs libs o.json p = true ↔ Json.sameData v p.2 = true := by
  rw [Node.argumentIs, Node.property.eq_def]
  simp only [JsonObject.json, hv, beq_iff_eq]
  exact stringify_eq_iff hlibs (ho.of_member (Dict.lookup_mem hv)) hp

/-- One that it does not have is the prototype. -/
theorem node_argumentIs_inherited {o : JsonObject} {p : Str × Json}
    (hv : o.members.lookup p.1 = none) (h : Node.argumentIs libs o.json p = true) :
    p.1 = Node.protoKey := by
  rw [Node.argumentIs, Node.property.eq_def] at h
  simp only [JsonObject.json, hv] at h
  by_contra hne
  rw [if_neg hne] at h
  cases h

/-- The verifiers of a tool call agree unless the Passport is valid and their verdicts on the
arguments differ. -/
theorem call_agree_iff (hlibs : Stringifies libs) (hsha : ∀ s, sha.hexdigest s ≠ [])
    {parse : Str → Token} {call : McpToolCall} {now later : Clock}
    (hdecode : ∀ value, call.Has passportMetaKey value →
      SameDecode libs call.keySource call.appId (tokenOf parse value) value now)
    (hmeta : ∀ m ∈ call.requestMeta, Portable m.json) (hargs : Portable call.arguments.json) :
    (Succeeds (verifyMcpToolCall sha parse call none now later).1 ↔
        Succeeds (Node.verifyMcpToolCall sha libs call.requestMeta call.toolName call.arguments
          call.nodeOptions call.ignoredArguments)) ↔
      ¬ ∃ a, ValidCall sha libs call a ∧
        ArgumentsPart libs call.ignoredArguments call.arguments a := by
  rw [accepts_pythonCall_iff hlibs hdecode hmeta, accepts_nodeCall_iff hsha hdecode]
  have hportable : ∀ a, ValidCall sha libs call a → Portable a := by
    rintro a ⟨⟨m, hm, hlookup⟩, -⟩
    exact (hmeta m hm).of_member (Dict.lookup_mem hlookup)
  have hmember : ∀ p ∈ call.arguments.members, Portable p.2 := fun p hp => hargs.of_member hp
  constructor
  · rintro hagree ⟨a, hvalid, ⟨o, rfl, hin, p, hp, hnot, hdiffer⟩ |
      ⟨o, rfl, hnone, hkey, hnot, hin⟩ | ⟨items, rfl, hin⟩⟩
    · -- Python accepts, so Node does, and the texts are one
      obtain ⟨a, hvalid', -, hnode⟩ := hagree.mp ⟨o, hvalid, hin⟩
      cases hvalid.payload.unique hvalid'.payload
      obtain ⟨v, hv, -⟩ := argumentIs_iff.mp (argumentsIn_iff.mp hin p hp hnot)
      have hsame := (node_argumentIs_own hlibs (hportable _ hvalid) (hmember p hp) hv).mp
        (node_argumentsIn_iff.mp hnode p hp hnot)
      rw [hdiffer v hv] at hsame
      cases hsame
    · -- Node accepts, so Python does, and looks up the prototype's key
      obtain ⟨o', hvalid', hpython⟩ := hagree.mpr ⟨_, hvalid, rfl, hin⟩
      have heq := hvalid.payload.unique hvalid'.payload
      obtain ⟨p, hp, hpkey⟩ := List.mem_map.mp hkey
      obtain ⟨v, hv, -⟩ := argumentIs_iff.mp (argumentsIn_iff.mp hpython p hp (hpkey ▸ hnot))
      rw [← Json.obj.inj heq, hpkey, hnone] at hv
      cases hv
    · obtain ⟨o', hvalid', -⟩ := hagree.mpr ⟨_, hvalid, rfl, hin⟩
      cases hvalid.payload.unique hvalid'.payload
  · intro hnot
    constructor
    · rintro ⟨o, hvalid, hin⟩
      refine ⟨_, hvalid, rfl, node_argumentsIn_iff.mpr ?_⟩
      intro p hp hignored
      obtain ⟨v, hv, -⟩ := argumentIs_iff.mp (argumentsIn_iff.mp hin p hp hignored)
      refine (node_argumentIs_own hlibs (hportable _ hvalid) (hmember p hp) hv).mpr ?_
      by_contra hdiffer
      refine hnot ⟨_, hvalid, .inl ⟨o, rfl, hin, p, hp, hignored, ?_⟩⟩
      intro w hw
      cases hv.symm.trans hw
      simpa using hdiffer
    · rintro ⟨a, hvalid, hobject, hin⟩
      cases a with
      | arr items => exact absurd ⟨_, hvalid, .inr (.inr ⟨items, rfl, hin⟩)⟩ hnot
      | obj members =>
        have hwf := (hportable _ hvalid).wf
        refine ⟨⟨members, hwf⟩, hvalid, argumentsIn_iff.mpr ?_⟩
        intro p hp hignored
        have hnode := node_argumentsIn_iff.mp hin p hp hignored
        cases hv : members.lookup p.1 with
        | some v =>
          refine argumentIs_iff.mpr ⟨v, hv, pyEq_of_sameData ?_⟩
          exact (node_argumentIs_own hlibs (o := ⟨members, hwf⟩) (hportable _ hvalid)
            (hmember p hp) hv).mp hnode
        | none =>
          have hkey := node_argumentIs_inherited (o := ⟨members, hwf⟩) hv hnode
          refine absurd ⟨_, hvalid, .inr (.inl ⟨⟨members, hwf⟩, rfl, hkey ▸ hv, ?_, hkey ▸ hignored,
            hin⟩)⟩ hnot
          rw [← hkey]
          exact List.mem_map_of_mem hp
      | _ => cases hobject

/-- The two verifiers give one verdict on a Passport, and one on a tool call, exactly when what
is presented avoids the places where the languages part: an empty list is false in Python and
true in JavaScript, `True == 1` holds in Python alone, and `in` finds the prototype of an object
and the members of an array in JavaScript alone.  Everything else that the two check is the same
check on the same data. -/
theorem verifiers_agree_iff (sha : Sha256) (libs : Node.Libraries) (hlibs : Stringifies libs)
    (hsha : ∀ s, sha.hexdigest s ≠ []) :
    (∀ (call : VerifyCall) (value : Json) (now later : Clock),
      SameDecode libs call.keySource call.appId call.token value now →
      Portable call.payload.json →
        ((Succeeds (verifyPassport sha call none now later).1 ↔
            Succeeds (Node.verifyPassport sha libs value call.payload.json call.nodeOptions)) ↔
          ¬ (call.allowedActionTypes = some [] ∧
            ∃ claims, libs.jwtVerify value call.appId = some claims ∧
              ValidFor sha libs claims call.tenantId call.payload.json))) ∧
    ∀ (parse : Str → Token) (call : McpToolCall) (now later : Clock),
      (∀ value, call.Has passportMetaKey value →
        SameDecode libs call.keySource call.appId (tokenOf parse value) value now) →
      (∀ m ∈ call.requestMeta, Portable m.json) → Portable call.arguments.json →
        ((Succeeds (verifyMcpToolCall sha parse call none now later).1 ↔
            Succeeds (Node.verifyMcpToolCall sha libs call.requestMeta call.toolName call.arguments
              call.nodeOptions call.ignoredArguments)) ↔
          ¬ ∃ a, ValidCall sha libs call a ∧
            ArgumentsPart libs call.ignoredArguments call.arguments a) :=
  ⟨fun _ _ _ _ hdecode hpayload => passport_agree_iff hlibs hsha hdecode hpayload,
    fun _ _ _ _ hdecode hmeta hargs => call_agree_iff hlibs hsha hdecode hmeta hargs⟩

end Agreement

/-! ## 3. A Passport for `{"amount": 1}` -/

/-- Libraries that take one Passport, for the app `app`. -/
def plainLibraries (claims : Dict Json) : Node.Libraries where
  jwtVerify value appId :=
    match value with
    | .str text => if text = passportText ∧ appId = lit "app" then some claims else none
    | _ => none
  stringify v := (canonicalJson v).toOption.getD []

theorem plainLibraries_stringifies (claims : Dict Json) : Stringifies (plainLibraries claims) := by
  intro v
  have hv := canonicalJson_eq_render v.isCanonical
  refine (jcs_iff_render v.wf v.isCanonical v.isText).mpr ?_
  change (canonicalJson v.value).toOption.getD [] = _
  rw [hv]
  rfl

theorem plainSha_ne_nil (s : Str) : plainSha.hexdigest s ≠ [] := List.cons_ne_nil _ _

theorem canonicalJson_one :
    canonicalJson (amount 1).json = .ok (lit "\x7b\"amount\":1\x7d") := by decide +kernel

def oneHash : Str := plainSha.hexdigest (lit "\x7b\"amount\":1\x7d")

def oneClaims : PassportClaims := passportClaims 0 (amountGrant 1) (.lit "j1") oneHash

def oneToken : Token :=
  .jws ⟨some defaultTyp, some pairedKeys.publicKey⟩ oneClaims.dump (some (lit "thumbprint"))

/-- The Passport, presented for some actions. -/
def oneCall (actions : Option (List Str)) : VerifyCall :=
  ⟨oneToken, amount 1, lit "app", none, actions, .publicKey (lit "thumbprint")⟩

theorem plainLibraries_jwtVerify (claims : Dict Json) :
    (plainLibraries claims).jwtVerify (.str passportText) (lit "app") = some claims := by
  simp [plainLibraries]

theorem oneClaims_isV2 : IsV2 oneClaims.dump := by
  unfold IsV2
  decide +kernel

theorem sameDecode_one :
    SameDecode (plainLibraries oneClaims.dump) (.publicKey (lit "thumbprint")) (lit "app") oneToken
      (.str passportText) 0 where
  same := by
    intro claims
    rw [plainLibraries_jwtVerify, Option.some.injEq]
    constructor
    · rintro rfl
      exact ⟨_, rfl, (jwtDecode_dump rfl).mpr ⟨rfl, rfl, rfl, rfl, List.cons_ne_nil _ _, rfl⟩⟩
    · rintro ⟨key, -, hjwt⟩
      exact ((jwtDecode_dump rfl).mp hjwt).1.symm
  isV2 := by
    intro claims h
    rw [plainLibraries_jwtVerify, Option.some.injEq] at h
    rw [← h]
    exact oneClaims_isV2

theorem portable_one : Portable (amount 1).json := by decide +kernel

def amountTrue : JsonObject := ⟨[(lit "amount", .bool true)], rfl⟩

/-- A call of `pay` that carries the Passport. -/
def oneTool (arguments : JsonObject) : McpToolCall where
  requestMeta := some (passportMeta (amount 1))
  toolName := lit "pay"
  arguments := arguments
  appId := lit "app"
  tenantId := none
  keySource := .publicKey (lit "thumbprint")

theorem oneClaims_valid :
    ValidFor plainSha (plainLibraries oneClaims.dump) oneClaims.dump none (amount 1).json where
  decision := (claimIs_dump oneClaims []).2.2.2
  tenant := nofun
  payload := by
    have htext : (plainLibraries oneClaims.dump).stringify (amount 1).json =
        lit "\x7b\"amount\":1\x7d" := by
      change (canonicalJson (amount 1).json).toOption.getD [] = _
      rw [canonicalJson_one]
      rfl
    rw [htext, (claimIs_dump oneClaims _).2.2.1]
    exact decide_eq_true rfl

theorem oneTool_valid (arguments : JsonObject) :
    ValidCall plainSha (plainLibraries oneClaims.dump) (oneTool arguments) (amount 1).json where
  payload := ⟨_, rfl, rfl⟩
  passport := by
    refine ⟨passportText, oneClaims.dump, ⟨_, rfl, rfl⟩, by decide, plainLibraries_jwtVerify _,
      oneClaims_valid, ?_⟩
    exact ((claimIs_dump oneClaims _).2.1).trans (decide_eq_true rfl)

theorem oneTool_decode (arguments : JsonObject) : ∀ value,
    (oneTool arguments).Has passportMetaKey value →
      SameDecode (plainLibraries oneClaims.dump) (oneTool arguments).keySource
        (oneTool arguments).appId (tokenOf (parseOnly oneToken) value) value 0 := by
  intro value h
  cases h.unique ⟨_, rfl, rfl⟩
  exact sameDecode_one

theorem portable_passportMeta : ∀ m ∈ (oneTool (amount 1)).requestMeta, Portable m.json := by
  rintro m ⟨⟩
  decide +kernel

/-- The Passport for no actions, and for a call with `true` in the place of 1. -/
theorem verifiers_differ :
    let libs := plainLibraries oneClaims.dump
    Stringifies libs ∧
    (Succeeds (verifyPassport plainSha (oneCall (some [])) none 0 0).1 ∧
      ¬ Succeeds (Node.verifyPassport plainSha libs (.str passportText) (amount 1).json
        (oneCall (some [])).nodeOptions)) ∧
    Succeeds (verifyMcpToolCall plainSha (parseOnly oneToken) (oneTool amountTrue) none 0 0).1 ∧
      ¬ Succeeds (Node.verifyMcpToolCall plainSha libs (oneTool amountTrue).requestMeta
        (oneTool amountTrue).toolName amountTrue (oneTool amountTrue).nodeOptions
        (oneTool amountTrue).ignoredArguments) := by
  have hlibs := plainLibraries_stringifies oneClaims.dump
  have hvalid := plainLibraries_jwtVerify oneClaims.dump
  refine ⟨hlibs, ⟨?_, ?_⟩, ?_, ?_⟩
  · refine (@accepts_python_iff _ _ hlibs (oneCall (some [])) _ 0 0 sameDecode_one
      portable_one).mpr ⟨_, hvalid, oneClaims_valid, ?_⟩
    rintro as ⟨⟩ hne
    exact absurd rfl hne
  · intro h
    obtain ⟨claims, -, -, haction⟩ := (accepts_node_iff plainSha_ne_nil sameDecode_one.isV2).mp h
    cases haction [] rfl
  · exact (accepts_pythonCall_iff hlibs (oneTool_decode amountTrue) portable_passportMeta).mpr
      ⟨amount 1, oneTool_valid amountTrue, by decide +kernel⟩
  · intro h
    obtain ⟨a, hcall, -, hin⟩ :=
      (accepts_nodeCall_iff plainSha_ne_nil (oneTool_decode amountTrue)).mp h
    cases hcall.payload.unique (oneTool_valid amountTrue).payload
    revert hin
    decide +kernel

/-- The Passport for its action, and for a call with its amount. -/
theorem verifiers_agree_iff_one :
    let libs := plainLibraries oneClaims.dump
    (Succeeds (verifyPassport plainSha (oneCall (some [lit "pay"])) none 0 0).1 ↔
      Succeeds (Node.verifyPassport plainSha libs (.str passportText) (amount 1).json
        (oneCall (some [lit "pay"])).nodeOptions)) ∧
    (Succeeds (verifyMcpToolCall plainSha (parseOnly oneToken) (oneTool (amount 1)) none 0 0).1 ↔
      Succeeds (Node.verifyMcpToolCall plainSha libs (oneTool (amount 1)).requestMeta
        (oneTool (amount 1)).toolName (amount 1) (oneTool (amount 1)).nodeOptions
        (oneTool (amount 1)).ignoredArguments)) := by
  have h := verifiers_agree_iff plainSha (plainLibraries oneClaims.dump)
    (plainLibraries_stringifies oneClaims.dump) plainSha_ne_nil
  refine ⟨(h.1 (oneCall (some [lit "pay"])) _ 0 0 sameDecode_one portable_one).mpr ?_,
    (h.2 (parseOnly oneToken) (oneTool (amount 1)) 0 0 (oneTool_decode (amount 1))
      portable_passportMeta portable_one).mpr ?_⟩
  · rintro ⟨hempty, -⟩
    cases hempty
  · rintro ⟨a, hcall, hpart⟩
    cases hcall.payload.unique (oneTool_valid (amount 1)).payload
    rcases hpart with ⟨o, ho, -, p, hp, -, hdiffer⟩ | ⟨o, -, -, hkey, -⟩ | ⟨items, hitems, -⟩
    · rw [← Json.obj.inj ho] at hdiffer
      cases List.mem_singleton.mp hp
      have := hdiffer (.int 1) rfl
      revert this
      decide +kernel
    · revert hkey
      decide +kernel
    · cases hitems

end Axg
