/-
# Passports that callers bring to the gateway

A call that carries a Passport is checked with AXG's introspection (`axg/api.py`).  The gateway asks
with its own key: AXG looks at the signature, the dates, the action, the payload, and whether the
owner of that key may act for the Passport's app.  The caller of the gateway is not part of the
question.  So a Passport of another tenant is as good as one of the caller's, and so is one for
another app that the key may act for (`passport_bound_iff`).

The web framework's rendering of the answer is a parameter: what is rendered reads back.
-/
import Axg.Gateway
import Axg.Introspection

namespace Axg

open Python

/-! ## 1. The endpoint, as it is called -/

/-- A field that is an object or `None`. -/
def optionalObject : Option {v : Json // v.Wf} → Option (Option JsonObject)
  | none => some none
  | some ⟨.null, _⟩ => some none
  | some v => (asObject v).map some

/-- `IntrospectionRequest.model_validate` -/
def IntrospectionRequest.validate (parse : Str → Token) (body : JsonObject) :
    Option IntrospectionRequest := do
  let passport ← textField body.members "passport"
  let actionType ← optionalTextField body.members "action_type"
  let payload ← optionalObject (body.find (lit "actionable_payload"))
  return ⟨parse passport, actionType, payload⟩

namespace Gateway

open Interceptor (Parts Presents Approved Decided Replies orEmpty toolName introspection
  introspectPath governToolsCall govern_request_iff short_lookup short_orEmpty)

/-- AXG, as the owner of the gateway's key reaches it. -/
structure Service where
  sha : Sha256
  keys : KeyManager
  parse : Str → Token
  now : Clock
  caller : Caller
  retryAfter : Option Nat
  render : Json → Option Bytes

/-- `POST /v1/passports/introspect`.  Each status that is an error is a `URLError` of the caller. -/
def Service.introspects (service : Service) (text : Str) : UrlExchange :=
  match h : loads text with
  | .ok (.obj members) =>
    match IntrospectionRequest.validate service.parse ⟨members, loads_wf h⟩ with
    | none => .failed
    | some request =>
      match introspect service.sha service.keys service.now service.caller service.retryAfter
          request with
      | .error _ => .failed
      | .ok response =>
        match service.render (.obj response.dump) with
        | some bytes => .read bytes
        | none => .failed
  | _ => .failed

/-! ## 2. What AXG honours -/

/-- The token is a Passport for the action and the payload, for an app of the owner of the key.
It is what introspection can see; the caller's tenant and the gateway's app are not in what it is
asked. -/
structure Honours (service : Service) (token : Token) (action : Text) (payload : JsonObject) :
    Prop where
  authenticated : service.caller.authenticated = true
  unlimited : service.retryAfter = none
  signed : ∃ header key, token.header = some header ∧ header.typ ≠ some approvalTicketTyp ∧
    service.keys.verificationKey header.kid = some key ∧ token.signer = some key
  valid : validateClaims token.claims service.now issuer none ["exp", "nbf", "jti"] = .ok ()
  allow : claimIs token.claims "decision" (Decision.value .allow) = true
  action : claimIs token.claims "action_type" action = true
  payload : ∃ hash, hashPayload service.sha payload = .ok hash ∧
    claimIs token.claims "payload_hash" hash = true
  app : mayActForAud service.caller token.claims = .ok true
  rendered : ∃ bytes, service.render (.obj (IntrospectionResponse.dump
    ⟨true, none, some token.claims⟩)) = some bytes

/-- What AXG reads of a Passport, a tool and a payload that are sent. -/
structure Sends (passport tool : Json) (authorized : Dict Json) (text action : Text)
    (payload : JsonObject) : Prop where
  passport : passport.rejoin = .str text
  tool : tool.rejoin = .str action
  payload : payload.members = Json.rejoinObj authorized

section Endpoint

variable {sha : Sha256} {keys : KeyManager} {now : Clock} {token : Token} {action : Text}
  {payload : JsonObject} {claims : Dict Json}

theorem introspectPassport_eq_ok_iff :
    introspectPassport sha keys now token (some action) (some payload) = .ok (.ok claims) ↔
      claims = token.claims ∧
      (∃ header key, token.header = some header ∧ header.typ ≠ some approvalTicketTyp ∧
        keys.verificationKey header.kid = some key ∧ token.signer = some key) ∧
      validateClaims token.claims now issuer none ["exp", "nbf", "jti"] = .ok () ∧
      claimIs token.claims "decision" (Decision.value .allow) = true ∧
      claimIs token.claims "action_type" action = true ∧
      ∃ hash, hashPayload sha payload = .ok hash ∧
        claimIs token.claims "payload_hash" hash = true := by
  constructor
  · intro h
    unfold introspectPassport introspectWith KeyManager.lookup at h
    split at h
    · split at h <;> cases h
    rename_i header hheader
    split at h
    · cases h
    rename_i htyp
    split at h
    · cases h
    · cases h
    rename_i key hkey
    replace hkey := Except.ok.inj hkey
    split at h
    · cases h
    · cases h
    rename_i cs hdecode
    obtain ⟨hsigner, rfl, hvalid⟩ := jwtDecode_eq_ok hdecode
    split at h
    · cases h
    rename_i hallow
    split at h
    · cases h
    rename_i haction
    obtain ⟨hash, hhash, h⟩ := bind_eq_ok h
    split at h
    · rename_i hmatch
      cases h
      exact ⟨rfl, ⟨header, key, hheader, htyp, hkey, hsigner⟩, hvalid, by simpa using hallow,
        by simpa using haction, hash, hhash, hmatch⟩
    · cases h
  · rintro ⟨rfl, ⟨header, key, hheader, htyp, hkey, hsigner⟩, hvalid, hallow, haction, hash, hhash,
      hmatch⟩
    have hdecode :
        jwtDecode token key now issuer none ["exp", "nbf", "jti"] = .ok token.claims := by
      cases token with
      | malformed text => cases hheader
      | jws header' cs signer =>
        have hsigner : signer = some key := hsigner
        simp only [Token.claims] at hvalid ⊢
        rw [jwtDecode_jws hsigner, hvalid]
        rfl
    unfold introspectPassport introspectWith
    simp only [hheader, if_neg htyp, KeyManager.lookup, hkey, hdecode, hallow, hhash, hmatch,
      ok_bind, Bool.true_eq_false, ↓reduceIte]
    rw [if_neg (by simp [haction])]
    rfl

theorem optionalObject_obj {v : {v : Json // v.Wf}} {o : JsonObject} (h : v.val = o.json) :
    optionalObject (some v) = some (some o) := by
  obtain ⟨v, hv⟩ := v
  obtain rfl : v = .obj o.members := h
  rfl

theorem Honours.introspect {service : Service} (h : Honours service token action payload) :
    Axg.introspect service.sha service.keys service.now service.caller service.retryAfter
      ⟨token, some action, some payload⟩ = .ok ⟨true, none, some token.claims⟩ := by
  unfold Axg.introspect
  rw [introspectPassport_eq_ok_iff.mpr
    ⟨rfl, h.signed, h.valid, h.allow, h.action, h.payload⟩]
  simp only [h.authenticated, h.unlimited, h.app, Bool.true_eq_false, ↓reduceIte,
    Option.isSome_none, Bool.false_eq_true, ok_bind]
  rfl

/-- An answer that says active is about a Passport that passes every check. -/
theorem introspect_active {service : Service} {response : IntrospectionResponse}
    (h : Axg.introspect service.sha service.keys service.now service.caller service.retryAfter
      ⟨token, some action, some payload⟩ = .ok response) (hactive : response.active = true)
    {bytes : Bytes} (hrender : service.render (.obj response.dump) = some bytes) :
    Honours service token action payload := by
  unfold Axg.introspect at h
  split at h
  · cases h
  rename_i hauth
  split at h
  · cases h
  rename_i hlimit
  split at h
  · cases h
  · cases h
    cases hactive
  rename_i claims hclaims
  obtain ⟨rfl, hsigned, hvalid, hallow, haction, hpayload⟩ :=
    introspectPassport_eq_ok_iff.mp hclaims
  obtain ⟨may, hmay, h⟩ := bind_eq_ok h
  split at h
  · rename_i htrue
    cases h
    exact ⟨by simpa using hauth, by simpa using hlimit, hsigned, hvalid, hallow, haction, hpayload,
      by rw [hmay, htrue], bytes, hrender⟩
  · cases h
    cases hactive

end Endpoint

/-! ## 3. What becomes of a Passport that is presented -/

/-- What is sent to AXG is read as it was written, with joined surrogates. -/
theorem rejoin_introspection (passport tool : Json) (authorized : Dict Json) :
    Json.rejoinObj (introspection passport tool authorized) =
      introspection passport.rejoin tool.rejoin (Json.rejoinObj authorized) := rfl

theorem textField_eq_some {claims : Dict Json} {name : String} {t : Text}
    (h : textField claims name = some t) : claims.lookup (lit name) = some (.str t) := by
  unfold textField at h
  split at h
  · rename_i s hs
    split at h
    · cases h
      exact hs
    · cases h
  · cases h

theorem optionalTextField_eq_some_iff {claims : Dict Json} {name : String} {v : Json}
    (hv : claims.lookup (lit name) = some v) (hnull : v ≠ .null) {t : Option Text} :
    optionalTextField claims name = some t ↔ ∃ s : Text, v = .str s ∧ t = some s := by
  have hfield : optionalTextField claims name = (textField claims name).map some := by
    unfold optionalTextField
    rw [hv]
    cases v with
    | null => exact absurd rfl hnull
    | _ => rfl
  rw [hfield]
  constructor
  · intro h
    obtain ⟨s, hs, rfl⟩ := Option.map_eq_some_iff.mp h
    exact ⟨s, Option.some.inj (hv.symm.trans (textField_eq_some hs)), rfl⟩
  · rintro ⟨s, rfl, rfl⟩
    rw [textField_of_lookup hv, Option.map_some]

theorem validate_introspection_iff {parse : Str → Token} {passport tool : Json}
    {authorized : Dict Json} (hwf : (Json.obj (introspection passport tool authorized)).Wf)
    (htool : tool ≠ .null) {request : IntrospectionRequest} :
    IntrospectionRequest.validate parse ⟨introspection passport tool authorized, hwf⟩ =
        some request ↔
      ∃ (text action : Text) (payload : JsonObject), passport = .str text ∧ tool = .str action ∧
        payload.members = authorized ∧ request = ⟨parse text, some action, some payload⟩ := by
  have hpassport : (introspection passport tool authorized).lookup (lit "passport") =
      some passport := rfl
  have haction : (introspection passport tool authorized).lookup (lit "action_type") =
      some tool := rfl
  have hfind : ∃ v, JsonObject.find ⟨introspection passport tool authorized, hwf⟩
      (lit "actionable_payload") = some v ∧ v.val = .obj authorized := by
    have hmap := JsonObject.find_map ⟨introspection passport tool authorized, hwf⟩
      (lit "actionable_payload")
    exact Option.map_eq_some_iff.mp hmap
  obtain ⟨v, hv, hval⟩ := hfind
  have hobject : optionalObject (some v) = some (some ⟨authorized, hval ▸ v.property⟩) :=
    optionalObject_obj hval
  constructor
  · intro h
    obtain ⟨text, htext, h⟩ := Option.bind_eq_some_iff.mp h
    obtain ⟨action, hact, h⟩ := Option.bind_eq_some_iff.mp h
    obtain ⟨payload, hpay, h⟩ := Option.bind_eq_some_iff.mp h
    rw [hv, hobject] at hpay
    cases hpay
    cases h
    obtain ⟨s, rfl, rfl⟩ := (optionalTextField_eq_some_iff haction htool).mp hact
    exact ⟨text, s, _, Option.some.inj (hpassport.symm.trans (textField_eq_some htext)), rfl, rfl,
      rfl⟩
  · rintro ⟨text, action, payload, rfl, rfl, rfl, rfl⟩
    refine Option.bind_eq_some_iff.mpr ⟨text, textField_of_lookup hpassport,
      Option.bind_eq_some_iff.mpr ⟨some action,
        (optionalTextField_eq_some_iff haction htool).mpr ⟨action, rfl, rfl⟩,
        Option.bind_eq_some_iff.mpr ⟨some payload, ?_, rfl⟩⟩⟩
    rw [hv, hobject]

theorem toolName_ne_null (params : Dict Json) : (toolName params).rejoin ≠ .null := by
  unfold toolName orDefault
  split
  · exact Json.noConfusion
  · rename_i v hv
    split
    · rename_i htrue
      intro hnull
      rw [← Json.truthy_rejoin, hnull] at htrue
      cases htrue
    · exact Json.noConfusion

section Introspected

variable {service : Service} {exchange : UrlOpen} {params authorized : Dict Json} {passport : Json}

theorem introspects_eq {text : Str} {members : Dict Json} (h : loads text = .ok (.obj members)) :
    service.introspects text =
      match IntrospectionRequest.validate service.parse ⟨members, loads_wf h⟩ with
      | none => .failed
      | some request =>
        match introspect service.sha service.keys service.now service.caller service.retryAfter
            request with
        | .error _ => .failed
        | .ok response =>
          match service.render (.obj response.dump) with
          | some bytes => .read bytes
          | none => .failed := by
  unfold Service.introspects
  split
  · rename_i members' hmembers
    cases h.symm.trans hmembers
    rfl
  · rename_i hno
    exact absurd h (hno members)

/-- AXG's introspection of what the call presents is active exactly when it honours the Passport. -/
theorem active_iff (hserves : ∀ text, exchange introspectPath text = service.introspects text)
    (hrender : ∀ v bytes, service.render v = some bytes → loadsReply bytes = .ok v)
    (hshort : (Json.obj (introspection passport (toolName params) authorized)).hasShortInts =
      true) :
    (∃ result claims, Replies exchange introspectPath
        (introspection passport (toolName params) authorized) (.obj result) ∧
      (result.lookup (lit "active")).any Json.truthy = true ∧
      orEmpty (result.lookup (lit "claims")) = .obj claims) ↔
    ∃ text action payload, Sends passport (toolName params) authorized text action payload ∧
      Honours service (service.parse text) action payload := by
  have hdumps : dumpsAscii [0x20] (.obj (introspection passport (toolName params) authorized)) =
      .ok _ := if_pos hshort
  have hloads := loads_dumpsAscii padSpace hdumps
  rw [Json.rejoin_obj, rejoin_introspection] at hloads
  constructor
  · rintro ⟨result, claims, ⟨text, bytes, htext, hread, hreply⟩, hactive, -⟩
    cases hdumps.symm.trans htext
    rw [hserves, introspects_eq hloads] at hread
    split at hread
    · cases hread
    rename_i request hrequest
    obtain ⟨text, action, payload, hpassport, htool, hpayload, rfl⟩ :=
      (validate_introspection_iff _ (toolName_ne_null params)).mp hrequest
    split at hread
    · cases hread
    rename_i response hresponse
    split at hread
    · rename_i bytes' hbytes
      cases hread
      cases (hrender _ _ hbytes).symm.trans hreply
      have hactive : response.active = true := hactive
      exact ⟨text, action, payload, ⟨hpassport, htool, hpayload⟩,
        introspect_active hresponse hactive hbytes⟩
    · cases hread
  · rintro ⟨text, action, payload, ⟨hpassport, htool, hpayload⟩, hhonours⟩
    obtain ⟨bytes, hbytes⟩ := hhonours.rendered
    refine ⟨_, (service.parse text).claims, ⟨_, bytes, hdumps, ?_, hrender _ _ hbytes⟩, rfl, ?_⟩
    · rw [hserves, introspects_eq hloads, (validate_introspection_iff _
        (toolName_ne_null params)).mpr ⟨text, action, payload, hpassport, htool, hpayload, rfl⟩]
      simp only [hhonours.introspect, hbytes]
    · change orEmpty (some (Json.obj (service.parse text).claims)) = _
      unfold orEmpty
      cases (service.parse text).claims <;> rfl

end Introspected

/-! ## 4. What the gateway forwards -/

/-- The tenant that the caller's claims map to, as a decision on its call is asked for. -/
def tenantOf (env : Interceptor.Env) (py : Interpreter) (claims : Dict Json) : Except PyError Str :=
  pyStr py (orDefault (claims.lookup (env.tenantClaim.getD (lit "tenant_id"))) (.lit "default"))

/-- The Passport is for the caller's tenant and the gateway's app. -/
def OwnTenantAndApp (env : Interceptor.Env) (py : Interpreter) (claims passport : Dict Json) :
    Prop :=
  (∃ tenant, tenantOf env py claims = .ok tenant ∧ claimIs passport "tenant_id" tenant = true) ∧
    claimIs passport "aud" env.appId = true

/-- A call that is forwarded with a Passport has one for the caller's tenant, the gateway's app, the
tool and the payload that it carries. -/
def Bound (service : Service) (env : Interceptor.Env) (py : Interpreter) (exchange : UrlOpen)
    (body claims : Dict Json) (source uuid : Str) (protocolVersion : Option Str) : Prop :=
  ∀ out params metadata,
    governToolsCall env py exchange body claims source uuid protocolVersion = .ok (.request out) →
    Parts body params metadata → (metadata.lookup passportMetaKey).any Json.truthy = true →
    ∃ passport authorized text action payload,
      metadata.lookup passportMetaKey = some passport ∧
      metadata.lookup payloadMetaKey = some (.obj authorized) ∧
      Sends passport (toolName params) authorized text action payload ∧
      OwnTenantAndApp env py claims (service.parse text).claims ∧
      claimIs (service.parse text).claims "action_type" action = true ∧
      ∃ hash, hashPayload service.sha payload = .ok hash ∧
        claimIs (service.parse text).claims "payload_hash" hash = true

theorem short_introspection {body params metadata authorized arguments : Dict Json}
    {passport : Json}
    (hbody : (Json.obj body).hasShortInts = true)
    (h : Presents body params metadata passport authorized arguments) :
    (Json.obj (introspection passport (toolName params) authorized)).hasShortInts = true := by
  have hparams : (Json.obj params).hasShortInts = true := by
    rw [← h.parts.readsParams]
    exact short_orEmpty (short_lookup hbody _)
  have hmetadata : (Json.obj metadata).hasShortInts = true := by
    rw [← h.parts.readsMetadata]
    exact short_orEmpty (short_lookup hparams _)
  refine Json.every_obj.mpr ⟨rfl, fun p hp => ?_⟩
  simp only [introspection, List.mem_cons, List.not_mem_nil, or_false] at hp
  rcases hp with rfl | rfl | rfl
  · exact short_lookup hmetadata _ _ h.carries
  · exact hasShortInts_orDefault.mpr (short_lookup hparams _)
  · exact short_lookup hmetadata _ _ h.payload

/-- The gateway keeps to the caller's tenant and its own app exactly when the Passport that is
presented does, unless AXG does not honour it for the owner of the gateway's key.  Introspection
is told the Passport, the tool and the payload; it checks the app against all the apps of the key
and the tenant against nothing. -/
theorem passport_bound_iff (service : Service) (exchange : UrlOpen)
    (hserves : ∀ text, exchange introspectPath text = service.introspects text)
    (hrender : ∀ v bytes, service.render v = some bytes → loadsReply bytes = .ok v)
    (env : Interceptor.Env) (py : Interpreter) (body claims : Dict Json)
    (hbody : (Json.obj body).hasShortInts = true) (source uuid : Str)
    (protocolVersion : Option Str) :
    Bound service env py exchange body claims source uuid protocolVersion ↔
      ∀ params metadata passport authorized arguments text action payload,
        Presents body params metadata passport authorized arguments →
        Sends passport (toolName params) authorized text action payload →
        Honours service (service.parse text) action payload →
        OwnTenantAndApp env py claims (service.parse text).claims := by
  constructor
  · intro h params metadata passport authorized arguments text action payload hp hs hh
    have hactive := (active_iff hserves hrender (short_introspection hbody hp)).mpr
      ⟨text, action, payload, hs, hh⟩
    have hgovern := (@govern_request_iff env py exchange body claims source uuid protocolVersion
      body).mpr (.inl ⟨params, metadata, passport, authorized, arguments, ⟨hp, hactive⟩, rfl⟩)
    have htruthy : (metadata.lookup passportMetaKey).any Json.truthy = true := by
      rw [hp.carries]
      exact hp.truthy
    obtain ⟨passport', authorized', text', action', payload', hcarries, -, hs', hown, -⟩ :=
      h body params metadata hgovern hp.parts htruthy
    cases hp.carries.symm.trans hcarries
    -- the Passport of the property is the one of the condition, as both are read from the call
    have htext : text = text' :=
      Text.ext_iff.mpr (Json.str.inj (hs.passport.symm.trans hs'.passport))
    rw [htext]
    exact hown
  · intro h out params metadata hgovern hparts htruthy
    rcases govern_request_iff.mp hgovern with ⟨params', metadata', passport, authorized, arguments,
      ha, -⟩ | ⟨params', metadata', request, decision, scores, sent, hd, -⟩
    · obtain ⟨rfl, rfl⟩ := hparts.unique ha.parts
      obtain ⟨text, action, payload, hs, hh⟩ :=
        (active_iff hserves hrender (short_introspection hbody ha.toPresents)).mp ha.active
      exact ⟨passport, authorized, text, action, payload, ha.carries, ha.payload, hs,
        h _ _ _ _ _ _ _ _ ha.toPresents hs hh, hh.action, hh.payload⟩
    · obtain ⟨rfl, rfl⟩ := hparts.unique hd.parts
      cases hd.noPassport.symm.trans htruthy

/-! ## 5. Two foreign Passports -/

/-- A rendering, of what is Unicode text. -/
def renderText (v : Json) : Option Bytes :=
  if v.Wf ∧ v.isText = true ∧ v.hasShortInts = true then
    some (asciiBytes (v.doc.render .ascii [0x20]))
  else none

theorem renderText_reads_back (v : Json) (bytes : Bytes) (h : renderText v = some bytes) :
    loadsReply bytes = .ok v := by
  unfold renderText at h
  split at h
  · rename_i hv
    obtain ⟨hwf, htext, hshort⟩ := hv
    cases h
    have hdumps : dumpsAscii [0x20] v = .ok (v.doc.render .ascii [0x20]) := if_pos hshort
    rw [loadsReply, decodeUtf8With_ascii false (printable_dumpsAscii hdumps)]
    exact (loads_dumpsAscii padSpace hdumps).trans (congrArg _ (Json.rejoin_of_isText hwf htext))
  · cases h

/-- An AXG that signed the Passport for an amount, and a gateway whose key has the apps. -/
def amountService (appIds : List Text) : Service where
  sha := .ofTable amountDigests
  keys := pairedKeys
  parse := parseOnly amountToken
  now := 0
  caller := ⟨.lit "gateway", true, appIds, some []⟩
  retryAfter := none
  render := renderText

/-- A call with that Passport and its payload. -/
def amountToolCall : Dict Json :=
  [strClaim "method" (lit "tools/call"), (lit "params", .obj [strClaim "name" (lit "pay"),
    (lit "arguments", (amount 9007199254740992).json),
    (lit "_meta", .obj [(passportMetaKey, .str passportText),
      (payloadMetaKey, (amount 9007199254740992).json)])])]

def amountParams : Dict Json :=
  [strClaim "name" (lit "pay"), (lit "arguments", (amount 9007199254740992).json),
    (lit "_meta", .obj [(passportMetaKey, .str passportText),
      (payloadMetaKey, (amount 9007199254740992).json)])]

def amountMeta : Dict Json :=
  [(passportMetaKey, .str passportText), (payloadMetaKey, (amount 9007199254740992).json)]

theorem presents_amount : Presents amountToolCall amountParams amountMeta (.str passportText)
    (amount 9007199254740992).members (amount 9007199254740992).members where
  parts := ⟨rfl, rfl⟩
  carries := rfl
  truthy := rfl
  payload := rfl
  readsArguments := rfl
  matching := by decide +kernel

theorem sends_amount : Sends (.str passportText) (toolName amountParams)
    (amount 9007199254740992).members (.lit "header.claims.signature") (.lit "pay")
    (amount 9007199254740992) :=
  ⟨rfl, rfl, rfl⟩

theorem honours_amount {appIds : List Text} (h : Text.lit "app" ∈ appIds) :
    Honours (amountService appIds)
      ((amountService appIds).parse (Text.lit "header.claims.signature").str)
      (.lit "pay") (amount 9007199254740992) where
  authenticated := rfl
  unlimited := rfl
  signed := ⟨_, _, rfl, by decide, rfl, rfl⟩
  valid := rfl
  allow := claimIs_iff.mpr rfl
  action := claimIs_iff.mpr rfl
  payload := ⟨amountHash, hashPayload_amount canonicalJson_amount.1, claimIs_iff.mpr rfl⟩
  app := by
    refine (mayActForAud_dump _ _).trans (congrArg Except.ok ?_)
    exact Bool.or_eq_true_iff.mpr (.inr (List.contains_iff_mem.mpr h))
  rendered := by
    have hrender : renderText (.obj (IntrospectionResponse.dump
        ⟨true, none, some amountToken.claims⟩)) = some _ := if_pos (by decide +kernel)
    exact ⟨_, hrender⟩

/-- The exchange with AXG. -/
def Service.exchange (service : Service) : UrlOpen := fun _ text => service.introspects text

/-- The call of one tenant is forwarded with the Passport of another, and one gateway's call with
the Passport for another app that its key may act for. -/
theorem foreign_forwarded :
    (¬ Bound (amountService [.lit "app"]) plainEnv plainInterpreter
        (amountService [.lit "app"]).exchange amountToolCall
        [strClaim "tenant_id" (lit "another-tenant")] source [] none) ∧
      ¬ Bound (amountService [.lit "another-app", .lit "app"])
        ⟨lit "another-app", none, none, none, none⟩ plainInterpreter
        (amountService [.lit "another-app", .lit "app"]).exchange amountToolCall
        [strClaim "tenant_id" (lit "tenant")] source [] none := by
  constructor
  · intro h
    obtain ⟨⟨tenant, htenant, hclaim⟩, -⟩ := (passport_bound_iff _ _ (fun _ => rfl)
      renderText_reads_back _ _ _ _ rfl _ _ _).mp h _ _ _ _ _ _ _ _ presents_amount sends_amount
      (honours_amount (by decide))
    cases htenant
    revert hclaim
    decide +kernel
  · intro h
    obtain ⟨-, haud⟩ := (passport_bound_iff _ _ (fun _ => rfl)
      renderText_reads_back _ _ _ _ rfl _ _ _).mp h _ _ _ _ _ _ _ _ presents_amount sends_amount
      (honours_amount (by decide))
    revert haud
    decide +kernel

/-- The Passport of the caller's own tenant and the gateway's app. -/
theorem passport_bound_iff_amount :
    Bound (amountService [.lit "app"]) plainEnv plainInterpreter
      (amountService [.lit "app"]).exchange amountToolCall [strClaim "tenant_id" (lit "tenant")]
      source [] none := by
  refine (passport_bound_iff _ _ (fun _ => rfl) renderText_reads_back _ _ _ _ rfl _ _ _).mpr ?_
  intro params metadata passport authorized arguments text action payload hp hs _
  obtain ⟨rfl, rfl⟩ := presents_amount.parts.unique hp.parts
  cases presents_amount.carries.symm.trans hp.carries
  obtain rfl : text = .lit "header.claims.signature" :=
    Text.ext_iff.mpr (Json.str.inj (hs.passport.symm.trans sends_amount.passport))
  exact ⟨⟨lit "tenant", rfl, claimIs_iff.mpr rfl⟩, claimIs_iff.mpr rfl⟩

end Gateway

end Axg
