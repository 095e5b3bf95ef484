/-
# Passports and approval tickets (`axg/crypto.py`)

`signDecision` issues a Passport and `signApprovalTicket` an approval ticket; both bind the
canonical hash of the actionable payload.  The claims are the model dumps of the source, so a
verifier reads them by name as it would from any token.

The key manager is one configuration of keys.  The header's `kid` is the thumbprint of the
public key it was given, the signature is made with the private key, and nothing makes the two
a pair: a manager whose keys do not belong together signs tokens that its own public key does
not verify.
-/
import Axg.Canonical
import Axg.Models

namespace Axg

open Python

/-! ## 1. Keys -/

/-- The keys of an AXG whose settings are all read.  `privateKey` is `none` where `jwt.encode`
cannot use it. -/
structure KeyManager where
  privateKey : Option Kid
  publicKey : Kid
  previousPublicKeys : List Kid

/-- `verification_key`, among keys that are read. -/
def KeyManager.verificationKey (keys : KeyManager) (kid : Option Kid) : Option Kid :=
  (keys.publicKey :: keys.previousPublicKeys).find? (fun k => some k = kid)

/-- `verification_key` with what it raises: it reads the retired keys and the thumbprint of each
key that it passes on every call. -/
abbrev KeyLookup := Option Kid → Except PyError (Option Kid)

/-- The look-up of a key manager whose settings are all read. -/
def KeyManager.lookup (keys : KeyManager) : KeyLookup := fun kid => .ok (keys.verificationKey kid)

/-- The keys whose signatures AXG takes for its own. -/
def KeyManager.own (keys : KeyManager) (kid : Kid) : Prop :=
  kid = keys.publicKey ∨ kid ∈ keys.previousPublicKeys

/-- A key manager whose keys are a pair. -/
def pairedKeys : KeyManager := ⟨some (lit "thumbprint"), lit "thumbprint", []⟩

/-- `ISSUER` -/
def issuer : Text := .lit "axg-engine"

/-- `APPROVAL_TICKET_TYP` -/
def approvalTicketTyp : Str := lit "axg-approval+jwt"

/-- The `typ` that `jwt.encode` writes by itself. -/
def defaultTyp : Str := lit "JWT"

/-- `jwt.encode(claims, key_manager.private_key, algorithm="RS256", headers=...)` -/
def KeyManager.encode (keys : KeyManager) (typ : Str) (claims : Dict Json) : Option Token :=
  keys.privateKey.map (fun key => .jws ⟨some typ, some keys.publicKey⟩ claims (some key))

/-- `hash_payload` -/
def hashPayload (sha : Sha256) (payload : JsonObject) : Except PyError Str :=
  canonicalHash sha payload.json

/-! ## 2. Passports -/

/-- A string claim. -/
def strClaim (name : String) (s : Str) : Str × Json := (lit name, .str s)

structure PassportApproval where
  ticketId : Text
  approverId : Text
  approverRole : Text

structure PassportClaims where
  sub : Text
  aud : Text
  azp : Text
  iat : Int
  nbf : Int
  exp : Int
  jti : Text
  tenantId : Text
  actionType : Text
  policy : Text
  payloadHash : Str
  approval : Option PassportApproval

def PassportApproval.dump (approval : PassportApproval) : Json :=
  .obj [strClaim "ticket_id" approval.ticketId, strClaim "approver_id" approval.approverId,
    strClaim "approver_role" approval.approverRole]

/-- `PassportClaimsV2.model_dump(exclude_none=True)` -/
def PassportClaims.dump (c : PassportClaims) : Dict Json :=
  [strClaim "iss" issuer, strClaim "sub" c.sub, strClaim "aud" c.aud, strClaim "azp" c.azp,
    (lit "iat", .int c.iat), (lit "nbf", .int c.nbf), (lit "exp", .int c.exp),
    strClaim "jti" c.jti, (lit "ver", .int 2), strClaim "tenant_id" c.tenantId,
    strClaim "decision" (Decision.value .allow), strClaim "action_type" c.actionType,
    strClaim "policy" c.policy, strClaim "payload_hash" c.payloadHash] ++
  (c.approval.map (fun a => (lit "approval", a.dump))).toList

/-- The keyword arguments of `sign_decision`. -/
structure DecisionGrant where
  executionId : Text
  appId : Text
  tenantId : Text
  decision : Decision
  actionType : Text
  actionablePayload : JsonObject
  clientId : Text
  policy : Text
  jti : Option Text
  approval : Option PassportApproval

/-- `expires_in_minutes`, at its default, in microseconds. -/
def passportLifetime : Nat := 5 * 60 * 1000000

/-- `jti or str(uuid.uuid4())` -/
def DecisionGrant.jtiOr (grant : DecisionGrant) (uuid : Text) : Text :=
  match grant.jti with
  | some jti => if jti.str = [] then uuid else jti
  | none => uuid

def passportClaims (now : Clock) (grant : DecisionGrant) (jti : Text) (payloadHash : Str) :
    PassportClaims where
  sub := grant.executionId
  aud := grant.appId
  azp := grant.clientId
  iat := Clock.seconds now
  nbf := Clock.seconds now
  exp := Clock.seconds (now + passportLifetime)
  jti := jti
  tenantId := grant.tenantId
  actionType := grant.actionType
  policy := grant.policy
  payloadHash := payloadHash
  approval := grant.approval

/-- `sign_decision`: the token and its `jti`. -/
def signDecision (sha : Sha256) (keys : KeyManager) (now : Clock) (uuid : Text)
    (grant : DecisionGrant) : Except PyError (Token × Text) := do
  let jti := grant.jtiOr uuid
  let payloadHash ← hashPayload sha grant.actionablePayload
  -- `PassportClaimsV2.decision` is `Literal["ALLOW"]`
  if grant.decision ≠ .allow then throw .valueError
  match keys.encode defaultTyp (passportClaims now grant jti payloadHash).dump with
  | some token => return (token, jti)
  | none => throw .valueError

/-! ## 3. Approval tickets -/

structure TicketClaims where
  sub : Text
  aud : Text
  azp : Text
  iat : Int
  nbf : Int
  exp : Int
  jti : Text
  tenantId : Text
  pluginId : Text
  policy : Text
  decision : Decision
  confirmOrSuggest : decision = .confirm ∨ decision = .suggest
  actionType : Text
  payloadHash : Str
  requiredRole : Text
  userId : Option Text
  agentId : Option Text

/-- `ApprovalTicketClaims.model_dump(exclude_none=True)` -/
def TicketClaims.dump (c : TicketClaims) : Dict Json :=
  [strClaim "iss" issuer, strClaim "typ" (Text.lit "approval"), strClaim "sub" c.sub,
    strClaim "aud" c.aud, strClaim "azp" c.azp, (lit "iat", .int c.iat), (lit "nbf", .int c.nbf),
    (lit "exp", .int c.exp), strClaim "jti" c.jti, strClaim "tenant_id" c.tenantId,
    strClaim "plugin_id" c.pluginId, strClaim "policy" c.policy,
    strClaim "decision" c.decision.value, strClaim "action_type" c.actionType,
    strClaim "payload_hash" c.payloadHash, strClaim "required_role" c.requiredRole] ++
  (c.userId.map (fun u => strClaim "user_id" u)).toList ++
  (c.agentId.map (fun a => strClaim "agent_id" a)).toList

/-- A string field of a model. -/
def textField (claims : Dict Json) (name : String) : Option Text :=
  match claims.lookup (lit name) with
  | some (.str s) => if h : IsScalar s then some ⟨s, h⟩ else none
  | _ => none

/-- A field that may be absent or `null`. -/
def optionalTextField (claims : Dict Json) (name : String) : Option (Option Text) :=
  match claims.lookup (lit name) with
  | none => some none
  | some .null => some none
  | some _ => (textField claims name).map some

def intField (claims : Dict Json) (name : String) : Option Int :=
  match claims.lookup (lit name) with
  | some (.int i) => some i
  | _ => none

/-- A field with a `Literal` type of one string, which is also its default. -/
def literalField (claims : Dict Json) (name value : String) : Option Unit :=
  match claims.lookup (lit name) with
  | none => some ()
  | some v => if v.pyEq (.str (lit value)) then some () else none

/-- The field names: `extra="forbid"`. -/
def ticketFields : List String :=
  ["iss", "typ", "sub", "aud", "azp", "iat", "nbf", "exp", "jti", "tenant_id", "plugin_id",
    "policy", "decision", "action_type", "payload_hash", "required_role", "user_id", "agent_id"]

/-- The decision of a ticket, `Literal["CONFIRM", "SUGGEST"]`. -/
def ticketDecision (claims : Dict Json) :
    Option {d : Decision // d = .confirm ∨ d = .suggest} := do
  let decision ← textField claims "decision"
  if decision = Decision.value .confirm then some ⟨.confirm, Or.inl rfl⟩
  else if decision = Decision.value .suggest then some ⟨.suggest, Or.inr rfl⟩
  else none

/-- `ApprovalTicketClaims.model_validate` -/
def TicketClaims.validate (claims : Dict Json) : Option TicketClaims := do
  guard (claims.keys.all (fun k => (ticketFields.map lit).contains k))
  literalField claims "iss" "axg-engine"
  literalField claims "typ" "approval"
  let decision ← ticketDecision claims
  let payloadHash ← textField claims "payload_hash"
  return {
    sub := ← textField claims "sub"
    aud := ← textField claims "aud"
    azp := ← textField claims "azp"
    iat := ← intField claims "iat"
    nbf := ← intField claims "nbf"
    exp := ← intField claims "exp"
    jti := ← textField claims "jti"
    tenantId := ← textField claims "tenant_id"
    pluginId := ← textField claims "plugin_id"
    policy := ← textField claims "policy"
    decision := decision.val
    confirmOrSuggest := decision.property
    actionType := ← textField claims "action_type"
    payloadHash := payloadHash.str
    requiredRole := ← textField claims "required_role"
    userId := ← optionalTextField claims "user_id"
    agentId := ← optionalTextField claims "agent_id" }

/-- The keyword arguments of `sign_approval_ticket`. -/
structure TicketGrant where
  executionId : Text
  appId : Text
  tenantId : Text
  pluginId : Text
  policy : Text
  decision : Decision
  actionType : Text
  actionablePayload : JsonObject
  clientId : Text
  requiredRole : Text
  userId : Option Text
  agentId : Option Text
  ttlSeconds : Nat

def ticketClaims (now : Clock) (grant : TicketGrant) (uuid : Text) (payloadHash : Str)
    (h : grant.decision = .confirm ∨ grant.decision = .suggest) : TicketClaims where
  sub := grant.executionId
  aud := grant.appId
  azp := grant.clientId
  iat := Clock.seconds now
  nbf := Clock.seconds now
  exp := Clock.seconds (now + grant.ttlSeconds * 1000000)
  jti := uuid
  tenantId := grant.tenantId
  pluginId := grant.pluginId
  policy := grant.policy
  decision := grant.decision
  confirmOrSuggest := h
  actionType := grant.actionType
  payloadHash := payloadHash
  requiredRole := grant.requiredRole
  userId := grant.userId
  agentId := grant.agentId

/-- `sign_approval_ticket` -/
def signApprovalTicket (sha : Sha256) (keys : KeyManager) (now : Clock) (uuid : Text)
    (grant : TicketGrant) : Except PyError ApprovalChallenge := do
  let payloadHash ← hashPayload sha grant.actionablePayload
  if h : grant.decision = .confirm ∨ grant.decision = .suggest then
    let claims := ticketClaims now grant uuid payloadHash h
    match keys.encode approvalTicketTyp claims.dump with
    | some token => return ⟨token, claims.jti, grant.requiredRole, claims.exp⟩
    | none => throw .valueError
  else throw .valueError

/-- `ApprovalTicketError`, by its text. -/
inductive TicketError
  | notATicket
  | unknownKey
  | invalidOrExpired
deriving DecidableEq

/-- `verify_approval_ticket`.  Whatever is raised becomes an `ApprovalTicketError`. -/
def verifyTicketWith (verificationKey : KeyLookup) (now : Clock) (token : Token) :
    Except TicketError TicketClaims :=
  match token.header with
  | none => .error .invalidOrExpired
  | some header =>
    if header.typ ≠ some approvalTicketTyp then .error .notATicket
    else
      match verificationKey header.kid with
      | .error _ => .error .invalidOrExpired
      | .ok none => .error .unknownKey
      | .ok (some key) =>
        match jwtDecode token key now issuer none ["exp", "nbf", "jti"] with
        | .error _ => .error .invalidOrExpired
        | .ok claims =>
          match TicketClaims.validate claims with
          | some ticket => .ok ticket
          | none => .error .invalidOrExpired

/-- The same with the keys of a key manager. -/
def verifyApprovalTicket (keys : KeyManager) (now : Clock) (token : Token) :
    Except TicketError TicketClaims := verifyTicketWith keys.lookup now token

/-! ## 4. Introspection -/

/-- Why a Passport is not active, by its text. -/
inductive PassportReason
  | approvalTicket
  | unknownSigningKey
  | expired
  | invalid
  | notAllow
  | anotherAction
  | payloadDiffers
deriving DecidableEq

def PassportReason.text : PassportReason → Text
  | approvalTicket => .lit "This is an approval ticket, not a Passport"
  | unknownSigningKey => .lit "Unknown signing key"
  | expired => .lit "Passport expired"
  | invalid => .lit "Invalid Passport"
  | notAllow => .lit "Not an ALLOW Passport"
  | anotherAction => .lit "Passport issued for another action"
  | payloadDiffers => .lit "Payload differs from the one the Passport authorizes"

/-- `claims.get(name) == value` -/
def claimIs (claims : Dict Json) (name : String) (value : Str) : Bool :=
  match claims.lookup (lit name) with
  | some v => v.pyEq (.str value)
  | none => false

/-- `introspect_passport`: the claims, or the reason why there are none.  Exceptions leave it from
three places, where PyJWT encodes the token, where the keys are read and where the payload is
hashed: its handler is for `PyJWTError` alone. -/
def introspectWith (sha : Sha256) (verificationKey : KeyLookup) (now : Clock) (token : Token)
    (actionType : Option Text) (actionablePayload : Option JsonObject) :
    Except PyError (Except PassportReason (Dict Json)) :=
  match token.header with
  | none => if token.isText then .ok (.error .invalid) else .error .unicodeEncodeError
  | some header =>
    if header.typ = some approvalTicketTyp then .ok (.error .approvalTicket)
    else
      match verificationKey header.kid with
      | .error e => .error e
      | .ok none => .ok (.error .unknownSigningKey)
      | .ok (some key) =>
        match jwtDecode token key now issuer none ["exp", "nbf", "jti"] with
        | .error .expired => .ok (.error .expired)
        | .error .invalid => .ok (.error .invalid)
        | .ok claims =>
          if claimIs claims "decision" (Decision.value .allow) = false then .ok (.error .notAllow)
          else if actionType.any (fun a => !claimIs claims "action_type" a) then
            .ok (.error .anotherAction)
          else
            match actionablePayload with
            | none => .ok (.ok claims)
            | some payload => do
              let hash ← hashPayload sha payload
              if claimIs claims "payload_hash" hash then return .ok claims
              else return .error .payloadDiffers

/-- The same with the keys of a key manager. -/
def introspectPassport (sha : Sha256) (keys : KeyManager) (now : Clock) (token : Token)
    (actionType : Option Text) (actionablePayload : Option JsonObject) :
    Except PyError (Except PassportReason (Dict Json)) :=
  introspectWith sha keys.lookup now token actionType actionablePayload

/-! ## 5. What is signed -/

/-- A digest is text. -/
theorem isScalar_hashPayload {sha : Sha256} {payload : JsonObject} {hash : Str}
    (h : hashPayload sha payload = .ok hash) : IsScalar hash := by
  obtain ⟨s, -, -, rfl⟩ := canonicalHash_eq_ok h
  exact sha.isScalar s

theorem Clock.seconds_passportLifetime (now : Clock) :
    Clock.seconds (now + passportLifetime) = Clock.seconds now + 300 := by
  simp only [Clock.seconds, passportLifetime]
  omega

/-- A Passport has begun and has not expired for five minutes from its signing. -/
theorem Clock.reached_of_fresh {signedAt now : Clock} (hbegun : signedAt ≤ now)
    (hexp : Clock.seconds now < Clock.seconds signedAt + 300) :
    Clock.reached now (Clock.seconds signedAt) = true ∧
      Clock.reached now (Clock.seconds (signedAt + passportLifetime)) = false := by
  refine ⟨(Clock.reached_iff _ _).mpr (Clock.seconds_mono hbegun), ?_⟩
  rw [← Bool.not_eq_true, Clock.reached_iff, Clock.seconds_passportLifetime]
  omega

theorem KeyManager.encode_eq_some {keys : KeyManager} {typ : Str} {claims : Dict Json}
    {token : Token} (h : keys.encode typ claims = some token) :
    ∃ key, keys.privateKey = some key ∧
      token = .jws ⟨some typ, some keys.publicKey⟩ claims (some key) := by
  obtain ⟨key, hk, rfl⟩ := Option.map_eq_some_iff.mp h
  exact ⟨key, hk, rfl⟩

theorem KeyManager.verificationKey_publicKey (keys : KeyManager) :
    keys.verificationKey (some keys.publicKey) = some keys.publicKey := by
  simp [verificationKey]

theorem KeyManager.verificationKey_eq_some {keys : KeyManager} {kid : Option Kid} {key : Kid}
    (h : keys.verificationKey kid = some key) : kid = some key ∧ keys.own key := by
  have hmem := List.mem_of_find?_eq_some h
  have heq := List.find?_some h
  exact ⟨(of_decide_eq_true heq).symm, List.mem_cons.mp hmem⟩

/-- Everything `sign_decision` does when it returns. -/
theorem signDecision_eq_ok {sha : Sha256} {keys : KeyManager} {now : Clock} {uuid : Text}
    {grant : DecisionGrant} {token : Token} {jti : Text}
    (h : signDecision sha keys now uuid grant = .ok (token, jti)) :
    ∃ hash key, hashPayload sha grant.actionablePayload = .ok hash ∧ grant.decision = .allow ∧
      keys.privateKey = some key ∧ jti = grant.jtiOr uuid ∧
      token = .jws ⟨some defaultTyp, some keys.publicKey⟩
        (passportClaims now grant jti hash).dump (some key) := by
  unfold signDecision at h
  obtain ⟨hash, hh, h⟩ := bind_eq_ok h
  by_cases hd : grant.decision = .allow
  · simp only [hd, ne_eq, not_true_eq_false, ↓reduceIte] at h
    cases he : keys.encode defaultTyp (passportClaims now grant (grant.jtiOr uuid) hash).dump with
    | none => rw [he] at h; cases h
    | some t =>
      rw [he] at h
      obtain ⟨key, hk, rfl⟩ := KeyManager.encode_eq_some he
      cases h
      exact ⟨hash, key, hh, hd, hk, rfl, rfl⟩
  · simp only [ne_eq, hd, not_false_eq_true, ↓reduceIte] at h
    cases h

theorem signDecision_of_hash {sha : Sha256} {keys : KeyManager} {now : Clock} {uuid : Text}
    {grant : DecisionGrant} {hash : Str} {key : Kid}
    (hhash : hashPayload sha grant.actionablePayload = .ok hash) (hd : grant.decision = .allow)
    (hkey : keys.privateKey = some key) :
    signDecision sha keys now uuid grant = .ok (.jws ⟨some defaultTyp, some keys.publicKey⟩
      (passportClaims now grant (grant.jtiOr uuid) hash).dump (some key), grant.jtiOr uuid) := by
  simp only [signDecision, hhash, ok_bind, hd, ne_eq, not_true_eq_false, ↓reduceIte,
    KeyManager.encode, hkey, Option.map_some]
  rfl

/-- It returns exactly when the payload has a hash and a private key is there. -/
theorem signDecision_isOk {sha : Sha256} {keys : KeyManager} {now : Clock} {uuid : Text}
    {grant : DecisionGrant} (hd : grant.decision = .allow) :
    (signDecision sha keys now uuid grant).isOk =
      ((hashPayload sha grant.actionablePayload).isOk && keys.privateKey.isSome) := by
  unfold signDecision KeyManager.encode
  cases hashPayload sha grant.actionablePayload with
  | error e => rfl
  | ok hash =>
    cases keys.privateKey with
    | none =>
      simp [hd, Except.isOk, Except.toBool]
      rfl
    | some key => simp [hd, Except.isOk, Except.toBool]

/-- Everything `sign_approval_ticket` does when it returns. -/
theorem signApprovalTicket_eq_ok {sha : Sha256} {keys : KeyManager} {now : Clock} {uuid : Text}
    {grant : TicketGrant} {challenge : ApprovalChallenge}
    (h : signApprovalTicket sha keys now uuid grant = .ok challenge) :
    ∃ hash key hd, hashPayload sha grant.actionablePayload = .ok hash ∧
      keys.privateKey = some key ∧
      challenge = ⟨.jws ⟨some approvalTicketTyp, some keys.publicKey⟩
        (ticketClaims now grant uuid hash hd).dump (some key), uuid, grant.requiredRole,
        Clock.seconds (now + grant.ttlSeconds * 1000000)⟩ := by
  unfold signApprovalTicket at h
  obtain ⟨hash, hh, h⟩ := bind_eq_ok h
  split at h
  · rename_i hd
    simp only at h
    cases he : keys.encode approvalTicketTyp (ticketClaims now grant uuid hash hd).dump with
    | none => rw [he] at h; cases h
    | some t =>
      rw [he] at h
      obtain ⟨key, hk, rfl⟩ := KeyManager.encode_eq_some he
      cases h
      exact ⟨hash, key, hd, hh, hk, rfl⟩
  · cases h

theorem PassportClaims.registered (c : PassportClaims) (hnbf : c.nbf = c.iat) :
    Registered c.dump issuer c.sub c.aud c.jti c.iat c.exp :=
  ⟨rfl, rfl, rfl, rfl, rfl, by rw [← hnbf]; rfl, rfl⟩

theorem TicketClaims.registered (c : TicketClaims) (hnbf : c.nbf = c.iat) :
    Registered c.dump issuer c.sub c.aud c.jti c.iat c.exp :=
  ⟨rfl, rfl, rfl, rfl, rfl, by rw [← hnbf]; rfl, rfl⟩

theorem claimIs_iff {claims : Dict Json} {name : String} {s : Str} :
    claimIs claims name s = true ↔ claims.lookup (lit name) = some (.str s) := by
  unfold claimIs
  split
  · rename_i v hv
    rw [hv, Json.pyEq_str_iff, Option.some.injEq]
  · rename_i hv
    rw [hv]
    simp

theorem claimIs_of_lookup {claims : Dict Json} {name : String} {s : Str}
    (h : claims.lookup (lit name) = some (.str s)) (t : Str) :
    claimIs claims name t = decide (s = t) := by
  rw [claimIs, h]
  simp only
  rw [Bool.eq_iff_iff, Json.pyEq_str_iff, decide_eq_true_iff, Json.str.injEq]

/-! ## 6. A ticket reads back -/

theorem textField_of_lookup {claims : Dict Json} {name : String} {t : Text}
    (h : claims.lookup (lit name) = some (.str t)) : textField claims name = some t := by
  rw [textField, h]
  exact dif_pos t.isScalar

theorem optionalTextField_of_lookup {claims : Dict Json} {name : String} {t : Option Text}
    (h : claims.lookup (lit name) = t.map (fun t => .str t)) :
    optionalTextField claims name = some t := by
  cases t with
  | none => rw [optionalTextField, h]; rfl
  | some t =>
    have hlookup : claims.lookup (lit name) = some (.str t) := h
    rw [optionalTextField, hlookup]
    simp only [textField_of_lookup hlookup, Option.map_some]

theorem ticketDecision_of_lookup {claims : Dict Json} {d : Decision}
    (hd : d = .confirm ∨ d = .suggest)
    (h : claims.lookup (lit "decision") = some (.str d.value)) :
    ticketDecision claims = some ⟨d, hd⟩ := by
  rw [ticketDecision, textField_of_lookup h]
  rcases hd with rfl | rfl
  · rfl
  · rfl

/-- `model_validate` of a model dump is the model. -/
theorem TicketClaims.validate_dump (c : TicketClaims) (hhash : IsScalar c.payloadHash) :
    TicketClaims.validate c.dump = some c := by
  have hkeys : c.dump.keys.all (fun k => (ticketFields.map lit).contains k) = true := by
    obtain ⟨sub, aud, azp, iat, nbf, exp, jti, tenantId, pluginId, policy, decision, hd, actionType,
      payloadHash, requiredRole, userId, agentId⟩ := c
    cases userId <;> cases agentId <;> rfl
  have hiss : literalField c.dump "iss" "axg-engine" = some () := by
    rw [literalField, show c.dump.lookup (lit "iss") = some (.str issuer) from rfl]
    simp only [Json.pyEq_str_iff.mpr (show Json.str issuer = .str (lit "axg-engine") from rfl),
      ↓reduceIte]
  have htyp : literalField c.dump "typ" "approval" = some () := by
    rw [literalField, show c.dump.lookup (lit "typ") = some (.str (Text.lit "approval")) from rfl]
    simp only [Json.pyEq_str_iff.mpr
      (show Json.str (Text.lit "approval") = .str (lit "approval") from rfl), ↓reduceIte]
  have hhashField : textField c.dump "payload_hash" = some ⟨c.payloadHash, hhash⟩ :=
    textField_of_lookup (t := ⟨c.payloadHash, hhash⟩) rfl
  have huser : optionalTextField c.dump "user_id" = some c.userId := by
    refine optionalTextField_of_lookup ?_
    obtain ⟨sub, aud, azp, iat, nbf, exp, jti, tenantId, pluginId, policy, decision, hd, actionType,
      payloadHash, requiredRole, userId, agentId⟩ := c
    cases userId <;> cases agentId <;> rfl
  have hagent : optionalTextField c.dump "agent_id" = some c.agentId := by
    refine optionalTextField_of_lookup ?_
    obtain ⟨sub, aud, azp, iat, nbf, exp, jti, tenantId, pluginId, policy, decision, hd, actionType,
      payloadHash, requiredRole, userId, agentId⟩ := c
    cases userId <;> cases agentId <;> rfl
  have hdecision : ticketDecision c.dump = some ⟨c.decision, c.confirmOrSuggest⟩ :=
    ticketDecision_of_lookup c.confirmOrSuggest rfl
  have hint : ∀ name i, c.dump.lookup (lit name) = some (.int i) →
      intField c.dump name = some i := by
    intro name i h
    rw [intField, h]
  simp only [validate, hkeys, guard, ↓reduceIte, hiss, htyp, hhashField, huser, hagent,
    hdecision,
    textField_of_lookup (show c.dump.lookup (lit "sub") = some (.str c.sub) from rfl),
    textField_of_lookup (show c.dump.lookup (lit "aud") = some (.str c.aud) from rfl),
    textField_of_lookup (show c.dump.lookup (lit "azp") = some (.str c.azp) from rfl),
    hint "iat" c.iat rfl, hint "nbf" c.nbf rfl, hint "exp" c.exp rfl,
    textField_of_lookup (show c.dump.lookup (lit "jti") = some (.str c.jti) from rfl),
    textField_of_lookup (show c.dump.lookup (lit "tenant_id") = some (.str c.tenantId) from rfl),
    textField_of_lookup (show c.dump.lookup (lit "plugin_id") = some (.str c.pluginId) from rfl),
    textField_of_lookup (show c.dump.lookup (lit "policy") = some (.str c.policy) from rfl),
    textField_of_lookup
      (show c.dump.lookup (lit "action_type") = some (.str c.actionType) from rfl),
    textField_of_lookup
      (show c.dump.lookup (lit "required_role") = some (.str c.requiredRole) from rfl)]
  rfl

/-- Decoding a ticket whose header names the current key. -/
theorem verifyApprovalTicket_dump {keys : KeyManager} {now : Clock} {c ticket : TicketClaims}
    (hhash : IsScalar c.payloadHash) (hnbf : c.nbf = c.iat) {signer : Kid} :
    verifyApprovalTicket keys now
        (.jws ⟨some approvalTicketTyp, some keys.publicKey⟩ c.dump (some signer)) = .ok ticket ↔
      ticket = c ∧ signer = keys.publicKey ∧ Clock.reached now c.iat = true ∧
        Clock.reached now c.exp = false := by
  simp only [verifyApprovalTicket, verifyTicketWith, KeyManager.lookup, Token.header, ne_eq,
    not_true_eq_false, ↓reduceIte, KeyManager.verificationKey_publicKey]
  by_cases hs : signer = keys.publicKey
  · have hreq : ∀ name ∈ ["exp", "nbf", "jti"], (c.dump.lookup (lit name)).isSome = true := by
      simp only [List.mem_cons, List.not_mem_nil, or_false]
      rintro name (rfl | rfl | rfl) <;> rfl
    rw [jwtDecode_jws (congrArg some hs), (c.registered hnbf).validateClaims_eq hreq]
    by_cases hb : Clock.reached now c.iat = true
    · rw [if_neg (by simp [hb])]
      by_cases he : Clock.reached now c.exp = true
      · simp [he, Except.map]
      · rw [if_neg he, if_pos ⟨rfl, by simp [AudienceOk]⟩]
        simp [Except.map, c.validate_dump hhash, hs, hb, he, eq_comm]
    · rw [if_pos (by simpa using hb)]
      simp [Except.map, hb]
  · simp [jwtDecode, hs]

end Axg
