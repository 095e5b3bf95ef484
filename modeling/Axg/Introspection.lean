/-
# Introspection (`axg/api.py`, `axg/crypto.py`)

`introspect_passport` says whether a Passport is active and, where it is not, why; the endpoint
then hides the claims of a Passport for an app that the caller may not act for.  It hides the
claims, not the reason: what `introspect_passport` said before the app was looked at is
answered as it stands.  So a caller learns nothing of a foreign Passport exactly when nothing is
wrong with it (`introspection_silent_iff`).
-/
import Axg.Passports

namespace Axg

open Python

/-! ## 1. The endpoint -/

structure IntrospectionRequest where
  passport : Token
  actionType : Option Text
  actionablePayload : Option JsonObject

structure IntrospectionResponse where
  active : Bool
  reason : Option Text
  claims : Option (Dict Json)

/-- `IntrospectionResponse.model_dump` -/
def IntrospectionResponse.dump (response : IntrospectionResponse) : Dict Json :=
  [strClaim "schema_version" (lit "axg.passport_introspection_response.v1"),
    (lit "active", .bool response.active),
    (lit "reason", (response.reason.map (fun s => Json.str s)).getD .null),
    (lit "claims", (response.claims.map Json.obj).getD .null)]

/-- `HTTPException`, the `KeyError` of a claim that is not there, or another exception. -/
inductive IntrospectionError
  | rejected (statusCode : Nat) (detail : Text)
  | keyError
  | raised (e : PyError)

/-- `caller.may_act_for(claims["aud"])`, for any claims. -/
def mayActForAud (caller : Caller) (claims : Dict Json) : Except IntrospectionError Bool :=
  match claims.lookup (lit "aud") with
  | none => .error .keyError
  | some (.str aud) =>
    if h : IsScalar aud then .ok (caller.mayActFor ⟨aud, h⟩)
    else .ok (caller.appIds.contains wildcard)
  | some (.arr _) =>
    if caller.appIds.contains wildcard then .ok true else .error (.raised .typeError)
  | some (.obj _) =>
    if caller.appIds.contains wildcard then .ok true else .error (.raised .typeError)
  | some _ => .ok (caller.appIds.contains wildcard)

/-- `IntrospectionResponse(active=False, reason=reason)` -/
def inactive (reason : Option Text) : IntrospectionResponse := ⟨false, reason, none⟩

/-- The answer that says nothing. -/
def silent : IntrospectionResponse := inactive none

section

variable (sha : Sha256) (keys : KeyManager) (now : Clock)

/-- `introspect`; `retryAfter` is what the rate limiter says of the caller. -/
def introspect (caller : Caller) (retryAfter : Option Nat) (request : IntrospectionRequest) :
    Except IntrospectionError IntrospectionResponse :=
  if caller.authenticated = false then
    .error (.rejected 401 (.lit "Introspection requires an authenticated caller"))
  else if retryAfter.isSome then .error (.rejected 429 (.lit "Rate limit exceeded"))
  else
    match introspectPassport sha keys now request.passport request.actionType
        request.actionablePayload with
    | .error e => .error (.raised e)
    | .ok (.error reason) => .ok (inactive (some reason.text))
    | .ok (.ok claims) => do
      if ← mayActForAud caller claims then return ⟨true, none, some claims⟩ else return silent

end

/-! ## 2. Passports -/

/-- The Passport passes every check: its key is one of AXG's, it has begun and not expired, and
it is for the action and the payload of the request. -/
structure Matches (sha : Sha256) (verificationKey : KeyLookup) (now : Clock) (kid signer : Kid)
    (c : PassportClaims) (actionType : Option Text) (payload : Option JsonObject) : Prop where
  key : verificationKey (some kid) = .ok (some signer)
  begun : Clock.reached now c.iat = true
  unexpired : Clock.reached now c.exp = false
  action : ∀ a ∈ actionType, a = c.actionType
  payload : ∀ p ∈ payload, hashPayload sha p = .ok c.payloadHash

section Passports

variable {sha : Sha256} {verificationKey : KeyLookup} {keys : KeyManager} {now : Clock}
  {kid signer : Kid} {c : PassportClaims} {actionType : Option Text} {payload : Option JsonObject}

/-- Decoding a Passport for introspection, where no audience is expected. -/
theorem jwtDecode_introspected (hnbf : c.nbf = c.iat) {header : JoseHeader} {key : Kid}
    {claims : Dict Json} :
    jwtDecode (.jws header c.dump (some signer)) key now issuer none ["exp", "nbf", "jti"] =
        .ok claims ↔
      claims = c.dump ∧ signer = key ∧ Clock.reached now c.iat = true ∧
        Clock.reached now c.exp = false := by
  have hreq : ∀ name ∈ ["exp", "nbf", "jti"], (c.dump.lookup (lit name)).isSome = true := by
    intro name hname
    simp only [List.mem_cons, List.not_mem_nil, or_false] at hname
    rcases hname with rfl | rfl | rfl <;> rfl
  by_cases hs : signer = key
  · rw [jwtDecode_jws (congrArg some hs), (c.registered hnbf).validateClaims_eq hreq]
    cases hb : Clock.reached now c.iat with
    | false => simp [Except.map]
    | true =>
      cases he : Clock.reached now c.exp with
      | true => simp [Except.map]
      | false => simp [Except.map, hs, AudienceOk, eq_comm]
  · simp [jwtDecode, hs]

/-- `introspect_passport` returns the claims of a Passport exactly when it passes every check. -/
theorem introspectWith_eq_claims_iff (hnbf : c.nbf = c.iat) {claims : Dict Json} :
    introspectWith sha verificationKey now (.jws ⟨some defaultTyp, some kid⟩ c.dump (some signer))
        actionType payload = .ok (.ok claims) ↔
      claims = c.dump ∧ Matches sha verificationKey now kid signer c actionType payload := by
  have hheader : (Token.jws ⟨some defaultTyp, some kid⟩ c.dump (some signer)).header =
      some ⟨some defaultTyp, some kid⟩ := rfl
  have htyp : ¬ some defaultTyp = some approvalTicketTyp := by decide
  have hmismatch : ∀ found, verificationKey (some kid) = found → found ≠ .ok (some signer) →
      ¬ (claims = c.dump ∧ Matches sha verificationKey now kid signer c actionType payload) := by
    rintro found hfound hne ⟨-, hm⟩
    exact hne (hfound.symm.trans hm.key)
  unfold introspectWith
  simp only [hheader, if_neg htyp]
  -- the checks in their order; a check that fails ends in a reason or an exception, never in the
  -- claims
  rcases hk : verificationKey (some kid) with e | _ | key
  · exact iff_of_false (by simp) (hmismatch _ hk (by simp))
  · exact iff_of_false (by simp) (hmismatch _ hk (by simp))
  · simp only
    cases hd : jwtDecode (.jws ⟨some defaultTyp, some kid⟩ c.dump (some signer)) key now issuer none
        ["exp", "nbf", "jti"] with
    | error e =>
      have hno : ¬ Matches sha verificationKey now kid signer c actionType payload := by
        intro hm
        have hsigner : signer = key := Option.some.inj (Except.ok.inj (hm.key.symm.trans hk))
        cases hd.symm.trans
          ((jwtDecode_introspected hnbf).mpr ⟨rfl, hsigner, hm.begun, hm.unexpired⟩)
      cases e <;> simp [hno]
    | ok cs =>
      obtain ⟨rfl, rfl, hb, he⟩ := (jwtDecode_introspected hnbf).mp hd
      have hdecision : claimIs c.dump "decision" (Decision.value .allow) = true :=
        (claimIs_dump c []).2.2.2
      have haction : (actionType.bind (fun a => some a.str)).any
          (fun a => !claimIs c.dump "action_type" a) = false ↔
            ∀ a ∈ actionType, a = c.actionType := by
        cases actionType with
        | none => simp
        | some a =>
          rw [Option.bind_some, Option.any_some, (claimIs_dump c a).2.1, Bool.not_eq_false',
            decide_eq_true_eq]
          simp only [Option.mem_def, Option.some.injEq, forall_eq']
          rw [Text.ext_iff, eq_comm]
      simp only [hdecision, Bool.true_eq_false, ↓reduceIte]
      by_cases ha : ∀ a ∈ actionType, a = c.actionType
      · rw [if_neg (by simp [haction.mpr ha])]
        cases payload with
        | none =>
          simp only [Except.ok.injEq]
          constructor
          · rintro rfl
            exact ⟨rfl, hk, hb, he, ha, by simp⟩
          · rintro ⟨rfl, -⟩
            rfl
        | some p =>
          simp only
          cases hp : hashPayload sha p with
          | error e =>
            simp only [error_bind, reduceCtorEq, false_iff]
            rintro ⟨-, hm⟩
            cases hp.symm.trans (hm.payload p rfl)
          | ok hash =>
            rw [ok_bind, (claimIs_dump c hash).2.2.1]
            by_cases hh : c.payloadHash = hash
            · rw [if_pos (by simpa using hh)]
              constructor
              · intro h
                cases h
                refine ⟨rfl, hk, hb, he, ha, ?_⟩
                intro q hq
                cases hq
                rw [hp, hh]
              · rintro ⟨rfl, -⟩
                rfl
            · rw [if_neg (by simpa using hh)]
              constructor
              · intro h
                cases h
              · rintro ⟨-, hm⟩
                have hq := hp.symm.trans (hm.payload p rfl)
                exact absurd (Except.ok.inj hq).symm hh
      · rw [if_pos (by simpa using mt haction.mp ha)]
        simp only [Except.ok.injEq, reduceCtorEq, false_iff]
        rintro ⟨-, hm⟩
        exact ha hm.action

/-- It returns where the keys are read, for every payload that can be hashed. -/
theorem introspectWith_returns {token : Token} (htext : token.isText = true)
    (hkey : ∀ header ∈ token.header, header.typ ≠ some approvalTicketTyp →
      ∃ found, verificationKey header.kid = .ok found)
    (hpayload : ∀ p ∈ payload, ∃ hash, hashPayload sha p = .ok hash) :
    ∃ answer, introspectWith sha verificationKey now token actionType payload = .ok answer := by
  unfold introspectWith
  rw [if_pos htext]
  cases hheader : token.header with
  | none => exact ⟨_, rfl⟩
  | some header =>
    simp only
    split
    · exact ⟨_, rfl⟩
    rename_i htyp
    obtain ⟨found, hfound⟩ := hkey header hheader htyp
    rw [hfound]
    repeat' split
    all_goals first | exact ⟨_, rfl⟩ | skip
    · rename_i herror
      cases herror
    · rename_i p
      obtain ⟨hash, hh⟩ := hpayload p rfl
      rw [hh, ok_bind]
      split
      · exact ⟨_, rfl⟩
      · exact ⟨_, rfl⟩

theorem introspectPassport_returns {token : Token} (htext : token.isText = true)
    (hpayload : ∀ p ∈ payload, ∃ hash, hashPayload sha p = .ok hash) :
    ∃ answer, introspectPassport sha keys now token actionType payload = .ok answer :=
  introspectWith_returns htext (fun _ _ _ => ⟨_, rfl⟩) hpayload

theorem mayActForAud_dump (caller : Caller) (c : PassportClaims) :
    mayActForAud caller c.dump = .ok (caller.mayActFor c.aud) := by
  rw [mayActForAud, show c.dump.lookup (lit "aud") = some (.str c.aud) from rfl]
  exact dif_pos c.aud.isScalar

end Passports

/-! ## 3. Foreign Passports -/

/-- A Passport, and what it was signed with and for. -/
structure SignedPassport (sha : Sha256) where
  keys : KeyManager
  signedAt : Clock
  uuid : Text
  grant : DecisionGrant
  token : Token
  jti : Text
  signed : signDecision sha keys signedAt uuid grant = .ok (token, jti)

namespace SignedPassport

variable {sha : Sha256} (passport : SignedPassport sha)

/-- Its key is known and paired, it is in its five minutes, and it is for the action and the
payload where these are given. -/
structure IsActiveFor (keys : KeyManager) (now : Clock) (actionType : Option Text)
    (payload : Option JsonObject) : Prop where
  key : keys.verificationKey (some passport.keys.publicKey) = passport.keys.privateKey
  begun : Clock.seconds passport.signedAt ≤ Clock.seconds now
  unexpired : Clock.seconds now < Clock.seconds passport.signedAt + 300
  action : ∀ a ∈ actionType, a = passport.grant.actionType
  payload : ∀ p ∈ payload, hashPayload sha p = hashPayload sha passport.grant.actionablePayload

variable {passport} {keys : KeyManager} {now : Clock} {caller : Caller} {actionType : Option Text}
  {payload : Option JsonObject}

/-- Introspection gives the claims of an active Passport, and of no other. -/
theorem introspectPassport_iff {claims : Dict Json} :
    introspectPassport sha keys now passport.token actionType payload = .ok (.ok claims) ↔
      claims = passport.token.claims ∧ passport.IsActiveFor keys now actionType payload := by
  obtain ⟨hash, key, hhash, -, hkey, -, htoken⟩ := signDecision_eq_ok passport.signed
  have hexp := Clock.seconds_passportLifetime passport.signedAt
  rw [htoken, introspectPassport, introspectWith_eq_claims_iff rfl]
  refine and_congr Iff.rfl ⟨?_, ?_⟩
  · intro h
    have hbegun := (Clock.reached_iff _ _).mp h.begun
    have hunexpired := mt (Clock.reached_iff _ _).mpr (Bool.eq_false_iff.mp h.unexpired)
    simp only [passportClaims] at hbegun hunexpired
    exact ⟨(Except.ok.inj h.key).trans hkey.symm, hbegun, by omega, h.action,
      fun p hp => (h.payload p hp).trans hhash.symm⟩
  · intro h
    refine ⟨congrArg _ (h.key.trans hkey), (Clock.reached_iff _ _).mpr h.begun, ?_, h.action,
      fun p hp => (h.payload p hp).trans hhash⟩
    rw [← Bool.not_eq_true, Clock.reached_iff]
    simp only [passportClaims]
    have := h.unexpired
    omega

/-- A caller without the app is told nothing of an active Passport, and why any other is not. -/
theorem introspect_eq_silent_iff (hauth : caller.authenticated = true)
    (happ : caller.mayActFor passport.grant.appId = false)
    (hpayload : ∀ p ∈ payload, ∃ hash, hashPayload sha p = .ok hash) :
    introspect sha keys now caller none ⟨passport.token, actionType, payload⟩ = .ok silent ↔
      passport.IsActiveFor keys now actionType payload := by
  obtain ⟨hash, key, -, -, -, -, htoken⟩ := signDecision_eq_ok passport.signed
  obtain ⟨answer, ha⟩ := @introspectPassport_returns sha keys now actionType payload passport.token
    (by rw [htoken]; rfl) hpayload
  unfold introspect
  simp only [hauth, Bool.true_eq_false, ↓reduceIte, Option.isSome_none, Bool.false_eq_true, ha]
  cases answer with
  | error reason =>
    constructor
    · intro h
      cases h
    · intro h
      cases ha.symm.trans (introspectPassport_iff.mpr ⟨rfl, h⟩)
  | ok claims =>
    obtain ⟨rfl, hactive⟩ := introspectPassport_iff.mp ha
    have hmay : mayActForAud caller passport.token.claims = .ok false := by
      rw [htoken, ← happ]
      exact mayActForAud_dump caller _
    simp only [hmay]
    exact ⟨fun _ => hactive, fun _ => rfl⟩

end SignedPassport

/-- Two foreign Passports get one and the same answer, and it says nothing, exactly when both are
active for the request.  The endpoint drops the claims of a Passport for another app, but it asks
about the app last: a reason that was found before (expired, another action, another payload) is
answered as it stands, and tells the two apart. -/
theorem introspection_silent_iff (sha : Sha256) (keys : KeyManager) (now : Clock) (caller : Caller)
    (hauth : caller.authenticated = true) (passport other : SignedPassport sha)
    (happ : caller.mayActFor passport.grant.appId = false)
    (hother : caller.mayActFor other.grant.appId = false) (actionType : Option Text)
    (payload : Option JsonObject)
    (hpayload : ∀ p ∈ payload, ∃ hash, hashPayload sha p = .ok hash) :
    (introspect sha keys now caller none ⟨passport.token, actionType, payload⟩ =
        introspect sha keys now caller none ⟨other.token, actionType, payload⟩ ∧
      introspect sha keys now caller none ⟨passport.token, actionType, payload⟩ = .ok silent) ↔
      passport.IsActiveFor keys now actionType payload ∧
        other.IsActiveFor keys now actionType payload := by
  have h := @SignedPassport.introspect_eq_silent_iff sha passport keys now caller actionType payload
    hauth happ hpayload
  have ho := @SignedPassport.introspect_eq_silent_iff sha other keys now caller actionType payload
    hauth hother hpayload
  rw [← h, ← ho]
  constructor
  · rintro ⟨heq, hsilent⟩
    exact ⟨hsilent, heq ▸ hsilent⟩
  · rintro ⟨h₁, h₂⟩
    exact ⟨h₁.trans h₂.symm, h₁⟩

/-! ## 4. An expired Passport -/

/-- The Passport for an amount, signed at an instant. -/
def amountPassport (signedAt : Clock) : SignedPassport (.ofTable amountDigests) where
  keys := pairedKeys
  signedAt := signedAt
  uuid := .lit "j1"
  grant := amountGrant 9007199254740992
  token := .jws ⟨some defaultTyp, some pairedKeys.publicKey⟩
    (passportClaims signedAt (amountGrant 9007199254740992) (.lit "j1") amountHash).dump
    (some (lit "thumbprint"))
  jti := .lit "j1"
  signed := signDecision_of_hash (hashPayload_amount canonicalJson_amount.1) rfl rfl

/-- A client of another app. -/
def outsider : Caller := ⟨.lit "c", true, [.lit "another-app"], some []⟩

theorem amountPassport_active {signedAt now : Clock}
    (hbegun : Clock.seconds signedAt ≤ Clock.seconds now)
    (hexp : Clock.seconds now < Clock.seconds signedAt + 300) :
    (amountPassport signedAt).IsActiveFor pairedKeys now none none :=
  ⟨KeyManager.verificationKey_publicKey _, hbegun, hexp, by simp, by simp⟩

/-- The outsider is told that one of two Passports has expired, and nothing of the other. -/
theorem introspection_tells_expiry :
    outsider.mayActFor (.lit "app") = false ∧
      introspect (.ofTable amountDigests) pairedKeys 600000000 outsider none
        ⟨(amountPassport 0).token, none, none⟩ =
          .ok (inactive (some (.lit "Passport expired"))) ∧
      introspect (.ofTable amountDigests) pairedKeys 600000000 outsider none
        ⟨(amountPassport 600000000).token, none, none⟩ = .ok silent := by
  refine ⟨by decide, rfl, ?_⟩
  refine (SignedPassport.introspect_eq_silent_iff rfl ?_ (by simp)).mpr
    (amountPassport_active ?_ ?_)
  · decide
  · decide
  · decide

theorem introspection_silent_iff_active :
    introspect (.ofTable amountDigests) pairedKeys 600000000 outsider none
        ⟨(amountPassport 500000000).token, none, none⟩ =
      introspect (.ofTable amountDigests) pairedKeys 600000000 outsider none
        ⟨(amountPassport 600000000).token, none, none⟩ := by
  refine ((introspection_silent_iff _ pairedKeys 600000000 outsider rfl (amountPassport 500000000)
    (amountPassport 600000000) ?_ ?_ none none (by simp)).mpr ⟨?_, ?_⟩).1
  · decide
  · decide
  · exact amountPassport_active (by decide) (by decide)
  · exact amountPassport_active (by decide) (by decide)

end Axg
