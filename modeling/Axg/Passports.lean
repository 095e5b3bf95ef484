/-
# Verifying a Passport that AXG issued

The verifier's checks, one by one, on a token whose claims are those of `sign_decision`
(`decodeStep_issued`).  The payload enters them through its canonical hash alone, so a Passport
stands for every payload with the canonical text of the authorized one: the same JSON data once
every number is a double (`verifyPassport_payload`).  An executor that compares integers exactly
can tell two such payloads apart, from 2^53 on.
-/
import Axg.CanonicalInjective
import Axg.Sdk

namespace Axg

open Python

/-! ## 1. The checks -/

section Issued

variable {sha : Sha256} {call : VerifyCall} {now : Clock} {claims : Dict Json}

theorem claimIs_dump (c : PassportClaims) (t : Str) :
    claimIs c.dump "tenant_id" t = Decidable.decide (c.tenantId.str = t) ∧
      claimIs c.dump "action_type" t = Decidable.decide (c.actionType.str = t) ∧
      claimIs c.dump "payload_hash" t = Decidable.decide (c.payloadHash = t) ∧
      claimIs c.dump "decision" (Decision.value .allow) = true := by
  refine ⟨claimIs_of_lookup rfl t, claimIs_of_lookup rfl t, claimIs_of_lookup rfl t, ?_⟩
  rw [claimIs_of_lookup (s := Decision.value .allow) rfl]
  exact decide_eq_true rfl

/-- The checks on the claims of a Passport. -/
theorem checked_dump {c : PassportClaims} :
    Checked sha call c.dump ↔
      (∀ t ∈ call.tenantId, t ≠ [] → c.tenantId.str = t) ∧
        (∀ as ∈ call.allowedActionTypes, as ≠ [] → c.actionType.str ∈ as) ∧
        hashPayload sha call.payload = .ok c.payloadHash := by
  have hver : (c.dump.lookup (lit "ver")).any (fun v => v.pyEq (.int 2)) = true := by
    rw [show c.dump.lookup (lit "ver") = some (.int 2) from rfl]
    decide +kernel
  have hexp : expectedHash sha c.dump call.payload = hashPayload sha call.payload := by
    rw [expectedHash, if_pos hver]
  have hin : ∀ as, claimIn c.dump "action_type" as = true ↔ c.actionType.str ∈ as := by
    intro as
    simp only [claimIn, List.any_eq_true, (claimIs_dump c _).2.1, decide_eq_true_eq,
      exists_eq_right']
  constructor
  · rintro ⟨-, htenant, haction, hash, hhash, hclaim⟩
    rw [(claimIs_dump c _).2.2.1, decide_eq_true_eq] at hclaim
    rw [hexp, ← hclaim] at hhash
    refine ⟨fun t ht hne => ?_, fun as has hne => (hin as).mp (haction as has hne), hhash⟩
    have := htenant t ht hne
    rwa [(claimIs_dump c _).1, decide_eq_true_eq] at this
  · rintro ⟨htenant, haction, hhash⟩
    refine ⟨(claimIs_dump c []).2.2.2, fun t ht hne => ?_,
      fun as has hne => (hin as).mpr (haction as has hne), c.payloadHash, hexp.trans hhash, ?_⟩
    · rw [(claimIs_dump c _).1, decide_eq_true_eq]
      exact htenant t ht hne
    · rw [(claimIs_dump c _).2.2.1, decide_eq_true_eq]

/-- Decoding a Passport, at one instant. -/
theorem jwtDecode_dump {c : PassportClaims} (hnbf : c.nbf = c.iat) {header : JoseHeader}
    {signer key : Kid} {aud : Str} :
    jwtDecode (.jws header c.dump (some signer)) key now issuer (some aud) [] = .ok claims ↔
      claims = c.dump ∧ signer = key ∧ Clock.reached now c.iat = true ∧
        Clock.reached now c.exp = false ∧ c.aud.str ≠ [] ∧ c.aud.str = aud := by
  by_cases hs : signer = key
  · subst hs
    rw [jwtDecode_jws rfl, (c.registered hnbf).validateClaims_eq (by simp)]
    by_cases hb : Clock.reached now c.iat = true
    · rw [if_neg (by simp [hb])]
      by_cases he : Clock.reached now c.exp = true
      · simp [he, Except.map]
      · rw [if_neg he]
        by_cases ha : c.aud.str ≠ [] ∧ c.aud.str = aud
        · rw [if_pos ⟨rfl, by simpa [AudienceOk] using ha⟩]
          have hne : aud ≠ [] := ha.2 ▸ ha.1
          simp [Except.map, hb, he, ha, hne, eq_comm]
        · rw [if_neg (by rintro ⟨-, h⟩; exact ha (h aud rfl))]
          simp only [Except.map, reduceCtorEq, false_iff]
          rintro ⟨-, -, -, -, h⟩
          exact ha h
    · rw [if_pos (by simpa using hb)]
      simp [Except.map, hb]
  · simp [jwtDecode, hs]

/-- The verifier's checks on a Passport, one by one. -/
theorem decodeStep_issued {c : PassportClaims} (hnbf : c.nbf = c.iat) {header : JoseHeader}
    {signer : Kid} (htoken : call.token = .jws header c.dump (some signer)) :
    decodeStep sha call now = .ok claims ↔
      claims = c.dump ∧ call.keySource.signingKey call.token = some signer ∧
        Clock.reached now c.iat = true ∧ Clock.reached now c.exp = false ∧
        c.aud.str ≠ [] ∧ c.aud.str = call.appId ∧
        (∀ t ∈ call.tenantId, t ≠ [] → c.tenantId.str = t) ∧
        (∀ as ∈ call.allowedActionTypes, as ≠ [] → c.actionType.str ∈ as) ∧
        hashPayload sha call.payload = .ok c.payloadHash := by
  rw [decodeStep_eq_ok_iff]
  constructor
  · rintro ⟨key, hkey, hjwt, hchecked⟩
    rw [htoken] at hjwt
    obtain ⟨rfl, rfl, hb, he, hne, haud⟩ := (jwtDecode_dump hnbf).mp hjwt
    exact ⟨rfl, hkey, hb, he, hne, haud, checked_dump.mp hchecked⟩
  · rintro ⟨rfl, hkey, hb, he, hne, haud, hchecked⟩
    refine ⟨signer, hkey, ?_, checked_dump.mpr hchecked⟩
    rw [htoken]
    exact (jwtDecode_dump hnbf).mpr ⟨rfl, rfl, hb, he, hne, haud⟩

/-- A Passport is accepted for what it was signed for, for five minutes. -/
theorem decodeStep_fresh {keys : KeyManager} {signedAt : Clock} {uuid jti : Text}
    {grant : DecisionGrant}
    (hsign : signDecision sha keys signedAt uuid grant = .ok (call.token, jti))
    (hkey : call.keySource.signingKey call.token = keys.privateKey)
    (happ : grant.appId.str = call.appId) (hne : call.appId ≠ [])
    (htenant : ∀ t ∈ call.tenantId, t ≠ [] → grant.tenantId.str = t)
    (haction : ∀ as ∈ call.allowedActionTypes, as ≠ [] → grant.actionType.str ∈ as)
    (hpayload : hashPayload sha call.payload = hashPayload sha grant.actionablePayload)
    (hbegun : signedAt ≤ now) (hexp : Clock.seconds now < Clock.seconds signedAt + 300) :
    ∃ claims, decodeStep sha call now = .ok claims := by
  obtain ⟨hash, key, hhash, -, hsigner, -, htoken⟩ := signDecision_eq_ok hsign
  obtain ⟨hbegun', hexp'⟩ := Clock.reached_of_fresh hbegun hexp
  have hne' : grant.appId.str ≠ [] := happ ▸ hne
  exact ⟨_, (decodeStep_issued rfl htoken).mpr ⟨rfl, hkey.trans hsigner, hbegun', hexp', hne',
    happ, htenant, haction, hpayload.trans hhash⟩⟩

theorem PassportClaims.replayKey_dump (c : PassportClaims) (hjti : c.jti.str ≠ []) :
    replayKey c.dump = .ok (c.jti.str, c.exp) := by
  rw [replayKey, show c.dump.lookup (lit "jti") = some (.str c.jti) from rfl]
  simp only [if_neg hjti]
  rw [show c.dump.lookup (lit "exp") = some (.int c.exp) from rfl]

/-- What `verify_passport` returns has passed its checks. -/
theorem decodeStep_of_verifyPassport {cache : Option ReplayCache} {later : Clock}
    (h : (verifyPassport sha call cache now later).1 = .ok claims) :
    decodeStep sha call now = .ok claims := by
  unfold verifyPassport at h
  cases hd : decodeStep sha call now with
  | error code => rw [hd] at h; cases h
  | ok cs =>
    rw [hd] at h
    cases cache with
    | none => exact h
    | some cache =>
      simp only [storeStep] at h
      cases hk : replayKey cs with
      | error code => rw [hk] at h; cases h
      | ok key =>
        rw [hk] at h
        simp only [Prod.map_fst, id_eq] at h
        split at h
        · exact h
        · cases h

end Issued

/-! ## 2. The payload -/

/-- Payloads with one hash have one canonical text. -/
theorem canonicalJson_of_hashPayload {sha : Sha256} (hsha : CollisionFree sha) {p q : JsonObject}
    {hash : Str} (hp : hashPayload sha p = .ok hash) (hq : hashPayload sha q = .ok hash) :
    ∃ s, canonicalJson p.json = .ok s ∧ canonicalJson q.json = .ok s := by
  obtain ⟨s, hs, -, rfl⟩ := canonicalHash_eq_ok hp
  obtain ⟨t, ht, -, he⟩ := canonicalHash_eq_ok hq
  have hst : s = t := hsha hs ht he
  exact ⟨s, hs, hst ▸ ht⟩

/-- And are the same JSON data, every number read as a double. -/
theorem sameData_of_hashPayload {sha : Sha256} (hsha : CollisionFree sha) {p q : JsonObject}
    {hash : Str} (hp : hashPayload sha p = .ok hash) (hq : hashPayload sha q = .ok hash) :
    Json.sameData p.json.toBinary64 q.json.toBinary64 = true := by
  obtain ⟨s, hs, ht⟩ := canonicalJson_of_hashPayload hsha hp hq
  exact (canonDoc_eq_iff p.wf q.wf (isCanonical_of_eq_ok hs) (isCanonical_of_eq_ok ht)).mp
    (canonDoc_eq_of_canonicalJson hs ht)

/-- The same JSON data has the same hash. -/
theorem hashPayload_of_sameData {sha : Sha256} {p q : JsonObject} {hash : Str}
    (hp : hashPayload sha p = .ok hash)
    (h : Json.sameData p.json.toBinary64 q.json.toBinary64 = true) :
    hashPayload sha q = .ok hash := by
  obtain ⟨s, hs, hscalar, rfl⟩ := canonicalHash_eq_ok hp
  exact canonicalHash_of_isScalar (canonicalJson_of_sameData p.wf q.wf hs h) hscalar

/-- A Passport authorizes only payloads that are its own once every number is a double.  The hash
is taken of the canonical text, in which an integer is the nearest double, so this is as much as
a hash without collisions can tell; for integers up to 2^53 it is equality of JSON data. -/
theorem verifyPassport_payload {sha : Sha256} (hsha : CollisionFree sha) {keys : KeyManager}
    {issuedAt : Clock} {uuid : Text} {grant : DecisionGrant} {token : Token} {jti : Text}
    (hsign : signDecision sha keys issuedAt uuid grant = .ok (token, jti)) {call : VerifyCall}
    (htoken : call.token = token) {cache : Option ReplayCache} {now later : Clock}
    {claims : Dict Json} (h : (verifyPassport sha call cache now later).1 = .ok claims) :
    Json.sameData grant.actionablePayload.json.toBinary64 call.payload.json.toBinary64 = true := by
  obtain ⟨hash, key, hhash, -, -, -, rfl⟩ := signDecision_eq_ok hsign
  obtain ⟨-, -, -, -, -, -, -, -, hcall⟩ :=
    (decodeStep_issued rfl htoken).mp (decodeStep_of_verifyPassport h)
  exact sameData_of_hashPayload hsha hhash hcall

/-- The texts of the payloads below, and their digests. -/
def amountDigests : DigestTable where
  rows := [(lit "\x7b\"amount\":9007199254740992\x7d",
    lit "a2102c7fa09a83bf190218094fc70210b6ae22b18f2669457afe43fd8d00f107")]
  isDigest := by decide +kernel
  nodup := by decide

/-- `{"amount": n}` -/
def amount (n : Int) : JsonObject := ⟨[(lit "amount", .int n)], rfl⟩

/-- Leave to pay the amount. -/
def amountGrant (n : Int) : DecisionGrant where
  executionId := .lit "e1"
  appId := .lit "app"
  tenantId := .lit "tenant"
  decision := .allow
  actionType := .lit "pay"
  actionablePayload := amount n
  clientId := .lit "local"
  policy := .lit "p@1"
  jti := none
  approval := none

/-- The Passport of `amountGrant`, presented with a payload. -/
def amountCall (token : Token) (n : Int) : VerifyCall :=
  ⟨token, amount n, lit "app", some (lit "tenant"), some [lit "pay"], .publicKey (lit "thumbprint")⟩

def amountHash : Str := lit "a2102c7fa09a83bf190218094fc70210b6ae22b18f2669457afe43fd8d00f107"

theorem hashPayload_amount {n : Int}
    (h : canonicalJson (amount n).json = .ok (lit "\x7b\"amount\":9007199254740992\x7d")) :
    hashPayload (.ofTable amountDigests) (amount n) = .ok amountHash :=
  canonicalHash_of_isScalar h (isScalar_lit _)

theorem canonicalJson_amount : canonicalJson (amount 9007199254740992).json =
      .ok (lit "\x7b\"amount\":9007199254740992\x7d") ∧
    canonicalJson (amount 9007199254740993).json =
      .ok (lit "\x7b\"amount\":9007199254740992\x7d") := by
  constructor <;> decide +kernel

/-- The Passport for 2^53. -/
def amountToken : Token :=
  .jws ⟨some defaultTyp, some pairedKeys.publicKey⟩
    (passportClaims 0 (amountGrant 9007199254740992) (.lit "j1") amountHash).dump
    (some (lit "thumbprint"))

theorem signDecision_amount :
    signDecision (.ofTable amountDigests) pairedKeys 0 (.lit "j1")
      (amountGrant 9007199254740992) = .ok (amountToken, .lit "j1") :=
  signDecision_of_hash (hashPayload_amount canonicalJson_amount.1) rfl rfl

/-- The Passport is accepted with each payload that has the authorized hash, while it lasts. -/
theorem decodeStep_amount {n : Int} {now : Clock}
    (h : canonicalJson (amount n).json = .ok (lit "\x7b\"amount\":9007199254740992\x7d"))
    (hnow : Clock.reached now 300 = false) :
    decodeStep (.ofTable amountDigests) (amountCall amountToken n) now =
      .ok amountToken.claims := by
  refine (decodeStep_issued rfl rfl).mpr ⟨rfl, rfl, ?_, hnow, by decide, rfl, ?_, ?_,
    hashPayload_amount h⟩
  · exact decide_eq_true (Int.natCast_nonneg now)
  · rintro t ⟨⟩ -; rfl
  · rintro as ⟨⟩ -; exact List.mem_singleton.mpr rfl

theorem verifyPassport_amount {n : Int}
    (h : canonicalJson (amount n).json = .ok (lit "\x7b\"amount\":9007199254740992\x7d")) :
    (verifyPassport (.ofTable amountDigests) (amountCall amountToken n) none 0 0).1 =
      .ok amountToken.claims := by
  rw [verifyPassport, decodeStep_amount h (by decide)]

/-- 2^53 was authorized, 2^53 + 1 is accepted, and they are not the same JSON data. -/
theorem verifyPassport_accepts_next :
    CollisionFree (.ofTable amountDigests) ∧
      signDecision (.ofTable amountDigests) pairedKeys 0 (.lit "j1")
        (amountGrant 9007199254740992) = .ok (amountToken, .lit "j1") ∧
      (verifyPassport (.ofTable amountDigests) (amountCall amountToken 9007199254740993) none
        0 0).1 = .ok amountToken.claims ∧
      Json.sameData (amountGrant 9007199254740992).actionablePayload.json
        (amountCall amountToken 9007199254740993).payload.json = false :=
  ⟨.of_injective (Sha256.ofTable_injective _), signDecision_amount,
    verifyPassport_amount canonicalJson_amount.2, by decide +kernel⟩

/-- The Passport for 2^53, presented with its payload. -/
theorem verifyPassport_payload_amount :
    Json.sameData (amount 9007199254740992).json.toBinary64
      (amount 9007199254740992).json.toBinary64 = true :=
  verifyPassport_payload (.of_injective (Sha256.ofTable_injective _)) signDecision_amount
    (rfl : (amountCall amountToken 9007199254740992).token = amountToken)
    (verifyPassport_amount canonicalJson_amount.1)

end Axg
