/-
# The verifier (`axg_python_sdk`)

`verify_passport` decodes a token, checks its decision, tenant, action and payload hash, and
last asks the replay cache for the token's `jti`.  The clock is read twice: with its fraction
by `jwt.decode`, and in whole seconds by the cache.  Other calls can run between the two
readings, so the model keeps the two halves apart: `decodeStep` and `storeStep`.

`InMemoryReplayCache` refines the single-use store of the library (`abs_checkAndStore`).
-/
import Axg.Crypto
import Axg.General.SingleUse
import Axg.Python.JsonAscii

namespace Axg

open Python General

/-! ## 1. The replay cache -/

/-- `InMemoryReplayCache._seen` -/
abbrev ReplayCache := Dict Int

/-- `check_and_store` -/
def ReplayCache.checkAndStore (cache : ReplayCache) (jti : Str) (expiresAt : Int) (now : Clock) :
    Bool × ReplayCache :=
  let seen := cache.filter (fun p => Clock.seconds now < p.2)
  if (seen.lookup jti).isSome then (false, seen) else (true, Dict.set seen jti expiresAt)

/-! ## 2. `verify_passport` -/

/-- `AxgVerificationError.code` -/
inductive VerificationCode
  | jwtError
  | decisionNotAllowed
  | tenantIdMismatch
  | actionTypeMismatch
  | missingPayloadHash
  | payloadTampered
  | missingJti
  | passportReplayed
  | verificationFailed
  | missingPassport
  | argumentsMismatch
deriving DecidableEq

/-- Where the key comes from: `public_key`, or the key set of a `PyJWKClient`. -/
inductive KeySource
  | publicKey (key : Kid)
  | jwks (keys : List Kid)

/-- The key for a token, if there is one. -/
def KeySource.signingKey (source : KeySource) (token : Token) : Option Kid :=
  match source with
  | publicKey key => some key
  | jwks keys => keys.find? (fun key => token.header.any (fun header => header.kid = some key))

/-- The arguments of a `verify_passport` call. -/
structure VerifyCall where
  token : Token
  payload : JsonObject
  appId : Str
  tenantId : Option Str
  allowedActionTypes : Option (List Str)
  keySource : KeySource

/-- `_legacy_hash_payload` -/
def legacyHashPayload (sha : Sha256) (payload : JsonObject) : Except PyError Str := do
  return sha.hexdigest (← dumpsAscii [] payload.json.sortKeys)

/-- `claims.get(name) in values` -/
def claimIn (claims : Dict Json) (name : String) (values : List Str) : Bool :=
  values.any (claimIs claims name)

/-- The hash that the payload must have under the claims. -/
def expectedHash (sha : Sha256) (claims : Dict Json) (payload : JsonObject) :
    Except PyError Str :=
  if (claims.lookup (lit "ver")).any (fun v => v.pyEq (.int 2)) then hashPayload sha payload
  else legacyHashPayload sha payload

/-- The checks on decoded claims, up to the payload hash. -/
def checkClaims (sha : Sha256) (call : VerifyCall) (claims : Dict Json) :
    Except VerificationCode Unit :=
  if claimIs claims "decision" (Decision.value .allow) = false then .error .decisionNotAllowed
  else if call.tenantId.any (fun t => t ≠ [] && !claimIs claims "tenant_id" t) then
    .error .tenantIdMismatch
  else if call.allowedActionTypes.any (fun as => as ≠ [] && !claimIn claims "action_type" as) then
    .error .actionTypeMismatch
  else if (claims.lookup (lit "payload_hash")).isNone then .error .missingPayloadHash
  else
    match expectedHash sha claims call.payload with
    | .error _ => .error .verificationFailed
    | .ok hash => if claimIs claims "payload_hash" hash then .ok () else .error .payloadTampered

/-- `verify_passport` up to the replay cache, at one reading of the clock. -/
def decodeStep (sha : Sha256) (call : VerifyCall) (now : Clock) :
    Except VerificationCode (Dict Json) :=
  match call.keySource.signingKey call.token with
  | none => .error .jwtError
  | some key =>
    match jwtDecode call.token key now issuer (some call.appId) [] with
    | .error _ => .error .jwtError
    | .ok claims =>
      match checkClaims sha call claims with
      | .error code => .error code
      | .ok () => .ok claims

/-- The key of the claims in the cache: a `jti` that is not empty, and `int(claims["exp"])`. -/
def replayKey (claims : Dict Json) : Except VerificationCode (Str × Int) :=
  match claims.lookup (lit "jti") with
  | some (.str jti) =>
    if jti = [] then .error .missingJti
    else
      match claims.lookup (lit "exp") with
      | some (.int exp) => .ok (jti, exp)
      | _ => .error .verificationFailed
  | _ => .error .missingJti

/-- The rest of `verify_passport`: the replay cache, at another reading of the clock. -/
def storeStep (cache : ReplayCache) (claims : Dict Json) (now : Clock) :
    Except VerificationCode (Dict Json) × ReplayCache :=
  match replayKey claims with
  | .error code => (.error code, cache)
  | .ok (jti, exp) =>
    let (fresh, cache) := cache.checkAndStore jti exp now
    (if fresh then .ok claims else .error .passportReplayed, cache)

/-- `verify_passport`: the clock reads `now` in `jwt.decode` and `later` in the cache. -/
def verifyPassport (sha : Sha256) (call : VerifyCall) (cache : Option ReplayCache)
    (now later : Clock) : Except VerificationCode (Dict Json) × Option ReplayCache :=
  match decodeStep sha call now with
  | .error code => (.error code, cache)
  | .ok claims =>
    match cache with
    | none => (.ok claims, none)
    | some cache => (storeStep cache claims later).map id some

/-! ## 3. What an accepted call has checked -/

section

variable {sha : Sha256} {call : VerifyCall} {now : Clock} {claims : Dict Json}

/-- The claims of an accepted call carry the decision, the tenant, the action and the hash that
the call asks for. -/
structure Checked (sha : Sha256) (call : VerifyCall) (claims : Dict Json) : Prop where
  decision : claimIs claims "decision" (Decision.value .allow) = true
  tenant : ∀ t ∈ call.tenantId, t ≠ [] → claimIs claims "tenant_id" t = true
  action : ∀ as ∈ call.allowedActionTypes, as ≠ [] → claimIn claims "action_type" as = true
  payload : ∃ hash, expectedHash sha claims call.payload = .ok hash ∧
    claimIs claims "payload_hash" hash = true

theorem checkClaims_eq_ok_iff :
    checkClaims sha call claims = .ok () ↔ Checked sha call claims := by
  have htenant : call.tenantId.any (fun t => t ≠ [] && !claimIs claims "tenant_id" t) = false ↔
      ∀ t ∈ call.tenantId, t ≠ [] → claimIs claims "tenant_id" t = true := by
    cases call.tenantId <;> simp
  have haction : call.allowedActionTypes.any
        (fun as => as ≠ [] && !claimIn claims "action_type" as) = false ↔
      ∀ as ∈ call.allowedActionTypes, as ≠ [] → claimIn claims "action_type" as = true := by
    cases call.allowedActionTypes <;> simp
  constructor
  · intro h
    unfold checkClaims at h
    split at h
    · cases h
    rename_i h1
    split at h
    · cases h
    rename_i h2
    split at h
    · cases h
    rename_i h3
    split at h
    · cases h
    split at h
    · cases h
    rename_i hash hhash
    split at h
    · rename_i h5
      exact ⟨by simpa using h1, htenant.mp (by simpa using h2), haction.mp (by simpa using h3),
        hash, hhash, h5⟩
    · cases h
  · rintro ⟨h1, h2, h3, hash, hhash, h5⟩
    have h4 : (claims.lookup (lit "payload_hash")).isNone = false := by
      unfold claimIs at h5
      cases hl : claims.lookup (lit "payload_hash") with
      | none => rw [hl] at h5; cases h5
      | some v => rfl
    simp only [checkClaims, h1, htenant.mpr h2, haction.mpr h3, h4, hhash, h5, Bool.true_eq_false,
      Bool.false_eq_true, ↓reduceIte]

theorem decodeStep_eq_ok_iff :
    decodeStep sha call now = .ok claims ↔
      ∃ key, call.keySource.signingKey call.token = some key ∧
        jwtDecode call.token key now issuer (some call.appId) [] = .ok claims ∧
        Checked sha call claims := by
  unfold decodeStep
  cases call.keySource.signingKey call.token with
  | none => simp
  | some key =>
    simp only [Option.some.injEq, exists_eq_left']
    cases jwtDecode call.token key now issuer (some call.appId) [] with
    | error e => simp
    | ok cs =>
      simp only [Except.ok.injEq]
      cases hc : checkClaims sha call cs with
      | error code =>
        simp only [reduceCtorEq, false_iff, not_and]
        rintro rfl hchecked
        rw [checkClaims_eq_ok_iff.mpr hchecked] at hc
        cases hc
      | ok u =>
        have := checkClaims_eq_ok_iff.mp (show checkClaims sha call cs = .ok () from hc)
        simp only [Except.ok.injEq]
        constructor
        · rintro rfl; exact ⟨rfl, this⟩
        · rintro ⟨rfl, -⟩; rfl

/-! ## 4. The cache is a single-use store -/

/-- What a cache remembers. -/
def ReplayCache.abs (cache : ReplayCache) : Store Str Int := fun jti => cache.lookup jti

/-- A check and store, as a use of the store. -/
def cacheUse (jti : Str) (expiresAt : Int) (now : Clock) : Use Str Int :=
  ⟨jti, expiresAt, Clock.seconds now⟩

theorem lookup_filter_snd {α : Type} (d : Dict α) (hd : d.keys.Nodup) (p : α → Bool) (k : Str) :
    List.lookup k (d.filter (fun q => p q.2)) = (d.lookup k).filter p := by
  induction d with
  | nil => rfl
  | cons q d ih =>
    obtain ⟨k', v⟩ := q
    obtain ⟨hno, hd⟩ := List.nodup_cons.mp hd
    have ih := ih hd
    rw [Dict.lookup_cons_ite]
    cases hp : p v with
    | true =>
      rw [List.filter_cons_of_pos (by simpa using hp), Dict.lookup_cons_ite, ih]
      by_cases hk : k = k'
      · rw [if_pos hk, if_pos hk, Option.filter_some, if_pos hp]
      · rw [if_neg hk, if_neg hk]
    | false =>
      rw [List.filter_cons_of_neg (by simp [hp]), ih]
      by_cases hk : k = k'
      · subst hk
        have hnone : d.lookup k = none := Dict.lookup_eq_none_iff.mpr hno
        rw [if_pos rfl, hnone, Option.filter_some, if_neg (by simp [hp])]
        rfl
      · rw [if_neg hk]

/-- `check_and_store` is a use of the store that the cache stands for. -/
theorem ReplayCache.abs_checkAndStore (cache : ReplayCache) (hn : Dict.keys cache |>.Nodup)
    (jti : Str) (expiresAt : Int) (now : Clock) :
    (cache.checkAndStore jti expiresAt now).1 = cache.abs.accepts (cacheUse jti expiresAt now) ∧
      (cache.checkAndStore jti expiresAt now).2.abs
        = cache.abs.use (cacheUse jti expiresAt now) ∧
      (Dict.keys (cache.checkAndStore jti expiresAt now).2).Nodup := by
  have hseen : ∀ k, List.lookup k (cache.filter (fun p => Clock.seconds now < p.2))
      = cache.abs.evict (Clock.seconds now) k :=
    fun k => lookup_filter_snd cache hn (fun e => Clock.seconds now < e) k
  have hnd : (Dict.keys (cache.filter (fun p => Clock.seconds now < p.2))).Nodup :=
    List.Nodup.sublist (List.Sublist.map _ List.filter_sublist) hn
  have hacc : cache.abs.accepts (cacheUse jti expiresAt now)
      = !(List.lookup jti (cache.filter (fun p => Clock.seconds now < p.2))).isSome := by
    rw [Store.accepts, hseen]
    cases h : cache.abs.evict (Clock.seconds now) jti <;> simp [cacheUse, h]
  rw [Store.use, hacc]
  unfold checkAndStore
  simp only
  cases h : (List.lookup jti (cache.filter (fun p => Clock.seconds now < p.2))).isSome with
  | true =>
    simp only [↓reduceIte, Bool.not_true, Bool.false_eq_true, true_and]
    exact ⟨funext hseen, hnd⟩
  | false =>
    simp only [Bool.false_eq_true, ↓reduceIte, Bool.not_false, true_and]
    refine ⟨funext (fun k => ?_), Dict.nodup_set jti expiresAt hnd⟩
    rw [ReplayCache.abs, Dict.lookup_set, hseen]
    by_cases hk : k = jti
    · subst hk; simp [cacheUse]
    · simp [cacheUse, hk]

end

end Axg
