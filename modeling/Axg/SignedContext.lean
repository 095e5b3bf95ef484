/-
# Signed context (`axg/context.py`)

Each token of a request is verified on its own, and a provider's facts are those of its first
valid token (`verifyLoop_eq_ok`).  A token that is not valid is rejected with a reason, with two
exceptions (`Escapes`).  The key of a provider may come from its server, and what the client of
that server raises is caught only where it is a `PyJWTError` or a `ValueError`: a connection that
is closed without an answer is neither.  And `jwt.decode` converts `iat` with `int`, which takes a
string, and an integer of any size; the age of the token is then a `float` less the value as it
stands.  The `TypeError` or `OverflowError` of that difference is no `ValueError`, and leaves
`verify_signed_context` (`signed_context_iff`).

The clock is read for each token twice, while it is decoded and when its age is taken.  PyJWT, its
key clients and `int` of a string are functions of the service; the age is computed exactly.
-/
import Axg.Decisions
import Axg.General.FirstWins

namespace Axg

open Python General

/-! ## 1. Providers -/

/-- Why a key cannot be had: `except (jwt.PyJWTError, ValueError)` catches the exception, and its
class has this name, or the exception passes. -/
inductive SigningKeyFault
  | caught (name : Str)
  | other

/-- What PyJWT's key objects and `int` do.  `PyJWKClient` makes a `PyJWTError` of a `URLError` and
a `TimeoutError` alone: whatever else its request and the reading of the answer raise passes. -/
structure TokenService where
  intOfStr : Str → Option Int
  keyOfPem : Str → Except SigningKeyFault Kid
  keyOfJwks : Str → Token → Except SigningKeyFault Kid

structure ContextProvider where
  id : Text
  issuer : Str
  maxAgeSeconds : Nat
  publicKey : Option Str
  jwksUrl : Str

/-- `signing_key` -/
def ContextProvider.signingKey (service : TokenService) (provider : ContextProvider)
    (token : Token) : Except SigningKeyFault Kid :=
  match provider.publicKey with
  | some pem => service.keyOfPem pem
  | none => service.keyOfJwks provider.jwksUrl token

/-- `ContextConfigError` with its text, or another exception. -/
inductive ConfigFault
  | contextConfigError (message : Str)
  | raised (e : PyError)

/-- An exception of the interpreter that is not caught. -/
def orRaise {α : Type} : Except PyError α → Except ConfigFault α
  | .ok a => .ok a
  | .error e => .error (.raised e)

/-- `MAX_AGE_LIMIT_SECONDS` -/
def maxAgeLimitSeconds : Nat := 86400

/-- `DEFAULT_MAX_AGE_SECONDS` -/
def defaultMaxAgeSeconds : Int := 300

def isProviderIdChar (c : CodePoint) : Bool :=
  (0x61 ≤ c.val && c.val ≤ 0x7A) || (0x30 ≤ c.val && c.val ≤ 0x39) || c.val == 0x5F ||
    c.val == 0x2D

/-- `PROVIDER_ID.match`: the dollar sign also matches before a last line feed. -/
def isProviderId (s : Str) : Bool :=
  let name := if s.getLast? = some 0x0A then s.dropLast else s
  name.all isProviderIdChar && 1 ≤ name.length && name.length ≤ 64

/-- An integer setting: `True` is one to `isinstance`. -/
def intSetting : Json → Option Int
  | .int i => some i
  | .bool b => some (if b then 1 else 0)
  | _ => none

section

variable (py : Interpreter)

/-- `str(entry.get(name) or "")` -/
def settingOrEmpty (entry : Dict Json) (name : String) : Except PyError Str :=
  match entry.lookup (lit name) with
  | none => .ok []
  | some v => if v.truthy then pyStr py v else .ok []

def quoted (s : Str) : Str := lit "'" ++ s ++ lit "'"

/-- `_provider` -/
def providerOf (entry : Json) : Except ConfigFault ContextProvider :=
  match entry with
  | .obj entry => do
    let id ← orRaise (pyStr py ((entry.lookup (lit "id")).getD (.str [])))
    let issuer ← orRaise (pyStr py ((entry.lookup (lit "issuer")).getD (.str [])))
    if isProviderId id = false then
      throw (.contextConfigError
        (lit "A context provider 'id' must be 1-64 characters of a-z, 0-9, '_' or '-'"))
    if strip issuer = [] then
      throw (.contextConfigError
        (lit "Context provider " ++ quoted id ++ lit " needs an 'issuer'"))
    match intSetting ((entry.lookup (lit "max_age_seconds")).getD (.int defaultMaxAgeSeconds)) with
    | some maxAge =>
      if maxAge < 1 ∨ (maxAgeLimitSeconds : Int) < maxAge then
        throw (.contextConfigError (lit "Context provider " ++ quoted id ++
          lit ": max_age_seconds must be 1 to 86400"))
      let publicKey ← orRaise (settingOrEmpty py entry "public_key")
      let jwksUrl ← orRaise (settingOrEmpty py entry "jwks_url")
      if publicKey = [] ∧ strip jwksUrl = [] then
        throw (.contextConfigError (lit "Context provider " ++ quoted id ++
          lit " needs 'jwks_url' or 'public_key'"))
      if h : IsScalar id then
        return ⟨⟨id, h⟩, strip issuer, maxAge.toNat,
          if publicKey = [] then none else some (unescapeNewlines publicKey), strip jwksUrl⟩
      -- an id is ASCII
      else throw (.raised .unicodeEncodeError)
    | none =>
      throw (.contextConfigError (lit "Context provider " ++ quoted id ++
        lit ": max_age_seconds must be 1 to 86400"))
  | _ => .error (.contextConfigError (lit "Each context provider must be a JSON object"))

/-- `load_providers`, for the value of `AXG_CONTEXT_PROVIDERS`: providers by issuer. -/
def loadProviders (raw : Str) : Except ConfigFault (Dict ContextProvider) :=
  if strip raw = [] then .ok []
  else
    match loads (strip raw) with
    | .error .jsonDecodeError =>
      .error (.contextConfigError (lit "AXG_CONTEXT_PROVIDERS is not valid JSON"))
    | .error e => .error (.raised e)
    | .ok (.arr entries) => do
      let providers ← entries.mapM (providerOf py)
      if (providers.map ContextProvider.issuer).Nodup ∧
        (providers.map ContextProvider.id).Nodup then
        return providers.map (fun provider => (provider.issuer, provider))
      else throw (.contextConfigError (lit "Context provider ids and issuers must be unique"))
    | .ok _ => .error (.contextConfigError (lit "AXG_CONTEXT_PROVIDERS must be a JSON list"))

end

/-! ## 2. Decoding -/

/-- A token of a request, and the clock when it is decoded and when its age is taken. -/
structure Presented where
  token : Token
  wf : (Json.obj token.claims).Wf
  now : Clock
  later : Clock

/-- The claims of the token. -/
def Presented.claims (presented : Presented) : JsonObject :=
  ⟨presented.token.claims, presented.wf⟩

/-- `LEEWAY_SECONDS` -/
def leewaySeconds : Nat := 30

/-- `REQUIRED_CLAIMS` -/
def requiredClaims : List String := ["iss", "aud", "iat", "exp", "tenant_id", "context"]

/-- `payload.get(claim) is None` -/
def isMissing (claims : Dict Json) (claim : String) : Bool :=
  match claims.lookup (lit claim) with
  | none => true
  | some .null => true
  | some _ => false

section Decoding

variable (service : TokenService)

/-- `int(v)`, as the dates of a token are read. -/
def intOf : Json → Option Int
  | .int i => some i
  | .bool b => some (if b then 1 else 0)
  | .float (.finite neg m) =>
    some (if neg then -((m.units / one : Nat) : Int) else (m.units / one : Nat))
  | .str s => service.intOfStr s
  | _ => none

/-- A check on a claim that may be absent, which fails with the name of an exception class. -/
def checkIf (claims : Dict Json) (claim : String) (check : Json → Except Str Unit) :
    Except Str Unit :=
  match claims.lookup (lit claim) with
  | none => .ok ()
  | some v => check v

/-- `_validate_iat` and `_validate_nbf` with leeway; `name` is raised for what is no date. -/
def checkNotFuture (name : String) (now : Clock) (v : Json) : Except Str Unit :=
  match intOf service v with
  | none => .error (lit name)
  | some date =>
    if Clock.reached now (date - leewaySeconds) then .ok ()
    else .error (lit "ImmatureSignatureError")

/-- `_validate_exp` with leeway -/
def checkNotExpired (now : Clock) (v : Json) : Except Str Unit :=
  match intOf service v with
  | none => .error (lit "DecodeError")
  | some date =>
    if Clock.reached now (date + leewaySeconds) then .error (lit "ExpiredSignatureError")
    else .ok ()

/-- `_validate_iss` -/
def checkIssuer (issuer : Str) (v : Json) : Except Str Unit :=
  if v.pyEq (.str issuer) then .ok () else .error (lit "InvalidIssuerError")

def isString : Json → Bool
  | .str _ => true
  | _ => false

/-- Is the audience named by an `aud` claim? -/
def namesAudience (audience : Str) : Json → Bool
  | .str aud => aud == audience
  | .arr auds => auds.all isString && auds.any (fun aud => aud.pyEq (.str audience))
  | _ => false

/-- `_validate_aud`, of a claim that is there. -/
def checkAudienceOf (audience : Str) (v : Json) : Except Str Unit :=
  if v.truthy = false then .error (lit "MissingRequiredClaimError")
  else if namesAudience audience v then .ok ()
  else .error (lit "InvalidAudienceError")

/-- `_validate_sub` and `_validate_jti` -/
def checkIsString (name : String) (v : Json) : Except Str Unit :=
  if isString v then .ok () else .error (lit name)

/-- `jwt.decode(..., leeway=LEEWAY_SECONDS, options=\x7b"require": REQUIRED_CLAIMS\x7d)` with a
key, or the class name of the exception. -/
def decodeWith (key : Kid) (provider : ContextProvider) (audience : Str) (presented : Presented) :
    Except Str Unit := do
  let claims := presented.token.claims
  if presented.token.signer ≠ some key then throw (lit "InvalidSignatureError")
  if requiredClaims.any (isMissing claims) then throw (lit "MissingRequiredClaimError")
  checkIf claims "iat" (checkNotFuture service "InvalidIssuedAtError" presented.now)
  checkIf claims "nbf" (checkNotFuture service "DecodeError" presented.now)
  checkIf claims "exp" (checkNotExpired service presented.now)
  checkIf claims "iss" (checkIssuer provider.issuer)
  checkIf claims "aud" (checkAudienceOf audience)
  checkIf claims "sub" (checkIsString "InvalidSubjectError")
  checkIf claims "jti" (checkIsString "InvalidJTIError")

/-- The same with the provider's key, which has to be had first. -/
def decodeContext (provider : ContextProvider) (audience : Str) (presented : Presented) :
    Except SigningKeyFault Unit :=
  match provider.signingKey service presented.token with
  | .error fault => .error fault
  | .ok key =>
    match decodeWith service key provider audience presented with
    | .error name => .error (.caught name)
    | .ok () => .ok ()

/-! ## 3. One token -/

/-- `time.time() - iat > max_age_seconds + LEEWAY_SECONDS`, of a finite number of units. -/
def agedMoreThan (maxAgeSeconds : Nat) (now : Clock) (units : Int) : Bool :=
  ((maxAgeSeconds + leewaySeconds) * 1000000 * one : Nat) < (now * one : Nat) - units * 1000000

/-- The same of a claim, where Python can take the difference. -/
def isTooOld (maxAgeSeconds : Nat) (now : Clock) (iat : Json) : Except PyError Bool :=
  match iat with
  | .int i =>
    if (floatOfInt i).isSome then .ok (agedMoreThan maxAgeSeconds now (i * one))
    else .error .overflowError
  | .bool b => .ok (agedMoreThan maxAgeSeconds now ((if b then 1 else 0) * one))
  | .float (.finite neg m) =>
    .ok (agedMoreThan maxAgeSeconds now (if neg then -(m.units : Int) else m.units))
  | .float (.inf neg) => .ok neg
  | .float .nan => .ok false
  | _ => .error .typeError

/-- What leaves `_verify_token`: a `ValueError` with a reason, or another exception. -/
inductive TokenFault
  | rejected (reason : Str)
  | raised (e : PyError)

variable (providers : Dict ContextProvider) (audience tenantId : Str) (userId : Option Str)

/-- A reason that names the provider. -/
def ContextProvider.rejection (provider : ContextProvider) (reason : Str) : TokenFault :=
  .rejected (provider.id.str ++ lit ": " ++ reason)

/-- `claims["context"]`, where it is an object. -/
def Presented.context (presented : Presented) : Option JsonObject :=
  match presented.claims.find (lit "context") with
  | some ⟨.obj members, h⟩ => some ⟨members, h⟩
  | _ => none

/-- The provider whose issuer the token names. -/
def knownProvider (presented : Presented) : Option ContextProvider :=
  match presented.token.claims.lookup (lit "iss") with
  | some (.str issuer) => providers.lookup issuer
  | _ => none

/-- Does the value of a claim differ from an optional string? -/
def differs (user : Option Str) (v : Json) : Bool :=
  match user with
  | some user => !v.pyEq (.str user)
  | none => !v.pyEq .null

/-- `_verify_token`: the provider and the facts. -/
def verifyToken (presented : Presented) : Except TokenFault (ContextProvider × JsonObject) :=
  let claims := presented.token.claims
  match presented.token with
  | .malformed _ => .error (.rejected (lit "malformed token"))
  | .jws _ _ _ =>
    match knownProvider providers presented with
    | none => .error (.rejected (lit "unknown issuer"))
    | some provider =>
      match decodeContext service provider audience presented with
      | .error .other => .error (.raised .other)
      | .error (.caught name) => .error (provider.rejection name)
      | .ok () =>
        match isTooOld provider.maxAgeSeconds presented.later
            ((claims.lookup (lit "iat")).getD .null) with
        | .error e => .error (.raised e)
        | .ok true => .error (provider.rejection (lit "too old"))
        | .ok false =>
          if (claims.lookup (lit "tenant_id")).any (fun v => !v.pyEq (.str tenantId)) then
            .error (provider.rejection (lit "another tenant"))
          else if (claims.lookup (lit "sub")).any (differs userId) then
            .error (provider.rejection (lit "another user"))
          else
            match presented.context with
            | none => .error (provider.rejection (lit "context is not an object"))
            | some context => .ok (provider, context)

/-! ## 4. The tokens of a request -/

/-- A result with one more fact. -/
def VerifiedContext.insert (result : VerifiedContext) (id : Text) (context : JsonObject)
    (h : id ∉ result.providers) : VerifiedContext where
  facts := result.facts ++ [(id, context)]
  nodup := by
    rw [List.map_append, List.map_singleton]
    refine List.nodup_append.mpr ⟨result.nodup, List.nodup_singleton _, ?_⟩
    intro a ha b hb hab
    rw [hab, List.mem_singleton.mp hb] at ha
    exact h ha
  rejected := result.rejected

def VerifiedContext.reject (result : VerifiedContext) (reason : Str) : VerifiedContext :=
  { result with rejected := result.rejected ++ [reason] }

/-- The loop of `verify_signed_context`. -/
def verifyLoop : List Presented → VerifiedContext → Except PyError VerifiedContext
  | [], result => .ok result
  | presented :: rest, result =>
    match verifyToken service providers audience tenantId userId presented with
    | .error (.raised e) => .error e
    | .error (.rejected reason) => verifyLoop rest (result.reject reason)
    | .ok (provider, context) =>
      if h : provider.id ∈ result.providers then
        verifyLoop rest (result.reject (provider.id.str ++ lit ": duplicate"))
      else verifyLoop rest (result.insert provider.id context h)

/-- `AXG_CONTEXT_AUDIENCE`, or its default. -/
def contextAudience (setting : Str) : Str :=
  if strip setting = [] then lit "axg" else strip setting

/-- `verify_signed_context`, with the values of the two settings. -/
def verifySignedContext (py : Interpreter) (raw audienceSetting : Str) (tokens : List Presented) :
    Except PyError VerifiedContext :=
  if tokens = [] then .ok .none
  else
    match loadProviders py raw with
    | .error (.contextConfigError _) =>
      .ok { VerifiedContext.none with
        rejected := List.replicate tokens.length (lit "provider configuration invalid") }
    | .error (.raised e) => .error e
    | .ok providers =>
      verifyLoop service providers (contextAudience audienceSetting) tenantId userId tokens .none

/-! ## 5. The checks, one by one -/

theorem checkIf_eq_ok_iff {claims : Dict Json} {claim : String} {check : Json → Except Str Unit} :
    checkIf claims claim check = .ok () ↔ ∀ v ∈ claims.lookup (lit claim), check v = .ok () := by
  unfold checkIf
  cases claims.lookup (lit claim) with
  | none => simp
  | some v => simp

theorem checkNotFuture_eq_ok_iff {name : String} {now : Clock} {v : Json} :
    checkNotFuture service name now v = .ok () ↔
      ∃ date ∈ intOf service v, date ≤ Clock.seconds now + leewaySeconds := by
  unfold checkNotFuture
  cases intOf service v with
  | none => simp
  | some date =>
    simp only [Option.mem_def, Option.some.injEq, exists_eq_left']
    split
    · rename_i h
      have := (Clock.reached_iff _ _).mp h
      simp only [true_iff]
      omega
    · rename_i h
      have := mt (Clock.reached_iff _ _).mpr h
      simp only [reduceCtorEq, false_iff]
      omega

theorem checkNotExpired_eq_ok_iff {now : Clock} {v : Json} :
    checkNotExpired service now v = .ok () ↔
      ∃ date ∈ intOf service v, Clock.seconds now < date + leewaySeconds := by
  unfold checkNotExpired
  cases intOf service v with
  | none => simp
  | some date =>
    simp only [Option.mem_def, Option.some.injEq, exists_eq_left']
    split
    · rename_i h
      have := (Clock.reached_iff _ _).mp h
      simp only [reduceCtorEq, false_iff]
      omega
    · rename_i h
      have := mt (Clock.reached_iff _ _).mpr h
      simp only [true_iff]
      omega

omit service in
theorem checkIssuer_eq_ok_iff {issuer : Str} {v : Json} :
    checkIssuer issuer v = .ok () ↔ v = .str issuer := by
  rw [checkIssuer, ← Json.pyEq_str_iff]
  split <;> simp_all

omit service in
theorem checkAudienceOf_eq_ok_iff {audience : Str} {v : Json} :
    checkAudienceOf audience v = .ok () ↔ v.truthy = true ∧ namesAudience audience v = true := by
  unfold checkAudienceOf
  split
  · rename_i h; simp [h]
  · rename_i h
    rw [Bool.not_eq_false] at h
    split <;> simp_all

omit service in
theorem checkIsString_eq_ok_iff {name : String} {v : Json} :
    checkIsString name v = .ok () ↔ isString v = true := by
  unfold checkIsString
  split <;> simp_all

/-- The checks of `jwt.decode`, for a provider's key and issuer. -/
structure Decodes (provider : ContextProvider) (presented : Presented) : Prop where
  key : ∃ key, provider.signingKey service presented.token = .ok key ∧
    presented.token.signer = some key
  required : ∀ claim ∈ requiredClaims, isMissing presented.token.claims claim = false
  issued : ∀ v ∈ presented.token.claims.lookup (lit "iat"),
    ∃ date ∈ intOf service v, date ≤ Clock.seconds presented.now + leewaySeconds
  begun : ∀ v ∈ presented.token.claims.lookup (lit "nbf"),
    ∃ date ∈ intOf service v, date ≤ Clock.seconds presented.now + leewaySeconds
  unexpired : ∀ v ∈ presented.token.claims.lookup (lit "exp"),
    ∃ date ∈ intOf service v, Clock.seconds presented.now < date + leewaySeconds
  issuer : ∀ v ∈ presented.token.claims.lookup (lit "iss"), v = .str provider.issuer
  audience : ∀ v ∈ presented.token.claims.lookup (lit "aud"),
    v.truthy = true ∧ namesAudience audience v = true
  subject : ∀ v ∈ presented.token.claims.lookup (lit "sub"), isString v = true
  id : ∀ v ∈ presented.token.claims.lookup (lit "jti"), isString v = true

variable {service providers audience tenantId userId}

theorem guard_eq_ok_iff {α : Type} {c : Prop} [Decidable c] {e : Str} {f : α → Except Str Unit}
    {k : Except Str Unit} :
    (if c then throw e >>= f else k) = .ok () ↔ ¬ c ∧ k = .ok () := by
  split
  · rename_i h; simp [h, throw, throwThe, MonadExceptOf.throw]
  · rename_i h; simp [h]

theorem seq_eq_ok_iff {x k : Except Str Unit} :
    (x >>= fun _ => k) = .ok () ↔ x = .ok () ∧ k = .ok () := by
  cases x <;> simp

theorem decodeWith_eq_ok_iff {key : Kid} {provider : ContextProvider} {presented : Presented}
    (hkey : provider.signingKey service presented.token = .ok key) :
    decodeWith service key provider audience presented = .ok () ↔
      Decodes service audience provider presented := by
  unfold decodeWith
  simp only [guard_eq_ok_iff, seq_eq_ok_iff, checkIf_eq_ok_iff, checkNotFuture_eq_ok_iff,
    checkNotExpired_eq_ok_iff, checkIssuer_eq_ok_iff, checkAudienceOf_eq_ok_iff,
    checkIsString_eq_ok_iff, not_not, Bool.not_eq_true, List.any_eq_false]
  constructor
  · rintro ⟨hs, hreq, hiat, hnbf, hexp, hiss, haud, hsub, hjti⟩
    exact ⟨⟨key, hkey, hs⟩, hreq, hiat, hnbf, hexp, hiss, haud, hsub, hjti⟩
  · intro h
    obtain ⟨key', hkey', hs⟩ := h.key
    cases hkey.symm.trans hkey'
    exact ⟨hs, h.required, h.issued, h.begun, h.unexpired, h.issuer, h.audience, h.subject, h.id⟩

theorem decodeContext_eq_ok_iff {provider : ContextProvider} {presented : Presented} :
    decodeContext service provider audience presented = .ok () ↔
      Decodes service audience provider presented := by
  unfold decodeContext
  cases hkey : provider.signingKey service presented.token with
  | error fault =>
    simp only [reduceCtorEq, false_iff]
    intro h
    obtain ⟨key, hok, -⟩ := h.key
    cases hkey.symm.trans hok
  | ok key =>
    rw [← decodeWith_eq_ok_iff hkey]
    simp only
    cases decodeWith service key provider audience presented <;> simp

/-- Only the key is had with an exception that passes. -/
theorem decodeContext_eq_other_iff {provider : ContextProvider} {presented : Presented} :
    decodeContext service provider audience presented = .error .other ↔
      provider.signingKey service presented.token = .error .other := by
  unfold decodeContext
  cases provider.signingKey service presented.token with
  | error fault => simp
  | ok key =>
    simp only
    cases decodeWith service key provider audience presented <;> simp

/-! ## 6. Which tokens a provider accepts -/

/-- The age of a token is at most the provider's, leeway included. -/
def IsYoung (provider : ContextProvider) (now : Clock) (iat : Json) : Prop :=
  ∃ units, (Json.boolAsInt iat).worth = some (.finite units) ∧
    (now : ℚ) / 1000000 - (units : ℚ) / one ≤ provider.maxAgeSeconds + leewaySeconds

variable (service audience tenantId userId) in
/-- The token passes every check of the provider, and its facts are the context.  The checks of
`jwt.decode` are in `Decodes`; the others are those of `_verify_token`, which no library makes. -/
structure Accepts (provider : ContextProvider) (presented : Presented) (context : JsonObject) :
    Prop where
  decodes : Decodes service audience provider presented
  young : ∀ v ∈ presented.token.claims.lookup (lit "iat"), IsYoung provider presented.later v
  tenant : ∀ v ∈ presented.token.claims.lookup (lit "tenant_id"), v = .str tenantId
  user : ∀ v ∈ presented.token.claims.lookup (lit "sub"), ∃ user ∈ userId, v = .str user
  context : presented.token.claims.lookup (lit "context") = some context.json

/-- Can Python take a number of seconds less the value? -/
def takesAge : Json → Bool
  | .int i => (floatOfInt i).isSome
  | .bool _ => true
  | .float _ => true
  | _ => false

variable (service audience) in
/-- The token decodes for the provider, with a date whose age cannot be taken. -/
def Ageless (provider : ContextProvider) (presented : Presented) : Prop :=
  Decodes service audience provider presented ∧
    ∃ iat ∈ presented.token.claims.lookup (lit "iat"), takesAge iat = false

variable (service providers audience) in
/-- A token whose verification is left by an exception: the key of the provider that it names is
not had, with an exception that is not caught, or the token is ageless. -/
def Escapes (presented : Presented) : Prop :=
  ∃ provider, knownProvider providers presented = some provider ∧
    (provider.signingKey service presented.token = .error .other ∨
      Ageless service audience provider presented)

theorem agedMoreThan_eq_false_iff {maxAge : Nat} {now : Clock} {units : Int} :
    agedMoreThan maxAge now units = false ↔
      (now : ℚ) / 1000000 - (units : ℚ) / one ≤ maxAge + leewaySeconds := by
  have hone : (0 : ℚ) < one := by exact_mod_cast one_pos
  rw [agedMoreThan, decide_eq_false_iff_not, not_lt, div_sub_div _ _ (by norm_num) hone.ne',
    div_le_iff₀ (by positivity)]
  constructor
  · intro h
    have : ((now * one : Nat) : ℚ) - (units : ℚ) * 1000000 ≤
        ((maxAge + leewaySeconds) * 1000000 * one : Nat) := by exact_mod_cast h
    push_cast at this
    linarith
  · intro h
    have : ((now * one : Nat) : ℚ) - (units : ℚ) * 1000000 ≤
        ((maxAge + leewaySeconds) * 1000000 * one : Nat) := by
      push_cast
      linarith
    exact_mod_cast this

theorem isTooOld_eq_ok {provider : ContextProvider} {now : Clock} {v : Json} {date : Int}
    (hv : intOf service v = some date) (h : takesAge v = true) :
    ∃ b, isTooOld provider.maxAgeSeconds now v = .ok b ∧
      (b = false ↔ IsYoung provider now v) := by
  cases v with
  | null => cases h
  | str s => cases h
  | arr xs => cases h
  | obj ms => cases h
  | int i =>
    refine ⟨_, if_pos h, ?_⟩
    rw [agedMoreThan_eq_false_iff]
    simp [IsYoung, Json.boolAsInt, Json.worth]
  | bool b =>
    refine ⟨_, rfl, ?_⟩
    rw [agedMoreThan_eq_false_iff]
    simp [IsYoung, Json.boolAsInt, Json.worth]
  | float x =>
    cases x with
    | inf neg => cases hv
    | nan => cases hv
    | finite neg m =>
      refine ⟨_, rfl, ?_⟩
      rw [agedMoreThan_eq_false_iff]
      simp [IsYoung, Json.boolAsInt, Json.worth]

theorem isTooOld_eq_error {maxAge : Nat} {now : Clock} {v : Json} (h : takesAge v = false) :
    ∃ e, isTooOld maxAge now v = .error e := by
  cases v with
  | null => exact ⟨_, rfl⟩
  | str s => exact ⟨_, rfl⟩
  | arr xs => exact ⟨_, rfl⟩
  | obj ms => exact ⟨_, rfl⟩
  | int i => exact ⟨_, if_neg (Bool.eq_false_iff.mp h)⟩
  | bool b => cases h
  | float x => cases h

/-- A claim that has to be there is there. -/
theorem exists_claim {claims : Dict Json} {claim : String} (h : isMissing claims claim = false) :
    ∃ v, claims.lookup (lit claim) = some v := by
  unfold isMissing at h
  cases hc : claims.lookup (lit claim) with
  | none => rw [hc] at h; cases h
  | some v => exact ⟨v, rfl⟩

/-- What the model reads as the facts are the object of the claim. -/
theorem Presented.context_eq_some_iff {presented : Presented} {context : JsonObject} :
    presented.context = some context ↔
      presented.token.claims.lookup (lit "context") = some context.json := by
  have hfind := JsonObject.find_map presented.claims (lit "context")
  change _ = presented.token.claims.lookup (lit "context") at hfind
  rw [← hfind, Presented.context]
  rcases presented.claims.find (lit "context") with - | ⟨v, hv⟩
  · simp
  · obtain ⟨members, hwf⟩ := context
    cases v <;> simp [JsonObject.json]

theorem Accepts.unique {provider : ContextProvider} {presented : Presented} {a b : JsonObject}
    (ha : Accepts service audience tenantId userId provider presented a)
    (hb : Accepts service audience tenantId userId provider presented b) : a = b := by
  have h := (Presented.context_eq_some_iff.mpr ha.context).symm.trans
    (Presented.context_eq_some_iff.mpr hb.context)
  exact Option.some.inj h

/-- A malformed token names no issuer. -/
theorem knownProvider_malformed {presented : Presented} {text : Str}
    (h : presented.token = .malformed text) : knownProvider providers presented = none := by
  rw [knownProvider, h]
  rfl

/-- What is not caught leaves the verification. -/
theorem verifyToken_of_escapes {presented : Presented}
    (h : Escapes service providers audience presented) :
    ∃ e, verifyToken service providers audience tenantId userId presented = .error (.raised e) := by
  obtain ⟨provider, hknown, hfault⟩ := h
  unfold verifyToken
  split
  · rename_i text ht
    cases (knownProvider_malformed ht).symm.trans hknown
  · rcases hfault with hkey | ⟨hdec, iat, hiat, hage⟩
    · simp only [hknown, decodeContext_eq_other_iff.mpr hkey]
      exact ⟨.other, rfl⟩
    · obtain ⟨e, he⟩ := @isTooOld_eq_error provider.maxAgeSeconds presented.later iat hage
      simp only [hknown, decodeContext_eq_ok_iff.mpr hdec, Option.mem_def.mp hiat,
        Option.getD_some, he]
      exact ⟨e, rfl⟩

theorem differs_eq_false_iff {v : Json} (hv : isString v = true) :
    differs userId v = false ↔ ∃ user ∈ userId, v = .str user := by
  unfold differs
  cases userId with
  | none =>
    cases v with
    | str s => simp [Json.pyEq, Json.same, Json.pyLeaf, Json.boolAsInt, Json.sameNumber, Json.worth]
    | _ => cases hv
  | some user => simp [Json.pyEq_str_iff]

theorem any_eq_false_iff {v : Option Json} {f : Json → Bool} :
    ¬ v.any f = true ↔ ∀ w ∈ v, f w = false := by
  cases v <;> simp

/-- Every other token is rejected with a reason, or its provider accepts it. -/
theorem verifyToken_of_not_escapes {presented : Presented}
    (h : ¬ Escapes service providers audience presented) :
    (∃ reason, verifyToken service providers audience tenantId userId presented =
        .error (.rejected reason) ∧
      ∀ provider context, knownProvider providers presented = some provider →
        ¬ Accepts service audience tenantId userId provider presented context) ∨
    ∃ provider context, verifyToken service providers audience tenantId userId presented =
        .ok (provider, context) ∧ knownProvider providers presented = some provider ∧
      Accepts service audience tenantId userId provider presented context := by
  unfold verifyToken
  split
  · rename_i ht
    refine .inl ⟨_, rfl, ?_⟩
    intro provider context _ ha
    obtain ⟨key, -, hs⟩ := ha.decodes.key
    rw [ht] at hs
    cases hs
  simp only
  cases hknown : knownProvider providers presented with
  | none => exact .inl ⟨_, rfl, fun _ _ hp => nomatch hp⟩
  | some provider =>
    have hreject : ∀ fault, (∀ context,
        ¬ Accepts service audience tenantId userId provider presented context) →
        ∃ reason, (Except.error (provider.rejection fault) :
            Except TokenFault (ContextProvider × JsonObject)) = .error (.rejected reason) ∧
          ∀ q context, some provider = some q →
          ¬ Accepts service audience tenantId userId q presented context := by
      intro fault hno
      refine ⟨_, rfl, ?_⟩
      intro q context hq
      cases hq
      exact hno context
    simp only
    cases hdec : decodeContext service provider audience presented with
    | error fault =>
      cases fault with
      | other => exact absurd ⟨provider, hknown, .inl (decodeContext_eq_other_iff.mp hdec)⟩ h
      | caught name =>
        refine .inl (hreject name fun context ha => ?_)
        cases hdec.symm.trans (decodeContext_eq_ok_iff.mpr ha.decodes)
    | ok u =>
      have hd := decodeContext_eq_ok_iff.mp hdec
      obtain ⟨iat, hiat⟩ := exists_claim (hd.required "iat" (by decide))
      obtain ⟨date, hdate, -⟩ := hd.issued iat hiat
      have hage : takesAge iat = true := by
        by_contra hno
        exact h ⟨provider, hknown, .inr ⟨hd, iat, hiat, Bool.eq_false_iff.mpr hno⟩⟩
      obtain ⟨b, hb, hyoung⟩ := @isTooOld_eq_ok service provider presented.later iat date hdate hage
      simp only [hiat, Option.getD_some, hb]
      cases b with
      | true =>
        refine .inl (hreject (lit "too old") fun context ha => ?_)
        cases hyoung.mpr (ha.young iat hiat)
      | false =>
        simp only
        split_ifs with htenant huser
        · refine .inl (hreject (lit "another tenant") fun context ha => ?_)
          refine (any_eq_false_iff.mpr ?_) htenant
          intro v hv
          simp [Json.pyEq_str_iff, ha.tenant v hv]
        · refine .inl (hreject (lit "another user") fun context ha => ?_)
          refine (any_eq_false_iff.mpr ?_) huser
          intro v hv
          exact (differs_eq_false_iff (hd.subject v hv)).mpr (ha.user v hv)
        · cases hcontext : presented.context with
          | none =>
            refine .inl (hreject (lit "context is not an object") fun context ha => ?_)
            cases hcontext.symm.trans (Presented.context_eq_some_iff.mpr ha.context)
          | some context =>
            refine .inr ⟨provider, context, rfl, rfl, hd, ?_, ?_, ?_,
              Presented.context_eq_some_iff.mp hcontext⟩
            · intro v hv
              cases hiat.symm.trans hv
              exact hyoung.mp rfl
            · intro v hv
              have := any_eq_false_iff.mp htenant v hv
              exact Json.pyEq_str_iff.mp (by simpa using this)
            · intro v hv
              exact (differs_eq_false_iff (hd.subject v hv)).mp (any_eq_false_iff.mp huser v hv)

/-! ## 7. All tokens of a request -/

variable (service providers audience tenantId userId) in
/-- The fact of a token, under the id of its provider. -/
def factOf (presented : Presented) : Option (Text × JsonObject) :=
  match verifyToken service providers audience tenantId userId presented with
  | .ok (provider, context) => some (provider.id, context)
  | .error _ => none

theorem factOf_eq_some_iff {presented : Presented}
    (h : ¬ Escapes service providers audience presented) {id : Text} {context : JsonObject} :
    factOf service providers audience tenantId userId presented = some (id, context) ↔
      ∃ provider, knownProvider providers presented = some provider ∧ provider.id = id ∧
        Accepts service audience tenantId userId provider presented context := by
  unfold factOf
  rcases verifyToken_of_not_escapes h with
    ⟨reason, hv, hno⟩ | ⟨provider, c, hv, hknown, ha⟩
  · rw [hv]
    simp only [reduceCtorEq, false_iff]
    rintro ⟨provider, hknown, -, ha⟩
    exact hno provider context hknown ha
  · rw [hv]
    simp only [Option.some.injEq, Prod.mk.injEq]
    constructor
    · rintro ⟨rfl, rfl⟩
      exact ⟨provider, hknown, rfl, ha⟩
    · rintro ⟨q, hq, rfl, hc⟩
      cases hknown.symm.trans hq
      exact ⟨rfl, ha.unique hc⟩

/-- Where no token escapes the loop returns: the first fact of each provider, and a reason for
each other token. -/
theorem verifyLoop_eq_ok {tokens : List Presented}
    (h : ∀ presented ∈ tokens, ¬ Escapes service providers audience presented)
    (result : VerifiedContext) :
    ∃ result', verifyLoop service providers audience tenantId userId tokens result = .ok result' ∧
      result'.facts =
        FirstWins.collect (factOf service providers audience tenantId userId) tokens result.facts ∧
      result'.facts.length + result'.rejected.length =
        tokens.length + (result.facts.length + result.rejected.length) := by
  -- on the tokens; the result grows from token to token, so it is any result
  induction tokens generalizing result with
  | nil => exact ⟨result, rfl, rfl, by simp⟩
  | cons presented rest ih =>
    have hrest := fun p hp => h p (List.mem_cons_of_mem _ hp)
    rw [verifyLoop, FirstWins.collect, factOf]
    rcases verifyToken_of_not_escapes (h presented List.mem_cons_self) with
      ⟨reason, hv, -⟩ | ⟨provider, context, hv, -, -⟩
    · rw [hv]
      obtain ⟨result', hr, hfacts, hcount⟩ := ih hrest (result.reject reason)
      refine ⟨result', hr, hfacts, ?_⟩
      simp only [VerifiedContext.reject, List.length_append, List.length_singleton] at hcount
      simp only [List.length_cons]
      omega
    · rw [hv]
      simp only
      by_cases hid : provider.id ∈ result.facts.map Prod.fst
      · rw [if_pos hid]
        obtain ⟨result', hr, hfacts, hcount⟩ :=
          ih hrest (result.reject (provider.id.str ++ lit ": duplicate"))
        refine ⟨result', by rw [← hr]; exact dif_pos hid, hfacts, ?_⟩
        simp only [VerifiedContext.reject, List.length_append, List.length_singleton] at hcount
        simp only [List.length_cons]
        omega
      · rw [if_neg hid]
        obtain ⟨result', hr, hfacts, hcount⟩ := ih hrest (result.insert provider.id context hid)
        refine ⟨result', by rw [← hr]; exact dif_neg hid, hfacts, ?_⟩
        simp only [VerifiedContext.insert, List.length_append, List.length_singleton] at hcount
        simp only [List.length_cons]
        omega

/-- One token that escapes, and the loop does not return. -/
theorem verifyLoop_eq_error {tokens : List Presented}
    (h : ∃ presented ∈ tokens, Escapes service providers audience presented)
    (result : VerifiedContext) :
    ∃ e, verifyLoop service providers audience tenantId userId tokens result = .error e := by
  induction tokens generalizing result with
  | nil => simp at h
  | cons presented rest ih =>
    rw [verifyLoop]
    by_cases hp : Escapes service providers audience presented
    · obtain ⟨e, he⟩ := @verifyToken_of_escapes service providers audience tenantId userId _ hp
      exact ⟨e, by rw [he]⟩
    have hrest : ∃ p ∈ rest, Escapes service providers audience p := by
      obtain ⟨p, hmem, ha⟩ := h
      rcases List.mem_cons.mp hmem with rfl | hmem
      · exact absurd ha hp
      · exact ⟨p, hmem, ha⟩
    rcases verifyToken_of_not_escapes hp with ⟨reason, hv, -⟩ | ⟨provider, context, hv, -, -⟩
    · rw [hv]
      exact ih hrest _
    · rw [hv]
      by_cases hid : provider.id ∈ result.providers
      · obtain ⟨e, he⟩ := ih hrest (result.reject (provider.id.str ++ lit ": duplicate"))
        exact ⟨e, by rw [← he]; exact dif_pos hid⟩
      · obtain ⟨e, he⟩ := ih hrest (result.insert provider.id context hid)
        exact ⟨e, by rw [← he]; exact dif_neg hid⟩

/-! ## 8. The configuration -/

/-- Providers are found by their issuer, and have ids of their own.  `load_providers` refuses a
configuration in which two share either, so a token names at most one provider, and a fact is of
one. -/
structure ByIssuer (providers : Dict ContextProvider) : Prop where
  issuer : ∀ entry ∈ providers, entry.2.issuer = entry.1
  keys : providers.keys.Nodup
  ids : (providers.map (fun entry => entry.2.id)).Nodup

theorem byIssuer_of_nodup {entries : List ContextProvider}
    (hissuers : (entries.map ContextProvider.issuer).Nodup)
    (hids : (entries.map ContextProvider.id).Nodup) :
    ByIssuer (entries.map (fun provider => (provider.issuer, provider))) where
  issuer := by
    intro entry hentry
    obtain ⟨provider, -, rfl⟩ := List.mem_map.mp hentry
    rfl
  keys := by
    rw [Dict.keys, List.map_map]
    exact hissuers
  ids := by
    rw [List.map_map]
    exact hids

theorem loadProviders_eq_ok {py : Interpreter} {raw : Str} {providers : Dict ContextProvider}
    (h : loadProviders py raw = .ok providers) : ByIssuer providers := by
  unfold loadProviders at h
  split at h
  · cases h
    exact @byIssuer_of_nodup [] List.nodup_nil List.nodup_nil
  · split at h
    · cases h
    · cases h
    · obtain ⟨entries, -, h⟩ := bind_eq_ok h
      split at h
      · rename_i hn
        cases h
        exact byIssuer_of_nodup hn.1 hn.2
      · cases h
    · cases h

theorem knownProvider_eq_some {presented : Presented} {provider : ContextProvider}
    (h : knownProvider providers presented = some provider) :
    provider ∈ providers.map Prod.snd := by
  unfold knownProvider at h
  split at h
  · exact List.mem_map.mpr ⟨_, Dict.lookup_mem h, rfl⟩
  · cases h

/-- A provider that accepts a token is the one the token names. -/
theorem ByIssuer.knownProvider_eq (hby : ByIssuer providers) {presented : Presented}
    {provider : ContextProvider} (hmem : provider ∈ providers.map Prod.snd)
    (h : Decodes service audience provider presented) :
    knownProvider providers presented = some provider := by
  obtain ⟨v, hv⟩ := exists_claim (h.required "iss" (by decide))
  obtain ⟨⟨issuer, p⟩, hentry, rfl⟩ := List.mem_map.mp hmem
  have hissuer : p.issuer = issuer := hby.issuer _ hentry
  have hlookup : providers.lookup p.issuer = some p :=
    (Dict.lookup_eq_some_iff hby.keys).mpr (hissuer ▸ hentry)
  unfold knownProvider
  rw [hv, h.issuer v hv]
  exact hlookup

theorem ByIssuer.eq_of_id (hby : ByIssuer providers) {p q : ContextProvider}
    (hp : p ∈ providers.map Prod.snd) (hq : q ∈ providers.map Prod.snd) (h : p.id = q.id) :
    p = q := by
  obtain ⟨a, ha, rfl⟩ := List.mem_map.mp hp
  obtain ⟨b, hb, rfl⟩ := List.mem_map.mp hq
  exact congrArg Prod.snd (List.inj_on_of_nodup_map hby.ids ha hb h)

/-! ## 9. Verified facts -/

variable (service audience tenantId userId) in
/-- The first token of the list that the provider accepts. -/
def FirstAccepted (provider : ContextProvider) (tokens : List Presented) (context : JsonObject) :
    Prop :=
  ∃ before presented after, tokens = before ++ presented :: after ∧
    Accepts service audience tenantId userId provider presented context ∧
    ∀ earlier ∈ before, ∀ c, ¬ Accepts service audience tenantId userId provider earlier c

variable (service providers audience tenantId userId) in
/-- A token that one of the providers accepts. -/
def IsValid (presented : Presented) : Prop :=
  ∃ provider ∈ providers.map Prod.snd, ∃ context,
    Accepts service audience tenantId userId provider presented context

variable (service providers audience tenantId userId) in
open scoped Classical in
/-- Facts come from valid tokens alone, each provider's from its first, and every token counts
once. -/
def FactsVerified (verify : List Presented → Except PyError VerifiedContext)
    (tokens : List Presented) : Prop :=
  ∃ result, verify tokens = .ok result ∧
    (∀ id context, (id, context) ∈ result.facts ↔
      ∃ provider ∈ providers.map Prod.snd, provider.id = id ∧
        FirstAccepted service audience tenantId userId provider tokens context) ∧
    (∃ kept, verify (tokens.filter (IsValid service providers audience tenantId userId)) =
      .ok kept ∧ kept.facts = result.facts) ∧
    result.facts.length + result.rejected.length = tokens.length

theorem ByIssuer.first_iff (hby : ByIssuer providers) {tokens : List Presented}
    (h : ∀ presented ∈ tokens, ¬ Escapes service providers audience presented) {id : Text}
    {context : JsonObject} :
    FirstWins.First (factOf service providers audience tenantId userId) tokens id context ↔
      ∃ provider ∈ providers.map Prod.snd, provider.id = id ∧
        FirstAccepted service audience tenantId userId provider tokens context := by
  constructor
  · rintro ⟨before, presented, after, rfl, hf, hbefore⟩
    obtain ⟨provider, hknown, hid, ha⟩ := (factOf_eq_some_iff (h presented (by simp))).mp hf
    refine ⟨provider, knownProvider_eq_some hknown, hid, before, presented, after, rfl, ha, ?_⟩
    intro earlier hearlier c hc
    refine hbefore earlier hearlier c ?_
    have hmem := knownProvider_eq_some hknown
    exact (factOf_eq_some_iff (h earlier (by simp [hearlier]))).mpr
      ⟨provider, hby.knownProvider_eq hmem hc.decodes, hid, hc⟩
  · rintro ⟨provider, hmem, hid, before, presented, after, rfl, ha, hbefore⟩
    refine ⟨before, presented, after, rfl, ?_, ?_⟩
    · exact (factOf_eq_some_iff (h presented (by simp))).mpr
        ⟨provider, hby.knownProvider_eq hmem ha.decodes, hid, ha⟩
    · intro earlier hearlier c hf
      obtain ⟨q, hq, hqid, hc⟩ :=
        (factOf_eq_some_iff (h earlier (by simp [hearlier]))).mp hf
      have heq := hby.eq_of_id (knownProvider_eq_some hq) hmem (hqid.trans hid.symm)
      exact hbefore earlier hearlier c (heq ▸ hc)

theorem ByIssuer.isValid_iff (hby : ByIssuer providers) {presented : Presented}
    (h : ¬ Escapes service providers audience presented) :
    IsValid service providers audience tenantId userId presented ↔
      (factOf service providers audience tenantId userId presented).isSome = true := by
  rw [Option.isSome_iff_exists]
  constructor
  · rintro ⟨provider, hmem, context, ha⟩
    exact ⟨_, (factOf_eq_some_iff h).mpr
      ⟨provider, hby.knownProvider_eq hmem ha.decodes, rfl, ha⟩⟩
  · rintro ⟨⟨id, context⟩, hf⟩
    obtain ⟨provider, hknown, -, ha⟩ := (factOf_eq_some_iff h).mp hf
    exact ⟨provider, knownProvider_eq_some hknown, context, ha⟩

/-- What `verify_signed_context` does with providers that load. -/
theorem verifySignedContext_eq {py : Interpreter} {raw : Str} (setting : Str)
    (hload : loadProviders py raw = .ok providers) (tokens : List Presented) :
    verifySignedContext service tenantId userId py raw setting tokens =
      verifyLoop service providers (contextAudience setting) tenantId userId tokens .none := by
  unfold verifySignedContext
  split
  · rename_i h
    rw [h]
    rfl
  · rw [hload]

variable (service) in
/-- Reading the configuration and the tokens raises nothing. -/
def ContextReadable (py : Interpreter) (raw setting : Str) (tokens : List Presented) : Prop :=
  tokens = [] ∨ (∃ message, loadProviders py raw = .error (.contextConfigError message)) ∨
    ∃ providers, loadProviders py raw = .ok providers ∧
      ∀ presented ∈ tokens, ¬ Escapes service providers (contextAudience setting) presented

theorem verifySignedContext_isOk_iff {py : Interpreter} {raw setting : Str}
    {tokens : List Presented} :
    (∃ verified, verifySignedContext service tenantId userId py raw setting tokens =
      .ok verified) ↔ ContextReadable service py raw setting tokens := by
  unfold verifySignedContext ContextReadable
  by_cases htokens : tokens = []
  · simp [htokens]
  simp only [htokens, ↓reduceIte, false_or]
  cases hload : loadProviders py raw with
  | error fault =>
    cases fault with
    | contextConfigError message => simp
    | raised e => simp
  | ok providers =>
    simp only [reduceCtorEq, exists_false, Except.ok.injEq, exists_eq_left', false_or]
    constructor
    · rintro ⟨verified, hv⟩ presented hmem hescapes
      obtain ⟨e, he⟩ := @verifyLoop_eq_error service providers (contextAudience setting) tenantId
        userId tokens ⟨presented, hmem, hescapes⟩ .none
      cases he.symm.trans hv
    · intro h
      obtain ⟨verified, hv, -⟩ :=
        @verifyLoop_eq_ok service providers (contextAudience setting) tenantId userId tokens h .none
      exact ⟨verified, hv⟩

end Decoding

/-- Verification does what it is for exactly where no token escapes it.  The two ways out are the
two places of `_verify_token` that its handlers do not cover: the key client's exceptions that are
neither `PyJWTError` nor `ValueError`, and the difference of the clock and an `iat` that
`jwt.decode` let pass.  Nothing else that a caller can put into a token costs another token its
facts. -/
theorem signed_context_iff (service : TokenService) (tenantId : Str) (userId : Option Str)
    (py : Interpreter) (raw setting : Str) (tokens : List Presented)
    {providers : Dict ContextProvider} (hload : loadProviders py raw = .ok providers) :
    FactsVerified service providers (contextAudience setting) tenantId userId
        (verifySignedContext service tenantId userId py raw setting) tokens ↔
      ∀ presented ∈ tokens, ¬ Escapes service providers (contextAudience setting) presented := by
  have hby := loadProviders_eq_ok hload
  constructor
  · rintro ⟨result, hr, -⟩ presented hmem hescapes
    rw [verifySignedContext_eq setting hload] at hr
    obtain ⟨e, he⟩ := @verifyLoop_eq_error service providers (contextAudience setting) tenantId
      userId tokens ⟨presented, hmem, hescapes⟩ .none
    cases he.symm.trans hr
  · intro h
    obtain ⟨result, hr, hfacts, hcount⟩ :=
      @verifyLoop_eq_ok service providers (contextAudience setting) tenantId userId tokens h .none
    refine ⟨result, (verifySignedContext_eq setting hload tokens).trans hr, ?_, ?_, hcount⟩
    · intro id context
      rw [hfacts, FirstWins.mem_collect_iff, hby.first_iff h]
      simp [VerifiedContext.none]
    · classical
      -- valid tokens and tokens with a fact are the same ones, as no token escapes
      have hfilter : tokens.filter
            (IsValid service providers (contextAudience setting) tenantId userId) =
          tokens.filter (fun presented => (factOf service providers (contextAudience setting)
            tenantId userId presented).isSome) := by
        refine List.filter_congr ?_
        intro presented hmem
        rw [Bool.eq_iff_iff, decide_eq_true_iff]
        exact hby.isValid_iff (h presented hmem)
      obtain ⟨kept, hk, hkfacts, -⟩ := @verifyLoop_eq_ok service providers
        (contextAudience setting) tenantId userId
        (tokens.filter (fun presented => (factOf service providers (contextAudience setting)
          tenantId userId presented).isSome))
        (fun p hp => h p (List.mem_of_mem_filter hp)) .none
      refine ⟨kept, ?_, ?_⟩
      · rw [verifySignedContext_eq setting hload, ← hk]
        congr!
      · rw [hkfacts, hfacts, FirstWins.collect_filter]

/-! ## 10. A date that is a string -/

/-- Keys are named by their text, there is no key server, and `1` is read. -/
def pemService : TokenService where
  intOfStr s := if s = lit "1" then some 1 else none
  keyOfPem pem := .ok pem
  keyOfJwks _ _ := .error (.caught (lit "PyJWKClientConnectionError"))

def ledgerEntry : Dict Json :=
  [strClaim "id" (Text.lit "ledger"), strClaim "issuer" (Text.lit "https://ledger.internal"),
    strClaim "public_key" (Text.lit "pem")]

/-- The configuration of the one provider, as text. -/
def ledgerProviders : Str := (dumpsDoc (.arr [.obj ledgerEntry])).render .plain [0x20]

def ledger : ContextProvider where
  id := .lit "ledger"
  issuer := lit "https://ledger.internal"
  maxAgeSeconds := 300
  publicKey := some (lit "pem")
  jwksUrl := []

theorem loadProviders_ledger :
    loadProviders plainInterpreter ledgerProviders = .ok [(ledger.issuer, ledger)] := by
  have hne : strip ledgerProviders ≠ [] := by decide +kernel
  have hstrip : strip ledgerProviders = ledgerProviders := by decide +kernel
  have hdumps : dumps (.arr [.obj ledgerEntry]) = .ok ledgerProviders := if_pos (by decide +kernel)
  have hloads : loads (strip ledgerProviders) = .ok (.arr [.obj ledgerEntry]) := by
    rw [hstrip, loads_dumps (by decide +kernel) hdumps]
    rfl
  rw [loadProviders, if_neg hne, hloads]
  rfl

/-- The claims of a token of the ledger that was issued at a date. -/
def ledgerClaims (iat : Json) : Dict Json :=
  [strClaim "iss" ledger.issuer, strClaim "aud" (Text.lit "axg"), (lit "iat", iat),
    (lit "exp", .int 100), strClaim "tenant_id" (Text.lit "t1"), (lit "context", .obj [])]

theorem wf_ledgerClaims {iat : Json} (h : iat.Wf) : (Json.obj (ledgerClaims iat)).Wf := by
  have hkeys : (ledgerClaims iat).keys =
      ["iss", "aud", "iat", "exp", "tenant_id", "context"].map lit := rfl
  refine Json.wf_obj.mpr ⟨by rw [hkeys]; decide +kernel, ?_⟩
  intro p hp
  simp only [ledgerClaims, strClaim, List.mem_cons, List.not_mem_nil, or_false] at hp
  rcases hp with rfl | rfl | rfl | rfl | rfl | rfl
  · rfl
  · rfl
  · exact h
  · rfl
  · rfl
  · rfl

/-- The token, signed with the ledger's key and shown two seconds after the epoch. -/
def ledgerToken (iat : Json) (h : iat.Wf) : Presented where
  token := .jws ⟨none, none⟩ (ledgerClaims iat) (some (lit "pem"))
  wf := wf_ledgerClaims h
  now := 2000000
  later := 2000000

/-- One token of a known provider makes the whole verification raise. -/
theorem signed_context_escapes :
    loadProviders plainInterpreter ledgerProviders = .ok [(ledger.issuer, ledger)] ∧
      verifySignedContext pemService (lit "t1") none plainInterpreter ledgerProviders []
        [ledgerToken (.str (lit "1")) rfl] = .error .typeError ∧
      ¬ FactsVerified pemService [(ledger.issuer, ledger)] (contextAudience []) (lit "t1") none
        (verifySignedContext pemService (lit "t1") none plainInterpreter ledgerProviders [])
        [ledgerToken (.str (lit "1")) rfl] := by
  have h : verifySignedContext pemService (lit "t1") none plainInterpreter ledgerProviders []
      [ledgerToken (.str (lit "1")) rfl] = .error .typeError := by
    rw [verifySignedContext_eq [] loadProviders_ledger]
    rfl
  refine ⟨loadProviders_ledger, h, ?_⟩
  rintro ⟨result, hr, -⟩
  cases h.symm.trans hr

theorem not_escapes_ledger {iat : Json} {h : iat.Wf} (hage : takesAge iat = true) :
    ¬ Escapes pemService [(ledger.issuer, ledger)] (contextAudience []) (ledgerToken iat h) := by
  rintro ⟨provider, hknown, hkey | ⟨-, v, hv, hno⟩⟩
  · cases hknown
    cases hkey
  · cases hv
    cases hage.symm.trans hno

/-- With the date as a number the facts of the first token are verified, and the second token is a
duplicate. -/
theorem signed_context_iff_ledger :
    FactsVerified pemService [(ledger.issuer, ledger)] (contextAudience []) (lit "t1") none
      (verifySignedContext pemService (lit "t1") none plainInterpreter ledgerProviders [])
      [ledgerToken (.int 1) rfl, ledgerToken (.int 2) rfl] := by
  refine (signed_context_iff pemService (lit "t1") none plainInterpreter ledgerProviders []
    [ledgerToken (.int 1) rfl, ledgerToken (.int 2) rfl] loadProviders_ledger).mpr ?_
  refine List.forall_mem_cons.mpr ⟨not_escapes_ledger (by decide +kernel), ?_⟩
  exact List.forall_mem_cons.mpr ⟨not_escapes_ledger (by decide +kernel), fun _ h => nomatch h⟩

end Axg
