/-
# Signed tokens (PyJWT, RS256)

AXG signs two kinds of JWT with one RSA key: Passports and approval tickets.  Signatures are
ideal.  A token that decodes at all is a header, a set of claims and the key pair whose private
half signed them; nobody makes a token of a pair without its private half.  A key pair is named
by the RFC 7638 thumbprint of its public half, which is also the `kid` of the header.

The clock counts microseconds, as `datetime.now` does.  `jwt.decode` reads it with its
fraction, while `int(time.time())` and the dates in the claims are whole seconds; the two
readings of one instant differ, and a token's last second is where that shows.
-/
import Axg.Python.Json

namespace Axg

open Python

/-! ## 1. The clock -/

/-- Microseconds since the epoch. -/
abbrev Clock := Nat

/-- `int(now.timestamp())` -/
def Clock.seconds (now : Clock) : Int := (now / 1000000 : Nat)

/-- Is the date at or before now, the fraction of the second counted? -/
def Clock.reached (now : Clock) (date : Int) : Bool := date * 1000000 ≤ (now : Int)

/-- A date is reached when its second has begun. -/
theorem Clock.reached_iff (now : Clock) (date : Int) :
    Clock.reached now date = true ↔ date ≤ Clock.seconds now := by
  simp only [Clock.reached, Clock.seconds, decide_eq_true_eq]
  omega

theorem Clock.seconds_mono {a b : Clock} (h : a ≤ b) : Clock.seconds a ≤ Clock.seconds b := by
  have := Nat.div_le_div_right (c := 1000000) h
  simp only [Clock.seconds]
  omega

/-! ## 2. Tokens -/

/-- A key pair, by the thumbprint of its public half. -/
abbrev Kid := Str

/-- The members of a JOSE header that are read. -/
structure JoseHeader where
  typ : Option Str
  kid : Option Kid

/-- A token as a string holds it.  `signer` is the pair whose private half made the signature,
`none` where the signature is no pair's. -/
inductive Token
  | malformed (text : Str)
  | jws (header : JoseHeader) (claims : Dict Json) (signer : Option Kid)

/-- The key pair that signed a token. -/
def Token.signer : Token → Option Kid
  | malformed _ => none
  | jws _ _ signer => signer

/-- The claims of a token. -/
def Token.claims : Token → Dict Json
  | malformed _ => []
  | jws _ claims _ => claims

/-- `jwt.get_unverified_header` -/
def Token.header : Token → Option JoseHeader
  | malformed _ => none
  | jws header _ _ => some header

/-- A token as text, which PyJWT encodes before it reads it. -/
def Token.isText : Token → Bool
  | malformed text => IsScalar text
  | jws _ _ _ => true

/-! ## 3. Decoding -/

/-- What `jwt.decode` raises: `ExpiredSignatureError`, or any other `PyJWTError`. -/
inductive JwtError
  | expired
  | invalid
deriving DecidableEq

/-- A numeric date. -/
def numericDate : Json → Except JwtError Int
  | .int date => .ok date
  | _ => .error .invalid

/-- A check on a claim that may be absent. -/
def checkClaim (claims : Dict Json) (name : String) (check : Json → Except JwtError Unit) :
    Except JwtError Unit :=
  match claims.lookup (lit name) with
  | none => .ok ()
  | some v => check v

/-- `_validate_iat` and `_validate_nbf`: the date must have come. -/
def checkBegun (now : Clock) (v : Json) : Except JwtError Unit := do
  let date ← numericDate v
  if Clock.reached now date then return () else throw .invalid

/-- `_validate_exp` -/
def checkExpiry (now : Clock) (v : Json) : Except JwtError Unit := do
  let date ← numericDate v
  if Clock.reached now date then throw .expired else return ()

/-- A claim that has to be a string. -/
def checkString : Json → Except JwtError Unit
  | .str _ => .ok ()
  | _ => .error .invalid

/-- `_validate_aud`, against one expected audience. -/
def checkAudience (claims : Dict Json) (audience : Str) : Except JwtError Unit :=
  match claims.lookup (lit "aud") with
  | some (.str aud) => if aud ≠ [] ∧ aud = audience then .ok () else .error .invalid
  | some (.arr auds) => do
    auds.forM checkString
    if auds.any (fun aud => aud.pyEq (.str audience)) then return () else throw .invalid
  | _ => .error .invalid

/-- `_validate_claims` -/
def validateClaims (claims : Dict Json) (now : Clock) (issuer : Str) (audience : Option Str)
    (required : List String) : Except JwtError Unit := do
  if required.all (fun name => (claims.lookup (lit name)).isSome) = false then throw .invalid
  checkClaim claims "iat" (checkBegun now)
  checkClaim claims "nbf" (checkBegun now)
  checkClaim claims "exp" (checkExpiry now)
  match claims.lookup (lit "iss") with
  | none => throw .invalid
  | some iss => if iss.pyEq (.str issuer) = false then throw .invalid
  match audience with
  | none => pure ()
  | some audience => checkAudience claims audience
  checkClaim claims "sub" checkString
  checkClaim claims "jti" checkString

/-- `jwt.decode(token, key, algorithms=["RS256"], audience=.., issuer=.., options=..)` -/
def jwtDecode (token : Token) (key : Kid) (now : Clock) (issuer : Str) (audience : Option Str)
    (required : List String) : Except JwtError (Dict Json) :=
  match token with
  | .malformed _ => .error .invalid
  | .jws _ claims signer =>
    if signer ≠ some key then .error .invalid
    else do
      validateClaims claims now issuer audience required
      return claims

/-! ## 4. Tokens with all registered claims -/

/-- The registered claims, as AXG writes them. -/
structure Registered (claims : Dict Json) (iss sub aud jti : Str) (begun exp : Int) : Prop where
  iss : claims.lookup (lit "iss") = some (.str iss)
  sub : claims.lookup (lit "sub") = some (.str sub)
  aud : claims.lookup (lit "aud") = some (.str aud)
  jti : claims.lookup (lit "jti") = some (.str jti)
  iat : claims.lookup (lit "iat") = some (.int begun)
  nbf : claims.lookup (lit "nbf") = some (.int begun)
  exp : claims.lookup (lit "exp") = some (.int exp)

/-- The audience check, on an audience that is a string. -/
def AudienceOk (audience : Option Str) (aud : Str) : Prop :=
  ∀ a ∈ audience, aud ≠ [] ∧ aud = a

instance (audience : Option Str) (aud : Str) : Decidable (AudienceOk audience aud) :=
  match audience with
  | none => .isTrue (fun _ h => nomatch h)
  | some a => decidable_of_iff (aud ≠ [] ∧ aud = a) (by simp [AudienceOk])

section Registered

variable {claims : Dict Json} {iss sub aud jti : Str} {begun exp : Int} {required : List String}

/-- Decoding such a token depends on the clock, the issuer and the audience alone. -/
theorem Registered.validateClaims_eq (h : Registered claims iss sub aud jti begun exp)
    (hreq : ∀ name ∈ required, (claims.lookup (lit name)).isSome = true) (now : Clock)
    (issuer : Str) (audience : Option Str) :
    validateClaims claims now issuer audience required =
      if Clock.reached now begun = false then .error .invalid
      else if Clock.reached now exp = true then .error .expired
      else if iss = issuer ∧ AudienceOk audience aud then .ok () else .error .invalid := by
  have hall : required.all (fun name => (claims.lookup (lit name)).isSome) = true :=
    List.all_eq_true.mpr hreq
  have hiss : (Json.str iss).pyEq (.str issuer) = decide (iss = issuer) := by
    rw [Bool.eq_iff_iff, Json.pyEq_str_iff, decide_eq_true_iff, Json.str.injEq]
  simp only [validateClaims, hall, checkClaim, h.iat, h.nbf, h.exp, h.iss, h.sub, h.jti,
    checkBegun, checkExpiry, numericDate, checkString, hiss, Bool.true_eq_false, ↓reduceIte,
    ok_bind, decide_eq_false_iff_not]
  cases Clock.reached now begun with
  | false => rfl
  | true =>
    cases Clock.reached now exp with
    | true => rfl
    | false =>
      by_cases hi : iss = issuer
      · cases audience with
        | none => simp [hi, AudienceOk, pure, Except.pure]
        | some a =>
          have haud : checkAudience claims a
              = if aud ≠ [] ∧ aud = a then .ok () else .error .invalid := by
            rw [checkAudience, h.aud]
          have hok : AudienceOk (some a) aud ↔ aud ≠ [] ∧ aud = a := by simp [AudienceOk]
          by_cases ha : aud ≠ [] ∧ aud = a
          · simp [hi, haud, if_pos ha, hok.mpr ha, pure, Except.pure]
          · simp [hi, haud, if_neg ha, mt hok.mp ha, pure, Except.pure]
      · simp [hi, throw, throwThe, MonadExceptOf.throw, pure, Except.pure]

end Registered

section Decoding

variable {token : Token} {key : Kid} {now : Clock} {issuer : Str} {audience : Option Str}
  {required : List String} {claims : Dict Json}

/-- What decodes was signed with the key, and its claims are the token's. -/
theorem jwtDecode_eq_ok (h : jwtDecode token key now issuer audience required = .ok claims) :
    token.signer = some key ∧ token.claims = claims ∧
      validateClaims claims now issuer audience required = .ok () := by
  unfold jwtDecode at h
  cases token with
  | malformed text => cases h
  | jws header cs signer =>
    simp only at h
    split at h
    · cases h
    · rename_i hs
      obtain ⟨u, hv, h⟩ := bind_eq_ok h
      cases h
      exact ⟨not_not.mp hs, rfl, hv⟩

theorem jwtDecode_jws {header : JoseHeader} {signer : Option Kid} (hs : signer = some key) :
    jwtDecode (.jws header claims signer) key now issuer audience required =
      (validateClaims claims now issuer audience required).map (fun _ => claims) := by
  simp only [jwtDecode, hs, ne_eq, not_true_eq_false, ↓reduceIte]
  cases validateClaims claims now issuer audience required <;> rfl

end Decoding

end Axg
