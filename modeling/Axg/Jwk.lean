/-
# Published keys (`axg/crypto.py`, `_rsa_jwk` and `get_jwks`)

A verifier that cannot read AXG's PEM text finds the key of a Passport in the key set: the first
entry whose `kid` is the one in the header.  The entry spells the modulus and the exponent in
base64url, and its `kid` is a hash of the two texts.  AXG itself looks for the same `kid` among its
PEM keys (`verification_key`).

Both find one key (`jwks_selects`): what the entry decodes to is what AXG verifies with, whatever
other keys are published, as long as the hashes of the published keys do not collide.  PEM text is
read by the key library, which enters as a function.
-/
import Mathlib.Data.Nat.Size
import Axg.Keys
import Axg.Python.Base64

namespace Axg

open Python

/-! ## 1. Integers as bytes -/

/-- `val.to_bytes(length, byteorder="big")`, where the length is enough. -/
def bigEndian : Nat → Nat → Bytes
  | 0, _ => []
  | length + 1, val => UInt8.ofNat (val / 256 ^ length) :: bigEndian length (val % 256 ^ length)

/-- `int.from_bytes(bytes, "big")` -/
def fromBytes (bytes : Bytes) : Nat := bytes.foldl (fun n b => n * 256 + b.toNat) 0

theorem fromBytes_from (bytes : Bytes) (n : Nat) :
    bytes.foldl (fun n b => n * 256 + b.toNat) n = n * 256 ^ bytes.length + fromBytes bytes := by
  induction bytes generalizing n with
  | nil => simp [fromBytes]
  | cons b bytes ih =>
    rw [fromBytes, List.foldl_cons, List.foldl_cons, ih, ih (0 * 256 + b.toNat), List.length_cons,
      pow_succ]
    ring

theorem length_bigEndian (length val : Nat) : (bigEndian length val).length = length := by
  induction length generalizing val with
  | zero => rfl
  | succ length ih => rw [bigEndian, List.length_cons, ih]

theorem fromBytes_bigEndian {length val : Nat} (h : val < 256 ^ length) :
    fromBytes (bigEndian length val) = val := by
  induction length generalizing val with
  | zero => rw [pow_zero, Nat.lt_one_iff] at h; rw [h]; rfl
  | succ length ih =>
    have hpos : 0 < 256 ^ length := Nat.pow_pos (by decide)
    have hbyte : val / 256 ^ length < 256 := by
      rw [Nat.div_lt_iff_lt_mul hpos]
      rwa [pow_succ, Nat.mul_comm] at h
    have hof : (UInt8.ofNat (val / 256 ^ length)).toNat = val / 256 ^ length := by
      rw [UInt8.toNat_ofNat']
      exact Nat.mod_eq_of_lt hbyte
    rw [bigEndian, fromBytes, List.foldl_cons, fromBytes_from, length_bigEndian,
      ih (Nat.mod_lt _ hpos), hof, Nat.zero_mul, Nat.zero_add, Nat.div_add_mod']

/-- `_int_to_base64url` -/
def intToBase64url (val : Nat) : Str :=
  if val = 0 then lit "AA"
  else
    let byteLen := (val.size + 7) / 8
    base64url (bigEndian byteLen val)

/-- What a verifier makes of a member: `int.from_bytes` of the decoded text. -/
def base64urlToInt (s : Str) : Except PyError Nat :=
  (urlsafeB64decode (withPadding s)).map fromBytes

theorem base64urlToInt_base64url (bytes : Bytes) :
    base64urlToInt (base64url bytes) = .ok (fromBytes bytes) := by
  rw [base64urlToInt, urlsafeB64decode_padded]
  rfl

/-- The text of zero is that of a byte. -/
theorem lit_zero : lit "AA" = base64url [0] := by decide +kernel

/-- The text of an integer is read back, zero included. -/
theorem base64urlToInt_intToBase64url (val : Nat) :
    base64urlToInt (intToBase64url val) = .ok val := by
  unfold intToBase64url
  split
  · next h =>
    have hbytes : fromBytes [0] = 0 := by decide
    rw [h, lit_zero, base64urlToInt_base64url, hbytes]
  · have hlt : val < 256 ^ ((val.size + 7) / 8) := by
      refine (Nat.lt_size_self val).trans_le ?_
      rw [show (256 : Nat) = 2 ^ 8 from rfl, ← pow_mul]
      exact Nat.pow_le_pow_right (by decide) (by omega)
    rw [base64urlToInt_base64url, fromBytes_bigEndian hlt]

theorem intToBase64url_injective : Function.Injective intToBase64url := by
  intro x y h
  have hx := base64urlToInt_intToBase64url x
  rw [h, base64urlToInt_intToBase64url y] at hx
  exact (Except.ok.inj hx).symm

theorem intToBase64url_ascii (val : Nat) : ∀ c ∈ intToBase64url val, c.val < 0x80 := by
  unfold intToBase64url
  split
  · rw [lit_zero]
    exact base64url_ascii _
  · exact base64url_ascii _

/-! ## 2. Entries -/

/-- `public_key.public_numbers()` -/
structure RsaNumbers where
  e : Nat
  n : Nat
deriving DecidableEq

/-- An entry of the key set; `kty`, `alg` and `use` are the same in each. -/
structure Jwk where
  kid : Kid
  n : Str
  e : Str

def Jwk.dump (entry : Jwk) : Dict Json :=
  [strClaim "kty" (lit "RSA"), strClaim "alg" (lit "RS256"), strClaim "use" (lit "sig"),
    strClaim "kid" entry.kid, strClaim "n" entry.n, strClaim "e" entry.e]

/-- `bytes.fromhex(s)` -/
def hexBytes : Str → Bytes
  | a :: b :: s => UInt8.ofNat ((hexVal a).getD 0 * 16 + (hexVal b).getD 0) :: hexBytes s
  | _ => []

/-- `hashlib.sha256(text).digest()` -/
def Sha256.digest (sha : Sha256) (text : Str) : Bytes := hexBytes (sha.hexdigest text)

/-- The members that a thumbprint is taken of. -/
def thumbprintMembers (numbers : RsaNumbers) : Dict Json :=
  [strClaim "e" (intToBase64url numbers.e), strClaim "kty" (lit "RSA"),
    strClaim "n" (intToBase64url numbers.n)]

/-- `json.dumps({"e": e, "kty": "RSA", "n": n}, separators=(",", ":"), sort_keys=True)` -/
def thumbprintInput (numbers : RsaNumbers) : Except PyError Str :=
  dumpsAscii [] (.obj (thumbprintMembers numbers))

section

variable (numbersOf : Str → Except PyError RsaNumbers) (sha : Sha256)

/-- `_rsa_jwk`; `numbersOf` reads PEM text, and raises unless it is an RSA key. -/
def rsaJwk (pem : Str) : Except PyError Jwk := do
  let numbers ← numbersOf pem
  let input ← thumbprintInput numbers
  return ⟨base64url (sha.digest input), intToBase64url numbers.n, intToBase64url numbers.e⟩

/-- The entries of `get_jwks`, of the current key and the retired ones. -/
def jwksEntries (publicKey : Str) (previous : List Str) : Except PyError (List Jwk) :=
  match (publicKey :: previous).mapM (rsaJwk numbersOf sha) with
  | .ok entries => .ok entries
  | .error _ => .error .valueError

end

/-- The key that an entry spells. -/
def Jwk.numbers (entry : Jwk) : Except PyError RsaNumbers := do
  let e ← base64urlToInt entry.e
  let n ← base64urlToInt entry.n
  return ⟨e, n⟩

/-- The entry of a kid. -/
def selectEntry (kid : Kid) (entries : List Jwk) : Option Jwk :=
  entries.find? (fun entry => entry.kid = kid)

/-! ## 3. One key -/

theorem isScalar_ascii {s : Str} (h : ∀ c ∈ s, c.val < 0x80) : IsScalar s := by
  intro c hc
  have := h c hc
  simp only [isSurrogate, Bool.and_eq_false_iff, decide_eq_false_iff_not]
  omega

theorem thumbprintMembers_isText (numbers : RsaNumbers) :
    (Json.obj (thumbprintMembers numbers)).isText = true ∧
      (Json.obj (thumbprintMembers numbers)).hasShortInts = true ∧
      (Json.obj (thumbprintMembers numbers)).Wf := by
  have hkeys : [lit "e", lit "kty", lit "n"].Nodup := by decide
  refine ⟨?_, rfl, Json.wf_obj.mpr ⟨hkeys, ?_⟩⟩
  · have hstr : ∀ {s : Str}, IsScalar s → (Json.str s).isText = true :=
      fun h => decide_eq_true h
    rw [Json.isText, Json.every_obj, decide_eq_true_iff]
    refine ⟨?_, ?_⟩
    · rintro k hk
      have hnames : ∀ k ∈ [lit "e", lit "kty", lit "n"], IsScalar k := by decide
      exact hnames k hk
    · simp only [thumbprintMembers, strClaim, List.forall_mem_cons, List.not_mem_nil,
        false_implies, implies_true, and_true]
      exact ⟨hstr (isScalar_ascii (intToBase64url_ascii _)), hstr (isScalar_lit _),
        hstr (isScalar_ascii (intToBase64url_ascii _))⟩
  · simp only [thumbprintMembers, strClaim, List.forall_mem_cons, List.not_mem_nil,
      false_implies, implies_true, and_true]
    exact ⟨rfl, rfl, rfl⟩

/-- The text that the members are written as. -/
theorem thumbprintInput_eq (numbers : RsaNumbers) : thumbprintInput numbers =
    .ok ((Json.obj (thumbprintMembers numbers)).doc.render .ascii []) := by
  rw [thumbprintInput, dumpsAscii, if_pos (thumbprintMembers_isText numbers).2.1]

/-- The text that is hashed names one key. -/
theorem thumbprintInput_injective {x y : RsaNumbers} {input : Str}
    (hx : thumbprintInput x = .ok input) (hy : thumbprintInput y = .ok input) : x = y := by
  have hread : ∀ numbers : RsaNumbers, thumbprintInput numbers = .ok input →
      loads input = .ok (.obj (thumbprintMembers numbers)) := by
    intro numbers h
    obtain ⟨htext, -, hwf⟩ := thumbprintMembers_isText numbers
    rw [loads_dumpsAscii (by simp) h, Json.rejoin_of_isText hwf htext]
  have hobj := Except.ok.inj ((hread x hx).symm.trans (hread y hy))
  simp only [thumbprintMembers, strClaim, Json.obj.injEq, List.cons.injEq, Prod.mk.injEq,
    Json.str.injEq, true_and, and_true] at hobj
  obtain ⟨e, n⟩ := x
  obtain ⟨e', n'⟩ := y
  rw [RsaNumbers.mk.injEq]
  exact ⟨intToBase64url_injective hobj.1, intToBase64url_injective hobj.2⟩

section

variable {numbersOf : Str → Except PyError RsaNumbers} {sha : Sha256}

/-- The entry of a key: its kid is the hash of it, and it spells it. -/
theorem rsaJwk_eq_ok {pem : Str} {entry : Jwk} (h : rsaJwk numbersOf sha pem = .ok entry) :
    ∃ numbers input, numbersOf pem = .ok numbers ∧ thumbprintInput numbers = .ok input ∧
      entry.kid = base64url (sha.digest input) ∧ entry.numbers = .ok numbers := by
  obtain ⟨numbers, hnumbers, h⟩ := bind_eq_ok h
  obtain ⟨input, hinput, h⟩ := bind_eq_ok h
  cases h
  refine ⟨numbers, input, hnumbers, hinput, rfl, ?_⟩
  simp only [Jwk.numbers, base64urlToInt_intToBase64url, ok_bind]
  rfl

theorem rsaJwk_of_numbers {pem input : Str} {numbers : RsaNumbers}
    (hnumbers : numbersOf pem = .ok numbers) (hinput : thumbprintInput numbers = .ok input) :
    rsaJwk numbersOf sha pem = .ok ⟨base64url (sha.digest input), intToBase64url numbers.n,
      intToBase64url numbers.e⟩ := by
  rw [rsaJwk, hnumbers, ok_bind, hinput]
  rfl

theorem jwksEntries_eq_ok {publicKey : Str} {previous : List Str} {entries : List Jwk}
    (h : jwksEntries numbersOf sha publicKey previous = .ok entries) :
    List.Forall₂ (fun pem entry => rsaJwk numbersOf sha pem = .ok entry) (publicKey :: previous)
      entries := by
  unfold jwksEntries at h
  split at h
  · rename_i hmap
    cases h
    exact mapM_eq_ok hmap
  · cases h

/-- The PEM text and the entry that a kid selects are of one key. -/
theorem findKey_selectEntry {service : KeyService}
    (hservice : ∀ pem, service.kidOfPem pem = (rsaJwk numbersOf sha pem).map Jwk.kid) (kid : Kid)
    {pems : List Str} {entries : List Jwk}
    (h : List.Forall₂ (fun pem entry => rsaJwk numbersOf sha pem = .ok entry) pems entries) :
    ∃ found, findKey service (some kid) pems = .ok found ∧
      Option.Rel (fun pem entry => pem ∈ pems ∧ rsaJwk numbersOf sha pem = .ok entry ∧
        entry.kid = kid) found (selectEntry kid entries) := by
  induction h with
  | nil => exact ⟨none, rfl, .none⟩
  | @cons pem entry pems entries hpem _ ih =>
    rw [findKey, hservice, hpem]
    by_cases hkid : entry.kid = kid
    · refine ⟨some pem, if_pos (congrArg some hkid), ?_⟩
      rw [selectEntry, List.find?_cons_of_pos (by simpa using hkid)]
      exact .some ⟨List.mem_cons_self, hpem, hkid⟩
    · obtain ⟨found, hfound, hrel⟩ := ih
      refine ⟨found, (if_neg (fun h => hkid (Option.some.inj h))).trans hfound, ?_⟩
      rw [selectEntry, List.find?_cons_of_neg (by simpa using hkid), ← selectEntry]
      generalize selectEntry kid entries = selected at hrel ⊢
      cases hrel with
      | none => exact .none
      | some h => exact .some ⟨List.mem_cons_of_mem _ h.1, h.2⟩

end

/-- No two published keys have one hash.  A thumbprint is all that a `kid` says of a key, so two
keys with one thumbprint could not be told apart by any selection. -/
def NoThumbprintCollision (numbersOf : Str → Except PyError RsaNumbers) (sha : Sha256)
    (pems : List Str) : Prop :=
  ∀ pem ∈ pems, ∀ pem' ∈ pems, ∀ numbers numbers' input input',
    numbersOf pem = .ok numbers → numbersOf pem' = .ok numbers' →
    thumbprintInput numbers = .ok input → thumbprintInput numbers' = .ok input' →
    sha.digest input = sha.digest input' → input = input'

/-- What a kid selects, from the key set and by AXG: one key, or nothing. -/
def Selects (numbersOf : Str → Except PyError RsaNumbers) (service : KeyService)
    (env : Environment) (loaded : LoadedKeys) (entries : List Jwk) (kid : Kid)
    (key : Option RsaNumbers) : Prop :=
  (∃ found, verificationPem service env loaded (some kid) = .ok found ∧
      found.map numbersOf = key.map .ok) ∧
    (selectEntry kid entries).map Jwk.numbers = key.map .ok

/-- A published key set and AXG verify with one key, whatever the kid; and the kid of a published
key selects that key, unless hashes of published keys collide.  The modulus and the exponent are
those that a reader decodes from the entry, so the bytes of `_int_to_base64url` are part of the
statement. -/
theorem jwks_selects {numbersOf : Str → Except PyError RsaNumbers} {sha : Sha256}
    {service : KeyService} {env : Environment} {loaded : LoadedKeys} {previous : List Str}
    {entries : List Jwk}
    (hservice : ∀ pem, service.kidOfPem pem = (rsaJwk numbersOf sha pem).map Jwk.kid)
    (hprevious : previousPublicKeys env = .ok previous)
    (hentries : jwksEntries numbersOf sha loaded.publicKey previous = .ok entries)
    (hcollision : NoThumbprintCollision numbersOf sha (loaded.publicKey :: previous)) :
    (∀ kid, ∃ key, Selects numbersOf service env loaded entries kid key) ∧
      ∀ pem ∈ loaded.publicKey :: previous, ∃ kid numbers, service.kidOfPem pem = .ok kid ∧
        numbersOf pem = .ok numbers ∧
        Selects numbersOf service env loaded entries kid (some numbers) := by
  have hall := jwksEntries_eq_ok hentries
  have hselect : ∀ kid, ∃ found, verificationPem service env loaded (some kid) = .ok found ∧
      Option.Rel (fun pem entry => pem ∈ loaded.publicKey :: previous ∧
        rsaJwk numbersOf sha pem = .ok entry ∧ entry.kid = kid) found
          (selectEntry kid entries) := by
    intro kid
    rw [verificationPem, hprevious, ok_bind]
    exact findKey_selectEntry hservice kid hall
  have hagree : ∀ kid, ∃ key, Selects numbersOf service env loaded entries kid key := by
    intro kid
    obtain ⟨found, hfound, hrel⟩ := hselect kid
    unfold Selects
    generalize selectEntry kid entries = selected at hrel ⊢
    cases hrel with
    | none => exact ⟨none, ⟨none, hfound, rfl⟩, rfl⟩
    | some h =>
      obtain ⟨numbers, -, hnumbers, -, -, hentry⟩ := rsaJwk_eq_ok h.2.1
      exact ⟨some numbers, ⟨_, hfound, congrArg some hnumbers⟩, congrArg some hentry⟩
  refine ⟨hagree, fun pem hpem => ?_⟩
  obtain ⟨entry, hmem, hentry⟩ := exists_of_mem_forall₂ hall hpem
  obtain ⟨numbers, input, hnumbers, hinput, hkid, -⟩ := rsaJwk_eq_ok hentry
  have hkidOf : service.kidOfPem pem = .ok entry.kid := by
    rw [hservice, hentry]
    rfl
  refine ⟨entry.kid, numbers, hkidOf, hnumbers, ?_⟩
  obtain ⟨found, hfound, hrel⟩ := hselect entry.kid
  have hsome : (selectEntry entry.kid entries).isSome := by
    rw [selectEntry, List.find?_isSome]
    exact ⟨entry, hmem, decide_eq_true rfl⟩
  unfold Selects
  generalize selectEntry entry.kid entries = selected at hrel hsome ⊢
  cases hrel with
  | none => cases hsome
  | @some pem' entry' h =>
    obtain ⟨hpem', hentry', hkids⟩ := h
    obtain ⟨numbers', input', hnumbers', hinput', hkid', hread⟩ := rsaJwk_eq_ok hentry'
    -- the first key of the kid hashes to the same digest, so it is this one
    have hdigest : sha.digest input = sha.digest input' := by
      refine base64url_injective ?_
      rw [← hkid, ← hkid', hkids]
    have hinputs : input = input' :=
      hcollision pem hpem pem' hpem' _ _ _ _ hnumbers hnumbers' hinput hinput' hdigest
    subst hinputs
    cases thumbprintInput_injective hinput hinput'
    exact ⟨⟨pem', hfound, congrArg some hnumbers'⟩, congrArg some hread⟩

/-! ## 4. Two keys -/

/-- The public key of a deployment. -/
def currentPem : Str :=
  lit ("-----BEGIN PUBLIC KEY-----\nMBswDQYJKoZIhvcNAQEBBQADCgAwBwICDKECARE=\n" ++
    "-----END PUBLIC KEY-----\n")

/-- The one it signed with before. -/
def retiredPem : Str :=
  lit ("-----BEGIN PUBLIC KEY-----\nMBswDQYJKoZIhvcNAQEBBQADCgAwBwICDDcCARE=\n" ++
    "-----END PUBLIC KEY-----\n")

def currentNumbers : RsaNumbers := ⟨17, 3233⟩

def retiredNumbers : RsaNumbers := ⟨17, 3127⟩

/-- What the two PEM texts spell. -/
def twoKeys (pem : Str) : Except PyError RsaNumbers :=
  if pem = currentPem then .ok currentNumbers
  else if pem = retiredPem then .ok retiredNumbers
  else .error .valueError

def currentInput : Str := lit "\x7b\"e\":\"EQ\",\"kty\":\"RSA\",\"n\":\"DKE\"\x7d"

def retiredInput : Str := lit "\x7b\"e\":\"EQ\",\"kty\":\"RSA\",\"n\":\"DDc\"\x7d"

/-- Their thumbprints. -/
def keyDigests : DigestTable where
  rows := [
    (currentInput, lit "6a0c21bb54dc43229ea8b47b2da599164aa5e7aeecc962e4f6e7aa8b817adbd7"),
    (retiredInput, lit "fa65e537f605199e929e9f757a712b69201359c1d61b36b6ee32065941ab4b6e")]
  isDigest := by decide +kernel
  nodup := by decide +kernel

theorem thumbprintInput_twoKeys : thumbprintInput currentNumbers = .ok currentInput ∧
    thumbprintInput retiredNumbers = .ok retiredInput := by
  have hrender : (Json.obj (thumbprintMembers currentNumbers)).doc.render .ascii [] =
        currentInput ∧
      (Json.obj (thumbprintMembers retiredNumbers)).doc.render .ascii [] = retiredInput := by
    decide +kernel
  rw [thumbprintInput_eq, thumbprintInput_eq, hrender.1, hrender.2]
  exact ⟨rfl, rfl⟩

/-- The key library, as far as it knows the two keys. -/
def twoKeyService : KeyService where
  kidOfPem pem := (rsaJwk twoKeys (.ofTable keyDigests) pem).map Jwk.kid
  pairOfPem _ := none
  derivePublicKey _ := .error .valueError
  kidOfPem_derived h := nomatch h

def afterRotation : Environment where
  privateKey := some (lit "private")
  publicKey := some currentPem
  previousPublicKeys := retiredText retiredPem
  isProduction := true
  generated := []

theorem previousPublicKeys_afterRotation :
    previousPublicKeys afterRotation = .ok [retiredPem] := by
  have hstrip : strip afterRotation.previousPublicKeys = retiredText retiredPem := by
    decide +kernel
  have hne : retiredText retiredPem ≠ [] := by decide +kernel
  have hloads : loads (retiredText retiredPem) = .ok (.arr [.str retiredPem]) :=
    loads_retiredText (isScalar_lit _)
  have hkey : unescapeNewlines retiredPem = retiredPem := by decide +kernel
  rw [previousPublicKeys, hstrip, if_neg hne, hloads]
  simp only [List.mapM_cons, List.mapM_nil, retiredKey, hkey]
  rfl

theorem twoKeys_eq_ok {pem : Str} {numbers : RsaNumbers} (h : twoKeys pem = .ok numbers) :
    numbers = currentNumbers ∨ numbers = retiredNumbers := by
  unfold twoKeys at h
  split at h
  · exact .inl (Except.ok.inj h).symm
  · split at h
    · exact .inr (Except.ok.inj h).symm
    · cases h

theorem twoKeys_noCollision (pems : List Str) :
    NoThumbprintCollision twoKeys (.ofTable keyDigests) pems := by
  have hne : Sha256.digest (.ofTable keyDigests) currentInput ≠
      Sha256.digest (.ofTable keyDigests) retiredInput := by decide +kernel
  obtain ⟨hcurrent, hretired⟩ := thumbprintInput_twoKeys
  intro pem _ pem' _ numbers numbers' input input' hnumbers hnumbers' hinput hinput' h
  rcases twoKeys_eq_ok hnumbers with rfl | rfl <;> rcases twoKeys_eq_ok hnumbers' with rfl | rfl
  · exact Except.ok.inj (hinput.symm.trans hinput')
  · rw [← Except.ok.inj (hcurrent.symm.trans hinput),
      ← Except.ok.inj (hretired.symm.trans hinput')] at h
    exact absurd h hne
  · rw [← Except.ok.inj (hretired.symm.trans hinput),
      ← Except.ok.inj (hcurrent.symm.trans hinput')] at h
    exact absurd h.symm hne
  · exact Except.ok.inj (hinput.symm.trans hinput')

theorem jwks_selects_afterRotation : ∃ entries,
    jwksEntries twoKeys (.ofTable keyDigests) currentPem [retiredPem] = .ok entries ∧
      ∀ pem ∈ [currentPem, retiredPem], ∃ kid numbers,
        twoKeyService.kidOfPem pem = .ok kid ∧ twoKeys pem = .ok numbers ∧
        Selects twoKeys twoKeyService afterRotation ⟨lit "private", currentPem⟩ entries kid
          (some numbers) := by
  have hne : retiredPem ≠ currentPem := by decide +kernel
  have hcurrent := @rsaJwk_of_numbers twoKeys (.ofTable keyDigests) currentPem _ _ (if_pos rfl)
    thumbprintInput_twoKeys.1
  have hretired := @rsaJwk_of_numbers twoKeys (.ofTable keyDigests) retiredPem _ _
    ((if_neg hne).trans (if_pos rfl)) thumbprintInput_twoKeys.2
  have hentries : ∃ entries,
      jwksEntries twoKeys (.ofTable keyDigests) currentPem [retiredPem] = .ok entries := by
    simp only [jwksEntries, List.mapM_cons, List.mapM_nil, hcurrent, hretired]
    exact ⟨_, rfl⟩
  obtain ⟨entries, hentries⟩ := hentries
  exact ⟨entries, hentries, (@jwks_selects twoKeys (.ofTable keyDigests) twoKeyService afterRotation
    ⟨lit "private", currentPem⟩ [retiredPem] _ (fun _ => rfl) previousPublicKeys_afterRotation
    hentries (twoKeys_noCollision _)).2⟩

end Axg
