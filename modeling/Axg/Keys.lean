/-
# Keys and their rotation (`axg/crypto.py`, `KeyManager`)

The environment gives the keys as PEM text: the private key, the public key, which may be left to
be derived, and the retired public keys.  `KeyManager()` loads the first two and compares nothing;
the retired keys are read on every call that looks a key up or publishes the key set, and one of
them that cannot be read makes the call raise.

A deployment is rotated to an environment that lists the key it replaces (`Rotation`).  That alone
does not keep a Passport verifiable.  The keys it was signed with may be no pair, so that the `kid`
in its header names a key that did not sign it; a later environment may have a retired key that
cannot be read; and an environment two rotations on need not list the key any more.
`passports_verify_iff` says that these are all the ways in which a Passport is lost.
-/
import Mathlib.Data.List.Chain
import Axg.Introspection
import Axg.Python.JsonBytes

namespace Axg

open Python

/-! ## 1. The environment -/

/-- The PEM functions of the key library.  An RSA key pair is named by its thumbprint. -/
structure KeyService where
  /-- `_rsa_jwk(pem)["kid"]` -/
  kidOfPem : Str → Except PyError Kid
  /-- The pair of an RSA private key, where `jwt.encode` can sign with it. -/
  pairOfPem : Str → Option Kid
  /-- `_derive_public_key` -/
  derivePublicKey : Str → Except PyError Str
  /-- The derived text is that of the public half. -/
  kidOfPem_derived : ∀ {pem derived : Str} {kid : Kid}, derivePublicKey pem = .ok derived →
    pairOfPem pem = some kid → kidOfPem derived = .ok kid

/-- The variables `KeyManager` reads; `generated` is the private key that it would generate. -/
structure Environment where
  privateKey : Option Str
  publicKey : Option Str
  previousPublicKeys : Str
  isProduction : Bool
  generated : Str

/-- `KeyConfigError`, or an exception of the key library. -/
inductive KeyFault
  | keyConfigError
  | raised (e : PyError)

def keyFault {α : Type} : Except PyError α → Except KeyFault α
  | .ok a => .ok a
  | .error e => .error (.raised e)

/-- The keys in memory, as PEM text. -/
structure LoadedKeys where
  privateKey : Str
  publicKey : Str

/-- A variable that is set, and not to the empty string. -/
def setValue (value : Option Str) : Option Str := value.filter (fun s => s ≠ [])

section

variable (service : KeyService) (env : Environment)

/-- A private key and the public key that belongs to it. -/
def withDerivedKey (pem : Str) : Except KeyFault LoadedKeys := do
  let derived ← keyFault (service.derivePublicKey pem)
  return ⟨pem, derived⟩

/-- `_load_keys` -/
def loadKeys : Except KeyFault LoadedKeys :=
  match setValue env.privateKey with
  | some privateKey =>
    match setValue env.publicKey with
    | some publicKey => .ok ⟨unescapeNewlines privateKey, unescapeNewlines publicKey⟩
    | none => withDerivedKey service (unescapeNewlines privateKey)
  | none =>
    if env.isProduction then .error .keyConfigError else withDerivedKey service env.generated

/-- `k.replace("\\n", "\n")`, of an item of the list. -/
def retiredKey : Json → Except PyError Str
  | .str s => .ok (unescapeNewlines s)
  | _ => .error .attributeError

/-- `_previous_public_keys` -/
def previousPublicKeys : Except PyError (List Str) :=
  if strip env.previousPublicKeys = [] then .ok []
  else
    match loads (strip env.previousPublicKeys) with
    | .ok (.arr keys) => keys.mapM retiredKey
    | .ok _ => .error .valueError
    | .error e => .error e

/-- The first key of a kid; a key before it that is no RSA key raises. -/
def findKey (kid : Option Kid) : List Str → Except PyError (Option Str)
  | [] => .ok none
  | pem :: pems => do
    let found ← service.kidOfPem pem
    if some found = kid then return some pem else findKey kid pems

/-- `verification_key`, as PEM text. -/
def verificationPem (loaded : LoadedKeys) (kid : Option Kid) : Except PyError (Option Str) := do
  let previous ← previousPublicKeys env
  findKey service kid (loaded.publicKey :: previous)

/-- `verification_key`, as the key that a signature is checked with. -/
def verificationKeyOf (loaded : LoadedKeys) : KeyLookup := fun kid => do
  match ← verificationPem service env loaded kid with
  | some pem => return some (← service.kidOfPem pem)
  | none => return none

/-- The keys as `sign_decision` uses them.  What the thumbprint of the public key or `jwt.encode`
raises becomes a `ValueError`: there is no key to sign with. -/
def LoadedKeys.signing (loaded : LoadedKeys) : KeyManager :=
  match service.kidOfPem loaded.publicKey with
  | .ok kid => ⟨service.pairOfPem loaded.privateKey, kid, []⟩
  | .error _ => ⟨none, [], []⟩

/-- `get_jwks`: the kid of each entry. -/
def getJwks (loaded : LoadedKeys) : Except PyError (List Kid) :=
  let entries : Except PyError (List Kid) := do
    let previous ← previousPublicKeys env
    (loaded.publicKey :: previous).mapM service.kidOfPem
  match entries with
  | .ok kids => .ok kids
  | .error _ => .error .valueError

/-! ## 2. What an environment signs with and publishes -/

/-- The environment signs Passports with the private half of `signer`, under the `kid`. -/
def SignsAs (kid signer : Kid) : Prop :=
  ∃ loaded, loadKeys service env = .ok loaded ∧ service.kidOfPem loaded.publicKey = .ok kid ∧
    service.pairOfPem loaded.privateKey = some signer

/-- `AXG_PREVIOUS_PUBLIC_KEYS` is empty or a list of texts, these and the public key are RSA keys,
and their thumbprints are `kids`. -/
def Publishes (kids : List Kid) : Prop :=
  ∃ loaded previous, loadKeys service env = .ok loaded ∧ previousPublicKeys env = .ok previous ∧
    List.Forall₂ (fun pem kid => service.kidOfPem pem = .ok kid) (loaded.publicKey :: previous) kids

/-- `previous_public_keys` is read, and so is each key up to the first one of the `kid`.  The
search stops there, so a key behind it may be anything, and a `kid` that nobody has reads them
all. -/
def KeysRead (loaded : LoadedKeys) (kid : Option Kid) : Prop :=
  ∃ previous, previousPublicKeys env = .ok previous ∧
    ∀ before pem after, loaded.publicKey :: previous = before ++ pem :: after →
      (∀ earlier ∈ before, ∀ k, service.kidOfPem earlier = .ok k → some k ≠ kid) →
      ∃ k, service.kidOfPem pem = .ok k

end

section Reading

variable {service : KeyService} {env : Environment} {loaded : LoadedKeys} {kid signer : Kid}
  {kids : List Kid}

theorem getJwks_eq_ok_iff (hload : loadKeys service env = .ok loaded) :
    getJwks service env loaded = .ok kids ↔ Publishes service env kids := by
  constructor
  · intro h
    unfold getJwks at h
    simp only at h
    split at h
    · rename_i ks hks
      cases h
      obtain ⟨previous, hprevious, hkids⟩ := bind_eq_ok hks
      exact ⟨loaded, previous, hload, hprevious, mapM_eq_ok hkids⟩
    · cases h
  · rintro ⟨loaded', previous, hload', hprevious, hkids⟩
    cases hload.symm.trans hload'
    have hall : (loaded.publicKey :: previous).mapM service.kidOfPem = .ok kids :=
      mapM_of_forall₂ hkids
    rw [getJwks, hprevious, ok_bind, hall]

theorem Publishes.unique {kids' : List Kid} (h : Publishes service env kids)
    (h' : Publishes service env kids') : kids = kids' := by
  have h₀ := h
  obtain ⟨loaded, -, hload, -⟩ := h₀
  exact Except.ok.inj (((getJwks_eq_ok_iff hload).mpr h).symm.trans
    ((getJwks_eq_ok_iff hload).mpr h'))

/-- A scan over keys that are all read finds a kid that is among theirs. -/
theorem findKey_of_forall {pems : List Str}
    (h : List.Forall₂ (fun pem k => service.kidOfPem pem = .ok k) pems kids) (hmem : kid ∈ kids) :
    ∃ pem, findKey service (some kid) pems = .ok (some pem) ∧ service.kidOfPem pem = .ok kid := by
  induction h with
  | nil => cases hmem
  | @cons pem k pems kids hpem _ ih =>
    rw [findKey, hpem, ok_bind]
    by_cases hk : k = kid
    · exact ⟨pem, if_pos (congrArg some hk), hk ▸ hpem⟩
    · obtain ⟨found, hfound, hkid⟩ := ih ((List.mem_cons.mp hmem).resolve_left (Ne.symm hk))
      exact ⟨found, (if_neg fun h => hk (Option.some.inj h)).trans hfound, hkid⟩

theorem verificationKeyOf_of_publishes (hload : loadKeys service env = .ok loaded)
    (h : Publishes service env kids) (hmem : kid ∈ kids) :
    verificationKeyOf service env loaded (some kid) = .ok (some kid) := by
  obtain ⟨loaded', previous, hload', hprevious, hkids⟩ := h
  cases hload.symm.trans hload'
  obtain ⟨pem, hfound, hpem⟩ := findKey_of_forall hkids hmem
  have hverification : verificationPem service env loaded (some kid) = .ok (some pem) := by
    rw [verificationPem, hprevious, ok_bind, hfound]
  rw [verificationKeyOf, hverification, ok_bind]
  simp only [hpem, ok_bind]
  rfl

/-- A scan returns exactly when it can read the keys up to the one that it looks for. -/
theorem findKey_isOk_iff {kid : Option Kid} {pems : List Str} :
    (∃ found, findKey service kid pems = .ok found) ↔
      ∀ before pem after, pems = before ++ pem :: after →
        (∀ earlier ∈ before, ∀ k, service.kidOfPem earlier = .ok k → some k ≠ kid) →
        ∃ k, service.kidOfPem pem = .ok k := by
  induction pems with
  | nil => simp [findKey]
  | cons first pems ih =>
    rw [findKey]
    cases hfirst : service.kidOfPem first with
    | error e =>
      refine iff_of_false (by simp) fun hall => ?_
      obtain ⟨k, hk⟩ := hall [] first pems rfl (fun _ h => nomatch h)
      cases hfirst.symm.trans hk
    | ok k =>
      rw [ok_bind]
      by_cases hk : some k = kid
      · rw [if_pos hk]
        refine iff_of_true ⟨_, rfl⟩ fun before pem after hsplit hnone => ?_
        cases before with
        | nil =>
          obtain ⟨rfl, -⟩ := List.cons.inj hsplit
          exact ⟨k, hfirst⟩
        | cons earlier before =>
          obtain ⟨rfl, -⟩ := List.cons.inj hsplit
          exact absurd hk (hnone first List.mem_cons_self k hfirst)
      -- another key: the scan goes on, and this key is one of those before the next
      · rw [if_neg hk, ih]
        constructor
        · intro hall before pem after hsplit hnone
          cases before with
          | nil =>
            obtain ⟨rfl, -⟩ := List.cons.inj hsplit
            exact ⟨k, hfirst⟩
          | cons earlier before =>
            obtain ⟨-, hsplit⟩ := List.cons.inj hsplit
            exact hall before pem after hsplit fun e he => hnone e (List.mem_cons_of_mem _ he)
        · intro hall before pem after hsplit hnone
          refine hall (first :: before) pem after (congrArg (first :: ·) hsplit) ?_
          refine List.forall_mem_cons.mpr ⟨fun k' hk' => ?_, hnone⟩
          cases hfirst.symm.trans hk'
          exact hk

/-- A key that was found has a thumbprint. -/
theorem kidOfPem_of_findKey {kid : Option Kid} {pems : List Str} {pem : Str}
    (h : findKey service kid pems = .ok (some pem)) :
    ∃ k, service.kidOfPem pem = .ok k := by
  induction pems with
  | nil => cases h
  | cons first pems ih =>
    rw [findKey] at h
    obtain ⟨k, hk, h⟩ := bind_eq_ok h
    split at h
    · cases h
      exact ⟨k, hk⟩
    · exact ih h

/-- `verification_key` returns exactly when the settings are read as far as it looks. -/
theorem verificationKeyOf_isOk_iff {kid : Option Kid} :
    (∃ found, verificationKeyOf service env loaded kid = .ok found) ↔
      KeysRead service env loaded kid := by
  unfold verificationKeyOf verificationPem KeysRead
  cases previousPublicKeys env with
  | error e => simp
  | ok previous =>
    simp only [ok_bind, Except.ok.injEq, exists_eq_left']
    rw [← findKey_isOk_iff]
    cases hfound : findKey service kid (loaded.publicKey :: previous) with
    | error e => simp
    | ok found =>
      refine iff_of_true ?_ ⟨found, rfl⟩
      cases found with
      | none => exact ⟨none, rfl⟩
      | some pem =>
        obtain ⟨k, hk⟩ := kidOfPem_of_findKey hfound
        exact ⟨some k, by simp only [ok_bind, hk]; rfl⟩

/-- A public key that is left to be derived is the private key's. -/
theorem signer_eq_of_derived (h : setValue env.publicKey = none)
    (hsigns : SignsAs service env kid signer) : signer = kid := by
  obtain ⟨loaded, hload, hkid, hpair⟩ := hsigns
  have hderived : ∀ pem, withDerivedKey service pem = .ok loaded → signer = kid := by
    intro pem hpem
    obtain ⟨derived, hd, hpem⟩ := bind_eq_ok hpem
    cases hpem
    cases hk : service.derivePublicKey pem with
    | error e => rw [hk] at hd; cases hd
    | ok text =>
      rw [hk] at hd
      cases hd
      exact Except.ok.inj ((service.kidOfPem_derived hk hpair).symm.trans hkid)
  unfold loadKeys at hload
  rw [h] at hload
  split at hload
  · exact hderived _ hload
  · split at hload
    · cases hload
    · exact hderived _ hload

end Reading

/-! ## 3. Rotation -/

section

variable (service : KeyService)

/-- The next environment goes on with the public key of the one before, or
`AXG_PREVIOUS_PUBLIC_KEYS` lists it. -/
def Rotation (env env' : Environment) : Prop :=
  ∃ loaded loaded', loadKeys service env = .ok loaded ∧ loadKeys service env' = .ok loaded' ∧
    (service.kidOfPem loaded'.publicKey = service.kidOfPem loaded.publicKey ∨
      ∃ entries s, loads (strip env'.previousPublicKeys) = .ok (.arr entries) ∧
        .str s ∈ entries ∧
        service.kidOfPem (unescapeNewlines s) = service.kidOfPem loaded.publicKey)

/-- Environments that `KeyManager` takes, one after the other, each a rotation of the last.
Nothing is asked of a retired key but that the replaced one is listed; `KeyManager` itself reads
none of them. -/
structure IsHistory (history : List Environment) : Prop where
  loads : ∀ env ∈ history, ∃ loaded, loadKeys service env = .ok loaded
  rotations : history.IsChain (Rotation service)

/-- A key set has the key of a token, and it verifies the token. -/
def JwksVerifies (kids : List Kid) (token : Token) : Prop :=
  (∃ kid ∈ kids, token.header.bind JoseHeader.kid = some kid) ∧
    ∀ kid ∈ kids, token.header.bind JoseHeader.kid = some kid → token.signer = some kid

/-- What is asked of a Passport under an environment, until it expires. -/
def VerifiesUnder (sha : Sha256) (env : Environment) (grant : DecisionGrant) (token : Token) :
    Prop :=
  ∀ loaded now begun expires, loadKeys service env = .ok loaded →
    token.claims.lookup (lit "nbf") = some (.int begun) →
    token.claims.lookup (lit "exp") = some (.int expires) →
    begun * 1000000 ≤ (now : Clock) → (now : Int) < expires * 1000000 →
    introspectWith sha (verificationKeyOf service env loaded) now token (some grant.actionType)
        (some grant.actionablePayload) = .ok (.ok token.claims) ∧
      ∃ kids, getJwks service env loaded = .ok kids ∧ JwksVerifies kids token

/-- Every Passport that is signed under one of the environments verifies under it and every later
one. -/
def PassportsVerify (sha : Sha256) (history : List Environment) : Prop :=
  ∀ env after, env :: after <:+ history → ∀ loaded, loadKeys service env = .ok loaded →
    ∀ signedAt uuid grant token jti,
      signDecision sha (loaded.signing service) signedAt uuid grant = .ok (token, jti) →
      ∀ later ∈ env :: after, VerifiesUnder service sha later grant token

/-- Each environment that signs has a pair of keys, every key of it and of each later environment
is read, and the environments after the next one still have its public key. -/
def KeysKept (history : List Environment) : Prop :=
  ∀ env after, env :: after <:+ history → ∀ kid signer, SignsAs service env kid signer →
    signer = kid ∧ (∀ later ∈ env :: after, ∃ kids, Publishes service later kids) ∧
      ∀ later ∈ after.tail, ∀ kids, Publishes service later kids → kid ∈ kids

end

section Rotating

variable {service : KeyService} {sha : Sha256} {env next : Environment} {kid signer : Kid}
  {kids : List Kid}

theorem SignsAs.mem (hsigns : SignsAs service env kid signer)
    (h : Publishes service env kids) : kid ∈ kids := by
  obtain ⟨loaded, hload, hkid, -⟩ := hsigns
  obtain ⟨loaded', previous, hload', -, hkids⟩ := h
  cases hload.symm.trans hload'
  cases hkids with
  | cons hpublic _ =>
    cases hkid.symm.trans hpublic
    exact List.mem_cons_self

/-- A listed key is one of the retired keys. -/
theorem mem_previousPublicKeys {entries : List Json} {s : Str} {previous : List Str}
    (hloads : loads (strip env.previousPublicKeys) = .ok (.arr entries)) (hs : .str s ∈ entries)
    (h : previousPublicKeys env = .ok previous) : unescapeNewlines s ∈ previous := by
  have hne : strip env.previousPublicKeys ≠ [] := by
    intro hnil
    rw [hnil] at hloads
    cases hloads
  rw [previousPublicKeys, if_neg hne, hloads] at h
  obtain ⟨pem, hpem, hread⟩ := exists_of_mapM_eq_ok h hs
  cases hread
  exact hpem

/-- The environment after a rotation publishes the key that was replaced. -/
theorem Rotation.mem (h : Rotation service env next) (hsigns : SignsAs service env kid signer)
    (hpublishes : Publishes service next kids) : kid ∈ kids := by
  obtain ⟨loaded, loaded', hload, hload', hkept⟩ := h
  obtain ⟨own, hown, hkid, -⟩ := hsigns
  cases hload.symm.trans hown
  obtain ⟨last, previous, hlast, hprevious, hkids⟩ := hpublishes
  cases hload'.symm.trans hlast
  have hmem : ∀ pem ∈ loaded'.publicKey :: previous, service.kidOfPem pem = .ok kid →
      kid ∈ kids := by
    intro pem hpem hread
    obtain ⟨k, hk, hread'⟩ := exists_of_mem_forall₂ hkids hpem
    cases hread.symm.trans hread'
    exact hk
  rcases hkept with hsame | ⟨entries, s, hloads, hs, hsame⟩
  · exact hmem _ List.mem_cons_self (hsame.trans hkid)
  · exact hmem _ (List.mem_cons_of_mem _ (mem_previousPublicKeys hloads hs hprevious))
      (hsame.trans hkid)

/-- Signing needs a private key that can sign and a public key with a thumbprint. -/
theorem signing_privateKey {loaded : LoadedKeys}
    (hkey : (loaded.signing service).privateKey = some signer) :
    service.kidOfPem loaded.publicKey = .ok (loaded.signing service).publicKey ∧
      service.pairOfPem loaded.privateKey = some signer := by
  unfold LoadedKeys.signing at hkey ⊢
  cases hkid : service.kidOfPem loaded.publicKey with
  | error e => rw [hkid] at hkey; cases hkey
  | ok k => rw [hkid] at hkey; exact ⟨rfl, hkey⟩

theorem signing_of_signs {loaded : LoadedKeys} (hload : loadKeys service env = .ok loaded)
    (hsigns : SignsAs service env kid signer) :
    loaded.signing service = ⟨some signer, kid, []⟩ := by
  obtain ⟨loaded', hload', hkid, hpair⟩ := hsigns
  cases hload.symm.trans hload'
  rw [LoadedKeys.signing, hkid]
  simp only [hpair]

/-- Under keys that are all read and have the pair's key, a Passport of the pair verifies. -/
theorem verifiesUnder_of_mem {grant : DecisionGrant} {signedAt : Clock} {hash : Str} {jti : Text}
    (hhash : hashPayload sha grant.actionablePayload = .ok hash)
    (hpublishes : Publishes service env kids) (hmem : kid ∈ kids) :
    VerifiesUnder service sha env grant
      (.jws ⟨some defaultTyp, some kid⟩ (passportClaims signedAt grant jti hash).dump
        (some kid)) := by
  intro loaded now begun expires hload hnbf hexp hbegun hexpires
  cases hnbf
  cases hexp
  have hmatches : Matches sha (verificationKeyOf service env loaded) now kid kid
      (passportClaims signedAt grant jti hash) (some grant.actionType)
      (some grant.actionablePayload) := by
    refine ⟨verificationKeyOf_of_publishes hload hpublishes hmem, ?_, ?_, by simp [passportClaims],
      ?_⟩
    · exact decide_eq_true hbegun
    · exact decide_eq_false (not_le.mpr hexpires)
    · rintro p ⟨⟩
      exact hhash
  refine ⟨(introspectWith_eq_claims_iff rfl).mpr ⟨rfl, hmatches⟩, kids,
    (getJwks_eq_ok_iff hload).mpr hpublishes, ⟨kid, hmem, rfl⟩, ?_⟩
  intro k _ hk
  exact hk

end Rotating

/-- Passports verify through every rotation exactly when the keys are kept: each environment signs
with a pair, it and every later one can read all of its keys, and a key stays listed for as long as
environments follow.  The rotation itself keeps the key for the next environment, so the last part
is about two rotations or more; nothing in the code compares the two keys of an environment or
reads the retired keys when it starts. -/
theorem passports_verify_iff (service : KeyService) (sha : Sha256) {history : List Environment}
    (h : IsHistory service history) :
    PassportsVerify service sha history ↔ KeysKept service history := by
  constructor
  · intro hverify env after hsuffix kid signer hsigns
    obtain ⟨loaded, hload⟩ := h.loads env (hsuffix.subset List.mem_cons_self)
    obtain ⟨hash, hhash⟩ : ∃ hash, hashPayload sha (amountGrant 1).actionablePayload = .ok hash :=
      canonicalHash_isOk_iff.mpr (by decide +kernel)
    have hsign := @signDecision_of_hash _ _ 0 (.lit "j1") _ _ _ hhash rfl
      (congrArg KeyManager.privateKey (signing_of_signs hload hsigns))
    have hlater : ∀ later ∈ env :: after, ∃ kids, Publishes service later kids ∧ kid ∈ kids ∧
        signer = kid := by
      intro later hmem
      obtain ⟨loaded', hload'⟩ := h.loads later (hsuffix.subset hmem)
      obtain ⟨-, kids, hjwks, ⟨k, hk, hhas⟩, hverifies⟩ := hverify env after hsuffix loaded hload 0
        _ _ _ _ hsign later hmem loaded' 0 0 300 hload' rfl rfl (by decide) (by decide)
      have hown : k = kid := by
        rw [signing_of_signs hload hsigns] at hhas
        exact (Option.some.inj hhas).symm
      subst hown
      exact ⟨kids, (getJwks_eq_ok_iff hload').mp hjwks, hk, Option.some.inj (hverifies k hk hhas)⟩
    refine ⟨?_, fun later hmem => ?_, fun later hmem kids hkids => ?_⟩
    · obtain ⟨-, -, -, hpair⟩ := hlater env List.mem_cons_self
      exact hpair
    · obtain ⟨kids, hkids, -⟩ := hlater later hmem
      exact ⟨kids, hkids⟩
    · obtain ⟨kids', hkids', hkid, -⟩ :=
        hlater later (List.mem_cons_of_mem _ (List.mem_of_mem_tail hmem))
      exact hkids.unique hkids' ▸ hkid
  · intro hkept env after hsuffix loaded hload signedAt uuid grant token jti hsign later hmem
    obtain ⟨hash, signer, hhash, -, hkey, -, rfl⟩ := signDecision_eq_ok hsign
    obtain ⟨hkid, hpair⟩ := signing_privateKey hkey
    have hsigns : SignsAs service env (loaded.signing service).publicKey signer :=
      ⟨loaded, hload, hkid, hpair⟩
    obtain ⟨rfl, hread, hlisted⟩ := hkept env after hsuffix _ signer hsigns
    obtain ⟨kids, hkids⟩ := hread later hmem
    refine verifiesUnder_of_mem hhash hkids ?_
    -- this environment, the next one, or one that has to list the key still
    rcases List.mem_cons.mp hmem with rfl | hmem
    · exact hsigns.mem hkids
    cases after with
    | nil => cases hmem
    | cons next after =>
      rcases List.mem_cons.mp hmem with rfl | hmem
      · have hchain := h.rotations.suffix hsuffix
        exact (List.isChain_cons_cons.mp hchain).1.mem hsigns hkids
      · exact hlisted later hmem kids hkids

/-! ## 4. Keys that are no pair, and a rotation -/

/-- PEM texts that spell the key pair. -/
def pemKeys : KeyService where
  kidOfPem pem :=
    if (lit "public:").isPrefixOf pem then .ok (pem.drop 7) else .error .valueError
  pairOfPem pem := if (lit "private:").isPrefixOf pem then some (pem.drop 8) else none
  derivePublicKey pem :=
    if (lit "private:").isPrefixOf pem then .ok (lit "public:" ++ pem.drop 8)
    else .error .valueError
  kidOfPem_derived := by
    intro pem derived kid hderived hpair
    split at hderived
    · rename_i h
      cases hderived
      rw [if_pos h] at hpair
      cases hpair
      rfl
    · cases hderived

/-- A new private key beside the public key that it replaces. -/
def halfRotated : Environment where
  privateKey := some (lit "private:b")
  publicKey := some (lit "public:a")
  previousPublicKeys := []
  isProduction := true
  generated := []

def halfRotatedKeys : LoadedKeys := ⟨lit "private:b", lit "public:a"⟩

/-- A Passport of its keys. -/
def halfRotatedPassport : Token :=
  .jws ⟨some defaultTyp, some (lit "a")⟩
    (passportClaims 0 (amountGrant 9007199254740992) (.lit "j1") amountHash).dump (some (lit "b"))

theorem loadKeys_halfRotated : loadKeys pemKeys halfRotated = .ok halfRotatedKeys :=
  rfl

/-- The key manager takes the keys, and does not verify the Passport it signs with them. -/
theorem halfRotated_passport_invalid :
    IsHistory pemKeys [halfRotated] ∧
      signDecision (.ofTable amountDigests) (halfRotatedKeys.signing pemKeys) 0 (.lit "j1")
        (amountGrant 9007199254740992) = .ok (halfRotatedPassport, .lit "j1") ∧
      introspectWith (.ofTable amountDigests)
        (verificationKeyOf pemKeys halfRotated halfRotatedKeys) 0 halfRotatedPassport
        (some (amountGrant 9007199254740992).actionType)
        (some (amountGrant 9007199254740992).actionablePayload) = .ok (.error .invalid) ∧
      ¬ PassportsVerify pemKeys (.ofTable amountDigests) [halfRotated] := by
  have hsign : signDecision (.ofTable amountDigests) (halfRotatedKeys.signing pemKeys) 0
      (.lit "j1") (amountGrant 9007199254740992) = .ok (halfRotatedPassport, .lit "j1") :=
    signDecision_of_hash (hashPayload_amount canonicalJson_amount.1) rfl rfl
  refine ⟨⟨List.forall_mem_singleton.mpr ⟨_, loadKeys_halfRotated⟩, .singleton _⟩, hsign, rfl,
    fun h => ?_⟩
  obtain ⟨hintrospect, -⟩ := h _ _ (List.suffix_refl _) _ loadKeys_halfRotated _ _ _ _ _ hsign
    halfRotated List.mem_cons_self _ 0 0 300 loadKeys_halfRotated rfl rfl (by decide) (by decide)
  cases hintrospect

/-- The list of retired keys, of one key. -/
def retiredText (pem : Str) : Str := (Json.arr [.str pem]).doc.render .ascii [0x20]

theorem loads_retiredText {pem : Str} (hscalar : IsScalar pem) :
    loads (retiredText pem) = .ok (.arr [.str pem]) := by
  have hread : dumpsAscii [0x20] (.arr [.str pem]) = .ok (retiredText pem) := if_pos (by rfl)
  rw [loads_dumpsAscii padSpace hread, Json.rejoin, Json.rejoinItems, Json.rejoinItems,
    Json.rejoin, joinSurrogates_of_isScalar hscalar]

/-- An environment whose public key is derived from its one private key. -/
def derivedOnly : Environment := { halfRotated with publicKey := none }

/-- The next one, which lists the key that it replaces. -/
def rotatedOnce : Environment :=
  { derivedOnly with
    privateKey := some (lit "private:c")
    previousPublicKeys := retiredText (lit "public:b") }

theorem loads_rotatedOnce :
    loads (strip rotatedOnce.previousPublicKeys) = .ok (.arr [.str (lit "public:b")]) := by
  have hstrip : strip rotatedOnce.previousPublicKeys = retiredText (lit "public:b") := by
    decide +kernel
  rw [hstrip, loads_retiredText (isScalar_lit _)]

theorem publishes_rotatedOnce :
    Publishes pemKeys derivedOnly [lit "b"] ∧
      Publishes pemKeys rotatedOnce [lit "c", lit "b"] := by
  have hne : strip rotatedOnce.previousPublicKeys ≠ [] := by decide +kernel
  have hprevious : previousPublicKeys rotatedOnce = .ok [lit "public:b"] := by
    rw [previousPublicKeys, if_neg hne, loads_rotatedOnce]
    rfl
  exact ⟨⟨⟨lit "private:b", lit "public:b"⟩, [], rfl, rfl, .cons rfl .nil⟩,
    ⟨⟨lit "private:c", lit "public:c"⟩, _, rfl, hprevious, .cons rfl (.cons rfl .nil)⟩⟩

theorem isHistory_rotatedOnce : IsHistory pemKeys [derivedOnly, rotatedOnce] where
  loads := List.forall_mem_cons.mpr ⟨⟨⟨lit "private:b", lit "public:b"⟩, rfl⟩,
    List.forall_mem_singleton.mpr ⟨⟨lit "private:c", lit "public:c"⟩, rfl⟩⟩
  rotations := List.isChain_pair.mpr ⟨_, _, rfl, rfl, .inr ⟨_, _, loads_rotatedOnce,
    List.mem_cons_self, rfl⟩⟩

theorem passports_verify_iff_rotatedOnce :
    PassportsVerify pemKeys (.ofTable amountDigests) [derivedOnly, rotatedOnce] := by
  refine (passports_verify_iff pemKeys _ isHistory_rotatedOnce).mpr ?_
  obtain ⟨hfirst, hsecond⟩ := publishes_rotatedOnce
  intro env after hsuffix kid signer hsigns
  rcases List.suffix_cons_iff.mp hsuffix with heq | hsuffix
  · cases heq
    exact ⟨signer_eq_of_derived rfl hsigns, List.forall_mem_cons.mpr ⟨⟨_, hfirst⟩,
      List.forall_mem_singleton.mpr ⟨_, hsecond⟩⟩, fun _ h => nomatch h⟩
  rcases List.suffix_cons_iff.mp hsuffix with heq | hsuffix
  · cases heq
    exact ⟨signer_eq_of_derived rfl hsigns, List.forall_mem_singleton.mpr ⟨_, hsecond⟩,
      fun _ h => nomatch h⟩
  · cases List.suffix_nil.mp hsuffix

end Axg
