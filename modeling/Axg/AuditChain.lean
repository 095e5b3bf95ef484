/-
# What an accepted audit log is

`verify_audit_chain` accepts a file exactly when its lines are objects that form a hash chain
from the genesis hash, each carrying its own hash (`verifyAuditChain_true_iff`).  The hash of an
entry commits to everything else in it, the previous hash included, because canonical JSON
determines the value; so the library's facts about hash chains apply, and the last hash commits
to the whole log (`last_hash_commits`).
-/
import Axg.Audit

namespace Axg

open Python General

variable {sha : Sha256}

/-! ## 1. The verifier -/

/-- An entry that carries its own hash. -/
def Authentic (sha : Sha256) (entry : Dict Json) : Prop :=
  ∃ hash, chainHash sha entry = .ok hash ∧ recordHash entry = .str hash

def notBlank (line : Str) : Bool := strip line ≠ []

theorem verifyLine_blank {p : Json} {line : Str} (h : notBlank line = false) :
    verifyLine sha p line = .ok (some p) := by
  have : strip line = [] := by simpa [notBlank] using h
  rw [verifyLine, if_pos this]

theorem lineRecord_eq_ok {line : Str} {entry : Dict Json} :
    lineRecord line = .ok entry ↔ loads line = .ok (.obj entry) := by
  unfold lineRecord
  cases h : loads line with
  | error e => simp
  | ok v =>
    rw [ok_bind]
    cases v with
    | obj ms =>
      constructor
      · intro h; cases h; rfl
      · intro h; cases h; rfl
    | _ =>
      constructor
      · intro h; cases h
      · intro h; cases h

/-- A line that is not blank and lets the verifier go on is an authentic entry that refers to
the entry before it. -/
theorem verifyLine_eq_some {p : Str} {line : Str} {next : Json} (hb : notBlank line = true) :
    verifyLine sha (.str p) line = .ok (some next) ↔ ∃ entry, lineRecord line = .ok entry ∧
      prevHash entry = .str p ∧ Authentic sha entry ∧ next = recordHash entry := by
  have hb : ¬ strip line = [] := by simpa [notBlank] using hb
  simp only [lineRecord_eq_ok]
  rw [verifyLine, if_neg hb]
  cases hl : loads line with
  | error e =>
    cases e <;> simp
  | ok v =>
    cases v with
    | obj entry =>
      simp only [Except.ok.injEq, Json.obj.injEq, exists_eq_left']
      by_cases hprev : prevHash entry = .str p
      · have hpy : (prevHash entry).pyEq (.str p) = true := Json.pyEq_str_iff.mpr hprev
        rw [if_neg (by simp [hpy])]
        cases hc : chainHash sha entry with
        | error e => simp [Authentic, hc]
        | ok hash =>
          rw [ok_bind]
          by_cases hrec : recordHash entry = .str hash
          · have hpy' : (recordHash entry).pyEq (.str hash) = true := Json.pyEq_str_iff.mpr hrec
            rw [if_neg (by simp [hpy'])]
            constructor
            · intro h; cases h; exact ⟨hprev, ⟨hash, hc, hrec⟩, rfl⟩
            · rintro ⟨-, -, rfl⟩; rfl
          · have hpy' : (recordHash entry).pyEq (.str hash) = false :=
              Bool.eq_false_iff.mpr (fun h => hrec (Json.pyEq_str_iff.mp h))
            rw [if_pos hpy']
            constructor
            · intro h; cases h
            · rintro ⟨-, ⟨hash', hc', hrec'⟩, -⟩
              rw [hc] at hc'
              cases hc'
              exact absurd hrec' hrec
      · have hpy : (prevHash entry).pyEq (.str p) = false :=
          Bool.eq_false_iff.mpr (fun h => hprev (Json.pyEq_str_iff.mp h))
        rw [if_pos hpy]
        simp [hprev]
    | _ => simp

/-- Going through the lines is going through the records. -/
theorem verifyLines_true_iff (lines : List Str) (p : Str) (n : Nat) :
    verifyLines sha (.str p) n lines = .ok (true, none) ↔
      ∃ entries, (lines.filter notBlank).mapM lineRecord = .ok entries ∧
        Linked prevHash recordHash (.str p) entries ∧ ∀ e ∈ entries, Authentic sha e := by
  induction lines generalizing p n with
  | nil =>
    rw [verifyLines, List.filter_nil, List.mapM_nil]
    exact iff_of_true rfl ⟨[], rfl, trivial, fun _ h => nomatch h⟩
  | cons line lines ih =>
    rw [verifyLines]
    by_cases hb : notBlank line = true
    · rw [List.filter_cons_of_pos hb, List.mapM_cons]
      -- the hash that the next line must refer to is that of this record, so the induction is over
      -- all starting hashes
      constructor
      · intro h
        obtain ⟨o, ho, hrest⟩ := bind_eq_ok h
        cases o with
        | none => cases hrest
        | some next =>
          obtain ⟨entry, hline, hprev, hauth, rfl⟩ := (verifyLine_eq_some hb).mp ho
          obtain ⟨hash, hc, hrec⟩ := hauth
          simp only [hrec] at hrest
          obtain ⟨entries, hes, hlink, hall⟩ := (ih hash (n + 1)).mp hrest
          refine ⟨entry :: entries, by rw [hline, ok_bind, hes]; rfl, ⟨hprev, hrec ▸ hlink⟩, ?_⟩
          intro e he
          rcases List.mem_cons.mp he with rfl | he
          · exact ⟨hash, hc, hrec⟩
          · exact hall e he
      · rintro ⟨entries, hes, hlink, hall⟩
        obtain ⟨entry, hline, hes⟩ := bind_eq_ok hes
        obtain ⟨rest, hrest, hes⟩ := bind_eq_ok hes
        cases hes
        obtain ⟨hprev, hlink⟩ := hlink
        have hauth := hall entry (by simp)
        rw [(verifyLine_eq_some hb).mpr ⟨entry, hline, hprev, hauth, rfl⟩, ok_bind]
        obtain ⟨hash, hc, hrec⟩ := hauth
        simp only [hrec] at hlink ⊢
        exact (ih hash (n + 1)).mpr ⟨rest, hrest, hlink, fun e he => hall e (by simp [he])⟩
    · have hb : notBlank line = false := by simpa using hb
      rw [List.filter_cons_of_neg (by simp [hb]), verifyLine_blank hb, ok_bind]
      exact ih p (n + 1)

theorem verifyAuditChain_true_iff (file : Str) :
    verifyAuditChain sha file = .ok (true, none) ↔ ∃ entries, fileRecords file = .ok entries ∧
      Linked prevHash recordHash (.str genesisHash) entries ∧ ∀ e ∈ entries, Authentic sha e :=
  verifyLines_true_iff (fileLines file) genesisHash 1

/-- The verifier says yes, or names a line, or raises. -/
theorem verifyLines_result (lines : List Str) (p : Json) (n : Nat) :
    verifyLines sha p n lines = .ok (true, none) ∨
      (∃ k, verifyLines sha p n lines = .ok (false, some k)) ∨
      ∃ e, verifyLines sha p n lines = .error e := by
  induction lines generalizing p n with
  | nil => exact Or.inl rfl
  | cons line lines ih =>
    rw [verifyLines]
    cases verifyLine sha p line with
    | error e => exact Or.inr (Or.inr ⟨e, rfl⟩)
    | ok o =>
      cases o with
      | none => exact Or.inr (Or.inl ⟨n, rfl⟩)
      | some next => exact ih next (n + 1)

/-- A line that is no JSON text is a break. -/
theorem verifyLine_broken {p : Json} {line : Str} (hb : notBlank line = true)
    (hl : loads line = .error .jsonDecodeError) : verifyLine sha p line = .ok none := by
  have hb : ¬ strip line = [] := by simpa [notBlank] using hb
  rw [verifyLine, if_neg hb, hl]

theorem verifyLines_cons_none {p : Json} {n : Nat} {line : Str} {lines : List Str}
    (h : verifyLine sha p line = .ok none) :
    verifyLines sha p n (line :: lines) = .ok (false, some n) := by
  rw [verifyLines, h]; rfl

/-! ## 2. The hash of an entry -/

/-- An entry read from a file holds each key once. -/
theorem lineRecord_wf {line : Str} {entry : Dict Json} (h : lineRecord line = .ok entry) :
    (Json.obj entry).Wf := loads_wf (lineRecord_eq_ok.mp h)

theorem fileRecords_wf {file : Str} {entries : List (Dict Json)}
    (h : fileRecords file = .ok entries) : ∀ e ∈ entries, (Json.obj e).Wf := by
  have hall := mapM_eq_ok h
  clear h
  generalize (fileLines file).filter _ = lines at hall
  induction hall with
  | nil => exact fun _ h => nomatch h
  | cons hline _ ih =>
    intro e he
    rcases List.mem_cons.mp he with rfl | he
    · exact lineRecord_wf hline
    · exact ih e he

theorem without_wf {d : Dict Json} (h : (Json.obj d).Wf) (k : Str) :
    (Json.obj (d.without k)).Wf := by
  rw [Json.wf_obj] at h ⊢
  exact ⟨Dict.nodup_without k h.1, fun p hp => h.2 p (List.mem_of_mem_filter hp)⟩

theorem canonDoc_eq_str {v : Json} {s : Str} (h : canonDoc v = .str s) : v = .str s := by
  cases v with
  | str t => rw [canonDoc, Doc.str.injEq] at h; rw [h]
  | _ => cases h

/-- Objects with one canonical document hold the same members, canonically. -/
theorem memberDocs_perm {a b : Dict Json} (h : canonDoc (.obj a) = canonDoc (.obj b)) :
    (memberDocs a).Perm (memberDocs b) := by
  rw [canonDoc, canonDoc, Doc.obj.injEq] at h
  exact sortedMembers_perm h

theorem lookup_memberDocs (d : Dict Json) (k : Str) :
    (memberDocs d).lookup k = (d.lookup k).map canonDoc := by
  rw [memberDocs_eq_map, Dict.lookup_map]

theorem keys_memberDocs (d : Dict Json) : Dict.keys (memberDocs d) = Dict.keys d := by
  rw [memberDocs_eq_map, Dict.keys_map]

/-- Members that are equal canonically, looked up. -/
theorem lookup_canonDoc {a b : Dict Json} (ha : (Dict.keys a).Nodup) (hb : (Dict.keys b).Nodup)
    (h : (memberDocs a).Perm (memberDocs b)) (k : Str) :
    (a.lookup k).map canonDoc = (b.lookup k).map canonDoc := by
  rw [← lookup_memberDocs, ← lookup_memberDocs]
  have hna : (Dict.keys (memberDocs a)).Nodup := keys_memberDocs a ▸ ha
  have hnb : (Dict.keys (memberDocs b)).Nodup := keys_memberDocs b ▸ hb
  cases hv : (memberDocs a).lookup k with
  | some d =>
    exact ((Dict.lookup_eq_some_iff hnb).mpr (h.mem_iff.mp (Dict.lookup_mem hv))).symm
  | none =>
    rw [Dict.lookup_eq_none_iff] at hv
    symm
    rw [Dict.lookup_eq_none_iff]
    exact fun hm => hv ((h.map Prod.fst).mem_iff.mpr hm)

/-- Two authentic entries with one hash agree canonically on everything but the hash. -/
theorem canonDoc_of_recordHash_eq (hinj : CollisionFree sha)
    {a b : Dict Json} (ha : Authentic sha a) (hb : Authentic sha b)
    (h : recordHash a = recordHash b) :
    canonDoc (.obj (a.without recordHashKey)) = canonDoc (.obj (b.without recordHashKey)) := by
  obtain ⟨ha₀, hca, hra⟩ := ha
  obtain ⟨hb₀, hcb, hrb⟩ := hb
  rw [hra, hrb, Json.str.injEq] at h
  obtain ⟨s, hs, -, hdig⟩ := canonicalHash_eq_ok hca
  obtain ⟨t, ht, -, hdig'⟩ := canonicalHash_eq_ok hcb
  have hst : s = t := hinj hs ht (hdig.symm.trans (h.trans hdig'))
  exact canonDoc_eq_of_canonicalJson hs (hst ▸ ht)

theorem prevHash_eq_str {e : Dict Json} {p : Str} (h : prevHash e = .str p) :
    e.lookup prevHashKey = some (.str p) := by
  unfold prevHash at h
  cases hl : e.lookup prevHashKey with
  | none => rw [hl] at h; cases h
  | some v => rw [hl] at h; exact congrArg some h

theorem recordHash_eq_str {e : Dict Json} {p : Str} (h : recordHash e = .str p) :
    e.lookup recordHashKey = some (.str p) := by
  unfold recordHash at h
  cases hl : e.lookup recordHashKey with
  | none => rw [hl] at h; cases h
  | some v => rw [hl] at h; exact congrArg some h

theorem prevHashKey_ne : prevHashKey ≠ recordHashKey := by decide

/-- The hash of an entry commits to the hash before it. -/
theorem prevHash_of_recordHash_eq (hinj : CollisionFree sha)
    {a b : Dict Json} (hwa : (Json.obj a).Wf) (hwb : (Json.obj b).Wf) (ha : Authentic sha a)
    (hb : Authentic sha b) {p : Str} (hp : prevHash a = .str p)
    (h : recordHash a = recordHash b) : prevHash a = prevHash b := by
  have hdoc := canonDoc_of_recordHash_eq hinj ha hb h
  have hlook := lookup_canonDoc (Json.wf_obj.mp (without_wf hwa recordHashKey)).1
    (Json.wf_obj.mp (without_wf hwb recordHashKey)).1 (memberDocs_perm hdoc) prevHashKey
  rw [Dict.lookup_without, Dict.lookup_without, if_neg prevHashKey_ne, if_neg prevHashKey_ne,
    prevHash_eq_str hp, Option.map_some, canonDoc] at hlook
  obtain ⟨v, hv, hd⟩ := Option.map_eq_some_iff.mp hlook.symm
  rw [hp, prevHash, hv, Option.getD_some, canonDoc_eq_str hd]

/-- An object is canonical when it is so without one of its strings. -/
theorem isCanonical_of_without {e : Dict Json} {k s : Str} (hk : IsScalar k)
    (he : (Dict.keys e).Nodup) (hlook : e.lookup k = some (.str s))
    (h : isCanonical (.obj (e.without k)) = true) : isCanonical (.obj e) = true := by
  have hperm := Dict.perm_cons_without he hlook
  rw [isCanonical, Json.every_obj, decide_eq_true_iff] at h ⊢
  constructor
  · intro j hj
    rcases List.mem_cons.mp ((hperm.map Prod.fst).mem_iff.mp hj) with rfl | hj
    · exact hk
    · exact h.1 j hj
  · intro p hp
    rcases List.mem_cons.mp (hperm.mem_iff.mp hp) with rfl | hp
    · rfl
    · exact h.2 p hp

theorem recordHashKey_isScalar : IsScalar recordHashKey := by decide

/-- With equal hashes stored in them, two objects that are equal canonically without the hash
are equal canonically. -/
theorem canonicalJson_of_without {a b : Dict Json} (hwa : (Json.obj a).Wf)
    (hwb : (Json.obj b).Wf) {h s t : Str} (ha : a.lookup recordHashKey = some (.str h))
    (hb : b.lookup recordHashKey = some (.str h))
    (hca : canonicalJson (.obj (a.without recordHashKey)) = .ok s)
    (hcb : canonicalJson (.obj (b.without recordHashKey)) = .ok t)
    (hdoc : canonDoc (.obj (a.without recordHashKey)) = canonDoc (.obj (b.without recordHashKey))) :
    ∃ u, canonicalJson (.obj a) = .ok u ∧ canonicalJson (.obj b) = .ok u := by
  rw [Json.wf_obj] at hwa hwb
  have hcan : isCanonical (.obj a) = true :=
    isCanonical_of_without recordHashKey_isScalar hwa.1 ha (isCanonical_of_eq_ok hca)
  have hcbn : isCanonical (.obj b) = true :=
    isCanonical_of_without recordHashKey_isScalar hwb.1 hb (isCanonical_of_eq_ok hcb)
  have hperm : (memberDocs a).Perm (memberDocs b) := by
    have hsplit : ∀ d : Dict Json, (Dict.keys d).Nodup → d.lookup recordHashKey = some (.str h) →
        (memberDocs d).Perm ((recordHashKey, .str h) :: memberDocs (d.without recordHashKey)) := by
      intro d hd hl
      rw [memberDocs_eq_map, memberDocs_eq_map]
      exact (Dict.perm_cons_without hd hl).map (fun p => (p.1, canonDoc p.2))
    exact (hsplit a hwa.1 ha).trans
      (((memberDocs_perm hdoc).cons _).trans (hsplit b hwb.1 hb).symm)
  have heq : canonDoc (.obj a) = canonDoc (.obj b) := by
    rw [canonDoc, canonDoc]
    congr 1
    refine sortedMembers_eq hperm (keys_memberDocs a ▸ hwa.1) (fun p hp => ?_)
    have hk : p.1 ∈ Dict.keys a := keys_memberDocs a ▸ List.mem_map_of_mem hp
    rw [isCanonical, Json.every_obj, decide_eq_true_iff] at hcan
    exact hcan.1 _ hk
  exact ⟨_, canonicalJson_eq_render hcan, heq ▸ canonicalJson_eq_render hcbn⟩

theorem canonicalJson_of_recordHash_eq (hinj : CollisionFree sha)
    {a b : Dict Json} (hwa : (Json.obj a).Wf) (hwb : (Json.obj b).Wf) (ha : Authentic sha a)
    (hb : Authentic sha b) (h : recordHash a = recordHash b) :
    ∃ s, canonicalJson (.obj a) = .ok s ∧ canonicalJson (.obj b) = .ok s := by
  have hdoc := canonDoc_of_recordHash_eq hinj ha hb h
  obtain ⟨ha₀, hca, hra⟩ := ha
  obtain ⟨hb₀, hcb, hrb⟩ := hb
  obtain ⟨s, hs, -, -⟩ := canonicalHash_eq_ok hca
  obtain ⟨t, ht, -, -⟩ := canonicalHash_eq_ok hcb
  have hra' : recordHash a = .str hb₀ := h.trans hrb
  exact canonicalJson_of_without hwa hwb (recordHash_eq_str hra') (recordHash_eq_str hrb) hs ht hdoc

/-- No canonical encoding has the genesis hash.  A record with this hash could be a first one,
and a log could be cut in front of it. -/
def NeverGenesis (sha : Sha256) : Prop :=
  ∀ ⦃v : Json⦄ ⦃h : Str⦄, canonicalHash sha v = .ok h → h ≠ genesisHash

/-- No authentic entry is known by the genesis hash. -/
theorem recordHash_ne_genesis (hgen : NeverGenesis sha) {e : Dict Json}
    (he : Authentic sha e) : recordHash e ≠ .str genesisHash := by
  obtain ⟨hash, hc, hrec⟩ := he
  rw [hrec, ne_eq, Json.str.injEq]
  exact hgen hc

theorem Linked.prevHash_str {g : Str} {es : List (Dict Json)}
    (h : Linked prevHash recordHash (.str g) es) (hall : ∀ e ∈ es, Authentic sha e) :
    ∀ e ∈ es, ∃ p, prevHash e = .str p := by
  induction es generalizing g with
  | nil => exact fun _ h => nomatch h
  | cons a es ih =>
    obtain ⟨hprev, hrest⟩ := h
    obtain ⟨hash, -, hrec⟩ := hall a (by simp)
    intro e he
    rcases List.mem_cons.mp he with rfl | he
    · exact ⟨g, hprev⟩
    · exact ih (hrec ▸ hrest) (fun e he => hall e (by simp [he])) e he

/-! ## 3. The last hash -/

/-- Two accepted files whose last records carry the same hash hold, record by record, the same
canonical JSON.  The hash of a record covers the hash before it, so without collisions the last
one determines the chain; that it determines the number of records too takes the genesis hash,
which no record has. -/
theorem last_hash_commits (hinj : CollisionFree sha)
    (hgen : NeverGenesis sha) {file₁ file₂ : Str}
    {records₁ records₂ : List (Dict Json)} {last₁ last₂ : Dict Json}
    (h₁ : verifyAuditChain sha file₁ = .ok (true, none))
    (h₂ : verifyAuditChain sha file₂ = .ok (true, none))
    (hr₁ : fileRecords file₁ = .ok records₁) (hr₂ : fileRecords file₂ = .ok records₂)
    (hl₁ : records₁.getLast? = some last₁) (hl₂ : records₂.getLast? = some last₂)
    (hlast : last₁.lookup recordHashKey = last₂.lookup recordHashKey) :
    List.Forall₂
      (fun a b => ∃ s, canonicalJson (.obj a) = .ok s ∧ canonicalJson (.obj b) = .ok s)
      records₁ records₂ := by
  obtain ⟨es₁, he₁, hlink₁, hauth₁⟩ := (verifyAuditChain_true_iff file₁).mp h₁
  obtain ⟨es₂, he₂, hlink₂, hauth₂⟩ := (verifyAuditChain_true_iff file₂).mp h₂
  rw [hr₁] at he₁
  rw [hr₂] at he₂
  cases he₁
  cases he₂
  have hw₁ := fileRecords_wf hr₁
  have hw₂ := fileRecords_wf hr₂
  have htip : tip recordHash (.str genesisHash) records₁
      = tip recordHash (.str genesisHash) records₂ := by
    rw [tip, tip, hl₁, hl₂, Option.map_some, Option.map_some, recordHash, recordHash, hlast]
  have hprev₁ := Linked.prevHash_str hlink₁ hauth₁
  -- one hash, one record, and the record has the hash before it: the step of the chain
  have hcommit : ∀ a ∈ records₁, ∀ b ∈ records₂, recordHash a = recordHash b →
      prevHash a = prevHash b := by
    intro a ha b hb h
    obtain ⟨p, hp⟩ := hprev₁ a ha
    exact prevHash_of_recordHash_eq hinj (hw₁ a ha) (hw₂ b hb) (hauth₁ a ha) (hauth₂ b hb) hp h
  have hsame := Linked.forall₂_hash hlink₁ hlink₂
    (fun a ha => recordHash_ne_genesis hgen (hauth₁ a ha))
    (fun b hb => recordHash_ne_genesis hgen (hauth₂ b hb)) hcommit htip
  rw [List.forall₂_iff_zip] at hsame ⊢
  refine ⟨hsame.1, fun {a b} hab => ?_⟩
  have ha := (List.of_mem_zip hab).1
  have hb := (List.of_mem_zip hab).2
  exact canonicalJson_of_recordHash_eq hinj (hw₁ a ha) (hw₂ b hb) (hauth₁ a ha) (hauth₂ b hb)
    (hsame.2 hab)

theorem NeverGenesis.of_ne (h : ∀ s, sha.hexdigest s ≠ genesisHash) : NeverGenesis sha := by
  intro v hash hv
  obtain ⟨s, -, -, rfl⟩ := canonicalHash_eq_ok hv
  exact h s

/-- The digest of the first entry of `payDigests`. -/
def payHash : Str := lit "39dda70e12f0ea04a5035efe8a63d8cb588f379b2fcf1e14fe45839066e6d851"

/-- The digest of the second one. -/
def refundHash : Str := lit "0639b75a4771e82fcb0cb9132b0ff51e1b48a886f2938008c1383038a47ad314"

/-- The digests of two entries, `action` being their only other member. -/
def payDigests : DigestTable where
  rows :=
    [(lit "\x7b\"action\":\"pay\",\"prev_hash\":\"" ++ genesisHash ++ lit "\"\x7d", payHash),
      (lit "\x7b\"action\":\"refund\",\"prev_hash\":\"" ++ payHash ++ lit "\"\x7d", refundHash)]
  isDigest := by decide +kernel
  nodup := by decide +kernel

/-- The entries of `payDigests`, their members in one order. -/
def payFile : Str :=
  lit "\x7b\"action\": \"pay\", \"prev_hash\": \"" ++ genesisHash ++
    lit "\", \"record_hash\": \"" ++ payHash ++ lit "\"\x7d\n" ++
    lit "\x7b\"action\": \"refund\", \"prev_hash\": \"" ++ payHash ++
    lit "\", \"record_hash\": \"" ++ refundHash ++ lit "\"\x7d\n"

/-- The same entries, with members in another order and other spaces. -/
def payFile' : Str :=
  lit "\x7b\"record_hash\":\"" ++ payHash ++
    lit "\", \"action\":\"pay\",\"prev_hash\":\"" ++ genesisHash ++ lit "\"\x7d\n" ++
    lit "\x7b\"prev_hash\":\"" ++ payHash ++ lit "\",  \"record_hash\":\"" ++ refundHash ++
    lit "\",\"action\":\"refund\"\x7d\n"

/-- The file holds two records, and this is the hash of the last. -/
def holdsTwo (file hash : Str) : Bool :=
  match fileRecords file with
  | .ok [_, record] => (recordHash record).pyEq (.str hash)
  | _ => false

theorem holdsTwo_eq_true {file hash : Str} (h : holdsTwo file hash = true) :
    ∃ first record, fileRecords file = .ok [first, record] ∧
      record.lookup recordHashKey = some (.str hash) := by
  unfold holdsTwo at h
  split at h
  · rename_i first record hr
    exact ⟨first, record, hr, recordHash_eq_str (Json.pyEq_str_iff.mp h)⟩
  · cases h

theorem payFiles_accepted :
    verifyAuditChain (.ofTable payDigests) payFile = .ok (true, none) ∧
      verifyAuditChain (.ofTable payDigests) payFile' = .ok (true, none) := by
  constructor <;> decide +kernel

theorem payDigests_lawful :
    CollisionFree (.ofTable payDigests) ∧ NeverGenesis (.ofTable payDigests) :=
  ⟨.of_injective (Sha256.ofTable_injective _),
    .of_ne (Sha256.ofTable_ne (by decide) (by decide))⟩

/-- Two spellings of two records. -/
theorem last_hash_commits_payFiles : ∃ records₁ records₂, fileRecords payFile = .ok records₁ ∧
    fileRecords payFile' = .ok records₂ ∧ records₁.length = 2 ∧
      List.Forall₂
        (fun a b => ∃ s, canonicalJson (.obj a) = .ok s ∧ canonicalJson (.obj b) = .ok s)
        records₁ records₂ := by
  obtain ⟨first₁, r₁, h₁, hh₁⟩ :=
    holdsTwo_eq_true (by decide +kernel : holdsTwo payFile refundHash = true)
  obtain ⟨first₂, r₂, h₂, hh₂⟩ :=
    holdsTwo_eq_true (by decide +kernel : holdsTwo payFile' refundHash = true)
  exact ⟨_, _, h₁, h₂, rfl, last_hash_commits payDigests_lawful.1 payDigests_lawful.2
    payFiles_accepted.1 payFiles_accepted.2 h₁ h₂ rfl rfl (hh₁.trans hh₂.symm)⟩

end Axg
