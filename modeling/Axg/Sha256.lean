/-
# SHA-256

The hash function is a parameter: text in, hexadecimal digits out.  What a result assumes of
it beyond that it says in its hypotheses.

`Sha256.ofTable` shows that such hypotheses can be met together with any finite set of real
digests: it has the digests of a table, and elsewhere spells the text out in hexadecimal, at a
length that no digest has.
-/
import Axg.Python.JsonText

namespace Axg

open Python

/-- The characters of `hexdigest()`. -/
def isHexDigit (c : CodePoint) : Bool :=
  (0x30 ≤ c.val && c.val ≤ 0x39) || (0x61 ≤ c.val && c.val ≤ 0x66)

structure Sha256 where
  hexdigest : Str → Str
  isHex : ∀ s, AllChars isHexDigit (hexdigest s)

/-- A text whose characters are below the surrogates. -/
theorem isScalar_of_ascii {s : Str} {test : CodePoint → Bool}
    (ht : ∀ c, test c = true → c.val < 0x7F) (h : AllChars test s) : IsScalar s := by
  intro c hc
  have := ht c (h c hc)
  simp only [isSurrogate, Bool.and_eq_false_iff, decide_eq_false_iff_not]
  omega

theorem isHexDigit_lt (c : CodePoint) (h : isHexDigit c = true) : c.val < 0x7F := by
  simp only [isHexDigit, Bool.or_eq_true, Bool.and_eq_true, decide_eq_true_eq] at h
  omega

/-- A digest is Unicode text. -/
theorem Sha256.isScalar (sha : Sha256) (s : Str) : IsScalar (sha.hexdigest s) :=
  isScalar_of_ascii isHexDigit_lt (sha.isHex s)

/-! ## A hash function with given digests -/

/-- A code point as six hexadecimal digits. -/
def hex6 (c : CodePoint) : Str :=
  [hexChar (c.val / 0x100000 % 16), hexChar (c.val / 0x10000 % 16), hexChar (c.val / 0x1000 % 16),
    hexChar (c.val / 0x100 % 16), hexChar (c.val / 0x10 % 16), hexChar (c.val % 16)]

/-- A text in hexadecimal, behind one digit that no digest has room for. -/
def spelled (s : Str) : Str := 0x66 :: s.flatMap hex6

theorem isHexDigit_hexChar : ∀ d, d < 16 → isHexDigit (hexChar d) = true := by decide

theorem hexChar_injective {d e : Nat} (hd : d < 16) (he : e < 16) (h : hexChar d = hexChar e) :
    d = e := by
  have := hexVal_hexChar d hd
  rw [h, hexVal_hexChar e he] at this
  exact (Option.some.inj this).symm

theorem hex6_append_inj {c d : CodePoint} {s t : Str} (h : hex6 c ++ s = hex6 d ++ t) :
    c = d ∧ s = t := by
  have hlt : ∀ n, n % 16 < 16 := fun n => Nat.mod_lt n (by decide)
  simp only [hex6, List.cons_append, List.nil_append, List.cons.injEq] at h
  obtain ⟨h1, h2, h3, h4, h5, h6, h7⟩ := h
  have h1 := hexChar_injective (hlt _) (hlt _) h1
  have h2 := hexChar_injective (hlt _) (hlt _) h2
  have h3 := hexChar_injective (hlt _) (hlt _) h3
  have h4 := hexChar_injective (hlt _) (hlt _) h4
  have h5 := hexChar_injective (hlt _) (hlt _) h5
  have h6 := hexChar_injective (hlt _) (hlt _) h6
  have hc := c.isLt
  have hd := d.isLt
  exact ⟨Fin.ext (by omega), h7⟩

theorem flatMap_hex6_injective : ∀ {s t : Str}, s.flatMap hex6 = t.flatMap hex6 → s = t
  | [], [], _ => rfl
  | [], _ :: _, h => by simp [hex6] at h
  | _ :: _, [], h => by simp [hex6] at h
  | c :: s, d :: t, h => by
    rw [List.flatMap_cons, List.flatMap_cons] at h
    obtain ⟨rfl, hrest⟩ := hex6_append_inj h
    rw [flatMap_hex6_injective hrest]

theorem spelled_length (s : Str) : (spelled s).length = 6 * s.length + 1 := by
  induction s with
  | nil => rfl
  | cons c s ih =>
    simp only [spelled, List.length_cons, List.flatMap_cons, List.length_append] at ih ⊢
    simp only [hex6, List.length_cons, List.length_nil]
    omega

theorem spelled_isHex (s : Str) : AllChars isHexDigit (spelled s) := by
  have hlt : ∀ n, n % 16 < 16 := fun n => Nat.mod_lt n (by decide)
  refine allChars_cons.mpr ⟨by decide, ?_⟩
  induction s with
  | nil => exact allChars_nil
  | cons c s ih =>
    rw [List.flatMap_cons, allChars_append]
    refine ⟨?_, ih⟩
    simp [hex6, allChars_cons, allChars_nil, isHexDigit_hexChar _ (hlt _)]

/-- Texts and their digests. -/
structure DigestTable where
  rows : List (Str × Str)
  isDigest : rows.all (fun r => r.2.length = 64 && r.2.all isHexDigit) = true
  nodup : (rows.map Prod.snd).Nodup

namespace DigestTable

variable (table : DigestTable)

def hexdigest (s : Str) : Str := (table.rows.lookup s).getD (spelled s)

theorem mem_rows {s d : Str} (h : table.rows.lookup s = some d) :
    d.length = 64 ∧ AllChars isHexDigit d ∧ (s, d) ∈ table.rows := by
  have hmem := Dict.lookup_mem h
  have := List.all_eq_true.mp table.isDigest _ hmem
  simp only [Bool.and_eq_true, decide_eq_true_eq] at this
  exact ⟨this.1, List.all_eq_true.mp this.2, hmem⟩

end DigestTable

/-- The hash function of a table. -/
def Sha256.ofTable (table : DigestTable) : Sha256 where
  hexdigest := table.hexdigest
  isHex s := by
    unfold DigestTable.hexdigest
    cases h : table.rows.lookup s with
    | none => exact spelled_isHex s
    | some d => exact (table.mem_rows h).2.1

theorem Sha256.ofTable_injective (table : DigestTable) :
    Function.Injective (Sha256.ofTable table).hexdigest := by
  intro s t h
  simp only [Sha256.ofTable, DigestTable.hexdigest] at h
  cases hs : table.rows.lookup s with
  | none =>
    cases ht : table.rows.lookup t with
    | none =>
      rw [hs, ht] at h
      exact flatMap_hex6_injective (List.cons.inj h).2
    | some e =>
      rw [hs, ht] at h
      have hlen := (table.mem_rows ht).1
      have := spelled_length s
      simp only [Option.getD_none, Option.getD_some] at h
      rw [h] at this
      omega
  | some d =>
    cases ht : table.rows.lookup t with
    | none =>
      rw [hs, ht] at h
      have hlen := (table.mem_rows hs).1
      have := spelled_length t
      simp only [Option.getD_none, Option.getD_some] at h
      rw [← h] at this
      omega
    | some e =>
      rw [hs, ht] at h
      simp only [Option.getD_some] at h
      subst h
      have hinj := List.inj_on_of_nodup_map table.nodup (table.mem_rows hs).2.2
        (table.mem_rows ht).2.2 rfl
      exact congrArg Prod.fst hinj

/-- It yields a 64-digit text only where the table has it. -/
theorem Sha256.ofTable_ne {table : DigestTable} {d : Str} (hd : d.length = 64)
    (h : d ∉ table.rows.map Prod.snd) (s : Str) : (Sha256.ofTable table).hexdigest s ≠ d := by
  rintro rfl
  simp only [Sha256.ofTable, DigestTable.hexdigest] at hd h
  cases hs : table.rows.lookup s with
  | none =>
    rw [hs, Option.getD_none, spelled_length] at hd
    omega
  | some e =>
    rw [hs, Option.getD_some] at h
    exact h (List.mem_map.mpr ⟨_, (table.mem_rows hs).2.2, rfl⟩)

/-- The hash function of the empty table. -/
def plainSha : Sha256 := .ofTable ⟨[], rfl, List.nodup_nil⟩

end Axg
