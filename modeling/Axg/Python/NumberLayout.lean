/-
# The layouts of a number

A writer has the digits of a number and the place of its decimal point, and four ways to set
them on the page: as a whole number, with the point among the digits, with the point in front
of them, or with an exponent.  Each layout is a `NumTok`, so the scanner reads it back, and
each denotes the decimal it was made from.

Python's `repr` of a float and ECMAScript's `Number.prototype.toString` differ only in which
layout they choose.
-/
import Axg.Python.JsonText

namespace Axg.Python

/-! ## 1. Integers -/

/-- `str(n)` of a natural number. -/
def strNat (n : Nat) : Str := digitsText (decDigits n)

/-- `str(i)`. -/
def strInt (i : Int) : Str := (if i < 0 then [0x2D] else []) ++ strNat i.natAbs

/-- `str(i)`, as the scanner will read it. -/
def intTok (i : Int) : NumTok := ⟨i < 0, decDigits i.natAbs, [], none⟩

theorem intTok_text (i : Int) : (intTok i).text = strInt i := by
  by_cases h : i < 0 <;>
    simp [intTok, NumTok.text, strInt, strNat, NumTok.fracText, NumTok.expText, h]

theorem intTok_isInt (i : Int) : (intTok i).isInt = true := rfl

theorem decDigits_head (n : Nat) :
    decDigits n = [0] ∨ ∃ d ds, decDigits n = d :: ds ∧ d ≠ 0 := by
  rcases Nat.eq_zero_or_pos n with rfl | hn
  · exact Or.inl rfl
  · obtain ⟨d, ds, h⟩ := List.exists_cons_of_ne_nil (decDigits_ne_nil n)
    exact Or.inr ⟨d, ds, h, decDigits_head_ne_zero (by omega) h⟩

theorem intTok_ok (i : Int) : (intTok i).Ok where
  int_lt _ h := decDigits_lt h
  int_head := decDigits_head i.natAbs
  frac_lt _ h := by simp [intTok] at h
  exp_ok _ h := by simp [intTok] at h

theorem intTok_toInt (i : Int) : (intTok i).toInt = i := by
  by_cases h : i < 0 <;>
    simp only [intTok, NumTok.toInt, ofDecDigits_decDigits, h, decide_true, decide_false,
      ↓reduceIte, Bool.false_eq_true] <;> omega

theorem intTok_decimal (i : Int) : (intTok i).decimal = ⟨i.natAbs, 0⟩ := by
  simp [intTok, NumTok.decimal, NumTok.coeff, NumTok.written, ofDecDigits_decDigits]

/-! ## 2. The four layouts -/

/-- The digits, and zeros up to the point. -/
def wholeTok (neg : Bool) (ds : List Nat) (zeros : Nat) : NumTok :=
  ⟨neg, ds ++ List.replicate zeros 0, [], none⟩

/-- The point after `n` of the digits. -/
def pointTok (neg : Bool) (ds : List Nat) (n : Nat) : NumTok := ⟨neg, ds.take n, ds.drop n, none⟩

/-- A zero, the point, and zeros in front of the digits. -/
def fracTok (neg : Bool) (zeros : Nat) (ds : List Nat) : NumTok :=
  ⟨neg, [0], List.replicate zeros 0 ++ ds, none⟩

/-- The point after the first digit, and an exponent with at least `width` digits. -/
def sciTok (neg : Bool) (ds : List Nat) (e : Int) (width : Nat) : NumTok :=
  ⟨neg, ds.take 1, ds.drop 1,
    some (e < 0, List.replicate (width - (decDigits e.natAbs).length) 0 ++ decDigits e.natAbs)⟩

section Layouts

variable {c : Nat} (hc : c ≠ 0) (neg : Bool)

/-- The digits of a positive number start with one that is not zero. -/
theorem decDigits_cons {c : Nat} (hc : c ≠ 0) : ∃ d ds, decDigits c = d :: ds ∧ d ≠ 0 := by
  obtain ⟨d, ds, h⟩ := List.exists_cons_of_ne_nil (decDigits_ne_nil c)
  exact ⟨d, ds, h, decDigits_head_ne_zero hc h⟩

include hc

theorem wholeTok_ok (zeros : Nat) : (wholeTok neg (decDigits c) zeros).Ok where
  int_lt d h := by
    rcases List.mem_append.mp h with h | h
    · exact decDigits_lt h
    · rw [List.eq_of_mem_replicate h]; decide
  int_head := by
    obtain ⟨d, ds, h, hd⟩ := decDigits_cons hc
    exact Or.inr ⟨d, ds ++ List.replicate zeros 0, by simp [wholeTok, h], hd⟩
  frac_lt _ h := by simp [wholeTok] at h
  exp_ok _ h := by simp [wholeTok] at h

theorem pointTok_ok {n : Nat} (hn : 0 < n) : (pointTok neg (decDigits c) n).Ok where
  int_lt _ h := decDigits_lt (List.mem_of_mem_take h)
  int_head := by
    obtain ⟨d, ds, h, hd⟩ := decDigits_cons hc
    obtain ⟨m, rfl⟩ : ∃ m, n = m + 1 := ⟨n - 1, by omega⟩
    exact Or.inr ⟨d, ds.take m, by simp [pointTok, h], hd⟩
  frac_lt _ h := decDigits_lt (List.mem_of_mem_drop h)
  exp_ok _ h := by simp [pointTok] at h

theorem sciTok_ok (e : Int) (width : Nat) : (sciTok neg (decDigits c) e width).Ok where
  int_lt _ h := decDigits_lt (List.mem_of_mem_take h)
  int_head := by
    obtain ⟨d, ds, h, hd⟩ := decDigits_cons hc
    exact Or.inr ⟨d, [], by simp [sciTok, h], hd⟩
  frac_lt _ h := decDigits_lt (List.mem_of_mem_drop h)
  exp_ok p h := by
    cases h
    refine ⟨by simp [decDigits_ne_nil], fun d hd => ?_⟩
    rcases List.mem_append.mp hd with h | h
    · rw [List.eq_of_mem_replicate h]; decide
    · exact decDigits_lt h

omit hc

theorem fracTok_ok (c zeros : Nat) : (fracTok neg zeros (decDigits c)).Ok where
  int_lt _ h := by simp only [fracTok, List.mem_singleton] at h; omega
  int_head := Or.inl rfl
  frac_lt d h := by
    rcases List.mem_append.mp h with h | h
    · rw [List.eq_of_mem_replicate h]; decide
    · exact decDigits_lt h
  exp_ok _ h := by simp [fracTok] at h

/-! Each layout denotes the number whose digits it sets. -/

theorem wholeTok_decimal (c zeros : Nat) :
    roundDecimal (wholeTok neg (decDigits c) zeros).decimal = roundDecimal ⟨c, zeros⟩ := by
  have h : (wholeTok neg (decDigits c) zeros).decimal = ⟨c * 10 ^ zeros, 0⟩ := by
    simp [wholeTok, NumTok.decimal, NumTok.coeff, NumTok.written, ofDecDigits_append,
      ofDecDigits_decDigits, ofDecDigits_replicate_zero]
  rw [h, roundDecimal_shift, Int.zero_add]

theorem pointTok_decimal (c n : Nat) :
    (pointTok neg (decDigits c) n).decimal = ⟨c, -((decDigits c).length - n : Nat)⟩ := by
  simp [pointTok, NumTok.decimal, NumTok.coeff, NumTok.written, ofDecDigits_decDigits]

theorem fracTok_decimal (c zeros : Nat) :
    (fracTok neg zeros (decDigits c)).decimal = ⟨c, -(zeros + (decDigits c).length : Nat)⟩ := by
  have h : ofDecDigits ([0] ++ (List.replicate zeros 0 ++ decDigits c)) = c := by
    rw [List.singleton_append, ← List.cons_append, ← List.replicate_succ,
      ofDecDigits_zeros_append, ofDecDigits_decDigits]
  simp only [fracTok, NumTok.decimal, NumTok.coeff, NumTok.written, h, List.length_append,
    List.length_replicate, Int.zero_sub]

theorem sciTok_decimal (c : Nat) (e : Int) (width : Nat) :
    (sciTok neg (decDigits c) e width).decimal = ⟨c, e - ((decDigits c).length - 1 : Nat)⟩ := by
  have hw : (sciTok neg (decDigits c) e width).written = e := by
    simp only [sciTok, NumTok.written, ofDecDigits_zeros_append, ofDecDigits_decDigits]
    by_cases h : e < 0 <;> simp only [h, decide_true, decide_false, ↓reduceIte,
      Bool.false_eq_true] <;> omega
  rw [NumTok.decimal, hw]
  simp only [sciTok, NumTok.coeff, List.take_append_drop, ofDecDigits_decDigits, List.length_drop]

end Layouts

/-! ## 3. Stable sorting by a key -/

section Sorting

variable {α β γ : Type} [LinearOrder β]

/-- `sorted(xs, key=key)`. -/
def sortedBy (key : α → β) (xs : List α) : List α := xs.insertionSort (fun a b => key a ≤ key b)

theorem sortedBy_perm (key : α → β) (xs : List α) : (sortedBy key xs).Perm xs :=
  List.perm_insertionSort _ xs

theorem mem_sortedBy {key : α → β} {xs : List α} {a : α} : a ∈ sortedBy key xs ↔ a ∈ xs :=
  (sortedBy_perm key xs).mem_iff

theorem sortedBy_pairwise (key : α → β) (xs : List α) :
    (sortedBy key xs).Pairwise (fun a b => key a ≤ key b) := by
  have : Std.Total (fun a b : α => key a ≤ key b) := ⟨fun a b => le_total (key a) (key b)⟩
  have : IsTrans α (fun a b : α => key a ≤ key b) := ⟨fun _ _ _ => le_trans⟩
  exact List.pairwise_insertionSort _ xs

/-- With distinct keys, the sorted list does not depend on the order of the input. -/
theorem sortedBy_eq_of_perm {key : α → β} {xs ys : List α} (h : xs.Perm ys)
    (hkey : ∀ a ∈ xs, ∀ b ∈ xs, key a = key b → a = b) : sortedBy key xs = sortedBy key ys := by
  have hp : (sortedBy key xs).Perm (sortedBy key ys) :=
    ((sortedBy_perm key xs).trans h).trans (sortedBy_perm key ys).symm
  refine List.Perm.eq_of_pairwise ?_ (sortedBy_pairwise key xs) (sortedBy_pairwise key ys) hp
  intro a b ha hb hab hba
  exact hkey a (mem_sortedBy.mp ha) b (h.mem_iff.mpr (mem_sortedBy.mp hb)) (le_antisymm hab hba)

/-- Sorting commutes with a map that keeps the keys. -/
theorem sortedBy_map {key : α → β} {key' : γ → β} {f : α → γ} (hf : ∀ a, key' (f a) = key a)
    (xs : List α) : sortedBy key' (xs.map f) = (sortedBy key xs).map f := by
  have hins : ∀ (a : α) (ys : List α),
      List.orderedInsert (fun a b => key' a ≤ key' b) (f a) (ys.map f)
        = (List.orderedInsert (fun a b => key a ≤ key b) a ys).map f := by
    intro a ys
    induction ys with
    | nil => rfl
    | cons b ys ih =>
      simp only [List.map_cons, List.orderedInsert_cons, hf, ih]
      split <;> simp
  induction xs with
  | nil => rfl
  | cons a xs ih =>
    simp only [sortedBy, List.map_cons, List.insertionSort_cons] at ih ⊢
    rw [ih, hins]

end Sorting

end Axg.Python
