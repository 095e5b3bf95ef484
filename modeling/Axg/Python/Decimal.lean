/-
# Decimal digits of integers and doubles

`str` of an integer, and the shortest decimal that reads back as a given double: the digits
that `repr` of a float prints.  A double is an exact decimal, `units * 5 ^ 1074` times
`10 ^ -1074`, so a candidate of `k` digits is the head of that numeral, or one more, and the
search for the shortest is a search over `k` that the exact numeral itself ends.

* `ofDecDigits_decDigits`: the digits of a number give it back;
* `roundDecimal_shortest`: the shortest digits read back as the double, so they are distinct
  for distinct doubles;
* `shortest_natural`: for an integer below `2 ^ 53` they are the integer's own digits without
  the zeros at the end.
-/
import Mathlib.Data.Nat.Digits.Lemmas
import Axg.Python.Binary64

namespace Axg.Python

/-! ## 1. Digits -/

/-- The decimal digits of `n`, most significant first: `str(n)`. -/
def decDigits (n : Nat) : List Nat := if n = 0 then [0] else (Nat.digits 10 n).reverse

/-- The number a digit sequence denotes. -/
def ofDecDigits (ds : List Nat) : Nat := ds.foldl (fun n d => 10 * n + d) 0

theorem foldl_decDigits (ds : List Nat) (n : Nat) :
    ds.foldl (fun n d => 10 * n + d) n = n * 10 ^ ds.length + ofDecDigits ds := by
  induction ds generalizing n with
  | nil => simp [ofDecDigits]
  | cons d ds ih =>
    simp only [ofDecDigits, List.foldl_cons, List.length_cons]
    rw [ih, ih (10 * 0 + d)]
    ring

theorem ofDecDigits_append (ds es : List Nat) :
    ofDecDigits (ds ++ es) = ofDecDigits ds * 10 ^ es.length + ofDecDigits es := by
  rw [ofDecDigits, List.foldl_append, foldl_decDigits]
  rfl

theorem ofDecDigits_cons (d : Nat) (ds : List Nat) :
    ofDecDigits (d :: ds) = d * 10 ^ ds.length + ofDecDigits ds := by
  have := ofDecDigits_append [d] ds
  simpa [ofDecDigits] using this

theorem ofDecDigits_replicate_zero (k : Nat) : ofDecDigits (List.replicate k 0) = 0 := by
  induction k with
  | zero => rfl
  | succ k ih => rw [List.replicate_succ, ofDecDigits_cons, ih]; simp

/-- Leading zeros do not count. -/
theorem ofDecDigits_zeros_append (k : Nat) (ds : List Nat) :
    ofDecDigits (List.replicate k 0 ++ ds) = ofDecDigits ds := by
  rw [ofDecDigits_append, ofDecDigits_replicate_zero]; simp

theorem ofDecDigits_reverse (ds : List Nat) : ofDecDigits ds.reverse = Nat.ofDigits 10 ds := by
  induction ds with
  | nil => rfl
  | cons d ds ih =>
    rw [List.reverse_cons, ofDecDigits_append, ih, Nat.ofDigits_cons]
    simp [ofDecDigits]
    ring

theorem ofDecDigits_decDigits (n : Nat) : ofDecDigits (decDigits n) = n := by
  unfold decDigits
  split
  · rename_i h; rw [h]; rfl
  · rw [ofDecDigits_reverse, Nat.ofDigits_digits]

theorem decDigits_ne_nil (n : Nat) : decDigits n ≠ [] := by
  unfold decDigits
  split
  · simp
  · rename_i h
    rw [ne_eq, List.reverse_eq_nil_iff, Nat.digits_eq_nil_iff_eq_zero]
    exact h

theorem decDigits_length_pos (n : Nat) : 0 < (decDigits n).length :=
  List.length_pos_iff.mpr (decDigits_ne_nil n)

theorem decDigits_lt {n d : Nat} (h : d ∈ decDigits n) : d < 10 := by
  unfold decDigits at h
  split at h
  · simp only [List.mem_singleton] at h; omega
  · exact Nat.digits_lt_base (by decide) (List.mem_reverse.mp h)

/-- A positive number has no leading zero. -/
theorem decDigits_head_ne_zero {n d : Nat} {ds : List Nat} (hn : n ≠ 0)
    (h : decDigits n = d :: ds) : d ≠ 0 := by
  have hne : Nat.digits 10 n ≠ [] := by simpa [Nat.digits_eq_nil_iff_eq_zero] using hn
  rw [decDigits, if_neg hn] at h
  have hlast : (Nat.digits 10 n).getLast hne = d := by
    have : (Nat.digits 10 n).getLast? = some d := by
      rw [← List.head?_reverse, h]; rfl
    rw [List.getLast?_eq_some_getLast hne] at this
    exact Option.some.inj this
  rw [← hlast]
  exact Nat.getLast_digit_ne_zero 10 hn

/-- Multiplying by a power of ten appends zeros. -/
theorem decDigits_mul_pow {n : Nat} (hn : n ≠ 0) (k : Nat) :
    decDigits (n * 10 ^ k) = decDigits n ++ List.replicate k 0 := by
  have h : n * 10 ^ k ≠ 0 := Nat.mul_ne_zero hn (Nat.pos_iff_ne_zero.mp (Nat.pow_pos (by decide)))
  rw [decDigits, if_neg h, decDigits, if_neg hn, Nat.mul_comm,
    Nat.digits_base_pow_mul (by decide) (Nat.pos_of_ne_zero hn)]
  simp

theorem decDigits_length_le {n k : Nat} (hn : n < 10 ^ k) (hk : 0 < k) :
    (decDigits n).length ≤ k := by
  unfold decDigits
  split
  · exact hk
  · rw [List.length_reverse]
    exact (Nat.digits_length_le_iff (by decide) n).mpr hn

/-! ## 2. Decimals -/

/-- `coeff * 10 ^ exp`: a nonnegative `decimal.Decimal`. -/
structure Decimal where
  coeff : Nat
  exp : Int
deriving DecidableEq

/-- The double nearest to a decimal: what `float` reads. -/
def roundDecimal (d : Decimal) : Option Mag :=
  if 0 ≤ d.exp then round (d.coeff * 10 ^ d.exp.toNat * one) 1
  else round (d.coeff * one) (10 ^ (-d.exp).toNat)

/-- The same fraction, with the exponent moved to any denominator large enough. -/
theorem roundDecimal_eq (c : Nat) (e : Int) (N : Nat) (h : 0 ≤ e + N) :
    roundDecimal ⟨c, e⟩ = round (c * 10 ^ (e + N).toNat * one) (10 ^ N) := by
  unfold roundDecimal
  split
  · rename_i he
    refine round_congr (by decide) (Nat.pow_pos (by decide)) ?_
    have : (e + N).toNat = e.toNat + N := by simp only at he; omega
    rw [this, Nat.pow_add]
    ring
  · rename_i he
    refine round_congr (Nat.pow_pos (by decide)) (Nat.pow_pos (by decide)) ?_
    have : N = (e + N).toNat + (-e).toNat := by simp only at he; omega
    nth_rewrite 1 [this]
    rw [Nat.pow_add]
    ring

/-- Zeros of the coefficient count in the exponent. -/
theorem roundDecimal_shift (c k : Nat) (e : Int) :
    roundDecimal ⟨c * 10 ^ k, e⟩ = roundDecimal ⟨c, e + k⟩ := by
  have h : 0 ≤ e + ((-e).toNat : Int) := by omega
  rw [roundDecimal_eq _ e (-e).toNat h, roundDecimal_eq c (e + k) (-e).toNat (by omega)]
  have : (e + k + ((-e).toNat : Int)).toNat = k + (e + ((-e).toNat : Int)).toNat := by omega
  rw [this, Nat.pow_add]
  congr 1
  ring

/-- The value in units, with a scaled coefficient over `5 ^ 1074`. -/
theorem roundDecimal_units (c s : Nat) :
    roundDecimal ⟨c, (s : Int) - bias⟩ = round (c * 10 ^ s) (5 ^ bias) := by
  rw [roundDecimal_eq c _ bias (by omega)]
  have : ((s : Int) - bias + bias).toNat = s := by omega
  rw [this]
  refine round_congr (Nat.pow_pos (by decide)) (Nat.pow_pos (by decide)) ?_
  have h10 : (10 : Nat) ^ bias = 2 ^ bias * 5 ^ bias := by rw [← Nat.mul_pow]
  rw [h10, one]
  ring

/-- An integer decimal rounds as the integer does. -/
theorem roundDecimal_nat (n : Nat) : roundDecimal ⟨n, 0⟩ = magOfNat n := by
  simp [roundDecimal, magOfNat]

/-- Drop the zeros at the end of a coefficient, at most `fuel` of them. -/
def stripZeros : Nat → Nat → Int → Decimal
  | 0, c, e => ⟨c, e⟩
  | fuel + 1, c, e => if c % 10 = 0 then stripZeros fuel (c / 10) (e + 1) else ⟨c, e⟩

/-- `Decimal.normalize()`.  The context's precision, 28 digits, is more than `repr` of a double
ever prints, so no rounding takes place. -/
def Decimal.normalize (d : Decimal) : Decimal :=
  if d.coeff = 0 then ⟨0, 0⟩ else stripZeros (decDigits d.coeff).length d.coeff d.exp

theorem roundDecimal_stripZeros (fuel c : Nat) (e : Int) :
    roundDecimal (stripZeros fuel c e) = roundDecimal ⟨c, e⟩ := by
  induction fuel generalizing c e with
  | zero => rfl
  | succ fuel ih =>
    unfold stripZeros
    split
    · rename_i h
      rw [ih]
      have hc : c = c / 10 * 10 ^ 1 := by omega
      nth_rewrite 2 [hc]
      rw [roundDecimal_shift]
      rfl
    · rfl

theorem roundDecimal_zero (e : Int) : roundDecimal ⟨0, e⟩ = roundDecimal ⟨0, 0⟩ := by
  have h : 0 ≤ e + ((-e).toNat : Int) := by omega
  rw [roundDecimal_eq 0 e (-e).toNat h, roundDecimal_nat, magOfNat]
  refine round_congr (Nat.pow_pos (by decide)) (by decide) (by ring)

theorem roundDecimal_normalize (d : Decimal) : roundDecimal d.normalize = roundDecimal d := by
  unfold Decimal.normalize
  split
  · rename_i h
    obtain ⟨c, e⟩ := d
    simp only at h
    rw [h, roundDecimal_zero e]
  · rw [roundDecimal_stripZeros]

/-- A coefficient that does not end in zero is normal. -/
theorem stripZeros_of_mod_ne {fuel c : Nat} {e : Int} (h : c % 10 ≠ 0) :
    stripZeros fuel c e = ⟨c, e⟩ := by
  cases fuel with
  | zero => rfl
  | succ fuel => simp [stripZeros, h]

theorem normalize_of_mod_ne {c : Nat} {e : Int} (h : c % 10 ≠ 0) :
    Decimal.normalize ⟨c, e⟩ = ⟨c, e⟩ := by
  have hc : c ≠ 0 := by omega
  simp only [Decimal.normalize, hc, ↓reduceIte]
  exact stripZeros_of_mod_ne h

/-! ## 3. The shortest digits of a double -/

/-- The exact decimal of a double, in units of `10 ^ -1074`. -/
def exactDigits (x : Mag) : Nat := x.units * 5 ^ bias

/-- Does `c` times `10 ^ s`, in units of `10 ^ -1074`, read back as `x`? -/
@[irreducible] def readsBack (x : Mag) (c s : Nat) : Bool :=
  round (c * 10 ^ s) (5 ^ bias) = some x

theorem readsBack_iff {x : Mag} {c s : Nat} :
    readsBack x c s = true ↔ round (c * 10 ^ s) (5 ^ bias) = some x := by
  unfold readsBack
  exact decide_eq_true_iff

/-- Of the two candidates `lo` and `lo + 1` in the last place, the one that reads back as `x`;
`near`, the closer of the two, when both do. -/
def pickReadsBack (x : Mag) (near lo s : Nat) : Option Decimal :=
  if readsBack x lo s && readsBack x (lo + 1) s then some ⟨near, (s : Int) - bias⟩
  else if readsBack x lo s then some ⟨lo, (s : Int) - bias⟩
  else if readsBack x (lo + 1) s then some ⟨lo + 1, (s : Int) - bias⟩
  else none

/-- The `k`-digit decimal nearest to `x` among those that read back as `x`, if there is one:
the first `k` digits of the exact decimal, or one more in the last place. -/
@[irreducible] def shortestAt (x : Mag) (k : Nat) : Option Decimal :=
  let s := (decDigits (exactDigits x)).length - k
  pickReadsBack x (roundHalfEven (exactDigits x) (10 ^ s)) (exactDigits x / 10 ^ s) s

/-- The first count of digits, from `k` on, for which there is such a decimal. -/
def shortestFrom (x : Mag) : Nat → Nat → Option Decimal
  | 0, _ => none
  | fuel + 1, k => (shortestAt x k).or (shortestFrom x fuel (k + 1))

/-- The shortest decimal that reads back as `x`; the exact one ends the search. -/
def shortest (x : Mag) : Decimal :=
  (shortestFrom x (decDigits (exactDigits x)).length 1).getD ⟨exactDigits x, -bias⟩

theorem roundHalfEven_cases (a d : Nat) :
    roundHalfEven a d = a / d ∨ roundHalfEven a d = a / d + 1 := by
  simp only [roundHalfEven]
  split
  · exact Or.inl rfl
  · split
    · exact Or.inr rfl
    · split
      · exact Or.inl rfl
      · exact Or.inr rfl

theorem roundDecimal_of_readsBack {x : Mag} {c s : Nat} (h : readsBack x c s = true) :
    roundDecimal ⟨c, (s : Int) - bias⟩ = some x := by
  rw [roundDecimal_units]
  exact readsBack_iff.mp h

theorem pickReadsBack_left {x : Mag} {lo s : Nat} (near : Nat) (h : readsBack x lo s = true)
    (h' : readsBack x (lo + 1) s = false) : pickReadsBack x near lo s = some ⟨lo, s - bias⟩ := by
  simp only [pickReadsBack, h, h', Bool.and_false, Bool.false_eq_true, ↓reduceIte]

theorem pickReadsBack_none {x : Mag} {lo s : Nat} (near : Nat) (h : readsBack x lo s = false)
    (h' : readsBack x (lo + 1) s = false) : pickReadsBack x near lo s = none := by
  simp only [pickReadsBack, h, h', Bool.and_false, Bool.false_eq_true, ↓reduceIte]

/-- Which of the two candidates the search takes. -/
theorem pickReadsBack_cases {x : Mag} {near lo s : Nat} {d : Decimal}
    (hnear : near = lo ∨ near = lo + 1) (h : pickReadsBack x near lo s = some d) :
    (d = ⟨lo, (s : Int) - bias⟩ ∧ readsBack x lo s = true ∧
        (readsBack x (lo + 1) s = true → near = lo)) ∨
      (d = ⟨lo + 1, (s : Int) - bias⟩ ∧ readsBack x (lo + 1) s = true ∧
        (readsBack x lo s = true → near = lo + 1)) := by
  unfold pickReadsBack at h
  by_cases h1 : readsBack x lo s = true <;> by_cases h2 : readsBack x (lo + 1) s = true <;>
    simp only [h1, h2, Bool.and_self, Bool.and_true, Bool.and_false, Bool.false_eq_true,
      ↓reduceIte, reduceCtorEq, Option.some.injEq] at h <;> subst h
  · rcases hnear with he | he <;> rw [he]
    · exact Or.inl ⟨rfl, h1, fun _ => rfl⟩
    · exact Or.inr ⟨rfl, h2, fun _ => rfl⟩
  · exact Or.inl ⟨rfl, h1, fun h => absurd h h2⟩
  · exact Or.inr ⟨rfl, h2, fun h => absurd h h1⟩

theorem roundDecimal_shortestAt {x : Mag} {k : Nat} {d : Decimal} (h : shortestAt x k = some d) :
    roundDecimal d = some x := by
  unfold shortestAt at h
  rcases pickReadsBack_cases (roundHalfEven_cases _ _) h with ⟨rfl, hlo, -⟩ | ⟨rfl, hhi, -⟩
  · exact roundDecimal_of_readsBack hlo
  · exact roundDecimal_of_readsBack hhi

theorem roundDecimal_shortestFrom {x : Mag} {fuel k : Nat} {d : Decimal}
    (h : shortestFrom x fuel k = some d) : roundDecimal d = some x := by
  induction fuel generalizing k with
  | zero => cases h
  | succ fuel ih =>
    rcases Option.or_eq_some_iff.mp h with hd | ⟨-, hd⟩
    · exact roundDecimal_shortestAt hd
    · exact ih hd

/-- The exact decimal reads back. -/
theorem roundDecimal_exact (x : Mag) : roundDecimal ⟨exactDigits x, -bias⟩ = some x := by
  have h := roundDecimal_units (exactDigits x) 0
  simp only [Nat.cast_zero, zero_sub, Nat.pow_zero, Nat.mul_one] at h
  rw [h, exactDigits, round_units x (Nat.pow_pos (by decide))]

/-- The shortest digits read back as the double they were taken from. -/
theorem roundDecimal_shortest (x : Mag) : roundDecimal (shortest x) = some x := by
  unfold shortest
  cases h : shortestFrom x (decDigits (exactDigits x)).length 1 with
  | none => exact roundDecimal_exact x
  | some d => exact roundDecimal_shortestFrom h

/-! ## 4. The shortest digits of an integer -/

/-- The search stops at the first count with a candidate. -/
theorem shortestFrom_eq {x : Mag} {fuel k m : Nat} {d : Decimal} (hk : k ≤ m) (hm : m < k + fuel)
    (hnone : ∀ j, k ≤ j → j < m → shortestAt x j = none) (hsome : shortestAt x m = some d) :
    shortestFrom x fuel k = some d := by
  induction fuel generalizing k with
  | zero => omega
  | succ fuel ih =>
    rw [shortestFrom]
    rcases Nat.eq_or_lt_of_le hk with rfl | hlt
    · rw [hsome]; rfl
    · rw [hnone k (Nat.le_refl k) hlt, Option.none_or]
      exact ih hlt (by omega) (fun j hj => hnone j (by omega))

section Natural

variable {n : Nat} {x : Mag}

theorem exactDigits_natural (hx : x.units = n * one) : exactDigits x = n * 10 ^ bias := by
  have h10 : (10 : Nat) ^ bias = 2 ^ bias * 5 ^ bias := by rw [← Nat.mul_pow]
  rw [exactDigits, hx, one, h10]
  ring

/-- A multiple of a power of ten that reads back as the integer `n` is `n`. -/
theorem readsBack_natural (hn : n < 2 ^ 53) (hx : x.units = n * one) (c t : Nat) :
    readsBack x c (t + bias) = true ↔ c * 10 ^ t = n := by
  have hd := roundDecimal_units c (t + bias)
  have hs : roundDecimal ⟨c, ((t + bias : Nat) : Int) - bias⟩ = magOfNat (c * 10 ^ t) := by
    rw [← roundDecimal_nat, roundDecimal_shift]
    congr 2; omega
  rw [hs] at hd
  rw [readsBack_iff, ← hd]
  constructor
  · intro h; exact eq_of_magOfNat_units hn hx h
  · rintro rfl; exact magOfNat_of_units hx

/-- For an integer `c * 10 ^ t` whose coefficient does not end in zero, the search finds `c`
and `t`: fewer digits would have to be another integer. -/
theorem shortest_natural {c t : Nat} (hc : c % 10 ≠ 0) (hn : c * 10 ^ t < 2 ^ 53)
    (hx : x.units = c * 10 ^ t * one) : shortest x = ⟨c, t⟩ := by
  have hc0 : c ≠ 0 := by omega
  have hD : exactDigits x = c * 10 ^ (t + bias) := by
    rw [exactDigits_natural hx, Nat.pow_add]; ring
  have hlen : (decDigits (exactDigits x)).length = (decDigits c).length + (t + bias) := by
    rw [hD, decDigits_mul_pow hc0]; simp
  have hpos := decDigits_length_pos c
  -- at the right count, the head of the numeral is exact
  have hat : shortestAt x (decDigits c).length = some ⟨c, t⟩ := by
    have hlo : exactDigits x / 10 ^ (t + bias) = c := by
      rw [hD, Nat.mul_div_cancel _ (Nat.pow_pos (by decide))]
    have h1 : readsBack x c (t + bias) = true := (readsBack_natural hn hx c t).mpr rfl
    have h2 : readsBack x (c + 1) (t + bias) = false := by
      rw [Bool.eq_false_iff, ne_eq, readsBack_natural hn hx]
      intro h
      have := Nat.eq_of_mul_eq_mul_right (Nat.pow_pos (by decide)) h
      omega
    have hexp : ((t + bias : Nat) : Int) - bias = t := by omega
    simp only [shortestAt, hlen, Nat.add_sub_cancel_left, hlo]
    rw [pickReadsBack_left _ h1 h2, hexp]
  -- a shorter candidate is a multiple of a higher power of ten
  have hbefore : ∀ j, 1 ≤ j → j < (decDigits c).length → shortestAt x j = none := by
    intro j _ hj
    obtain ⟨r, hr⟩ : ∃ r, (decDigits c).length - j = r + 1 :=
      ⟨(decDigits c).length - j - 1, by omega⟩
    have hs : (decDigits (exactDigits x)).length - j = (t + 1 + r) + bias := by
      rw [hlen]; omega
    have hno : ∀ d, readsBack x d ((t + 1 + r) + bias) = false := by
      intro d
      rw [Bool.eq_false_iff, ne_eq, readsBack_natural hn hx]
      intro h
      have h' : d * 10 ^ r * 10 * 10 ^ t = c * 10 ^ t := by rw [← h]; ring
      have := Nat.eq_of_mul_eq_mul_right (Nat.pow_pos (by decide)) h'
      omega
    simp only [shortestAt, hs]
    exact pickReadsBack_none _ (hno _) (hno _)
  have hfrom := @shortestFrom_eq _ (decDigits (exactDigits x)).length _ _ _ hpos
    (by rw [hlen]; omega) hbefore hat
  rw [shortest, hfrom]
  rfl

end Natural

/-- Every positive integer is a coefficient that does not end in zero, and zeros. -/
theorem exists_coeff_zeros {n : Nat} (hn : n ≠ 0) : ∃ c t, c % 10 ≠ 0 ∧ n = c * 10 ^ t := by
  induction n using Nat.strongRecOn with
  | ind n ih =>
    by_cases h : n % 10 = 0
    · obtain ⟨c, t, hc, ht⟩ := ih (n / 10) (by omega) (by omega)
      refine ⟨c, t + 1, hc, ?_⟩
      rw [Nat.pow_succ, ← Nat.mul_assoc, ← ht]
      omega
    · exact ⟨n, 0, h, by simp⟩

/-- The digits that `repr` prints, without zeros at the end:
`Decimal(repr(x)).normalize()`. -/
def reprDecimal (x : Mag) : Decimal := (shortest x).normalize

theorem roundDecimal_reprDecimal (x : Mag) : roundDecimal (reprDecimal x) = some x := by
  rw [reprDecimal, roundDecimal_normalize, roundDecimal_shortest]

theorem reprDecimal_natural {x : Mag} {c t : Nat} (hc : c % 10 ≠ 0) (hn : c * 10 ^ t < 2 ^ 53)
    (hx : x.units = c * 10 ^ t * one) : reprDecimal x = ⟨c, t⟩ := by
  rw [reprDecimal, shortest_natural hc hn hx, normalize_of_mod_ne hc]

theorem round_zero {d : Nat} (hd : 0 < d) : round 0 d = some Mag.zero := by
  have := round_units Mag.zero hd
  simpa [Mag.units, Mag.zero] using this

/-- Only zero has no significant digit. -/
theorem reprDecimal_coeff_ne_zero {x : Mag} (hx : x ≠ Mag.zero) : (reprDecimal x).coeff ≠ 0 := by
  intro h
  have hr := roundDecimal_reprDecimal x
  generalize reprDecimal x = d at h hr
  obtain ⟨c, e⟩ := d
  simp only at h
  rw [h, roundDecimal_zero, roundDecimal_nat, magOfNat, Nat.zero_mul, round_zero (by decide)] at hr
  exact hx (Option.some.inj hr).symm

end Axg.Python
