/-
# The digits of `repr` are the shortest

`Decimal` computes the digits that `repr` prints; this module says what they are, in the words
of ECMAScript's `Number::toString`: as few digits as can be, among those the closest, and of two
closest the even one (`IsShortest`).  `isShortest_reprDecimal` proves it of the computed digits,
and `IsShortest.unique` that nothing else is.

Decimals of different exponents are compared on a grid: multiples of `10 ^ -(1074 + N)`, with
`N` large enough for each of them.  The exact decimal of the double is on every grid, and a
decimal with `k` digits that reads back lies on one side of the two candidates of the search
for `k` digits, so the nearer candidate lies between it and the double and reads back too.
-/
import Mathlib.Algebra.Order.Field.Basic
import Mathlib.Data.Rat.Lemmas
import Mathlib.Tactic.FieldSimp
import Mathlib.Tactic.Linarith
import Axg.Python.Decimal

namespace Axg.Python

/-! ## 1. What the shortest digits are -/

def Decimal.value (d : Decimal) : ℚ := d.coeff * 10 ^ d.exp

def Mag.value (x : Mag) : ℚ := x.units / one

/-- The number of digits. -/
def Decimal.length (d : Decimal) : Nat := (decDigits d.coeff).length

/-- `d` reads back as `x`, no decimal with fewer digits does, and none with as many is closer;
where another is as close, the digits of `d` are even. -/
structure IsShortest (x : Mag) (d : Decimal) : Prop where
  reads : roundDecimal d = some x
  least : ∀ d', roundDecimal d' = some x → d.length ≤ d'.length
  closest : ∀ d', roundDecimal d' = some x → d'.length = d.length →
    |d.value - x.value| ≤ |d'.value - x.value|
  even : ∀ d', roundDecimal d' = some x → d'.length = d.length →
    |d'.value - x.value| = |d.value - x.value| → d' ≠ d → 2 ∣ d.coeff

/-! ## 2. Lengths -/

theorem lt_pow_length (n : Nat) : n < 10 ^ (decDigits n).length := by
  unfold decDigits
  split
  · rename_i h; subst h; decide
  · rw [List.length_reverse]
    exact Nat.lt_base_pow_length_digits (by decide)

theorem pow_length_le {n : Nat} (h : n ≠ 0) : 10 ^ ((decDigits n).length - 1) ≤ n := by
  rw [decDigits, if_neg h, List.length_reverse]
  have := Nat.base_pow_length_digits_le 10 n (by decide) h
  have hpos : 0 < (Nat.digits 10 n).length :=
    List.length_pos_iff.mpr (Nat.digits_ne_nil_iff_ne_zero.mpr h)
  obtain ⟨k, hk⟩ : ∃ k, (Nat.digits 10 n).length = k + 1 := ⟨_, (Nat.succ_pred_eq_of_pos hpos).symm⟩
  rw [hk] at this ⊢
  rw [Nat.pow_succ] at this
  rw [Nat.add_sub_cancel]
  omega

theorem length_le_iff {n k : Nat} (hk : 0 < k) : (decDigits n).length ≤ k ↔ n < 10 ^ k := by
  refine ⟨fun h => ?_, fun h => decDigits_length_le h hk⟩
  exact Nat.lt_of_lt_of_le (lt_pow_length n) (Nat.pow_le_pow_right (by decide) h)

theorem length_eq_of_pow_le {n k : Nat} (h1 : 10 ^ (k - 1) ≤ n) (h2 : n < 10 ^ k) (hk : 0 < k) :
    (decDigits n).length = k := by
  refine Nat.le_antisymm (decDigits_length_le h2 hk) ?_
  by_contra hlt
  have : n < 10 ^ (k - 1) :=
    Nat.lt_of_lt_of_le (lt_pow_length n) (Nat.pow_le_pow_right (by decide) (by omega))
  omega

/-! ## 3. The grid -/

/-- A decimal in multiples of `10 ^ -(1074 + N)`. -/
def grid (N : Nat) (d : Decimal) : Nat := d.coeff * 10 ^ (d.exp + bias + N).toNat

/-- The denominator that rounds a multiple of the grid. -/
def gridDen (N : Nat) : Nat := 5 ^ bias * 10 ^ N

theorem gridDen_pos (N : Nat) : 0 < gridDen N :=
  Nat.mul_pos (Nat.pow_pos (by decide)) (Nat.pow_pos (by decide))

theorem roundDecimal_grid {N : Nat} {d : Decimal} (h : 0 ≤ d.exp + bias + N) :
    roundDecimal d = round (grid N d) (gridDen N) := by
  obtain ⟨c, e⟩ := d
  rw [roundDecimal_eq c e (bias + N) (by simp only at h; push_cast; omega)]
  refine round_congr (Nat.pow_pos (by decide)) (gridDen_pos N) ?_
  have h10 : (10 : Nat) ^ bias = 2 ^ bias * 5 ^ bias := by rw [← Nat.mul_pow]
  have he : (e + ((bias + N : Nat) : Int)).toNat = (e + bias + N).toNat := by
    congr 1; push_cast; ring
  rw [he, Nat.pow_add, h10, one, grid, gridDen]
  ring

theorem round_exactDigits (x : Mag) (N : Nat) :
    round (exactDigits x * 10 ^ N) (gridDen N) = some x := by
  have : exactDigits x * 10 ^ N = x.units * gridDen N := by unfold exactDigits gridDen; ring
  rw [this, round_units x (gridDen_pos N)]

theorem value_grid {N : Nat} {d : Decimal} (h : 0 ≤ d.exp + bias + N) :
    d.value * 10 ^ (bias + N) = grid N d := by
  have h10 : (10 : ℚ) ≠ 0 := by norm_num
  rw [Decimal.value, grid, mul_assoc, ← zpow_natCast (10 : ℚ) (bias + N), ← zpow_add₀ h10]
  have : d.exp + ((bias + N : Nat) : Int) = ((d.exp + bias + N).toNat : Int) := by
    push_cast; omega
  rw [this, zpow_natCast]
  push_cast
  ring

theorem value_exact (x : Mag) (N : Nat) :
    x.value * 10 ^ (bias + N) = (exactDigits x * 10 ^ N : Nat) := by
  have h10 : (10 : ℚ) ^ (bias + N) = 2 ^ bias * 5 ^ bias * 10 ^ N := by
    rw [pow_add, ← mul_pow]; norm_num
  rw [Mag.value, one, h10, exactDigits]
  push_cast
  field_simp

/-- Distances to the double are compared on the grid. -/
theorem dist_grid {N : Nat} {d : Decimal} {x : Mag} (h : 0 ≤ d.exp + bias + N) :
    |d.value - x.value| * 10 ^ (bias + N) = |(grid N d : ℚ) - (exactDigits x * 10 ^ N : Nat)| := by
  have hpos : (0 : ℚ) < 10 ^ (bias + N) := by positivity
  rw [← value_grid h, ← value_exact x N, ← sub_mul, abs_mul, abs_of_pos hpos]

theorem dist_le_iff {N : Nat} {d d' : Decimal} {x : Mag} (h : 0 ≤ d.exp + bias + N)
    (h' : 0 ≤ d'.exp + bias + N) :
    |d.value - x.value| ≤ |d'.value - x.value| ↔
      ((grid N d : ℤ) - (exactDigits x * 10 ^ N : Nat)).natAbs
        ≤ ((grid N d' : ℤ) - (exactDigits x * 10 ^ N : Nat)).natAbs := by
  have hpos : (0 : ℚ) < 10 ^ (bias + N) := by positivity
  rw [← mul_le_mul_iff_of_pos_right hpos, dist_grid h, dist_grid h', ← Int.ofNat_le,
    ← Int.abs_eq_natAbs, ← Int.abs_eq_natAbs]
  exact_mod_cast Iff.rfl

/-- A grid that holds a decimal, and a second one. -/
theorem exists_grid (d d' : Decimal) :
    ∃ N : Nat, 0 ≤ d.exp + bias + N ∧ 0 ≤ d'.exp + bias + N :=
  ⟨(-d.exp).toNat + (-d'.exp).toNat, by omega, by omega⟩

/-! ## 4. The search -/

theorem exactDigits_ne_zero {x : Mag} (hx : x ≠ Mag.zero) : exactDigits x ≠ 0 := by
  refine Nat.mul_ne_zero (fun h => hx ?_) (Nat.pos_iff_ne_zero.mp (Nat.pow_pos (by decide)))
  exact Mag.units_injective (h.trans (by simp [Mag.units, Mag.zero]))

theorem coeff_ne_zero_of_reads {x : Mag} (hx : x ≠ Mag.zero) {d : Decimal}
    (h : roundDecimal d = some x) : d.coeff ≠ 0 := by
  obtain ⟨c, e⟩ := d
  rintro hc
  simp only at hc
  rw [hc, roundDecimal_zero, roundDecimal_nat, magOfNat, Nat.zero_mul, round_zero (by decide)] at h
  exact hx (Option.some.inj h).symm

/-- A candidate of the search, on the grid. -/
theorem readsBack_grid {x : Mag} {c s : Nat} (N : Nat) :
    readsBack x c s = true ↔ round (c * 10 ^ (s + N)) (gridDen N) = some x := by
  rw [readsBack_iff]
  have : round (c * 10 ^ (s + N)) (gridDen N) = round (c * 10 ^ s) (5 ^ bias) := by
    refine round_congr (gridDen_pos N) (Nat.pow_pos (by decide)) ?_
    rw [gridDen, Nat.pow_add]
    ring
  rw [this]

/-- A decimal that reads back, with `k` digits, is on one side of the two candidates for `k`
digits, and the candidate on its side reads back. -/
theorem candidate_cases {x : Mag} (hx : x ≠ Mag.zero) {d : Decimal} {N k : Nat}
    (hN : 0 ≤ d.exp + bias + N) (h : roundDecimal d = some x) (hk : d.length ≤ k) (hpos : 0 < k)
    (hlen : k ≤ (decDigits (exactDigits x)).length) :
    let s := (decDigits (exactDigits x)).length - k
    let lo := exactDigits x / 10 ^ s
    (readsBack x lo s = true ∧ grid N d ≤ lo * 10 ^ (s + N)) ∨
      (readsBack x (lo + 1) s = true ∧ (lo + 1) * 10 ^ (s + N) ≤ grid N d) := by
  intro s lo
  have hX := exactDigits_ne_zero hx
  have hround := roundDecimal_grid hN ▸ h
  have hexact := round_exactDigits x N
  have hlo : lo * 10 ^ (s + N) ≤ exactDigits x * 10 ^ N := by
    rw [Nat.pow_add, ← Nat.mul_assoc]
    exact Nat.mul_le_mul_right _ (Nat.div_mul_le_self _ _)
  have hleft : grid N d ≤ lo * 10 ^ (s + N) → readsBack x lo s = true := fun hle =>
    (readsBack_grid N).mpr (round_squeeze (gridDen_pos N) hle hlo hround hexact)
  -- the exact decimal has as many digits as `lo` and the zeros of the grid
  have hten : 10 ^ (k - 1 + (s + N)) ≤ lo * 10 ^ (s + N) := by
    rw [Nat.pow_add]
    refine Nat.mul_le_mul_right _ ((Nat.le_div_iff_mul_le (Nat.pow_pos (by decide))).mpr ?_)
    rw [← Nat.pow_add]
    have : k - 1 + s = (decDigits (exactDigits x)).length - 1 := by omega
    rw [this]
    exact pow_length_le hX
  rcases Nat.lt_or_ge (grid N d) (10 ^ (k - 1 + (s + N))) with hsmall | hbig
  · have hle : grid N d ≤ lo * 10 ^ (s + N) := by omega
    exact Or.inl ⟨hleft hle, hle⟩
  · -- a decimal of that size with so few digits is a multiple of the candidates' last place
    have hexp : s + N ≤ (d.exp + bias + N).toNat := by
      have hc : d.coeff < 10 ^ k := (length_le_iff hpos).mp hk
      have hlt : 10 ^ (k - 1 + (s + N)) < 10 ^ (k + (d.exp + bias + N).toNat) := by
        refine Nat.lt_of_le_of_lt hbig ?_
        rw [grid, Nat.pow_add]
        exact Nat.mul_lt_mul_of_pos_right hc (Nat.pow_pos (by decide))
      have := (Nat.pow_lt_pow_iff_right (by decide : 1 < 10)).mp hlt
      omega
    obtain ⟨q, hq⟩ : ∃ q, grid N d = q * 10 ^ (s + N) := by
      refine ⟨d.coeff * 10 ^ ((d.exp + bias + N).toNat - (s + N)), ?_⟩
      rw [grid, Nat.mul_assoc, ← Nat.pow_add, Nat.sub_add_cancel hexp]
    rcases Nat.lt_or_ge lo q with hlt | hge
    · have hle : (lo + 1) * 10 ^ (s + N) ≤ grid N d := hq ▸ Nat.mul_le_mul_right _ hlt
      refine Or.inr ⟨(readsBack_grid N).mpr ?_, hle⟩
      refine round_squeeze (gridDen_pos N) ?_ hle hexact hround
      rw [Nat.pow_add, ← Nat.mul_assoc, Nat.mul_comm (lo + 1)]
      exact Nat.mul_le_mul_right _ (Nat.le_of_lt (Nat.lt_mul_div_succ _ (Nat.pow_pos (by decide))))
    · have hle : grid N d ≤ lo * 10 ^ (s + N) := hq ▸ Nat.mul_le_mul_right _ hge
      exact Or.inl ⟨hleft hle, hle⟩

theorem shortestAt_isSome {x : Mag} {k : Nat}
    (h : readsBack x (exactDigits x / 10 ^ ((decDigits (exactDigits x)).length - k))
        ((decDigits (exactDigits x)).length - k) = true ∨
      readsBack x (exactDigits x / 10 ^ ((decDigits (exactDigits x)).length - k) + 1)
        ((decDigits (exactDigits x)).length - k) = true) : shortestAt x k ≠ none := by
  unfold shortestAt pickReadsBack
  rcases h with h | h
  · simp only [h, Bool.true_and, ↓reduceIte]
    split <;> simp
  · simp only [h, Bool.and_true, ↓reduceIte]
    split <;> simp

/-- The search stops at the first count of digits that has a candidate. -/
theorem shortestFrom_least {x : Mag} {fuel k : Nat} {d : Decimal}
    (h : shortestFrom x fuel k = some d) :
    ∃ m, k ≤ m ∧ m < k + fuel ∧ shortestAt x m = some d ∧
      ∀ j, k ≤ j → j < m → shortestAt x j = none := by
  induction fuel generalizing k with
  | zero => cases h
  | succ fuel ih =>
    rcases Option.or_eq_some_iff.mp h with hd | ⟨hnone, hd⟩
    · exact ⟨k, Nat.le_refl k, by omega, hd, fun j h1 h2 => absurd h2 (by omega)⟩
    · obtain ⟨m, hkm, hm, hat, hleast⟩ := ih hd
      refine ⟨m, by omega, by omega, hat, fun j h1 h2 => ?_⟩
      rcases Nat.eq_or_lt_of_le h1 with rfl | hlt
      · exact hnone
      · exact hleast j hlt h2

theorem shortestFrom_ne_none {x : Mag} {fuel k m : Nat} (hk : k ≤ m) (hm : m < k + fuel)
    (h : shortestAt x m ≠ none) : shortestFrom x fuel k ≠ none := by
  induction fuel generalizing k with
  | zero => omega
  | succ fuel ih =>
    rw [shortestFrom]
    rcases Nat.eq_or_lt_of_le hk with rfl | hlt
    · intro ho
      exact h (Option.or_eq_none_iff.mp ho).1
    · intro ho
      exact ih hlt (by omega) (Option.or_eq_none_iff.mp ho).2

/-- `shortest` is found at the least count of digits that any decimal of the double has. -/
theorem exists_shortestAt {x : Mag} (hx : x ≠ Mag.zero) :
    ∃ m, 0 < m ∧ m ≤ (decDigits (exactDigits x)).length ∧ shortestAt x m = some (shortest x) ∧
      ∀ d, roundDecimal d = some x → m ≤ d.length := by
  have hpos := decDigits_length_pos (exactDigits x)
  have hfull : shortestAt x (decDigits (exactDigits x)).length ≠ none := by
    refine shortestAt_isSome (Or.inl ?_)
    rw [Nat.sub_self, Nat.pow_zero, Nat.div_one]
    exact (readsBack_grid 0).mpr (round_exactDigits x 0)
  obtain ⟨d, hd⟩ := Option.ne_none_iff_exists'.mp
    (@shortestFrom_ne_none x (decDigits (exactDigits x)).length 1 _ hpos (by omega) hfull)
  obtain ⟨m, h1, h2, hat, hleast⟩ := shortestFrom_least hd
  refine ⟨m, h1, by omega, by rw [hat, shortest, hd]; rfl, fun d' hd' => ?_⟩
  by_contra hlt
  obtain ⟨N, hN, -⟩ := exists_grid d' d'
  have hlen : 0 < d'.length := decDigits_length_pos _
  have hcases := candidate_cases hx hN hd' (Nat.le_refl _) hlen (by omega)
  have hsome : shortestAt x d'.length ≠ none :=
    shortestAt_isSome (hcases.imp And.left And.left)
  exact hsome (hleast _ hlen (by omega))

/-! ## 5. Normal decimals -/

theorem stripZeros_eq (fuel c : Nat) (e : Int) :
    ∃ t : Nat, c = (stripZeros fuel c e).coeff * 10 ^ t ∧ (stripZeros fuel c e).exp = e + t := by
  induction fuel generalizing c e with
  | zero => exact ⟨0, by simp [stripZeros], by simp [stripZeros]⟩
  | succ fuel ih =>
    unfold stripZeros
    split
    · rename_i h
      obtain ⟨t, h1, h2⟩ := ih (c / 10) (e + 1)
      refine ⟨t + 1, ?_, by rw [h2]; push_cast; ring⟩
      rw [Nat.pow_succ, ← Nat.mul_assoc, ← h1]
      omega
    · exact ⟨0, by simp, by simp⟩

theorem length_mul_pow {c : Nat} (hc : c ≠ 0) (t : Nat) :
    (decDigits (c * 10 ^ t)).length = (decDigits c).length + t := by
  rw [decDigits_mul_pow hc]
  simp

/-- Decimals with as many digits and one value are the same. -/
theorem eq_of_grid_eq {N : Nat} {d d' : Decimal} (hd : 0 ≤ d.exp + bias + N)
    (hd' : 0 ≤ d'.exp + bias + N) (hc : d.coeff ≠ 0) (hlen : d.length = d'.length)
    (h : grid N d = grid N d') : d = d' := by
  obtain ⟨c, e⟩ := d
  obtain ⟨c', e'⟩ := d'
  simp only [grid, Decimal.length] at h hlen hc hd hd'
  have hc' : c' ≠ 0 := by
    rintro rfl
    rw [Nat.zero_mul] at h
    exact Nat.mul_ne_zero hc (Nat.pos_iff_ne_zero.mp (Nat.pow_pos (by decide))) h
  have hsum := congrArg (fun n => (decDigits n).length) h
  simp only [length_mul_pow hc, length_mul_pow hc'] at hsum
  have hexp : (e + bias + N).toNat = (e' + bias + N).toNat := by omega
  rw [hexp] at h
  have := Nat.eq_of_mul_eq_mul_right (Nat.pow_pos (by decide)) h
  subst this
  have : e = e' := by omega
  rw [this]

theorem roundHalfEven_near (a d : Nat) :
    (roundHalfEven a d = a / d ∧ 2 * (a % d) ≤ d ∧ (2 * (a % d) = d → 2 ∣ a / d)) ∨
      (roundHalfEven a d = a / d + 1 ∧ d ≤ 2 * (a % d) ∧ (2 * (a % d) = d → 2 ∣ a / d + 1)) := by
  simp only [roundHalfEven]
  split_ifs <;> omega

/-- No double is halfway between `9` and `10` in some decimal place, both of which read back as
it: a double has more than one digit of precision, or is a small multiple of the least. -/
theorem not_halfway_ten {x : Mag} (hx : x ≠ Mag.zero) {s : Nat}
    (hr : readsBack x 9 s = true) : 2 * exactDigits x ≠ 19 * 10 ^ s := by
  intro h
  have hD : 0 < 5 ^ bias := Nat.pow_pos (by decide)
  have hu : x.units ≠ 0 := by
    intro h0
    exact hx (Mag.units_injective (h0.trans (by simp [Mag.units, Mag.zero])))
  have hround := readsBack_iff.mp hr
  have herr := (round_error hD hround).1
  rw [exactDigits] at h
  have hlarge : 10 ^ s ≤ 5 ^ bias * 2 ^ unitExp (9 * 10 ^ s / 5 ^ bias) := by omega
  by_cases he : unitExp (9 * 10 ^ s / 5 ^ bias) = 0
  · rw [he, Nat.pow_zero, Nat.mul_one] at hlarge
    have hle : x.units ≤ 9 := by
      by_contra hbig
      have := Nat.mul_le_mul_right (5 ^ bias) (Nat.not_le.mp hbig)
      omega
    have hdvd : 19 ∣ 2 * x.units * 5 ^ bias := ⟨10 ^ s, by rw [← h]; ring⟩
    have hcop : Nat.Coprime 19 (5 ^ bias) := Nat.Coprime.pow_right _ (by decide)
    have := hcop.dvd_of_dvd_mul_right hdvd
    omega
  · have hp := pow_unitExp_le he
    rw [Nat.le_div_iff_mul_le hD, Nat.pow_add] at hp
    have : 2 ^ 52 * (5 ^ bias * 2 ^ unitExp (9 * 10 ^ s / 5 ^ bias))
        ≤ 9 * (5 ^ bias * 2 ^ unitExp (9 * 10 ^ s / 5 ^ bias)) := by
      calc _ = 2 ^ 52 * 2 ^ unitExp (9 * 10 ^ s / 5 ^ bias) * 5 ^ bias := by ring
        _ ≤ 9 * 10 ^ s := hp
        _ ≤ _ := Nat.mul_le_mul_left 9 hlarge
    have hpos : 0 < 5 ^ bias * 2 ^ unitExp (9 * 10 ^ s / 5 ^ bias) :=
      Nat.mul_pos hD (Nat.two_pow_pos _)
    have := Nat.le_of_mul_le_mul_right this hpos
    omega

/-! ## 6. The computed digits -/

theorem normalize_ten (e : Int) : Decimal.normalize ⟨10, e⟩ = ⟨1, e + 1⟩ := by
  simp [Decimal.normalize, stripZeros, decDigits]

/-- What `normalize` does to a candidate of the search for the least count of digits: nothing,
or it writes `10` as `1` in the place before. -/
theorem normalize_candidate {x : Mag} (hx : x ≠ Mag.zero) {d : Decimal} {m : Nat} (hm : 0 < m)
    (hread : roundDecimal d = some x) (hle : d.coeff ≤ 10 ^ m)
    (hleast : ∀ d', roundDecimal d' = some x → m ≤ d'.length) :
    (d.normalize = d ∧ d.coeff < 10 ^ m) ∨
      (m = 1 ∧ d.coeff = 10 ∧ d.normalize = ⟨1, d.exp + 1⟩) := by
  obtain ⟨c, e⟩ := d
  simp only at hle ⊢
  rcases Nat.eq_or_lt_of_le hle with rfl | hlt
  · right
    have hone : roundDecimal ⟨1, e + m⟩ = some x := by
      rw [← roundDecimal_shift, Nat.one_mul]
      exact hread
    have hm1 : m = 1 := by
      have hl : (decDigits 1).length = 1 := by decide
      have : m ≤ (decDigits 1).length := hleast _ hone
      omega
    subst hm1
    exact ⟨rfl, rfl, normalize_ten e⟩
  · left
    refine ⟨?_, hlt⟩
    have hc : c ≠ 0 := coeff_ne_zero_of_reads hx hread
    have hreads : roundDecimal (Decimal.normalize ⟨c, e⟩) = some x :=
      (roundDecimal_normalize _).trans hread
    obtain ⟨t, h1, h2⟩ := stripZeros_eq (decDigits c).length c e
    have hnorm : Decimal.normalize ⟨c, e⟩ = stripZeros (decDigits c).length c e := by
      rw [Decimal.normalize, if_neg hc]
    rw [← hnorm] at h1 h2
    have hlow : m ≤ (decDigits (Decimal.normalize ⟨c, e⟩).coeff).length := hleast _ hreads
    have hc1 : (Decimal.normalize ⟨c, e⟩).coeff ≠ 0 := coeff_ne_zero_of_reads hx hreads
    generalize Decimal.normalize ⟨c, e⟩ = d at h1 h2 hlow hc1
    obtain ⟨c', e'⟩ := d
    simp only at h1 h2 hlow hc1
    have hlen := length_mul_pow hc1 t
    rw [← h1] at hlen
    have hup : (decDigits c).length ≤ m := (length_le_iff hm).mpr hlt
    have ht : t = 0 := by omega
    subst ht
    rw [Nat.pow_zero, Nat.mul_one] at h1
    rw [Nat.cast_zero, add_zero] at h2
    rw [h1, h2]

/-- A remainder against half of its modulus, and both on the grid. -/
theorem scaled_half (r s N : Nat) :
    (2 * r ≤ 10 ^ s → 2 * (r * 10 ^ N) ≤ 10 ^ (s + N)) ∧
      (10 ^ s ≤ 2 * r → 10 ^ (s + N) ≤ 2 * (r * 10 ^ N)) ∧
      (2 * (r * 10 ^ N) = 10 ^ (s + N) → 2 * r = 10 ^ s) := by
  have hpos : 0 < 10 ^ N := Nat.pow_pos (by decide)
  rw [Nat.pow_add, ← Nat.mul_assoc]
  exact ⟨Nat.mul_le_mul_right _, Nat.mul_le_mul_right _, Nat.eq_of_mul_eq_mul_right hpos⟩

/-- What the search for the digits of a double ends with: the least count of digits, the two
candidates with that many on the two sides of the double, and the one that it takes. -/
structure Candidate (x : Mag) where
  count : Nat
  place : Nat
  low : Nat
  rest : Nat
  decimal : Decimal
  count_pos : 0 < count
  low_lt : low < 10 ^ count
  rest_lt : rest < 10 ^ place
  exact : ∀ N, exactDigits x * 10 ^ N = low * 10 ^ (place + N) + rest * 10 ^ N
  least : ∀ d, roundDecimal d = some x → count ≤ d.length
  side : ∀ d, roundDecimal d = some x → d.length = count → ∀ N : Nat, 0 ≤ d.exp + bias + N →
    (readsBack x low place = true ∧ grid N d ≤ low * 10 ^ (place + N)) ∨
      (readsBack x (low + 1) place = true ∧ (low + 1) * 10 ^ (place + N) ≤ grid N d)
  reads : roundDecimal decimal = some x
  exp_eq : decimal.exp = (place : Int) - bias
  pick : (decimal.coeff = low ∧ (readsBack x (low + 1) place = true →
      2 * rest ≤ 10 ^ place ∧ (2 * rest = 10 ^ place → 2 ∣ low))) ∨
    (decimal.coeff = low + 1 ∧ (readsBack x low place = true →
      10 ^ place ≤ 2 * rest ∧ (2 * rest = 10 ^ place → 2 ∣ low + 1)))

theorem exists_candidate {x : Mag} (hx : x ≠ Mag.zero) :
    ∃ c : Candidate x, reprDecimal x = c.decimal.normalize := by
  obtain ⟨m, hm, hmlen, hat, hleast⟩ := exists_shortestAt hx
  have hnear := roundHalfEven_near (exactDigits x)
    (10 ^ ((decDigits (exactDigits x)).length - m))
  unfold shortestAt at hat
  have hcand := pickReadsBack_cases (roundHalfEven_cases _ _) hat
  refine ⟨{
    count := m
    place := (decDigits (exactDigits x)).length - m
    low := exactDigits x / 10 ^ ((decDigits (exactDigits x)).length - m)
    rest := exactDigits x % 10 ^ ((decDigits (exactDigits x)).length - m)
    decimal := shortest x
    count_pos := hm
    low_lt := ?_
    rest_lt := Nat.mod_lt _ (Nat.pow_pos (by decide))
    exact := ?_
    least := hleast
    side := fun d hd hl N hN => candidate_cases hx hN hd (Nat.le_of_eq hl) hm hmlen
    reads := roundDecimal_shortest x
    exp_eq := ?_
    pick := ?_ }, rfl⟩
  · rw [Nat.div_lt_iff_lt_mul (Nat.pow_pos (by decide)), ← Nat.pow_add,
      Nat.add_sub_cancel' hmlen]
    exact lt_pow_length _
  · intro N
    rw [Nat.pow_add, ← Nat.mul_assoc, ← Nat.add_mul,
      Nat.mul_comm (exactDigits x / _), Nat.div_add_mod]
  · rcases hcand with ⟨h, -⟩ | ⟨h, -⟩ <;> rw [h]
  · rcases hcand with ⟨h, -, hpick⟩ | ⟨h, -, hpick⟩
    · refine Or.inl ⟨by rw [h], fun hr => ?_⟩
      rcases hnear with ⟨-, hle, heven⟩ | ⟨he, -, -⟩
      · exact ⟨hle, heven⟩
      · exact absurd ((hpick hr).symm.trans he) (Nat.ne_of_lt (Nat.lt_succ_self _))
    · refine Or.inr ⟨by rw [h], fun hr => ?_⟩
      rcases hnear with ⟨he, -, -⟩ | ⟨-, hle, heven⟩
      · exact absurd (he.symm.trans (hpick hr)) (Nat.ne_of_lt (Nat.lt_succ_self _))
      · exact ⟨hle, heven⟩

namespace Candidate

variable {x : Mag} (c : Candidate x)

theorem normalize_cases (hx : x ≠ Mag.zero) :
    (c.decimal.normalize = c.decimal ∧ c.decimal.coeff < 10 ^ c.count) ∨
      (c.count = 1 ∧ c.decimal.coeff = 10 ∧ c.decimal.normalize = ⟨1, c.decimal.exp + 1⟩) := by
  refine normalize_candidate hx c.count_pos c.reads ?_ c.least
  have := c.low_lt
  rcases c.pick with ⟨h, -⟩ | ⟨h, -⟩ <;> omega

theorem normalize_reads : roundDecimal c.decimal.normalize = some x :=
  (roundDecimal_normalize _).trans c.reads

theorem normalize_length (hx : x ≠ Mag.zero) : c.decimal.normalize.length = c.count := by
  rcases c.normalize_cases hx with ⟨he, hlt⟩ | ⟨h1, -, he⟩
  · refine Nat.le_antisymm ?_ (c.least _ c.normalize_reads)
    rw [he]
    exact (length_le_iff c.count_pos).mpr hlt
  · rw [he, h1]
    exact (by decide : (decDigits 1).length = 1)

/-- Normalizing changes neither the value nor that it is on every grid. -/
theorem grid_normalize (hx : x ≠ Mag.zero) (N : Nat) :
    0 ≤ c.decimal.normalize.exp + bias + N ∧
      grid N c.decimal.normalize = c.decimal.coeff * 10 ^ (c.place + N) := by
  have hexp := c.exp_eq
  rcases c.normalize_cases hx with ⟨he, -⟩ | ⟨-, hten, he⟩
  · have hnat : (c.decimal.exp + bias + N).toNat = c.place + N := by omega
    rw [he, grid, hnat]
    exact ⟨by omega, rfl⟩
  · have hnat : (c.decimal.exp + 1 + bias + N).toNat = c.place + N + 1 := by omega
    rw [he, grid, hten]
    refine ⟨by simp only; omega, ?_⟩
    simp only
    rw [hnat, Nat.pow_succ, Nat.one_mul, Nat.mul_comm]

/-- The rest is less than one in the last place. -/
theorem rest_scaled (N : Nat) : c.rest * 10 ^ N < 10 ^ (c.place + N) := by
  rw [Nat.pow_add]
  exact Nat.mul_lt_mul_of_pos_right c.rest_lt (Nat.pow_pos (by decide))

theorem closest (hx : x ≠ Mag.zero) {d : Decimal} (hd : roundDecimal d = some x)
    (hl : d.length = c.count) :
    |c.decimal.normalize.value - x.value| ≤ |d.value - x.value| := by
  obtain ⟨N, hN, -⟩ := exists_grid d d
  obtain ⟨hN', hgrid⟩ := c.grid_normalize hx N
  rw [dist_le_iff hN' hN, hgrid, c.exact]
  have hscale := scaled_half c.rest c.place N
  have hrest := c.rest_scaled N
  rcases c.pick with ⟨hc, hpick⟩ | ⟨hc, hpick⟩ <;> rw [hc] <;>
    rcases c.side d hd hl N hN with ⟨hr, hv⟩ | ⟨hr, hv⟩ <;>
    (try simp only [Nat.add_mul, Nat.one_mul] at hv ⊢)
  · omega
  · have := hscale.1 (hpick hr).1
    omega
  · have := hscale.2.1 (hpick hr).1
    omega
  · omega

/-- Another decimal that is as close is on the other side, so the double is halfway between the
candidates. -/
theorem even (hx : x ≠ Mag.zero) {d : Decimal} (hd : roundDecimal d = some x)
    (hl : d.length = c.count)
    (hdist : |d.value - x.value| = |c.decimal.normalize.value - x.value|)
    (hne : d ≠ c.decimal.normalize) : 2 ∣ c.decimal.normalize.coeff := by
  obtain ⟨N, hN, -⟩ := exists_grid d d
  obtain ⟨hN', hgrid⟩ := c.grid_normalize hx N
  have hle := (dist_le_iff hN hN').mp (le_of_eq hdist)
  have hge := (dist_le_iff hN' hN).mp (le_of_eq hdist.symm)
  have hdiff : grid N d ≠ grid N c.decimal.normalize := fun he => hne
    (eq_of_grid_eq hN hN' (coeff_ne_zero_of_reads hx hd) (hl.trans (c.normalize_length hx).symm) he)
  rw [hgrid] at hdiff
  rw [hgrid, c.exact] at hle hge
  have hscale := scaled_half c.rest c.place N
  have hrest := c.rest_scaled N
  have hlow := c.low_lt
  rcases c.pick with ⟨hc, hpick⟩ | ⟨hc, hpick⟩ <;> rw [hc] at hle hge hdiff <;>
    rcases c.side d hd hl N hN with ⟨hr, hv⟩ | ⟨hr, hv⟩ <;>
    (try simp only [Nat.add_mul, Nat.one_mul] at hv hle hge hdiff)
  · omega
  · have hhalf := hscale.1 (hpick hr).1
    have heven := (hpick hr).2 (hscale.2.2 (by omega))
    rcases c.normalize_cases hx with ⟨he, -⟩ | ⟨h1, hten, -⟩
    · rw [he, hc]
      exact heven
    · rw [h1] at hlow
      omega
  · have hhalf := hscale.2.1 (hpick hr).1
    have htie := hscale.2.2 (by omega)
    rcases c.normalize_cases hx with ⟨he, -⟩ | ⟨h1, hten, -⟩
    · rw [he, hc]
      exact (hpick hr).2 htie
    · have hnine : c.low = 9 := by omega
      have hexact := c.exact 0
      rw [hnine, Nat.pow_zero, Nat.mul_one, Nat.mul_one, Nat.add_zero] at hexact
      exact absurd (by omega) (not_halfway_ten hx (hnine ▸ hr))
  · omega

end Candidate

/-- The digits of `repr` are the shortest, the closest and the even. -/
theorem isShortest_reprDecimal {x : Mag} (hx : x ≠ Mag.zero) : IsShortest x (reprDecimal x) := by
  obtain ⟨c, hc⟩ := exists_candidate hx
  rw [hc]
  have hlen := c.normalize_length hx
  exact ⟨c.normalize_reads, fun d hd => hlen ▸ c.least d hd,
    fun d hd hl => c.closest hx hd (hl.trans hlen),
    fun d hd hl => c.even hx hd (hl.trans hlen)⟩

/-- Of two values as far from a third, nothing between them is as far. -/
theorem closer_between {a b c x : Nat} (hab : a < b) (hbc : b < c)
    (hle : ((a : ℤ) - x).natAbs ≤ ((c : ℤ) - x).natAbs)
    (hge : ((c : ℤ) - x).natAbs ≤ ((a : ℤ) - x).natAbs)
    (h : ((a : ℤ) - x).natAbs ≤ ((b : ℤ) - x).natAbs) : False := by
  omega

/-- Below an even decimal and the next one with as many digits there is a third, closer to what
lies halfway between them. -/
theorem IsShortest.not_lt {x : Mag} (hx : x ≠ Mag.zero) {d d' : Decimal} (h : IsShortest x d)
    (h' : IsShortest x d') {N : Nat} (hN : 0 ≤ d.exp + bias + N) (hN' : 0 ≤ d'.exp + bias + N)
    (heven : 2 ∣ d.coeff) (heven' : 2 ∣ d'.coeff) : ¬ grid N d < grid N d' := by
  intro hlt
  have hlen : d.length = d'.length :=
    Nat.le_antisymm (h.least d' h'.reads) (h'.least d h.reads)
  have hle := (dist_le_iff hN hN').mp (h.closest d' h'.reads hlen.symm)
  have hge := (dist_le_iff hN' hN).mp (h'.closest d h.reads hlen)
  have hc : d.coeff ≠ 0 := coeff_ne_zero_of_reads hx h.reads
  have hpos : 0 < d.length := decDigits_length_pos _
  have hten : 2 ∣ 10 ^ d.length := dvd_pow (by decide) (by omega)
  have hup : d.coeff < 10 ^ d.length := lt_pow_length _
  have hup' : d'.coeff < 10 ^ d.length := hlen ▸ lt_pow_length _
  have hlow : 10 ^ (d.length - 1) ≤ d.coeff := pow_length_le hc
  have hnextUp : d.coeff + 1 < 10 ^ d.length := by omega
  have hnext : (⟨d.coeff + 1, d.exp⟩ : Decimal).length = d.length :=
    length_eq_of_pow_le (Nat.le_succ_of_le hlow) hnextUp hpos
  have hgridNext : grid N ⟨d.coeff + 1, d.exp⟩ = grid N d + 10 ^ (d.exp + bias + N).toNat := by
    simp only [grid]
    ring
  -- the decimal above is a multiple of the last place of the one below
  have hexp : (d.exp + bias + N).toNat ≤ (d'.exp + bias + N).toNat := by
    by_contra hbig
    have h1 : 10 ^ (d.length - 1 + ((d'.exp + bias + N).toNat + 1)) ≤ grid N d := by
      rw [grid, Nat.pow_add]
      exact Nat.mul_le_mul hlow (Nat.pow_le_pow_right (by decide) (by omega))
    have h2 : grid N d' < 10 ^ (d.length + (d'.exp + bias + N).toNat) := by
      rw [grid, Nat.pow_add]
      exact Nat.mul_lt_mul_of_pos_right hup' (Nat.pow_pos (by decide))
    have : d.length - 1 + ((d'.exp + bias + N).toNat + 1)
        = d.length + (d'.exp + bias + N).toNat := by omega
    rw [this] at h1
    omega
  obtain ⟨q, hq⟩ : ∃ q, grid N d' = q * 10 ^ (d.exp + bias + N).toNat := by
    refine ⟨d'.coeff * 10 ^ ((d'.exp + bias + N).toNat - (d.exp + bias + N).toNat), ?_⟩
    rw [grid, Nat.mul_assoc, ← Nat.pow_add, Nat.sub_add_cancel hexp]
  have hstep : grid N ⟨d.coeff + 1, d.exp⟩ ≤ grid N d' := by
    rw [hq] at hlt ⊢
    exact Nat.mul_le_mul_right _ (Nat.lt_of_mul_lt_mul_right hlt)
  have hplace : 0 < 10 ^ (d.exp + bias + N).toNat := Nat.pow_pos (by decide)
  have hNnext : 0 ≤ (⟨d.coeff + 1, d.exp⟩ : Decimal).exp + bias + N := hN
  have hread : roundDecimal ⟨d.coeff + 1, d.exp⟩ = some x := by
    rw [roundDecimal_grid hNnext]
    have hle' : grid N d ≤ grid N ⟨d.coeff + 1, d.exp⟩ := by omega
    refine round_squeeze (gridDen_pos N) hle' hstep ?_ ?_
    · exact roundDecimal_grid hN ▸ h.reads
    · exact roundDecimal_grid hN' ▸ h'.reads
  rcases Nat.eq_or_lt_of_le hstep with he | hlt'
  · have := eq_of_grid_eq hNnext hN' (Nat.succ_ne_zero _) (hnext.trans hlen) he
    rw [← this] at heven'
    simp only at heven'
    omega
  · exact closer_between (by omega) hlt' hle hge
      ((dist_le_iff hN hNnext).mp (h.closest _ hread hnext))

/-- Nothing else is as short and as close, and even where it must be. -/
theorem IsShortest.unique {x : Mag} (hx : x ≠ Mag.zero) {d d' : Decimal} (h : IsShortest x d)
    (h' : IsShortest x d') : d = d' := by
  have hlen : d.length = d'.length :=
    Nat.le_antisymm (h.least d' h'.reads) (h'.least d h.reads)
  have hdist := le_antisymm (h.closest d' h'.reads hlen.symm) (h'.closest d h.reads hlen)
  by_contra hne
  have heven := h.even d' h'.reads hlen.symm hdist.symm (fun he => hne he.symm)
  have heven' := h'.even d h.reads hlen hdist hne
  obtain ⟨N, h1, h2⟩ := exists_grid d d'
  rcases Nat.lt_trichotomy (grid N d) (grid N d') with hlt | he | hlt
  · exact h.not_lt hx h' h1 h2 heven heven' hlt
  · exact hne (eq_of_grid_eq h1 h2 (coeff_ne_zero_of_reads hx h.reads) hlen he)
  · exact h'.not_lt hx h h2 h1 heven' heven hlt

end Axg.Python
