/-
# IEEE 754 binary64

Finite doubles as sign, significand and exponent, with the format's bounds as fields of the
structure, and correct rounding of a rational to the nearest of them, ties to even.

Magnitudes are counted in UNITS of `2 ^ -1074`, the least positive double.  Every finite
double is then a natural number of units, `sig * 2 ^ exp` with `exp` a natural number too, and
a rational magnitude is a pair `a / d` of naturals.  So nothing below needs a negative
exponent or a real number.

* `Mag.units_injective`: a magnitude is determined by its value;
* `round_units`: a representable value rounds to itself;
* `round_congr`: rounding depends on the value `a / d` alone;
* `pow_le_units_of_round`: rounding does not take a value below a power of two it is not below;
* `round_squeeze`: what lies between two values that round alike rounds like them.
-/
import Mathlib.Data.Nat.Log
import Mathlib.Tactic.Ring

namespace Axg.Python

/-! ## 1. The format -/

/-- A finite magnitude, `sig * 2 ^ exp` units of `2 ^ -1074`: normal when `2 ^ 52 ≤ sig`,
subnormal or zero otherwise. -/
structure Mag where
  sig : Nat
  exp : Nat
  sig_lt : sig < 2 ^ 53
  normal : 2 ^ 52 ≤ sig ∨ exp = 0
  exp_le : exp ≤ 2045
deriving DecidableEq

/-- A Python `float`. -/
inductive F64
  | finite (neg : Bool) (mag : Mag)
  | inf (neg : Bool)
  | nan
deriving DecidableEq

namespace Mag

def units (x : Mag) : Nat := x.sig * 2 ^ x.exp

def zero : Mag := ⟨0, 0, by decide, Or.inr rfl, by decide⟩

/-- The smart constructor: `none` where the exponent is past the largest double. -/
def mk? (sig exp : Nat) : Option Mag :=
  if h : sig < 2 ^ 53 ∧ (2 ^ 52 ≤ sig ∨ exp = 0) ∧ exp ≤ 2045 then
    some ⟨sig, exp, h.1, h.2.1, h.2.2⟩
  else none

theorem mk?_self (x : Mag) : mk? x.sig x.exp = some x := by
  have h : x.sig < 2 ^ 53 ∧ (2 ^ 52 ≤ x.sig ∨ x.exp = 0) ∧ x.exp ≤ 2045 :=
    ⟨x.sig_lt, x.normal, x.exp_le⟩
  simp only [mk?, h, and_self, ↓reduceDIte]

theorem mk?_eq_some {s e : Nat} {x : Mag} (h : mk? s e = some x) : x.sig = s ∧ x.exp = e := by
  unfold mk? at h
  split at h
  · cases h; exact ⟨rfl, rfl⟩
  · cases h

theorem exp_eq_of_lt {x y : Mag} (h : x.exp < y.exp) : x.units < y.units := by
  have hy : 2 ^ 52 ≤ y.sig := y.normal.resolve_right (by omega)
  calc x.units < 2 ^ 53 * 2 ^ x.exp := Nat.mul_lt_mul_of_pos_right x.sig_lt (Nat.two_pow_pos _)
    _ = 2 ^ 52 * 2 ^ (x.exp + 1) := by ring
    _ ≤ y.sig * 2 ^ y.exp := Nat.mul_le_mul hy (Nat.pow_le_pow_right (by decide) h)

/-- Two magnitudes of one value are the same magnitude: significands are normalised. -/
theorem units_injective {x y : Mag} (h : x.units = y.units) : x = y := by
  rcases Nat.lt_trichotomy x.exp y.exp with he | he | he
  · exact absurd h (Nat.ne_of_lt (exp_eq_of_lt he))
  · have hs : x.sig = y.sig := by
      unfold units at h
      rw [he] at h
      exact Nat.eq_of_mul_eq_mul_right (Nat.two_pow_pos _) h
    cases x; cases y; simp_all
  · exact absurd h.symm (Nat.ne_of_lt (exp_eq_of_lt he))

end Mag

/-! ## 2. Rounding -/

/-- `a / d` rounded to the nearest integer, ties to even. -/
def roundHalfEven (a d : Nat) : Nat :=
  let q := a / d
  let r := a % d
  if 2 * r < d then q
  else if d < 2 * r then q + 1
  else if q % 2 = 0 then q else q + 1

theorem roundHalfEven_mul (q : Nat) {d : Nat} (hd : 0 < d) : roundHalfEven (q * d) d = q := by
  simp [roundHalfEven, Nat.mul_div_cancel _ hd, hd]

theorem roundHalfEven_scale (a d : Nat) {c : Nat} (hc : 0 < c) :
    roundHalfEven (a * c) (d * c) = roundHalfEven a d := by
  have hr : 2 * (a * c % (d * c)) = 2 * (a % d) * c := by
    rw [Nat.mul_mod_mul_right, Nat.mul_assoc]
  simp only [roundHalfEven, Nat.mul_div_mul_right _ _ hc, hr, Nat.mul_lt_mul_right hc]

theorem le_roundHalfEven (a d : Nat) : a / d ≤ roundHalfEven a d := by
  simp only [roundHalfEven]
  split
  · exact Nat.le_refl _
  · split
    · omega
    · split <;> omega

/-- The exponent of the binade of `q` units. -/
def unitExp (q : Nat) : Nat := Nat.log 2 q - 52

/-- The double nearest to `a / d` units, ties to even; `none` past the largest double. -/
def round (a d : Nat) : Option Mag :=
  let e := unitExp (a / d)
  let s := roundHalfEven a (d * 2 ^ e)
  if s = 2 ^ 53 then Mag.mk? (2 ^ 52) (e + 1) else Mag.mk? s e

theorem unitExp_units (x : Mag) : unitExp x.units = x.exp := by
  unfold unitExp
  rcases Nat.eq_zero_or_pos x.exp with he | he
  · have hu : x.units < 2 ^ 53 := by simpa [Mag.units, he] using x.sig_lt
    have hl : Nat.log 2 x.units < 53 := by
      rcases Nat.eq_zero_or_pos x.units with h0 | h0
      · simp [h0]
      · exact Nat.log_lt_of_lt_pow (by omega) hu
    omega
  · have hs : 2 ^ 52 ≤ x.sig := x.normal.resolve_right (by omega)
    have hl : Nat.log 2 x.units = 52 + x.exp := by
      refine Nat.log_eq_of_pow_le_of_lt_pow ?_ ?_
      · rw [Nat.pow_add]
        exact Nat.mul_le_mul_right _ hs
      · calc x.units < 2 ^ 53 * 2 ^ x.exp :=
              Nat.mul_lt_mul_of_pos_right x.sig_lt (Nat.two_pow_pos _)
          _ = 2 ^ (52 + x.exp + 1) := by ring
    omega

/-- A representable value is its own rounding. -/
theorem round_units (x : Mag) {d : Nat} (hd : 0 < d) : round (x.units * d) d = some x := by
  have hsig : roundHalfEven (x.units * d) (d * 2 ^ x.exp) = x.sig := by
    have : x.units * d = x.sig * (d * 2 ^ x.exp) := by unfold Mag.units; ring
    rw [this]
    exact roundHalfEven_mul _ (Nat.mul_pos hd (Nat.two_pow_pos _))
  have hne : x.sig ≠ 2 ^ 53 := Nat.ne_of_lt x.sig_lt
  simp only [round, Nat.mul_div_cancel _ hd, unitExp_units, hsig, hne, ↓reduceIte, Mag.mk?_self]

theorem round_scale (a d : Nat) {c : Nat} (hc : 0 < c) : round (a * c) (d * c) = round a d := by
  have hd : ∀ e, d * c * 2 ^ e = d * 2 ^ e * c := fun e => by ring
  simp only [round, Nat.mul_div_mul_right _ _ hc, hd, roundHalfEven_scale _ _ hc]

/-- Rounding sees the value of a fraction and not its terms. -/
theorem round_congr {a d a' d' : Nat} (hd : 0 < d) (hd' : 0 < d') (h : a * d' = a' * d) :
    round a d = round a' d' := by
  rw [← round_scale a d hd', ← round_scale a' d' hd, h, Nat.mul_comm d d']

/-- A value that is at least `2 ^ k` rounds to a double that is at least `2 ^ k`. -/
theorem pow_le_units_of_round {a d k : Nat} {x : Mag} (hk : 2 ^ k ≤ a / d)
    (h : round a d = some x) : 2 ^ k ≤ x.units := by
  have hd : 0 < d := by
    rcases Nat.eq_zero_or_pos d with h0 | h0
    · have := Nat.two_pow_pos k; simp [h0] at hk
    · exact h0
  have hq : 0 < a / d := Nat.lt_of_lt_of_le (Nat.two_pow_pos k) hk
  have hlog : k ≤ Nat.log 2 (a / d) := Nat.le_log_of_pow_le (by decide) hk
  have hself : 2 ^ Nat.log 2 (a / d) ≤ a / d := Nat.pow_log_le_self 2 (by omega)
  -- the significand is at least the quotient by the unit of the binade
  have hsig : a / d / 2 ^ unitExp (a / d) ≤ roundHalfEven a (d * 2 ^ unitExp (a / d)) := by
    rw [Nat.div_div_eq_div_mul]; exact le_roundHalfEven _ _
  have hval : 2 ^ k ≤ a / d / 2 ^ unitExp (a / d) * 2 ^ unitExp (a / d) := by
    unfold unitExp
    rcases Nat.lt_or_ge (Nat.log 2 (a / d)) 52 with hl | hl
    · rw [show Nat.log 2 (a / d) - 52 = 0 by omega]; simpa using hk
    · have hdiv : 2 ^ 52 ≤ a / d / 2 ^ (Nat.log 2 (a / d) - 52) := by
        rw [Nat.le_div_iff_mul_le (Nat.two_pow_pos _), ← Nat.pow_add]
        rwa [show 52 + (Nat.log 2 (a / d) - 52) = Nat.log 2 (a / d) by omega]
      calc 2 ^ k ≤ 2 ^ (52 + (Nat.log 2 (a / d) - 52)) :=
            Nat.pow_le_pow_right (by decide) (by omega)
        _ = 2 ^ 52 * 2 ^ (Nat.log 2 (a / d) - 52) := Nat.pow_add _ _ _
        _ ≤ _ := Nat.mul_le_mul_right _ hdiv
  have hle := Nat.le_trans hval (Nat.mul_le_mul_right (2 ^ unitExp (a / d)) hsig)
  simp only [round] at h
  split at h
  · rename_i hs
    obtain ⟨h1, h2⟩ := Mag.mk?_eq_some h
    rw [hs] at hle
    rw [Mag.units, h1, h2]
    calc 2 ^ k ≤ 2 ^ 53 * 2 ^ unitExp (a / d) := hle
      _ = 2 ^ 52 * 2 ^ (unitExp (a / d) + 1) := by ring
  · obtain ⟨h1, h2⟩ := Mag.mk?_eq_some h
    rw [Mag.units, h1, h2]
    exact hle

theorem Mag.units_lt (x : Mag) : x.units < 2 ^ 2098 := by
  calc x.units < 2 ^ 53 * 2 ^ x.exp := Nat.mul_lt_mul_of_pos_right x.sig_lt (Nat.two_pow_pos _)
    _ ≤ 2 ^ 53 * 2 ^ 2045 := Nat.mul_le_mul_left _ (Nat.pow_le_pow_right (by decide) x.exp_le)
    _ = 2 ^ 2098 := by rw [← Nat.pow_add]

/-! ## 3. Rounding is monotone -/

/-- The significand of `round`, before it is packed. -/
def roundUnits (a d : Nat) : Nat :=
  roundHalfEven a (d * 2 ^ unitExp (a / d)) * 2 ^ unitExp (a / d)

theorem roundHalfEven_mono {a b d : Nat} (h : a ≤ b) : roundHalfEven a d ≤ roundHalfEven b d := by
  have hq : a / d ≤ b / d := Nat.div_le_div_right h
  rcases Nat.eq_or_lt_of_le hq with hq | hq
  · have hr : a % d ≤ b % d := by
      have ha := Nat.div_add_mod a d
      have hb := Nat.div_add_mod b d
      rw [hq] at ha
      omega
    simp only [roundHalfEven, hq]
    split_ifs <;> omega
  · refine Nat.le_trans ?_ (Nat.le_trans hq (le_roundHalfEven b d))
    simp only [roundHalfEven]
    split
    · omega
    · split
      · omega
      · split <;> omega

theorem lt_pow_unitExp (q : Nat) : q < 2 ^ (53 + unitExp q) := by
  refine Nat.lt_of_lt_of_le (Nat.lt_pow_succ_log_self (by decide : 1 < 2) q) ?_
  refine Nat.pow_le_pow_right (by decide) ?_
  unfold unitExp
  omega

/-- In a binade above the subnormal numbers the quotient fills the significand. -/
theorem pow_unitExp_le {q : Nat} (h : unitExp q ≠ 0) : 2 ^ (52 + unitExp q) ≤ q := by
  have hq : q ≠ 0 := by rintro rfl; simp [unitExp] at h
  refine Nat.le_trans (Nat.pow_le_pow_right (by decide) ?_) (Nat.pow_log_le_self 2 hq)
  unfold unitExp at h ⊢
  omega

theorem roundHalfEven_le {a d c : Nat} (h : a < d * c) : roundHalfEven a d ≤ c := by
  have hd : 0 < d := Nat.pos_of_ne_zero (by rintro rfl; simp at h)
  have := roundHalfEven_mono (d := d) (Nat.le_of_lt h)
  rwa [Nat.mul_comm, roundHalfEven_mul _ hd] at this

theorem roundSig_le {a d : Nat} (hd : 0 < d) :
    roundHalfEven a (d * 2 ^ unitExp (a / d)) ≤ 2 ^ 53 := by
  refine roundHalfEven_le ?_
  have h := lt_pow_unitExp (a / d)
  rw [Nat.div_lt_iff_lt_mul hd] at h
  calc a < 2 ^ (53 + unitExp (a / d)) * d := h
    _ = d * 2 ^ unitExp (a / d) * 2 ^ 53 := by rw [Nat.pow_add]; ring

theorem le_roundSig {a d : Nat} (h : unitExp (a / d) ≠ 0) :
    2 ^ 52 ≤ roundHalfEven a (d * 2 ^ unitExp (a / d)) := by
  refine Nat.le_trans ?_ (le_roundHalfEven _ _)
  rw [← Nat.div_div_eq_div_mul, Nat.le_div_iff_mul_le (Nat.two_pow_pos _), ← Nat.pow_add]
  exact pow_unitExp_le h

theorem exp_of_units_lt {s e k : Nat} (hs : 2 ^ k ≤ s) (h : s * 2 ^ e < 2 ^ 2098) :
    k + e < 2098 := by
  have := Nat.lt_of_le_of_lt (Nat.mul_le_mul_right (2 ^ e) hs) h
  rw [← Nat.pow_add] at this
  exact (Nat.pow_lt_pow_iff_right (by decide)).mp this

/-- The double that a fraction rounds to has the value of `roundUnits`. -/
theorem units_of_round {a d : Nat} {x : Mag} (h : round a d = some x) :
    x.units = roundUnits a d := by
  simp only [round] at h
  split at h
  · rename_i hs
    obtain ⟨h1, h2⟩ := Mag.mk?_eq_some h
    rw [roundUnits, hs, Mag.units, h1, h2]
    ring
  · obtain ⟨h1, h2⟩ := Mag.mk?_eq_some h
    rw [roundUnits, Mag.units, h1, h2]

theorem exists_round {a d : Nat} (hd : 0 < d) (h : roundUnits a d < 2 ^ 2098) :
    ∃ x, round a d = some x := by
  unfold roundUnits at h
  have hle := roundSig_le (a := a) hd
  have hnormal : 2 ^ 52 ≤ roundHalfEven a (d * 2 ^ unitExp (a / d)) ∨ unitExp (a / d) = 0 := by
    by_cases he : unitExp (a / d) = 0
    · exact Or.inr he
    · exact Or.inl (le_roundSig he)
  simp only [round]
  generalize roundHalfEven a (d * 2 ^ unitExp (a / d)) = s at *
  generalize unitExp (a / d) = e at *
  split
  · rename_i hs
    have he := exp_of_units_lt (k := 53) (Nat.le_of_eq hs.symm) h
    exact ⟨⟨2 ^ 52, e + 1, by decide, Or.inl (Nat.le_refl _), by omega⟩,
      Mag.mk?_self ⟨_, _, _, _, _⟩⟩
  · rename_i hs
    have he : e ≤ 2045 := by
      rcases hnormal with hn | he
      · have := exp_of_units_lt hn h
        omega
      · omega
    exact ⟨⟨s, e, by omega, hnormal, he⟩, Mag.mk?_self ⟨_, _, _, _, _⟩⟩

theorem round_eq_some_iff {a d : Nat} (hd : 0 < d) {x : Mag} :
    round a d = some x ↔ x.units = roundUnits a d := by
  refine ⟨units_of_round, fun h => ?_⟩
  obtain ⟨y, hy⟩ := exists_round hd (h ▸ x.units_lt)
  rw [hy, Mag.units_injective ((units_of_round hy).trans h.symm)]

theorem roundUnits_mono {a b d : Nat} (hd : 0 < d) (h : a ≤ b) :
    roundUnits a d ≤ roundUnits b d := by
  have hq : a / d ≤ b / d := Nat.div_le_div_right h
  have he : unitExp (a / d) ≤ unitExp (b / d) := Nat.sub_le_sub_right (Nat.log_mono_right hq) 52
  unfold roundUnits
  rcases Nat.eq_or_lt_of_le he with he | he
  · rw [he]
    exact Nat.mul_le_mul_right _ (roundHalfEven_mono h)
  · calc _ ≤ 2 ^ 53 * 2 ^ unitExp (a / d) := Nat.mul_le_mul_right _ (roundSig_le hd)
      _ = 2 ^ 52 * 2 ^ (unitExp (a / d) + 1) := by ring
      _ ≤ 2 ^ 52 * 2 ^ unitExp (b / d) :=
          Nat.mul_le_mul_left _ (Nat.pow_le_pow_right (by decide) he)
      _ ≤ _ := Nat.mul_le_mul_right _ (le_roundSig (by omega))

/-- What lies between two values that round to `x` rounds to `x`. -/
theorem round_squeeze {a b c d : Nat} {x : Mag} (hd : 0 < d) (hab : a ≤ b) (hbc : b ≤ c)
    (ha : round a d = some x) (hc : round c d = some x) : round b d = some x := by
  rw [round_eq_some_iff hd] at ha hc ⊢
  have h1 := roundUnits_mono hd hab
  have h2 := roundUnits_mono hd hbc
  omega

/-- Rounding moves a value by half a unit of its binade at most. -/
theorem round_error {a d : Nat} {x : Mag} (hd : 0 < d) (h : round a d = some x) :
    2 * (x.units * d) ≤ 2 * a + d * 2 ^ unitExp (a / d) ∧
      2 * a ≤ 2 * (x.units * d) + d * 2 ^ unitExp (a / d) := by
  rw [round_eq_some_iff hd] at h
  have hu : x.units * d
      = d * 2 ^ unitExp (a / d) * roundHalfEven a (d * 2 ^ unitExp (a / d)) := by
    rw [h, roundUnits]; ring
  rw [hu]
  have hpos : 0 < d * 2 ^ unitExp (a / d) := Nat.mul_pos hd (Nat.two_pow_pos _)
  generalize d * 2 ^ unitExp (a / d) = m at *
  have hm := Nat.div_add_mod a m
  have hlt := Nat.mod_lt a hpos
  simp only [roundHalfEven]
  split_ifs <;> (try rw [Nat.mul_add]) <;> omega

/-! ## 4. Integers -/

/-- The least positive double is `2 ^ -bias`. -/
@[irreducible] def bias : Nat := 1074

/-- One, in units. -/
def one : Nat := 2 ^ bias

theorem one_pos : 0 < one := Nat.two_pow_pos _

/-- `float(i)`: the nearest double, `OverflowError` past the largest. -/
def magOfNat (n : Nat) : Option Mag := round (n * one) 1

/-- Naturals below `2 ^ 53` are doubles. -/
theorem exists_mag_of_lt {n : Nat} (h : n < 2 ^ 53) : ∃ x : Mag, x.units = n * one := by
  rcases Nat.eq_zero_or_pos n with rfl | hn
  · exact ⟨Mag.zero, by simp [Mag.zero, Mag.units]⟩
  · have hl : Nat.log 2 n ≤ 52 := by
      have := Nat.log_lt_of_lt_pow (by omega) h
      omega
    have hself : 2 ^ Nat.log 2 n ≤ n := Nat.pow_log_le_self 2 (by omega)
    have hlt : n < 2 ^ (Nat.log 2 n + 1) := Nat.lt_pow_succ_log_self (by decide) n
    refine ⟨⟨n * 2 ^ (52 - Nat.log 2 n), bias - (52 - Nat.log 2 n), ?_, ?_,
      by unfold bias; omega⟩, ?_⟩
    · calc n * 2 ^ (52 - Nat.log 2 n)
          < 2 ^ (Nat.log 2 n + 1) * 2 ^ (52 - Nat.log 2 n) :=
            Nat.mul_lt_mul_of_pos_right hlt (Nat.two_pow_pos _)
        _ = 2 ^ 53 := by rw [← Nat.pow_add]; congr 1; omega
    · left
      calc 2 ^ 52 = 2 ^ Nat.log 2 n * 2 ^ (52 - Nat.log 2 n) := by
            rw [← Nat.pow_add]; congr 1; omega
        _ ≤ n * 2 ^ (52 - Nat.log 2 n) := Nat.mul_le_mul_right _ hself
    · simp only [Mag.units, one]
      rw [Nat.mul_assoc, ← Nat.pow_add]
      congr 2; unfold bias; omega

theorem magOfNat_of_units {n : Nat} {x : Mag} (h : x.units = n * one) : magOfNat n = some x := by
  have := round_units x (d := 1) (by decide)
  rwa [Nat.mul_one, h] at this

/-- From `2 ^ 53` on, an integer rounds to a double that is not below `2 ^ 53`. -/
theorem pow_le_units_of_magOfNat {n : Nat} {x : Mag} (hn : 2 ^ 53 ≤ n)
    (h : magOfNat n = some x) : 2 ^ 53 * one ≤ x.units := by
  have hk : 2 ^ (53 + bias) ≤ n * one / 1 := by
    rw [Nat.div_one, Nat.pow_add]; exact Nat.mul_le_mul_right _ hn
  have hle := pow_le_units_of_round hk h
  rw [Nat.pow_add] at hle
  exact hle

/-- An integer that rounds to an integer below `2 ^ 53` is that integer. -/
theorem eq_of_magOfNat_units {n m : Nat} {x : Mag} (hn : n < 2 ^ 53) (hx : x.units = n * one)
    (h : magOfNat m = some x) : m = n := by
  rcases Nat.lt_or_ge m (2 ^ 53) with hm | hm
  · obtain ⟨y, hy⟩ := exists_mag_of_lt hm
    have hyx : y = x := Option.some.inj ((magOfNat_of_units hy).symm.trans h)
    subst hyx
    exact Nat.eq_of_mul_eq_mul_right one_pos (hy.symm.trans hx)
  · have h1 := pow_le_units_of_magOfNat hm h
    rw [hx] at h1
    have := Nat.le_of_mul_le_mul_right h1 one_pos
    omega

/-- `float(i)` for a Python `int`. -/
def floatOfInt (i : Int) : Option F64 := (magOfNat i.natAbs).map (F64.finite (i < 0))

/-- An integer with a double is below `2 ^ 1024`. -/
theorem natAbs_lt_of_floatOfInt {i : Int} (h : (floatOfInt i).isSome = true) :
    i.natAbs < 2 ^ 1024 := by
  obtain ⟨x, hx⟩ := Option.isSome_iff_exists.mp h
  obtain ⟨m, hm, -⟩ := Option.map_eq_some_iff.mp hx
  by_contra hge
  have hk : 2 ^ (1024 + bias) ≤ i.natAbs * one / 1 := by
    rw [Nat.div_one, Nat.pow_add]
    exact Nat.mul_le_mul_right _ (Nat.le_of_not_lt hge)
  have hle := pow_le_units_of_round hk hm
  have hlt := m.units_lt
  have hb : 1024 + bias = 2098 := by rw [bias]
  rw [hb] at hle
  exact absurd hlt (Nat.not_lt.mpr hle)

/-! ## 5. Order -/

/-- The position of a float among the floats. -/
def F64.rank : F64 → Option Int
  | .finite neg m => some (if neg then -(m.units : Int) else m.units)
  | .inf neg => some (if neg then -(2 ^ 2098 : Nat) else (2 ^ 2098 : Nat))
  | .nan => none

/-- A comparison of two floats by a test of their ranks; false against a NaN. -/
def F64.compare (test : Int → Int → Bool) (a b : F64) : Bool :=
  match a.rank, b.rank with
  | some x, some y => test x y
  | _, _ => false

end Axg.Python
