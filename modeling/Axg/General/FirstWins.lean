/-
# The first value of each key

A list is read from the front, each item standing for a key and a value or for nothing.  A key
gets the first value that comes for it and keeps it.
-/
import Mathlib.Data.List.Basic

namespace Axg.General.FirstWins

variable {τ κ α : Type} [DecidableEq κ] (f : τ → Option (κ × α))

/-- The values collected, after those that are there already. -/
def collect : List τ → List (κ × α) → List (κ × α)
  | [], values => values
  | t :: ts, values =>
    match f t with
    | none => collect ts values
    | some (key, a) =>
      if key ∈ values.map Prod.fst then collect ts values else collect ts (values ++ [(key, a)])

/-- The value comes for the key, and none came for it before. -/
def First (ts : List τ) (key : κ) (a : α) : Prop :=
  ∃ before t after, ts = before ++ t :: after ∧ f t = some (key, a) ∧
    ∀ u ∈ before, ∀ b, f u ≠ some (key, b)

variable {f}

omit [DecidableEq κ] in
theorem not_first_nil (key : κ) (a : α) : ¬ First f [] key a := by
  rintro ⟨before, t, after, h, -⟩
  cases before <;> cases h

omit [DecidableEq κ] in
theorem first_cons_iff {t : τ} {ts : List τ} {key : κ} {a : α} :
    First f (t :: ts) key a ↔
      f t = some (key, a) ∨ (∀ b, f t ≠ some (key, b)) ∧ First f ts key a := by
  constructor
  · rintro ⟨before, u, after, h, hu, hbefore⟩
    cases before with
    | nil =>
      cases h
      exact .inl hu
    | cons x before =>
      cases h
      exact .inr ⟨hbefore t List.mem_cons_self, before, u, after, rfl, hu,
        fun w hw => hbefore w (List.mem_cons_of_mem _ hw)⟩
  · rintro (h | ⟨ht, before, u, after, rfl, hu, hbefore⟩)
    · exact ⟨[], t, ts, rfl, h, by simp⟩
    · refine ⟨t :: before, u, after, rfl, hu, fun w hw => ?_⟩
      rcases List.mem_cons.mp hw with rfl | hw
      · exact ht
      · exact hbefore w hw

/-- What is collected: what was there, and the first value of each other key. -/
theorem mem_collect_iff {ts : List τ} {values : List (κ × α)} {key : κ} {a : α} :
    (key, a) ∈ collect f ts values ↔
      (key, a) ∈ values ∨ key ∉ values.map Prod.fst ∧ First f ts key a := by
  induction ts generalizing values with
  | nil => simp [collect, not_first_nil]
  | cons t ts ih =>
    rw [collect, first_cons_iff]
    cases ht : f t with
    | none => simp [ih]
    | some p =>
      obtain ⟨k, b⟩ := p
      simp only [Option.some.injEq, Prod.mk.injEq]
      by_cases hk : k ∈ values.map Prod.fst
      · rw [if_pos hk, ih]
        refine or_congr Iff.rfl (and_congr_right fun hkey => ?_)
        have hne : k ≠ key := fun h => hkey (h ▸ hk)
        simp [hne]
      · rw [if_neg hk, ih]
        by_cases hkey : k = key
        · subst hkey
          have hmem : (k, a) ∉ values := fun h => hk (List.mem_map_of_mem h)
          simp [hk, hmem, eq_comm]
        · have hne : ¬ key = k := fun h => hkey h.symm
          simp [hkey, hne]

/-- Items that stand for nothing leave no trace. -/
theorem collect_filter (ts : List τ) (values : List (κ × α)) :
    collect f (ts.filter (fun t => (f t).isSome)) values = collect f ts values := by
  induction ts generalizing values with
  | nil => rfl
  | cons t ts ih =>
    cases ht : f t with
    | none => simp [ht, collect, ih]
    | some p => simp [ht, collect, ih]

end Axg.General.FirstWins
