/-
# Machines that are kept by key

A store holds one state for each key, and an input for a key moves the state of that key alone.
What one key sees of a run is the run of a single machine on its own inputs: the answers
(`answers_of_key`) and the last state (`state_of_key`).
-/
import Mathlib.Logic.Function.Basic
import Mathlib.Data.List.Basic

namespace Axg.General.PerKey

variable {κ ι ο σ : Type} (step : σ → ι → ο × σ)

/-! ## 1. One machine -/

/-- The answers of one machine, and its last state. -/
def runOne : σ → List ι → List ο × σ
  | s, [] => ([], s)
  | s, i :: is => ((step s i).1 :: (runOne (step s i).2 is).1, (runOne (step s i).2 is).2)

theorem runOne_concat_state (s : σ) (is : List ι) (i : ι) :
    (runOne step s (is ++ [i])).2 = (step (runOne step s is).2 i).2 := by
  induction is generalizing s with
  | nil => rfl
  | cons j is ih => exact ih (step s j).2

/-! ## 2. A machine for each key -/

variable [DecidableEq κ]

/-- The answers of all machines, each with the key it was given to, and the last states. -/
def runAll : (κ → σ) → List (κ × ι) → List (κ × ο) × (κ → σ)
  | store, [] => ([], store)
  | store, (k, i) :: inputs =>
    ((k, (step (store k) i).1) ::
        (runAll (Function.update store k (step (store k) i).2) inputs).1,
      (runAll (Function.update store k (step (store k) i).2) inputs).2)

/-- The inputs of one key. -/
def inputsOf (k : κ) (inputs : List (κ × ι)) : List ι :=
  (inputs.filter (fun p => p.1 = k)).map Prod.snd

theorem inputsOf_cons_self (k : κ) (i : ι) (inputs : List (κ × ι)) :
    inputsOf k ((k, i) :: inputs) = i :: inputsOf k inputs := by
  simp [inputsOf]

theorem inputsOf_cons_ne {j k : κ} (h : j ≠ k) (i : ι) (inputs : List (κ × ι)) :
    inputsOf k ((j, i) :: inputs) = inputsOf k inputs := by
  simp [inputsOf, h]

/-- The last state of a key is that of its own machine. -/
theorem state_of_key (store : κ → σ) (inputs : List (κ × ι)) (k : κ) :
    (runAll step store inputs).2 k = (runOne step (store k) (inputsOf k inputs)).2 := by
  induction inputs generalizing store with
  | nil => rfl
  | cons p inputs ih =>
    obtain ⟨j, i⟩ := p
    rw [runAll, ih]
    by_cases hj : j = k
    · subst hj
      rw [Function.update_self, inputsOf_cons_self, runOne]
    · rw [Function.update_of_ne (Ne.symm hj), inputsOf_cons_ne hj]

/-- The answers that a key gets are those of its own machine. -/
theorem answers_of_key (store : κ → σ) (inputs : List (κ × ι)) (k : κ) :
    inputsOf k (runAll step store inputs).1 =
      (runOne step (store k) (inputsOf k inputs)).1 := by
  induction inputs generalizing store with
  | nil => rfl
  | cons p inputs ih =>
    obtain ⟨j, i⟩ := p
    rw [runAll]
    by_cases hj : j = k
    · subst hj
      rw [inputsOf_cons_self, inputsOf_cons_self, runOne, ih, Function.update_self]
    · rw [inputsOf_cons_ne hj, inputsOf_cons_ne hj, ih,
        Function.update_of_ne (Ne.symm hj)]

/-- A key without inputs keeps its state. -/
theorem state_of_silent (store : κ → σ) {inputs : List (κ × ι)} {k : κ}
    (h : ∀ p ∈ inputs, p.1 ≠ k) : (runAll step store inputs).2 k = store k := by
  have hnone : inputsOf k inputs = [] := by
    rw [inputsOf, List.map_eq_nil_iff, List.filter_eq_nil_iff]
    intro p hp
    simpa using h p hp
  rw [state_of_key, hnone]
  rfl

end Axg.General.PerKey
