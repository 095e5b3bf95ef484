/-
# Runs and invariants

A system is a set of first states and a step relation.  What holds at the start and is kept by
every step from a reachable state holds in every reachable state.
-/
import Mathlib.Logic.Relation

namespace Axg.General

section Runs

variable {σ : Type} {init : σ → Prop} {step : σ → σ → Prop}

/-- Reached from a first state by steps. -/
def Reachable (init : σ → Prop) (step : σ → σ → Prop) (s : σ) : Prop :=
  ∃ s₀, init s₀ ∧ Relation.ReflTransGen step s₀ s

theorem Reachable.of_init {s : σ} (h : init s) : Reachable init step s := ⟨s, h, .refl⟩

theorem Reachable.tail {s t : σ} (h : Reachable init step s) (hst : step s t) :
    Reachable init step t := by
  obtain ⟨s₀, h₀, hs⟩ := h
  exact ⟨s₀, h₀, hs.tail hst⟩

/-- The rule of invariants. -/
theorem Reachable.invariant {I : σ → Prop} (hinit : ∀ s, init s → I s)
    (hstep : ∀ s t, Reachable init step s → I s → step s t → I t) {s : σ}
    (h : Reachable init step s) : I s := by
  obtain ⟨s₀, h₀, hs⟩ := h
  induction hs with
  | refl => exact hinit s₀ h₀
  | tail hprev hlast ih => exact hstep _ _ ⟨s₀, h₀, hprev⟩ ih hlast

end Runs

/-- A simulation carries reachable states to reachable states. -/
theorem Reachable.simulated {σ τ : Type} {init : σ → Prop} {step : σ → σ → Prop}
    {init' : τ → Prop} {step' : τ → τ → Prop} (abs : σ → τ) (hinit : ∀ s, init s → init' (abs s))
    (hstep : ∀ s t, step s t → step' (abs s) (abs t)) {s : σ} (h : Reachable init step s) :
    Reachable init' step' (abs s) := by
  obtain ⟨s₀, h₀, hs⟩ := h
  exact ⟨abs s₀, hinit s₀ h₀, hs.lift abs hstep⟩

end Axg.General
