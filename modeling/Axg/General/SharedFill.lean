/-
# A shared cache that is cleared when it is filled

Any number of calls share a cache without a lock.  A call tests whether its key is there.  If it is
not, the call computes the value, clears the cache and stores the value.  In both cases it then
looks its key up.  Each operation on the cache is one step, and the steps of different calls come
in any order, so that another call's clear can come between a test or a store and the lookup after
it.

The history of the operations is kept.  A call gives what it would give alone unless its lookup
finds nothing, and the lookups of a run all find something exactly when before each of them there
is a store under its key with no clear in between (`alone_iff_of_reachable`).
-/
import Mathlib.Logic.Function.Basic
import Axg.General.Run

namespace Axg.General.SharedFill

variable {κ ν ε : Type}

/-! ## 1. Calls and operations -/

/-- The operations that change the cache or depend on what is in it in the end. -/
inductive Op (κ : Type)
  | clear
  | store (key : κ)
  | lookup (key : κ)

/-- How a call ends: with a value, with the error of the computation, or with a lookup that finds
nothing. -/
inductive Outcome (ν ε : Type)
  | returned (v : ν)
  | failed (e : ε)
  | missing

/-- What a call does next. -/
inductive Point (ν ε : Type)
  | test
  | clear (v : ν)
  | store (v : ν)
  | lookup
  | ended (outcome : Outcome ν ε)

/-- The operations on the cache that are left to a call. -/
def Point.remaining : Point ν ε → Nat
  | test => 4
  | clear _ => 3
  | store _ => 2
  | lookup => 1
  | ended _ => 0

structure Call (κ ν ε : Type) where
  key : κ
  point : Point ν ε

structure State (κ ν ε : Type) where
  cache : κ → Option ν
  calls : List (Call κ ν ε)
  history : List (Op κ)

/-- An empty cache, and no call yet. -/
def State.Init (s : State κ ν ε) : Prop :=
  s.cache = (fun _ => none) ∧ s.calls = [] ∧ s.history = []

section Steps

variable [DecidableEq κ] (compute : κ → Except ε ν)

/-- What a call gives that shares the cache with no other. -/
def alone (key : κ) : Outcome ν ε :=
  match compute key with
  | .ok v => .returned v
  | .error e => .failed e

/-- After a test that finds nothing the value is computed. -/
def afterMiss (key : κ) : Point ν ε :=
  match compute key with
  | .ok v => .clear v
  | .error e => .ended (.failed e)

/-- The next operation of a call that has not ended: the cache, the call's next point, and what is
added to the history. -/
def advance (cache : κ → Option ν) (key : κ) :
    Point ν ε → (κ → Option ν) × Point ν ε × List (Op κ)
  | .test => (cache, if (cache key).isSome then .lookup else afterMiss compute key, [])
  | .clear v => (fun _ => none, .store v, [.clear])
  | .store v => (Function.update cache key (some v), .lookup, [.store key])
  | .lookup =>
    (cache, .ended (match cache key with
      | some v => .returned v
      | none => .missing), [.lookup key])
  | .ended outcome => (cache, .ended outcome, [])

/-- One step: a call starts, or ends without a look at the cache, or makes its next operation. -/
inductive Step : State κ ν ε → State κ ν ε → Prop
  | start (s : State κ ν ε) (key : κ) :
    Step s { s with calls := s.calls ++ [⟨key, .test⟩] }
  | bypass (s : State κ ν ε) (key : κ) :
    Step s { s with calls := s.calls ++ [⟨key, .ended (alone compute key)⟩] }
  | operate (s : State κ ν ε) (before after : List (Call κ ν ε)) (c : Call κ ν ε)
      (h : s.calls = before ++ c :: after) :
    Step s
      { cache := (advance compute s.cache c.key c.point).1
        calls := before ++ ⟨c.key, (advance compute s.cache c.key c.point).2.1⟩ :: after
        history := s.history ++ (advance compute s.cache c.key c.point).2.2 }

/-- A call that has not ended gets on: it ends after four operations at most. -/
theorem remaining_advance {cache : κ → Option ν} {key : κ} {point : Point ν ε}
    (h : point.remaining ≠ 0) :
    (advance compute cache key point).2.1.remaining < point.remaining := by
  cases point with
  | test =>
    simp only [advance, afterMiss]
    split
    · simp [Point.remaining]
    · split <;> simp [Point.remaining]
  | clear v => simp [advance, Point.remaining]
  | store v => simp [advance, Point.remaining]
  | lookup => simp [advance, Point.remaining]
  | ended outcome => exact absurd rfl h

end Steps

/-! ## 2. The history -/

/-- A store under the key, and no clear since. -/
def Filled (key : κ) (history : List (Op κ)) : Prop :=
  ∃ older newer, history = older ++ .store key :: newer ∧ .clear ∉ newer

/-- Every lookup comes while its key is filled. -/
def Unbroken (history : List (Op κ)) : Prop :=
  ∀ older key newer, history = older ++ .lookup key :: newer → Filled key older

theorem not_filled_nil {key : κ} : ¬ Filled key [] := by
  rintro ⟨older, newer, h, -⟩
  simp at h

/-- What the last operation does to a key that is filled or not. -/
theorem filled_concat_iff {key : κ} {history : List (Op κ)} {op : Op κ} :
    Filled key (history ++ [op]) ↔ op = .store key ∨ op ≠ .clear ∧ Filled key history := by
  constructor
  · rintro ⟨older, newer, h, hclear⟩
    rcases List.eq_nil_or_concat newer with rfl | ⟨newer, last, rfl⟩
    · rw [List.append_inj_right' h rfl |> List.singleton_inj.mp]
      exact .inl rfl
    · rw [List.concat_eq_append, ← List.cons_append, ← List.append_assoc] at h
      have hlast : op = last := List.singleton_inj.mp (List.append_inj_right' h rfl)
      rw [List.concat_eq_append, List.mem_append, not_or] at hclear
      refine .inr ⟨?_, older, newer, List.append_inj_left' h rfl, hclear.1⟩
      rintro rfl
      exact hclear.2 (by rw [hlast]; exact List.mem_singleton_self _)
  · rintro (rfl | ⟨hop, older, newer, rfl, hclear⟩)
    · exact ⟨history, [], rfl, List.not_mem_nil⟩
    · refine ⟨older, newer ++ [op], by simp, ?_⟩
      simp [hclear, Ne.symm hop]

theorem unbroken_nil : Unbroken ([] : List (Op κ)) := by
  intro older key newer h
  simp at h

theorem unbroken_concat_iff {history : List (Op κ)} {op : Op κ} :
    Unbroken (history ++ [op]) ↔
      Unbroken history ∧ ∀ key, op = .lookup key → Filled key history := by
  constructor
  · intro h
    refine ⟨?_, ?_⟩
    · rintro older key newer rfl
      exact h older key (newer ++ [op]) (by simp)
    · rintro key rfl
      exact h history key [] rfl
  · rintro ⟨h, hlast⟩ older key newer hsplit
    rcases List.eq_nil_or_concat newer with rfl | ⟨newer, last, rfl⟩
    · have hop : op = .lookup key := List.singleton_inj.mp (List.append_inj_right' hsplit rfl)
      rw [← List.append_inj_left' hsplit rfl]
      exact hlast key hop
    · rw [List.concat_eq_append, ← List.cons_append, ← List.append_assoc] at hsplit
      exact h older key newer (List.append_inj_left' hsplit rfl)

/-! ## 3. What a run keeps -/

section Invariant

variable {compute : κ → Except ε ν}

/-- What is known of a call at its point. -/
def Call.Owes (compute : κ → Except ε ν) (c : Call κ ν ε) : Prop :=
  match c.point with
  | .test => True
  | .clear v => compute c.key = .ok v
  | .store v => compute c.key = .ok v
  | .lookup => True
  | .ended outcome => outcome = alone compute c.key ∨ outcome = .missing

/-- The cache holds computed values, under the keys that are filled, and no call has found nothing
exactly as long as every lookup came to a key that was filled. -/
structure Inv (compute : κ → Except ε ν) (s : State κ ν ε) : Prop where
  computed : ∀ key v, s.cache key = some v → compute key = .ok v
  filled : ∀ key, (s.cache key).isSome = true ↔ Filled key s.history
  owes : ∀ c ∈ s.calls, c.Owes compute
  found : (∀ c ∈ s.calls, c.point ≠ .ended .missing) ↔ Unbroken s.history

theorem Inv.init {s : State κ ν ε} (h : s.Init) : Inv compute s := by
  obtain ⟨hcache, hcalls, hhistory⟩ := h
  refine ⟨?_, ?_, ?_, ?_⟩
  · simp [hcache]
  · simp [hcache, hhistory, not_filled_nil]
  · simp [hcalls]
  · simp [hcalls, hhistory, unbroken_nil]

theorem alone_of_ok {key : κ} {v : ν} (h : compute key = .ok v) :
    alone compute key = .returned v := by
  rw [alone, h]

theorem afterMiss_owes (key : κ) : Call.Owes compute ⟨key, afterMiss compute key⟩ := by
  unfold Call.Owes afterMiss alone
  cases compute key <;> simp

theorem afterMiss_ne_missing {key : κ} : afterMiss compute key ≠ .ended .missing := by
  unfold afterMiss
  split <;> simp

/-- A call that starts, or ends without a look at the cache, leaves the rest as it is. -/
theorem Inv.append {s : State κ ν ε} (h : Inv compute s) {c : Call κ ν ε}
    (howes : c.Owes compute) (hne : c.point ≠ .ended .missing) :
    Inv compute { s with calls := s.calls ++ [c] } := by
  refine ⟨h.computed, h.filled, ?_, ?_⟩
  · intro d hd
    rcases List.mem_append.mp hd with hd | hd
    · exact h.owes d hd
    · rw [List.mem_singleton.mp hd]
      exact howes
  · rw [← h.found]
    simp [or_imp, forall_and, hne]

variable [DecidableEq κ]

/-- Nothing is found exactly where a lookup comes to a key that is not filled. -/
theorem advance_eq_missing_iff {s : State κ ν ε} (h : Inv compute s) {c : Call κ ν ε}
    (hc : c.point ≠ .ended .missing) :
    (advance compute s.cache c.key c.point).2.1 = .ended .missing ↔
      c.point = .lookup ∧ ¬ Filled c.key s.history := by
  obtain ⟨key, point⟩ := c
  have hfilled := h.filled key
  cases point with
  | test =>
    simp only [advance, reduceCtorEq, false_and, iff_false]
    split
    · simp
    · exact afterMiss_ne_missing
  | clear v => simp [advance]
  | store v => simp [advance]
  | lookup =>
    simp only [advance, true_and, ← hfilled]
    cases s.cache key <;> simp
  | ended outcome => simpa [advance] using hc

/-- A call stays true to its computation. -/
theorem advance_owes {s : State κ ν ε} (h : Inv compute s) {c : Call κ ν ε}
    (hc : c.Owes compute) :
    Call.Owes compute ⟨c.key, (advance compute s.cache c.key c.point).2.1⟩ := by
  obtain ⟨key, point⟩ := c
  cases point with
  | test =>
    simp only [advance]
    split
    · trivial
    · exact afterMiss_owes key
  | clear v => exact hc
  | store v => trivial
  | lookup =>
    simp only [advance, Call.Owes]
    cases hv : s.cache key with
    | none => exact .inr rfl
    | some v => exact .inl (alone_of_ok (h.computed key v hv)).symm
  | ended outcome => exact hc

/-- The cache holds computed values after each operation. -/
theorem advance_computed {s : State κ ν ε} (h : Inv compute s) {c : Call κ ν ε}
    (hc : c.Owes compute) (key : κ) (v : ν)
    (hv : (advance compute s.cache c.key c.point).1 key = some v) : compute key = .ok v := by
  obtain ⟨own, point⟩ := c
  cases point with
  | clear w => cases hv
  | store w =>
    by_cases hk : key = own
    · rw [hk] at hv ⊢
      have hw : Function.update s.cache own (some w) own = some v := hv
      rw [Function.update_self] at hw
      rw [← Option.some.inj hw]
      exact hc
    · have hw : Function.update s.cache own (some w) key = some v := hv
      rw [Function.update_of_ne hk] at hw
      exact h.computed key v hw
  | _ => exact h.computed key v hv

/-- The cache holds what is filled after each operation. -/
theorem advance_filled {s : State κ ν ε} (h : Inv compute s) (c : Call κ ν ε) (key : κ) :
    ((advance compute s.cache c.key c.point).1 key).isSome = true ↔
      Filled key (s.history ++ (advance compute s.cache c.key c.point).2.2) := by
  obtain ⟨own, point⟩ := c
  have hfilled := h.filled key
  cases point with
  | test => simpa [advance] using hfilled
  | clear w => simp [advance, filled_concat_iff]
  | store w =>
    simp only [advance, filled_concat_iff, Op.store.injEq]
    by_cases hk : key = own
    · simp [hk]
    · simp [Function.update_of_ne hk, hfilled, Ne.symm hk]
  | lookup => simpa [advance, filled_concat_iff] using hfilled
  | ended outcome => simpa [advance] using hfilled

theorem unbroken_advance {s : State κ ν ε} (c : Call κ ν ε) :
    Unbroken (s.history ++ (advance compute s.cache c.key c.point).2.2) ↔
      Unbroken s.history ∧ (c.point = .lookup → Filled c.key s.history) := by
  obtain ⟨key, point⟩ := c
  cases point <;> simp [advance, unbroken_concat_iff]

theorem Inv.step {s t : State κ ν ε} (h : Inv compute s) (hstep : Step compute s t) :
    Inv compute t := by
  cases hstep with
  | start key => exact h.append trivial (by simp)
  | bypass key =>
    refine h.append (.inl rfl) ?_
    unfold alone
    split <;> simp
  | operate before after c hc =>
    have hmem : c ∈ s.calls := by simp [hc]
    have howes := h.owes c hmem
    refine ⟨advance_computed h howes, advance_filled h c, ?_, ?_⟩
    · intro d hd
      simp only [List.mem_append, List.mem_cons] at hd
      rcases hd with hd | rfl | hd
      · exact h.owes d (by simp [hc, hd])
      · exact advance_owes h howes
      · exact h.owes d (by simp [hc, hd])
    · rw [unbroken_advance, ← h.found, hc]
      by_cases hmissing : c.point = .ended .missing
      · -- a call that has ended stays as it is
        have hsame : (⟨c.key, .ended .missing⟩ : Call κ ν ε) = c := by rw [← hmissing]
        simp [hmissing, advance, hsame]
      · have hnext := advance_eq_missing_iff h hmissing
        simp only [List.mem_append, List.mem_cons, or_imp, forall_and, forall_eq, ne_eq, hnext,
          hmissing, not_false_eq_true, true_and, not_and, not_not]
        constructor
        · rintro ⟨hbefore, hfilled, hafter⟩
          exact ⟨⟨hbefore, hafter⟩, hfilled⟩
        · rintro ⟨⟨hbefore, hafter⟩, hfilled⟩
          exact ⟨hbefore, hfilled, hafter⟩

/-- In every state that is reached, the calls that ended gave what they would give alone exactly
when every lookup came while its key was filled. -/
theorem alone_iff_of_reachable {s : State κ ν ε} (h : Reachable State.Init (Step compute) s) :
    (∀ c ∈ s.calls, ∀ outcome, c.point = .ended outcome → outcome = alone compute c.key) ↔
      Unbroken s.history := by
  have hinv : Inv compute s :=
    h.invariant (fun _ => .init) (fun _ _ _ hs hstep => hs.step hstep)
  rw [← hinv.found]
  constructor
  · intro hall c hc hmissing
    have := hall c hc _ hmissing
    unfold alone at this
    split at this <;> cases this
  · intro hfound c hc outcome hended
    have howes := hinv.owes c hc
    simp only [Call.Owes, hended] at howes
    rcases howes with hout | rfl
    · exact hout
    · exact absurd hended (hfound c hc)

end Invariant

end Axg.General.SharedFill
