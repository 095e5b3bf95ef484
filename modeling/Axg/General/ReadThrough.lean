/-
# A read-through cache in front of a source that changes

A load that misses the cache reads the source and then stores what it read, and the source is
edited and the cache cleared at any time in between.  The history remembers what the source has
shown since each clear.  A load started after a clear should return something shown since that
clear.  It does in every run whose stores are fresh (`shownSince_of_reachable`): what a load
stores has been shown since the last clear.
-/
import Mathlib.Logic.Function.Basic
import Axg.General.Run

namespace Axg.General.ReadThrough

variable {κ ν : Type}

/-- A load that missed the cache, the number of clears before it started, and what it has read:
a value, or nothing where the source has none. -/
structure Call (κ ν : Type) where
  key : κ
  started : Nat
  read : Option (Option ν)

/-- A load that returned. -/
structure Returned (κ ν : Type) where
  key : κ
  started : Nat
  value : ν

/-- `shown` is the history: each source, with the number of clears before it was there. -/
structure State (κ ν : Type) where
  source : κ → Option ν
  cache : κ → Option ν
  clears : Nat
  shown : List (Nat × (κ → Option ν))
  calls : List (Call κ ν)
  returned : List (Returned κ ν)

namespace State

/-- An empty cache, and no load yet. -/
def Init (s : State κ ν) : Prop :=
  s.cache = (fun _ => none) ∧ s.clears = 0 ∧ s.shown = [(0, s.source)] ∧ s.calls = [] ∧
    s.returned = []

/-- The source has shown the value at some moment after the first `n` clears. -/
def ShownSince (s : State κ ν) (n : Nat) (key : κ) (v : ν) : Prop :=
  ∃ p ∈ s.shown, n ≤ p.1 ∧ p.2 key = some v

end State

section Steps

variable [DecidableEq κ]

/-- One step of loads, edits and clears, with the stores that `stores` allows. -/
inductive Step (stores : State κ ν → κ → ν → Prop) : State κ ν → State κ ν → Prop
  | edit (s : State κ ν) (source : κ → Option ν) :
    Step stores s { s with source := source, shown := s.shown ++ [(s.clears, source)] }
  | clear (s : State κ ν) :
    Step stores s
      { s with
        cache := fun _ => none
        clears := s.clears + 1
        shown := s.shown ++ [(s.clears + 1, s.source)] }
  | hit (s : State κ ν) (key : κ) (v : ν) (h : s.cache key = some v) :
    Step stores s { s with returned := s.returned ++ [⟨key, s.clears, v⟩] }
  | miss (s : State κ ν) (key : κ) (h : s.cache key = none) :
    Step stores s { s with calls := s.calls ++ [⟨key, s.clears, none⟩] }
  | read (s : State κ ν) (before after : List (Call κ ν)) (c : Call κ ν)
      (h : s.calls = before ++ c :: after) :
    Step stores s
      { s with calls := before ++ { c with read := some (s.source c.key) } :: after }
  | store (s : State κ ν) (before after : List (Call κ ν)) (c : Call κ ν) (v : ν)
      (h : s.calls = before ++ c :: after) (hread : c.read = some (some v))
      (hstore : stores s c.key v) :
    Step stores s
      { s with
        cache := Function.update s.cache c.key (some v)
        calls := before ++ after
        returned := s.returned ++ [⟨c.key, c.started, v⟩] }
  | fail (s : State κ ν) (before after : List (Call κ ν)) (c : Call κ ν)
      (h : s.calls = before ++ c :: after) :
    Step stores s { s with calls := before ++ after }

end Steps

/-- Any load may store what it has read. -/
def AnyStore (_ : State κ ν) (_ : κ) (_ : ν) : Prop := True

/-- What is stored has been shown since the last clear. -/
def FreshStore (s : State κ ν) (key : κ) (v : ν) : Prop := s.ShownSince s.clears key v

namespace State

/-- What a run keeps: the source is in the history, what loads have read was shown since they
started, and what the cache and the returned loads hold was shown since the clears that `since`
counts. -/
structure Inv (since : Nat → Nat) (s : State κ ν) : Prop where
  source : (s.clears, s.source) ∈ s.shown
  past : ∀ c ∈ s.calls, c.started ≤ s.clears
  read : ∀ c ∈ s.calls, ∀ v, c.read = some (some v) → s.ShownSince c.started c.key v
  cache : ∀ key v, s.cache key = some v → s.ShownSince (since s.clears) key v
  returned : ∀ r ∈ s.returned, s.ShownSince (since r.started) r.key r.value

theorem ShownSince.append {s : State κ ν} {n : Nat} {key : κ} {v : ν} (h : s.ShownSince n key v)
    {t : State κ ν} {p : Nat × (κ → Option ν)} (ht : t.shown = s.shown ++ [p]) :
    t.ShownSince n key v := by
  obtain ⟨q, hq, hn, hv⟩ := h
  exact ⟨q, by rw [ht]; exact List.mem_append_left _ hq, hn, hv⟩

theorem ShownSince.mono {s : State κ ν} {m n : Nat} {key : κ} {v : ν} (h : s.ShownSince n key v)
    (hm : m ≤ n) : s.ShownSince m key v := by
  obtain ⟨q, hq, hn, hv⟩ := h
  exact ⟨q, hq, Nat.le_trans hm hn, hv⟩

variable {since : Nat → Nat}

theorem Inv.init {s : State κ ν} (h : s.Init) : s.Inv since := by
  obtain ⟨hcache, hclears, hshown, hcalls, hreturned⟩ := h
  refine ⟨?_, ?_, ?_, ?_, ?_⟩
  · simp [hshown, hclears]
  · simp [hcalls]
  · simp [hcalls]
  · simp [hcache]
  · simp [hreturned]

variable [DecidableEq κ] {stores : State κ ν → κ → ν → Prop}

theorem Inv.step (hsince : ∀ n, since n ≤ n)
    (hstores : ∀ s : State κ ν, s.Inv since → ∀ c ∈ s.calls, ∀ v, c.read = some (some v) →
      stores s c.key v → s.ShownSince (since s.clears) c.key v)
    {s t : State κ ν} (h : s.Inv since) (hstep : Step stores s t) : t.Inv since := by
  cases hstep with
  | edit source =>
    refine ⟨by simp, h.past, fun c hc v hv => ?_, fun key v hv => ?_, fun r hr => ?_⟩
    · exact (h.read c hc v hv).append rfl
    · exact (h.cache key v hv).append rfl
    · exact (h.returned r hr).append rfl
  | clear =>
    refine ⟨by simp, fun c hc => ?_, fun c hc v hv => ?_, fun key v hv => ?_, fun r hr => ?_⟩
    · exact Nat.le_succ_of_le (h.past c hc)
    · exact (h.read c hc v hv).append rfl
    · cases hv
    · exact (h.returned r hr).append rfl
  | hit key v hv =>
    refine ⟨h.source, h.past, h.read, h.cache, fun r hr => ?_⟩
    rcases List.mem_append.mp hr with hr | hr
    · exact h.returned r hr
    · rw [List.mem_singleton.mp hr]
      exact h.cache key v hv
  | miss key hk =>
    refine ⟨h.source, fun c hc => ?_, fun c hc v hv => ?_, h.cache, h.returned⟩
    · rcases List.mem_append.mp hc with hc | hc
      · exact h.past c hc
      · cases List.mem_singleton.mp hc
        exact Nat.le_refl _
    · rcases List.mem_append.mp hc with hc | hc
      · exact h.read c hc v hv
      · rw [List.mem_singleton.mp hc] at hv
        cases hv
  | read before after c hc =>
    have hmem : c ∈ s.calls := by simp [hc]
    have hold : ∀ d, d ∈ before ∨ d ∈ after → d ∈ s.calls := by
      rintro d (hd | hd) <;> simp [hc, hd]
    refine ⟨h.source, fun d hd => ?_, fun d hd v hv => ?_, h.cache, h.returned⟩
    · simp only [List.mem_append, List.mem_cons] at hd
      rcases hd with hd | rfl | hd
      · exact h.past d (hold d (.inl hd))
      · exact h.past c hmem
      · exact h.past d (hold d (.inr hd))
    · simp only [List.mem_append, List.mem_cons] at hd
      rcases hd with hd | rfl | hd
      · exact h.read d (hold d (.inl hd)) v hv
      · -- what is read now is the source
        exact ⟨_, h.source, h.past c hmem, Option.some.inj hv⟩
      · exact h.read d (hold d (.inr hd)) v hv
  | store before after c v hc hread hstore =>
    have hmem : c ∈ s.calls := by simp [hc]
    have hold : ∀ d ∈ before ++ after, d ∈ s.calls := by
      intro d hd
      rcases List.mem_append.mp hd with hd | hd <;> simp [hc, hd]
    refine ⟨h.source, fun d hd => h.past d (hold d hd), fun d hd => h.read d (hold d hd),
      fun key w hw => ?_, fun r hr => ?_⟩
    · by_cases hk : key = c.key
      · subst hk
        have hw : Function.update s.cache c.key (some v) c.key = some w := hw
        rw [Function.update_self] at hw
        cases hw
        exact hstores s h c hmem v hread hstore
      · have hw : Function.update s.cache c.key (some v) key = some w := hw
        rw [Function.update_of_ne hk] at hw
        exact h.cache key w hw
    · rcases List.mem_append.mp hr with hr | hr
      · exact h.returned r hr
      · rw [List.mem_singleton.mp hr]
        exact (h.read c hmem v hread).mono (hsince c.started)
  | fail before after c hc =>
    have hold : ∀ d ∈ before ++ after, d ∈ s.calls := by
      intro d hd
      rcases List.mem_append.mp hd with hd | hd <;> simp [hc, hd]
    exact ⟨h.source, fun d hd => h.past d (hold d hd), fun d hd => h.read d (hold d hd), h.cache,
      h.returned⟩

end State

variable [DecidableEq κ]

/-- Whatever is stored, a load returns what was shown at some moment. -/
theorem shown_of_reachable {stores : State κ ν → κ → ν → Prop} {s : State κ ν}
    (h : Reachable State.Init (Step stores) s) :
    ∀ r ∈ s.returned, s.ShownSince 0 r.key r.value :=
  (h.invariant (I := State.Inv (fun _ => 0)) (fun _ => .init) (fun _ _ _ hs hstep =>
    hs.step Nat.zero_le (fun _ hs c hc v hread _ => (hs.read c hc v hread).mono (Nat.zero_le _))
      hstep)).returned

/-- With fresh stores, a load returns what was shown since the clears before it. -/
theorem shownSince_of_reachable {s : State κ ν} (h : Reachable State.Init (Step FreshStore) s) :
    ∀ r ∈ s.returned, s.ShownSince r.started r.key r.value :=
  (h.invariant (I := State.Inv id) (fun _ => .init) (fun _ _ _ hs hstep =>
    hs.step Nat.le_refl (fun _ _ _ _ _ _ hfresh => hfresh) hstep)).returned

end Axg.General.ReadThrough
