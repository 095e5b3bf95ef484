/-
# Single-use keys with an expiry

A store remembers each key it has accepted until the key's expiry, and accepts a key it does not
remember.  Whether that makes keys single-use depends on when they are presented: a store that
has forgotten a key accepts it once more.  Each use brings the time at which it looks, so times
need not be sorted: a use with a late time makes the store forget, and one with an earlier time
that comes after it no longer finds the key.  `length_accepted_le_one_iff` is the exact condition,
for any sequence of uses at any times (`Store.Kept`).
-/
import Mathlib.Data.List.Basic
import Mathlib.Logic.Function.Basic
import Mathlib.Order.Lattice

namespace Axg.General

/-- A key presented at a time, to be remembered until its expiry. -/
structure Use (κ τ : Type) where
  key : κ
  expiry : τ
  time : τ

/-- What a store remembers: the expiry of a key. -/
abbrev Store (κ τ : Type) := κ → Option τ

section

variable {κ τ : Type} [DecidableEq κ] [LinearOrder τ]

namespace Store

/-- Forget what has expired. -/
def evict (s : Store κ τ) (now : τ) : Store κ τ := fun k => (s k).filter (fun e => now < e)

/-- Is a use accepted? -/
def accepts (s : Store κ τ) (u : Use κ τ) : Bool := (s.evict u.time u.key).isNone

/-- The store after a use. -/
def use (s : Store κ τ) (u : Use κ τ) : Store κ τ :=
  if s.accepts u then Function.update (s.evict u.time) u.key (some u.expiry) else s.evict u.time

/-- The store after a sequence of uses. -/
def after (s : Store κ τ) (uses : List (Use κ τ)) : Store κ τ := uses.foldl use s

/-- The uses of a sequence that are accepted. -/
def accepted (s : Store κ τ) : List (Use κ τ) → List (Use κ τ)
  | [] => []
  | u :: us => (if s.accepts u then [u] else []) ++ (s.use u).accepted us

theorem accepted_append (s : Store κ τ) (us vs : List (Use κ τ)) :
    s.accepted (us ++ vs) = s.accepted us ++ (s.after us).accepted vs := by
  induction us generalizing s with
  | nil => rfl
  | cons u us ih =>
    rw [List.cons_append, accepted, ih, accepted, List.append_assoc]
    rfl

theorem after_append (s : Store κ τ) (us vs : List (Use κ τ)) :
    s.after (us ++ vs) = (s.after us).after vs := List.foldl_append

theorem use_of_ne {s : Store κ τ} {u : Use κ τ} {k : κ} (h : u.key ≠ k) :
    s.use u k = s.evict u.time k := by
  unfold use
  split
  · rw [Function.update_of_ne h.symm]
  · rfl

/-- Every use up to the last one of `k` comes before `e`. -/
def BeforeLast (k : κ) (e : τ) (us : List (Use κ τ)) : Prop :=
  ∀ l u r, us = l ++ u :: r → (∃ v ∈ u :: r, v.key = k) → u.time < e

/-- From the first use of `k` on, every use up to the last one of `k` comes before the expiry that
the first one stored.  A use of another key counts too: it is made at a time of its own, and what
has expired by then is forgotten. -/
def Kept (k : κ) (us : List (Use κ τ)) : Prop :=
  ∀ l first r, us = l ++ first :: r → first.key = k → (∀ u ∈ l, u.key ≠ k) →
    BeforeLast k first.expiry r

omit [DecidableEq κ] in
theorem beforeLast_cons {k : κ} {e : τ} {u : Use κ τ} {us : List (Use κ τ)} :
    BeforeLast k e (u :: us) ↔
      ((∃ v ∈ u :: us, v.key = k) → u.time < e) ∧ BeforeLast k e us := by
  constructor
  · intro h
    exact ⟨h [] u us rfl, fun l v r he => h (u :: l) v r (by rw [he]; rfl)⟩
  · rintro ⟨hu, hus⟩ l v r he
    cases l with
    | nil =>
      obtain ⟨rfl, rfl⟩ := List.cons.inj he
      exact hu
    | cons w l =>
      obtain ⟨-, he⟩ := List.cons.inj he
      exact hus l v r he

omit [DecidableEq κ] in
/-- Where all uses are of one key, all of them have to come before. -/
theorem beforeLast_iff_of_keys {k : κ} {e : τ} {us : List (Use κ τ)}
    (h : ∀ u ∈ us, u.key = k) : BeforeLast k e us ↔ ∀ u ∈ us, u.time < e := by
  induction us with
  | nil => simp [BeforeLast]
  | cons u us ih =>
    obtain ⟨hu, hus⟩ := List.forall_mem_cons.mp h
    rw [beforeLast_cons, ih hus, List.forall_mem_cons,
      forall_prop_of_true ⟨u, List.mem_cons_self, hu⟩]

omit [DecidableEq κ] in
theorem kept_cons_self {k : κ} {u : Use κ τ} {us : List (Use κ τ)} (h : u.key = k) :
    Kept k (u :: us) ↔ BeforeLast k u.expiry us := by
  constructor
  · intro hkept
    exact hkept [] u us rfl h (fun v hv => by cases hv)
  · intro hlast l first r he hfirst hnone
    cases l with
    | nil =>
      obtain ⟨rfl, rfl⟩ := List.cons.inj he
      exact hlast
    | cons v l =>
      obtain ⟨rfl, -⟩ := List.cons.inj he
      exact absurd h (hnone u List.mem_cons_self)

omit [DecidableEq κ] in
theorem kept_cons_of_ne {k : κ} {u : Use κ τ} {us : List (Use κ τ)} (h : u.key ≠ k) :
    Kept k (u :: us) ↔ Kept k us := by
  constructor
  · intro hkept l first r he hfirst hnone
    exact hkept (u :: l) first r (by rw [he]; rfl) hfirst (List.forall_mem_cons.mpr ⟨h, hnone⟩)
  · intro hkept l first r he hfirst hnone
    cases l with
    | nil =>
      obtain ⟨rfl, -⟩ := List.cons.inj he
      exact absurd hfirst h
    | cons v l =>
      obtain ⟨-, he⟩ := List.cons.inj he
      exact hkept l first r he hfirst (List.forall_mem_cons.mp hnone).2

/-- A key that is not remembered is accepted when it is presented. -/
theorem accepted_eq_nil_iff_of_none {s : Store κ τ} {k : κ} (hs : s k = none)
    {us : List (Use κ τ)} :
    (s.accepted us).filter (fun u => u.key = k) = [] ↔ ∀ u ∈ us, u.key ≠ k := by
  induction us generalizing s with
  | nil => simp [accepted]
  | cons u us ih =>
    rw [accepted, List.filter_append, List.append_eq_nil_iff, List.forall_mem_cons]
    by_cases hk : u.key = k
    · subst hk
      have hacc : s.accepts u = true := by simp [accepts, evict, hs]
      simp [hacc]
    · have hnone : (s.use u) k = none := by rw [use_of_ne hk, evict, hs]; rfl
      rw [ih hnone]
      refine and_congr_left fun _ => iff_of_true ?_ hk
      split <;> simp [hk]

/-- A key that is remembered until `e` is accepted again exactly when it is presented after a
use, of whatever key, at `e` or later. -/
theorem accepted_eq_nil_iff_of_some {s : Store κ τ} {k : κ} {e : τ} (hs : s k = some e)
    {us : List (Use κ τ)} :
    (s.accepted us).filter (fun u => u.key = k) = [] ↔ BeforeLast k e us := by
  induction us generalizing s with
  | nil => simp [accepted, BeforeLast]
  | cons u us ih =>
    have hevict : s.evict u.time k = if u.time < e then some e else none := by
      simp [evict, hs, Option.filter_some]
    rw [accepted, List.filter_append, List.append_eq_nil_iff, beforeLast_cons]
    by_cases hte : u.time < e
    · rw [if_pos hte] at hevict
      have hrefused : (if s.accepts u then [u] else []).filter (fun u => u.key = k) = [] := by
        by_cases hk : u.key = k
        · subst hk
          simp [accepts, hevict]
        · split <;> simp [hk]
      have hkept : (s.use u) k = some e := by
        by_cases hk : u.key = k
        · subst hk
          have hno : ¬ s.accepts u = true := by simp [accepts, hevict]
          rw [use, if_neg hno, hevict]
        · rw [use_of_ne hk, hevict]
      rw [ih hkept]
      exact and_congr_left fun _ => iff_of_true hrefused fun _ => hte
    · rw [if_neg hte] at hevict
      by_cases hk : u.key = k
      · subst hk
        have hacc : s.accepts u = true := by simp [accepts, hevict]
        rw [if_pos hacc]
        refine iff_of_false (fun h => by simp at h) fun h => ?_
        exact hte (h.1 ⟨u, List.mem_cons_self, rfl⟩)
      · have hnone : (s.use u) k = none := by rw [use_of_ne hk, hevict]
        have hother : (if s.accepts u then [u] else []).filter (fun u => u.key = k) = [] := by
          split <;> simp [hk]
        rw [accepted_eq_nil_iff_of_none hnone, and_iff_right hother]
        constructor
        · intro hall
          have hno : ¬ ∃ v ∈ u :: us, v.key = k := by
            rintro ⟨v, hv, hvk⟩
            rcases List.mem_cons.mp hv with rfl | hv
            · exact hk hvk
            · exact hall v hv hvk
          refine ⟨fun h => absurd h hno, fun l v r he hlast => absurd ?_ hno⟩
          obtain ⟨w, hw, hwk⟩ := hlast
          exact ⟨w, List.mem_cons_of_mem _ (he ▸ List.mem_append_right _ hw), hwk⟩
        · rintro ⟨hu, -⟩ v hv hvk
          exact hte (hu ⟨v, List.mem_cons_of_mem _ hv, hvk⟩)

/-- The first use of a key that is not remembered is accepted.  After it the key is accepted
again exactly when something makes the store forget it before its last use: a use at or after the
expiry that the first one stored. -/
theorem length_accepted_le_one_iff {s : Store κ τ} {k : κ} (hs : s k = none)
    {us : List (Use κ τ)} :
    ((s.accepted us).filter (fun u => u.key = k)).length ≤ 1 ↔ Kept k us := by
  induction us generalizing s with
  | nil => simp [accepted, Kept]
  | cons u us ih =>
    rw [accepted, List.filter_append]
    by_cases hk : u.key = k
    · have hacc : s.accepts u = true := by simp [accepts, evict, hk, hs]
      have hspent : (s.use u) k = some u.expiry := by
        rw [use, if_pos hacc, hk, Function.update_self]
      rw [if_pos hacc, kept_cons_self hk, ← accepted_eq_nil_iff_of_some hspent,
        List.filter_cons_of_pos (by simpa using hk), List.filter_nil, List.singleton_append,
        List.length_cons, Nat.succ_le_succ_iff, Nat.le_zero, List.length_eq_zero_iff]
    · have hnone : (s.use u) k = none := by rw [use_of_ne hk, evict, hs]; rfl
      have hother : (if s.accepts u then [u] else []).filter (fun u => u.key = k) = [] := by
        split <;> simp [hk]
      rw [hother, List.nil_append, ih hnone, kept_cons_of_ne hk]

end Store

end

end Axg.General
