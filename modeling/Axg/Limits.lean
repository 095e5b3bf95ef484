/-
# Rate and size limits (`axg/limits.py`)

The rate limiter counts the calls of a caller in the current minute.  What it stores for a caller is
a function of the caller's own calls (`lookup_run`): the minute of the last one, and how many there
were in it, up to the limit.  So it is exact, and callers do not see each other
(`rate_limiter_exact`).  The value that a refused caller gets is cut down to a whole number of
seconds, so that waiting for it is enough only at whole seconds and in the last second of a minute
(`retry_after_iff`).

The size limit reads the body before the application and replays it.  `transparent_iff`: it does so
without a trace below the limit, and answers 413 above it, exactly when `int` takes the declared
length.

A clock is an element of any ordered field with a floor.
-/
import Mathlib.Algebra.Order.Field.Basic
import Mathlib.Algebra.Order.Floor.Ring
import Mathlib.Data.List.Induction
import Mathlib.Data.List.Pairwise
import Mathlib.Data.Rat.Floor
import Mathlib.Tactic.Linarith
import Mathlib.Tactic.NormNum
import Axg.General.PerKey
import Axg.Python.Decimal
import Axg.Python.Json

namespace Axg

open Python General

/-! ## 1. The rate limiter -/

section RateLimiter

variable {T : Type} [Field T] [LinearOrder T] [FloorRing T]

/-- `int(now // 60)` -/
def minute (now : T) : Int := ⌊now / 60⌋

/-- `int(x)` -/
def truncate (x : T) : Int := if 0 ≤ x then ⌊x⌋ else ⌈x⌉

/-- `_windows`: the minute and the count of each caller. -/
abbrev Windows := Dict (Int × Nat)

/-- What is stored for each caller. -/
def Windows.stored (windows : Windows) (callerId : Str) : Option (Int × Nat) :=
  windows.lookup callerId

/-- The seconds to wait, or `None` with the window to store. -/
def checkWindow (limit : Int) (stored : Option (Int × Nat)) (now : T) :
    Option Int × Option (Int × Nat) :=
  let window := minute now
  let (start, count) := stored.getD (window, 0)
  let (start, count) := if start ≠ window then (window, 0) else (start, count)
  if limit ≤ count then (some (max 1 (truncate ((window + 1) * 60 - now))), none)
  else (none, some (start, count + 1))

/-- `RateLimiter.check` -/
def check (limit : Int) (windows : Windows) (callerId : Str) (now : T) : Option Int × Windows :=
  if limit ≤ 0 then (none, windows)
  else
    match checkWindow limit (windows.stored callerId) now with
    | (answer, some window) => (answer, windows.set callerId window)
    | (answer, none) => (answer, windows)

/-- A call of `check`. -/
structure Call (T : Type) where
  callerId : Str
  now : T

/-- A sequence of calls: the answer of each, and the windows after it. -/
def checks (limit : Int) : Windows → List (Call T) → List (Call T × Option Int) × Windows
  | windows, [] => ([], windows)
  | windows, call :: calls =>
    let checked := check limit windows call.callerId call.now
    ((call, checked.1) :: (checks limit checked.2 calls).1, (checks limit checked.2 calls).2)

/-! ## 2. One caller -/

/-- `check` on the window of one caller. -/
def checkOne (limit : Int) (stored : Option (Int × Nat)) (now : T) :
    Option Int × Option (Int × Nat) :=
  if limit ≤ 0 then (none, stored)
  else ((checkWindow limit stored now).1, (checkWindow limit stored now).2.or stored)

variable {limit : Int} {windows : Windows}

theorem check_eq (callerId : Str) (now : T) :
    (check limit windows callerId now).1 = (checkOne limit (windows.stored callerId) now).1 ∧
      (check limit windows callerId now).2.stored =
        Function.update windows.stored callerId
          (checkOne limit (windows.stored callerId) now).2 := by
  have hkeep : Function.update windows.stored callerId (windows.stored callerId) =
      windows.stored := Function.update_eq_self _ _
  unfold check checkOne
  by_cases hlimit : limit ≤ 0
  · simp only [hlimit, ↓reduceIte, hkeep, and_self]
  · simp only [hlimit, ↓reduceIte]
    rcases checkWindow limit (windows.stored callerId) now with ⟨answer, window⟩
    cases window with
    | none => simp only [Option.none_or, hkeep, and_self]
    | some window =>
      refine ⟨rfl, funext (fun k => ?_)⟩
      rw [Windows.stored, Dict.lookup_set, Function.update_apply, Option.some_or]
      rfl

/-- The limiter keeps one machine for each caller. -/
theorem checks_eq_runAll (windows : Windows) (calls : List (Call T)) :
    (checks limit windows calls).2.stored =
        (PerKey.runAll (checkOne limit) windows.stored
          (calls.map (fun call => (call.callerId, call.now)))).2 ∧
      (checks limit windows calls).1.map (fun p => (p.1.callerId, p.2)) =
        (PerKey.runAll (checkOne limit) windows.stored
          (calls.map (fun call => (call.callerId, call.now)))).1 := by
  induction calls generalizing windows with
  | nil => exact ⟨rfl, rfl⟩
  | cons call calls ih =>
    obtain ⟨hanswer, hstored⟩ := @check_eq T _ _ _ limit windows call.callerId call.now
    obtain ⟨hstate, hanswers⟩ := ih (check limit windows call.callerId call.now).2
    rw [hstored] at hstate hanswers
    exact ⟨hstate, by rw [checks, List.map_cons, hanswers, hanswer]; rfl⟩

/-- What a window that is stored comes to. -/
theorem checkWindow_same (now : T) (count : Nat) :
    checkWindow limit (some (minute now, count)) now =
      if limit ≤ count then (some (max 1 (truncate ((minute now + 1) * 60 - now))), none)
      else (none, some (minute now, count + 1)) := by
  simp [checkWindow]

/-- Another minute counts for nothing. -/
theorem checkWindow_other {stored : Option (Int × Nat)} {now : T} (hlimit : 0 < limit)
    (h : ∀ window ∈ stored, window.1 ≠ minute now) :
    checkWindow limit stored now = (none, some (minute now, 1)) := by
  have hnot : ¬ limit ≤ ((0 : Nat) : Int) := by omega
  cases stored with
  | none => simp only [checkWindow, Option.getD_none, ne_eq, not_true_eq_false, ↓reduceIte, hnot]
  | some window =>
    obtain ⟨start, count⟩ := window
    have hstart : start ≠ minute now := h _ rfl
    simp only [checkWindow, Option.getD_some, ne_eq, hstart, not_false_eq_true, ↓reduceIte, hnot]

/-- The two ends of `checkWindow`: the window of this minute is full, or the call is stored. -/
theorem checkWindow_cases (hlimit : 0 < limit) (stored : Option (Int × Nat)) (now : T) :
    (∃ count : Nat, stored = some (minute now, count) ∧ limit ≤ count ∧
        checkWindow limit stored now =
          (some (max 1 (truncate ((minute now + 1) * 60 - now))), none)) ∨
      (∀ count : Nat, stored = some (minute now, count) → (count : Int) < limit) ∧
        ∃ window, checkWindow limit stored now = (none, some window) := by
  by_cases hsame : ∃ count, stored = some (minute now, count)
  · obtain ⟨count, rfl⟩ := hsame
    rw [checkWindow_same]
    split
    · next hfull => exact .inl ⟨count, rfl, hfull, rfl⟩
    · next hfree =>
      refine .inr ⟨?_, _, rfl⟩
      intro n hn
      cases hn
      omega
  · refine .inr ⟨fun count h => absurd ⟨count, h⟩ hsame, _, checkWindow_other hlimit ?_⟩
    rintro ⟨start, count⟩ hstored rfl
    exact hsame ⟨count, hstored⟩

/-- A refusal: the window of this minute is full.  Nothing is stored. -/
theorem check_refused {callerId : Str} {now : T} {wait : Int}
    (h : (check limit windows callerId now).1 = some wait) :
    0 < limit ∧ wait = max 1 (truncate ((minute now + 1) * 60 - now)) ∧
      (check limit windows callerId now).2 = windows ∧
      ∃ count : Nat, windows.stored callerId = some (minute now, count) ∧ limit ≤ count := by
  unfold check at h ⊢
  by_cases hlimit : limit ≤ 0
  · simp [hlimit] at h
  · simp only [hlimit, ↓reduceIte] at h ⊢
    rcases checkWindow_cases (not_le.mp hlimit) (windows.stored callerId) now with
      ⟨count, hstored, hfull, hcheck⟩ | ⟨-, window, hcheck⟩
    · rw [hcheck] at h ⊢
      exact ⟨not_le.mp hlimit, (Option.some.inj h).symm, rfl, count, hstored, hfull⟩
    · rw [hcheck] at h
      cases h

/-- The refusals, with a full window. -/
theorem check_allowed_iff (hlimit : 0 < limit) (callerId : Str) (now : T) :
    (check limit windows callerId now).1 = none ↔
      ∀ count : Nat, windows.stored callerId = some (minute now, count) →
        (count : Int) < limit := by
  have hnot : ¬ limit ≤ 0 := by omega
  simp only [check, hnot, ↓reduceIte]
  rcases checkWindow_cases hlimit (windows.stored callerId) now with
    ⟨count, hstored, hfull, hcheck⟩ | ⟨hfree, window, hcheck⟩
  · rw [hcheck]
    refine iff_of_false (by simp) ?_
    intro hfree
    exact absurd (hfree count hstored) (by omega)
  · rw [hcheck]
    exact iff_of_true rfl hfree

/-! ## 3. What is stored -/

/-- The times in a minute. -/
def inMinute (m : Int) (times : List T) : List T := times.filter (fun t => minute t = m)

/-- What is stored for a caller with calls at these times: the minute of the last one, and the
number of calls in it, up to the limit. -/
def windowOf (limit : Int) (times : List T) : Option (Int × Nat) :=
  times.getLast?.map (fun t => (minute t, min limit.toNat (inMinute (minute t) times).length))

/-- The times of a caller's calls. -/
def timesOf (callerId : Str) (calls : List (Call T)) : List T :=
  (calls.filter (fun call => call.callerId = callerId)).map Call.now

theorem windowOf_concat (limit : Int) (times : List T) (now : T) :
    windowOf limit (times ++ [now]) =
      some (minute now, min limit.toNat ((inMinute (minute now) times).length + 1)) := by
  simp [windowOf, inMinute, List.filter_append]

omit [Field T] [LinearOrder T] [FloorRing T] in
theorem inputsOf_eq_timesOf (callerId : Str) (calls : List (Call T)) :
    PerKey.inputsOf callerId (calls.map (fun call => (call.callerId, call.now))) =
      timesOf callerId calls := by
  simp [PerKey.inputsOf, timesOf, List.filter_map, Function.comp_def]

variable [IsStrictOrderedRing T]

theorem minute_mono {a b : T} (h : a ≤ b) : minute a ≤ minute b :=
  Int.floor_le_floor (by linarith)

/-- Between two times of one minute there is no other minute. -/
theorem minute_eq_of_between {a b c : T} (hab : a ≤ b) (hbc : b ≤ c) (h : minute a = minute c) :
    minute b = minute c :=
  le_antisymm (minute_mono hbc) (h ▸ minute_mono hab)

/-- A call after the others is allowed exactly when its minute has had fewer than the limit, and is
stored with them. -/
theorem checkOne_windowOf (hlimit : 0 < limit) {times : List T} {now : T}
    (hsorted : (times ++ [now]).Pairwise (· ≤ ·)) :
    ((checkOne limit (windowOf limit times) now).1 = none ↔
        ((inMinute (minute now) times).length : Int) < limit) ∧
      (checkOne limit (windowOf limit times) now).2 = windowOf limit (times ++ [now]) := by
  have hnot : ¬ limit ≤ 0 := by omega
  simp only [checkOne, hnot, ↓reduceIte]
  rw [windowOf_concat]
  by_cases hsame : ∃ t, times.getLast? = some t ∧ minute t = minute now
  · -- the last call was in this minute
    obtain ⟨t, ht, hmin⟩ := hsame
    have hstored : windowOf limit times =
        some (minute now, min limit.toNat (inMinute (minute now) times).length) := by
      rw [windowOf, ht, Option.map_some, hmin]
    rw [hstored, checkWindow_same]
    split
    · refine ⟨iff_of_false (by simp) (by omega), ?_⟩
      rw [Option.none_or, Option.some.injEq, Prod.mk.injEq]
      exact ⟨rfl, by omega⟩
    · refine ⟨iff_of_true rfl (by omega), ?_⟩
      rw [Option.some_or, Option.some.injEq, Prod.mk.injEq]
      exact ⟨rfl, by omega⟩
  · -- no call was in this minute: times do not go back
    have hnone : inMinute (minute now) times = [] := by
      rw [inMinute, List.filter_eq_nil_iff]
      intro t ht
      rw [decide_eq_true_iff]
      intro hmin
      have hne : times ≠ [] := List.ne_nil_of_mem ht
      obtain ⟨hpair, -, hle⟩ := List.pairwise_append.mp hsorted
      refine hsame ⟨times.getLast hne, List.getLast?_eq_some_getLast _, ?_⟩
      refine minute_eq_of_between ?_ (hle _ (List.getLast_mem hne) _ (by simp)) hmin
      exact List.Pairwise.rel_getLast hpair ht
    have hother : ∀ window ∈ windowOf limit times, window.1 ≠ minute now := by
      intro window hw hmin
      obtain ⟨t, ht, rfl⟩ := Option.map_eq_some_iff.mp hw
      exact hsame ⟨t, ht, hmin⟩
    rw [checkWindow_other hlimit hother, hnone]
    refine ⟨iff_of_true rfl (by simpa using hlimit), ?_⟩
    rw [Option.some_or, Option.some.injEq, Prod.mk.injEq]
    exact ⟨rfl, by simp; omega⟩

/-! ## 4. Runs -/

omit [IsStrictOrderedRing T] in
theorem checks_concat (windows : Windows) (calls : List (Call T)) (call : Call T) :
    checks limit windows (calls ++ [call]) =
      ((checks limit windows calls).1 ++
          [(call, (check limit (checks limit windows calls).2 call.callerId call.now).1)],
        (check limit (checks limit windows calls).2 call.callerId call.now).2) := by
  induction calls generalizing windows with
  | nil => rfl
  | cons first calls ih => simp only [List.cons_append, checks, ih]

omit [Field T] [FloorRing T] [IsStrictOrderedRing T] in
theorem timesOf_sorted (callerId : Str) {calls : List (Call T)}
    (hsorted : (calls.map Call.now).Pairwise (· ≤ ·)) :
    (timesOf callerId calls).Pairwise (· ≤ ·) :=
  hsorted.sublist (List.filter_sublist.map Call.now)

/-- One caller after calls at these times. -/
theorem runOne_times (hlimit : 0 < limit) {times : List T} (hsorted : times.Pairwise (· ≤ ·)) :
    (PerKey.runOne (checkOne limit) none times).2 = windowOf limit times := by
  induction times using List.reverseRecOn with
  | nil => rfl
  | append_singleton times now ih =>
    rw [PerKey.runOne_concat_state, ih (List.pairwise_append.mp hsorted).1]
    exact (checkOne_windowOf hlimit hsorted).2

/-- What is stored for a caller after calls from a new limiter. -/
theorem lookup_run (hlimit : 0 < limit) {calls : List (Call T)}
    (hsorted : (calls.map Call.now).Pairwise (· ≤ ·)) (callerId : Str) :
    (checks limit [] calls).2.stored callerId = windowOf limit (timesOf callerId calls) := by
  rw [(checks_eq_runAll [] calls).1, PerKey.state_of_key, inputsOf_eq_timesOf]
  exact runOne_times hlimit (timesOf_sorted callerId hsorted)

/-- The last call of a run is allowed exactly when the caller had fewer calls in its minute. -/
theorem last_allowed_iff (hlimit : 0 < limit) {calls : List (Call T)} {call : Call T}
    (hsorted : ((calls ++ [call]).map Call.now).Pairwise (· ≤ ·)) :
    (check limit (checks limit [] calls).2 call.callerId call.now).1 = none ↔
      ((inMinute (minute call.now) (timesOf call.callerId calls)).length : Int) < limit := by
  have hcalls : (calls.map Call.now).Pairwise (· ≤ ·) := by
    rw [List.map_append] at hsorted
    exact (List.pairwise_append.mp hsorted).1
  have htimes : (timesOf call.callerId calls ++ [call.now]).Pairwise (· ≤ ·) := by
    have h := timesOf_sorted call.callerId hsorted
    simpa [timesOf, List.filter_append] using h
  rw [(check_eq call.callerId call.now).1, lookup_run hlimit hcalls]
  exact (checkOne_windowOf hlimit htimes).1

/-- The calls of a caller in a minute. -/
def callsIn (callerId : Str) (m : Int) (calls : List (Call T)) : List (Call T) :=
  calls.filter (fun call => call.callerId = callerId ∧ minute call.now = m)

omit [IsStrictOrderedRing T] in
theorem inMinute_timesOf_length (callerId : Str) (m : Int) (calls : List (Call T)) :
    (inMinute m (timesOf callerId calls)).length = (callsIn callerId m calls).length := by
  simp [inMinute, timesOf, callsIn, List.filter_map, List.filter_filter, Function.comp_def,
    and_comm]

/-- One more of `n` calls, with the first `limit` allowed. -/
theorem replicate_succ_quota (limit n : Nat) :
    List.replicate (min limit n) true ++ List.replicate (n - limit) false ++
        [Decidable.decide (n < limit)] =
      List.replicate (min limit (n + 1)) true ++ List.replicate (n + 1 - limit) false := by
  by_cases h : n < limit
  · have hmin : min limit n = n := by omega
    have hmin' : min limit (n + 1) = n + 1 := by omega
    have hsub : n - limit = 0 := by omega
    have hsub' : n + 1 - limit = 0 := by omega
    simp [h, hmin, hsub, hsub', List.replicate_succ']
  · have hmin : min limit n = limit := by omega
    have hmin' : min limit (n + 1) = limit := by omega
    have hsub' : n + 1 - limit = n - limit + 1 := by omega
    simp [h, hmin, hmin', hsub', List.replicate_succ']

/-- Whether the calls of a caller in a minute were allowed. -/
def allowedIn (callerId : Str) (m : Int) (answers : List (Call T × Option Int)) : List Bool :=
  (answers.filter (fun p => p.1.callerId = callerId ∧ minute p.1.now = m)).map
    (fun p => p.2.isNone)

/-- The first calls of a caller in a minute are allowed, up to the limit, and no others. -/
theorem allowedIn_run (hlimit : 0 < limit) (callerId : Str) (m : Int) {calls : List (Call T)}
    (hsorted : (calls.map Call.now).Pairwise (· ≤ ·)) :
    allowedIn callerId m (checks limit [] calls).1 =
      List.replicate (min limit.toNat (callsIn callerId m calls).length) true ++
        List.replicate ((callsIn callerId m calls).length - limit.toNat) false := by
  induction calls using List.reverseRecOn with
  | nil => simp [checks, allowedIn, callsIn]
  | append_singleton calls call ih =>
    have hcalls : (calls.map Call.now).Pairwise (· ≤ ·) := by
      rw [List.map_append] at hsorted
      exact (List.pairwise_append.mp hsorted).1
    rw [checks_concat, allowedIn, callsIn, List.filter_append, List.filter_append, List.map_append]
    change allowedIn callerId m (checks limit [] calls).1 ++ _ = _
    rw [ih hcalls]
    by_cases hcall : call.callerId = callerId ∧ minute call.now = m
    · -- one more call of this caller in this minute
      obtain ⟨rfl, rfl⟩ := hcall
      have hiff := last_allowed_iff hlimit hsorted
      rw [inMinute_timesOf_length] at hiff
      have hlast : (check limit (checks limit [] calls).2 call.callerId call.now).1.isNone =
          Decidable.decide
            ((callsIn call.callerId (minute call.now) calls).length < limit.toNat) := by
        rw [Bool.eq_iff_iff, Option.isNone_iff_eq_none, hiff, decide_eq_true_iff]
        omega
      have hsucc := replicate_succ_quota limit.toNat
        (callsIn call.callerId (minute call.now) calls).length
      rw [← hlast] at hsucc
      simpa [callsIn] using hsucc
    · simp [callsIn, hcall]

omit [IsStrictOrderedRing T] in
/-- Without the refused calls the run is the same. -/
theorem checks_allowed (windows : Windows) (calls : List (Call T)) :
    checks limit windows
      (((checks limit windows calls).1.filter (fun p => p.2 = none)).map Prod.fst)
      = ((checks limit windows calls).1.filter (fun p => p.2 = none),
          (checks limit windows calls).2) := by
  induction calls generalizing windows with
  | nil => rfl
  | cons call calls ih =>
    rw [checks]
    cases hanswer : (check limit windows call.callerId call.now).1 with
    | none =>
      have hih := ih (check limit windows call.callerId call.now).2
      simp only [List.filter_cons, decide_true, ↓reduceIte, List.map_cons, checks, hih, hanswer]
    | some wait =>
      rw [(check_refused hanswer).2.2.1]
      simpa [List.filter_cons] using ih windows

omit [IsStrictOrderedRing T] in
theorem checks_calls (windows : Windows) (calls : List (Call T)) :
    (checks limit windows calls).1.map Prod.fst = calls := by
  induction calls generalizing windows with
  | nil => rfl
  | cons call calls ih => rw [checks, List.map_cons, ih]

/-- The answers that a caller gets. -/
def answersOf (callerId : Str) (answers : List (Call T × Option Int)) : List (Option Int) :=
  (answers.filter (fun p => p.1.callerId = callerId)).map Prod.snd

omit [IsStrictOrderedRing T] in
theorem answersOf_run (windows : Windows) (calls : List (Call T)) (callerId : Str) :
    answersOf callerId (checks limit windows calls).1 =
      (PerKey.runOne (checkOne limit) (windows.stored callerId) (timesOf callerId calls)).1 := by
  rw [← inputsOf_eq_timesOf, ← PerKey.answers_of_key, ← (checks_eq_runAll windows calls).2]
  simp [answersOf, PerKey.inputsOf, List.filter_map, Function.comp_def]

omit [IsStrictOrderedRing T] in
/-- The calls of the others make no difference to a caller. -/
theorem answersOf_alone (calls : List (Call T)) (callerId : Str) :
    answersOf callerId (checks limit [] calls).1 =
      (checks limit [] (calls.filter (fun call => call.callerId = callerId))).1.map Prod.snd := by
  have hall : ∀ p ∈ (checks limit [] (calls.filter (fun call => call.callerId = callerId))).1,
      p.1.callerId = callerId := by
    intro p hp
    have hmem := List.mem_map_of_mem (f := Prod.fst) hp
    rw [checks_calls, List.mem_filter] at hmem
    exact of_decide_eq_true hmem.2
  have halone : answersOf callerId
      (checks limit [] (calls.filter (fun call => call.callerId = callerId))).1 =
        (checks limit [] (calls.filter (fun call => call.callerId = callerId))).1.map Prod.snd := by
    rw [answersOf, List.filter_eq_self.mpr]
    intro p hp
    exact decide_eq_true (hall p hp)
  rw [← halone, answersOf_run, answersOf_run, timesOf, timesOf, List.filter_filter]
  simp only [Bool.and_self]

/-- From a new limiter, with times that do not go back: of the calls of a caller in a minute the
first are allowed, up to the limit, and no others.  Without the refused calls the run is the
same, and so it is for a caller without the calls of the others: a refusal writes nothing, and
callers share no window. -/
theorem rate_limiter_exact (hlimit : 0 < limit) {calls : List (Call T)}
    (hsorted : (calls.map Call.now).Pairwise (· ≤ ·)) :
    (∀ callerId m, allowedIn callerId m (checks limit [] calls).1 =
        List.replicate (min limit.toNat (callsIn callerId m calls).length) true ++
          List.replicate ((callsIn callerId m calls).length - limit.toNat) false) ∧
      (checks limit [] (((checks limit [] calls).1.filter (fun p => p.2 = none)).map Prod.fst) =
        ((checks limit [] calls).1.filter (fun p => p.2 = none), (checks limit [] calls).2)) ∧
      ∀ callerId, answersOf callerId (checks limit [] calls).1 =
        (checks limit [] (calls.filter (fun call => call.callerId = callerId))).1.map Prod.snd :=
  ⟨fun callerId m => allowedIn_run hlimit callerId m hsorted, checks_allowed [] calls,
    answersOf_alone calls⟩

/-- Two callers, and a limit of one. -/
def twoCallers : List (Call Rat) := [⟨lit "a", 0⟩, ⟨lit "b", 1⟩, ⟨lit "a", 2⟩, ⟨lit "a", 60⟩]

theorem rate_limiter_exact_two :
    allowedIn (lit "a") 0 (checks 1 [] twoCallers).1 = [true, false] := by
  have hsorted : (twoCallers.map Call.now).Pairwise (· ≤ ·) := by decide +kernel
  have hcount : (callsIn (lit "a") 0 twoCallers).length = 2 := by decide +kernel
  rw [(rate_limiter_exact one_pos hsorted).1, hcount]
  rfl

/-! ## 5. The time to wait -/

/-- What is left of a minute is more than nothing and at most sixty seconds. -/
theorem remaining_bounds (now : T) :
    (0 : T) < (minute now + 1) * 60 - now ∧ ((minute now : T) + 1) * 60 - now ≤ 60 := by
  have hle : (minute now : T) ≤ now / 60 := Int.floor_le _
  have hlt : now / 60 < minute now + 1 := Int.lt_floor_add_one _
  rw [div_lt_iff₀ (by norm_num)] at hlt
  rw [le_div_iff₀ (by norm_num)] at hle
  constructor <;> linarith

/-- The seconds to wait are the remaining ones, cut down, and at least one. -/
theorem wait_eq (now : T) :
    max 1 (truncate (((minute now : T) + 1) * 60 - now)) =
      max 1 ⌊((minute now : T) + 1) * 60 - now⌋ := by
  rw [truncate, if_pos (remaining_bounds now).1.le]

theorem wait_bounds (now : T) :
    1 ≤ max 1 (truncate (((minute now : T) + 1) * 60 - now)) ∧
      max 1 (truncate (((minute now : T) + 1) * 60 - now)) ≤ 60 := by
  refine ⟨le_max_left _ _, ?_⟩
  rw [wait_eq, max_le_iff]
  refine ⟨by norm_num, ?_⟩
  have hfloor : ⌊((minute now : T) + 1) * 60 - now⌋ ≤ ⌊(60 : T)⌋ :=
    Int.floor_le_floor (remaining_bounds now).2
  simpa using hfloor

/-- A time is in a later minute exactly when nothing of this one is left. -/
theorem minute_lt_iff {now later : T} :
    minute now < minute later ↔ ((minute now : T) + 1) * 60 ≤ later := by
  rw [← Int.add_one_le_iff, minute, minute, Int.le_floor, le_div_iff₀ (by norm_num)]
  push_cast
  rfl

/-- What is left of a minute is a whole number of seconds at whole seconds. -/
theorem remaining_le_floor_iff (now : T) :
    ((minute now : T) + 1) * 60 - now ≤ ⌊((minute now : T) + 1) * 60 - now⌋ ↔
      ∃ n : Int, now = n := by
  constructor
  · intro hle
    have heq := le_antisymm hle (Int.floor_le _)
    refine ⟨(minute now + 1) * 60 - ⌊((minute now : T) + 1) * 60 - now⌋, ?_⟩
    rw [Int.cast_sub, ← heq]
    push_cast
    ring
  · rintro ⟨n, hn⟩
    have hwhole : ((minute now : T) + 1) * 60 - now = (((minute now + 1) * 60 - n : Int) : T) := by
      push_cast
      rw [← hn]
    rw [hwhole, Int.floor_intCast]

/-- Waiting reaches the next minute exactly at whole seconds and in the last second. -/
theorem wait_reaches_iff (now : T) :
    ((minute now : T) + 1) * 60 ≤
        now + (max 1 (truncate (((minute now : T) + 1) * 60 - now)) : Int) ↔
      (∃ n : Int, now = n) ∨ ((minute now : T) + 1) * 60 - now ≤ 1 := by
  rw [wait_eq, ← remaining_le_floor_iff, ← sub_le_iff_le_add', Int.cast_max, le_max_iff,
    Int.cast_one, or_comm]

omit [IsStrictOrderedRing T] in
/-- The calls of the others leave what is stored for a caller. -/
theorem stored_others (windows : Windows) {calls : List (Call T)} {callerId : Str}
    (h : ∀ call ∈ calls, call.callerId ≠ callerId) :
    (checks limit windows calls).2.stored callerId = windows.stored callerId := by
  rw [(checks_eq_runAll windows calls).1]
  refine PerKey.state_of_silent _ _ ?_
  intro p hp
  obtain ⟨call, hcall, rfl⟩ := List.mem_map.mp hp
  exact h call hcall

/-- A refused caller gets a whole number of seconds from 1 to 60.  When it makes no call, the
next one after that time is allowed exactly if it was refused at a whole second or in the last
second of a minute: `int` cuts the seconds that remain, so otherwise the time that is told ends
in the full minute still. -/
theorem retry_after_iff {windows : Windows} {callerId : Str} {now : T} {wait : Int}
    (h : (check limit windows callerId now).1 = some wait) :
    ((1 ≤ wait ∧ wait ≤ 60) ∧
        ∀ others : List (Call T), (∀ call ∈ others, call.callerId ≠ callerId) →
          ∀ later : T, now + wait ≤ later →
            (check limit (checks limit (check limit windows callerId now).2 others).2
              callerId later).1 = none) ↔
      (∃ n : Int, now = n) ∨ ((minute now : T) + 1) * 60 - now ≤ 1 := by
  obtain ⟨hlimit, rfl, hwindows, count, hstored, hfull⟩ := check_refused h
  rw [hwindows, ← wait_reaches_iff]
  constructor
  · rintro ⟨-, hnext⟩
    by_contra hearly
    -- the minute is not over when the wait is
    have hsame : minute (now + (max 1 (truncate ((minute now + 1) * 60 - now)) : Int)) =
        minute now := by
      refine le_antisymm (not_lt.mp (fun hlt => hearly (minute_lt_iff.mp hlt))) (minute_mono ?_)
      have hpos : (0 : T) ≤ (max 1 (truncate ((minute now + 1) * 60 - now)) : Int) :=
        Int.cast_nonneg (zero_le_one.trans (le_max_left _ _))
      linarith
    have hallowed := hnext [] (by simp) _ le_rfl
    have hlt :=
      (check_allowed_iff hlimit callerId _).mp hallowed count (by rw [hsame]; exact hstored)
    omega
  · intro hreach
    refine ⟨wait_bounds now, ?_⟩
    intro others hothers later hlater
    rw [check_allowed_iff hlimit, stored_others windows hothers, hstored]
    intro n hn
    -- the stored minute is over
    have hover : minute now < minute later := minute_lt_iff.mpr (hreach.trans hlater)
    obtain ⟨hminute, -⟩ := Prod.mk.inj (Option.some.inj hn)
    exact absurd hminute hover.ne

/-- Half a second after the second minute began, the second call is told to wait 59 seconds: it is
refused again 59 seconds later. -/
theorem waited_in_vain :
    (check 1 (check 1 [] (lit "a") (120 + 1 / 2 : Rat)).2 (lit "a") (120 + 1 / 2 : Rat)).1 =
        some 59 ∧
      (120 + 1 / 2 : Rat) + (59 : Int) ≤ 179 + 1 / 2 ∧
      (check 1 (check 1 [] (lit "a") (120 + 1 / 2 : Rat)).2 (lit "a") (179 + 1 / 2 : Rat)).1 =
        some 1 := by
  decide +kernel

theorem retry_after_iff_whole :
    (check 1 (check 1 [] (lit "a") (120 : Rat)).2 (lit "a") (120 : Rat)).1 = some 60 ∧
      ∀ later : Rat, 120 + ((60 : Int) : Rat) ≤ later →
        (check 1 (check 1 [] (lit "a") (120 : Rat)).2 (lit "a") later).1 = none := by
  have hrefused : (check 1 (check 1 [] (lit "a") (120 : Rat)).2 (lit "a") (120 : Rat)).1 =
      some 60 := by decide +kernel
  have hwait := (retry_after_iff hrefused).mpr (.inl ⟨120, by norm_num⟩)
  refine ⟨hrefused, ?_⟩
  intro later hlater
  have hnext := hwait.2 [] (by simp) later hlater
  rwa [(check_refused hrefused).2.2.1] at hnext

end RateLimiter

/-! ## 6. The size limit -/

def ascii (s : String) : Bytes := s.toList.map (fun c => c.toNat.toUInt8)

/-- An event that the server gives to `receive`. -/
structure Message where
  type : Str
  body : Option Bytes
  moreBody : Option Bool

/-- What is given to `send`. -/
inductive Sent
  | start (status : Nat) (headers : List (Bytes × Bytes))
  | body (body : Bytes)
deriving DecidableEq

structure Scope where
  type : Str
  headers : Option (List (Bytes × Bytes))

/-- `_reject_too_large` -/
def rejectTooLarge : List Sent :=
  let body := ascii "\x7b\"detail\":\"Request body too large\"\x7d"
  [.start 413 [(ascii "content-type", ascii "application/json"),
      (ascii "content-length", ascii (toString body.length))],
    .body body]

/-- `bytes.isdigit` -/
def isDigits (b : Bytes) : Bool := !b.isEmpty && b.all (fun d => 48 ≤ d && d ≤ 57)

/-- The number that the digits write. -/
def numberOf (digits : Bytes) : Nat := ofDecDigits (digits.map (fun d => d.toNat - 48))

/-- `int(b)` of digits.  More than 4300 of them are a `ValueError`. -/
def intOfDigits (digits : Bytes) : Except PyError Nat :=
  if 4300 < digits.length then .error .valueError else .ok (numberOf digits)

/-- `dict(headers).get(b"content-length")`: the last one. -/
def Scope.contentLength (scope : Scope) : Option Bytes :=
  (scope.headers.getD []).reverse.lookup (ascii "content-length")

/-- How the middleware ends: it has answered, it still waits for the server, it has called the
application with what it buffered in front of what the server has not given yet, or it raised. -/
inductive BodyOutcome
  | answered (sent : List Sent)
  | waiting
  | called (buffered channel : List Message)
  | raised (e : PyError)

/-- The loop of `__call__`, on the messages that the server gives. -/
def readBody (limit : Int) : List Message → Nat → List Message → BodyOutcome
  | _, _, [] => .waiting
  | buffered, received, message :: channel =>
    if message.type ≠ lit "http.request" then .called (buffered ++ [message]) channel
    else
      let received := received + (message.body.getD []).length
      if limit < received then .answered rejectTooLarge
      else if message.moreBody.getD false then
        readBody limit (buffered ++ [message]) received channel
      else .called (buffered ++ [message]) channel

/-- `BodySizeLimitMiddleware.__call__` -/
def bodySizeLimit (scope : Scope) (limit : Int) (messages : List Message) : BodyOutcome :=
  if scope.type ≠ lit "http" then .called [] messages
  else
    match scope.contentLength with
    | none => readBody limit [] 0 messages
    | some declared =>
      if isDigits declared then
        match intOfDigits declared with
        | .error e => .raised e
        | .ok size =>
          if limit < size then .answered rejectTooLarge else readBody limit [] 0 messages
      else readBody limit [] 0 messages

/-- `replay`: the message, and what is left. -/
def replay (buffered channel : List Message) : Option (Message × List Message × List Message) :=
  match buffered, channel with
  | message :: buffered, channel => some (message, buffered, channel)
  | [], message :: channel => some (message, [], channel)
  | [], [] => none

/-- What the application gets when it calls `receive` a number of times. -/
def observed (buffered channel : List Message) : Nat → List Message
  | 0 => []
  | n + 1 =>
    match replay buffered channel with
    | none => []
    | some (message, buffered, channel) => message :: observed buffered channel n

theorem observed_eq_take (buffered channel : List Message) (n : Nat) :
    observed buffered channel n = (buffered ++ channel).take n := by
  induction n generalizing buffered channel with
  | zero => rfl
  | succ n ih =>
    cases buffered with
    | cons message buffered => exact congrArg _ (ih buffered channel)
    | nil =>
      cases channel with
      | cons message channel => exact congrArg _ (ih [] channel)
      | nil => rfl

/-! ## 7. What the size limit is for -/

/-- The body ends with the message: the last part of it, or a disconnect. -/
def Message.ends (message : Message) : Bool :=
  message.type != lit "http.request" || !message.moreBody.getD false

def Message.size (message : Message) : Nat :=
  if message.type = lit "http.request" then (message.body.getD []).length else 0

/-- The bytes of the body up to its end. -/
def bodySize : List Message → Nat
  | [] => 0
  | message :: messages => message.size + if message.ends then 0 else bodySize messages

def bodyEnded (messages : List Message) : Bool := messages.any Message.ends

/-- The declared length is a number above the limit. -/
def DeclaredTooLarge (scope : Scope) (limit : Int) : Prop :=
  ∃ declared ∈ scope.contentLength, isDigits declared = true ∧ limit < numberOf declared

def Sent.status : Sent → Option Nat
  | .start status _ => some status
  | .body _ => none

/-- A request above the limit gets one response, a 413, and the application is not called.  Any
other one is passed on when its body has ended: the application gets the messages of the server. -/
structure Transparent (scope : Scope) (limit : Int) (messages : List Message) : Prop where
  closed : DeclaredTooLarge scope limit ∨ limit < bodySize messages →
    ∃ sent, bodySizeLimit scope limit messages = .answered sent ∧
      sent.filterMap Sent.status = [413]
  passed : ¬ (DeclaredTooLarge scope limit ∨ limit < bodySize messages) →
    bodyEnded messages = true →
      ∃ buffered channel, bodySizeLimit scope limit messages = .called buffered channel ∧
        ∀ n, observed buffered channel n = messages.take n
  held : ¬ (DeclaredTooLarge scope limit ∨ limit < bodySize messages) →
    bodyEnded messages = false → bodySizeLimit scope limit messages = .waiting

theorem Message.ends_of_other {message : Message} (h : message.type ≠ lit "http.request") :
    message.ends = true ∧ message.size = 0 := by
  simp [Message.ends, Message.size, h]

theorem Message.size_of_request {message : Message} (h : message.type = lit "http.request") :
    message.size = (message.body.getD []).length ∧
      message.ends = !message.moreBody.getD false := by
  simp [Message.ends, Message.size, h]

/-- The three ends of the loop. -/
theorem readBody_spec {limit : Int} (messages : List Message) :
    ∀ (buffered : List Message) (received : Nat), received ≤ limit →
      (limit < received + bodySize messages →
          readBody limit buffered received messages = .answered rejectTooLarge) ∧
        (received + bodySize messages ≤ limit → bodyEnded messages = true →
          ∃ replayed channel,
            readBody limit buffered received messages = .called replayed channel ∧
              replayed ++ channel = buffered ++ messages) ∧
        (received + bodySize messages ≤ limit → bodyEnded messages = false →
          readBody limit buffered received messages = .waiting) := by
  induction messages with
  | nil =>
    intro buffered received hle
    refine ⟨fun h => absurd h ?_, fun _ h => absurd h (by simp [bodyEnded]), fun _ _ => rfl⟩
    simp only [bodySize]
    omega
  | cons message channel ih =>
    intro buffered received hle
    rw [readBody, bodySize, bodyEnded, List.any_cons]
    by_cases htype : message.type = lit "http.request"
    · obtain ⟨hsize, hends⟩ := message.size_of_request htype
      simp only [htype, ne_eq, not_true_eq_false, ↓reduceIte]
      by_cases hlarge : limit < (received + (message.body.getD []).length : Nat)
      · -- this part of the body is too much
        rw [if_pos hlarge]
        have hnot : ¬ (received : Int) + ((message.size +
            if message.ends then 0 else bodySize channel : Nat) : Int) ≤ limit := by
          push_cast at hlarge ⊢
          omega
        exact ⟨fun _ => rfl, fun h => absurd h hnot, fun h => absurd h hnot⟩
      · rw [if_neg hlarge]
        cases hmore : message.moreBody.getD false with
        | true =>
          -- the body goes on
          have hends : message.ends = false := by rw [hends, hmore]; rfl
          obtain ⟨hover, hpassed, hheld⟩ := ih (buffered ++ [message])
            (received + (message.body.getD []).length) (by omega)
          simp only [hends, Bool.false_or, hsize, ↓reduceIte, Bool.false_eq_true]
          push_cast at hover hpassed hheld ⊢
          rw [← add_assoc]
          refine ⟨hover, fun h hended => ?_, hheld⟩
          obtain ⟨replayed, rest, hread, happ⟩ := hpassed h hended
          exact ⟨replayed, rest, hread, by rw [happ, List.append_assoc, List.singleton_append]⟩
        | false =>
          have hends : message.ends = true := by rw [hends, hmore]; rfl
          simp only [hends, Bool.true_or, hsize, ↓reduceIte, Bool.false_eq_true, add_zero]
          refine ⟨fun h => absurd h (by push_cast at hlarge; omega), fun _ _ => ?_,
            fun _ h => absurd h (by decide)⟩
          exact ⟨buffered ++ [message], channel, rfl, by simp⟩
    · -- a disconnect
      obtain ⟨hends, hsize⟩ := message.ends_of_other htype
      simp only [htype, hends, hsize, ne_eq, not_false_eq_true, ↓reduceIte, Bool.true_or]
      refine ⟨fun h => absurd h (by push_cast; omega), fun _ _ => ?_,
        fun _ h => absurd h (by decide)⟩
      exact ⟨buffered ++ [message], channel, rfl, by simp⟩

/-- `int` takes the declared length. -/
def LengthReadable (scope : Scope) : Prop :=
  ∀ declared ∈ scope.contentLength, isDigits declared = true → declared.length ≤ 4300

/-- What comes before the loop. -/
theorem bodySizeLimit_cases (headers : Option (List (Bytes × Bytes))) (limit : Int)
    (messages : List Message) :
    let scope : Scope := ⟨lit "http", headers⟩
    (¬ LengthReadable scope ∧ bodySizeLimit scope limit messages = .raised .valueError) ∨
      (LengthReadable scope ∧ DeclaredTooLarge scope limit ∧
        bodySizeLimit scope limit messages = .answered rejectTooLarge) ∨
      (LengthReadable scope ∧ ¬ DeclaredTooLarge scope limit ∧
        bodySizeLimit scope limit messages = readBody limit [] 0 messages) := by
  intro scope
  have hhttp : scope.type = lit "http" := rfl
  unfold LengthReadable DeclaredTooLarge bodySizeLimit
  simp only [hhttp, ne_eq, not_true_eq_false, ↓reduceIte]
  cases scope.contentLength with
  | none => exact .inr (.inr ⟨by simp, by simp, rfl⟩)
  | some declared =>
    cases hdigits : isDigits declared with
    | false => exact .inr (.inr ⟨by simp [hdigits], by simp [hdigits], by simp [hdigits]⟩)
    | true =>
      by_cases hlong : 4300 < declared.length
      · exact .inl ⟨by simp [hdigits, hlong], by simp [hdigits, intOfDigits, hlong]⟩
      · by_cases hlarge : limit < numberOf declared
        · refine .inr (.inl ⟨by simpa [hdigits] using hlong, ⟨declared, rfl, hdigits, hlarge⟩, ?_⟩)
          simp [hdigits, intOfDigits, hlong, hlarge]
        · refine .inr (.inr ⟨by simpa [hdigits] using hlong, by simpa [hdigits] using hlarge, ?_⟩)
          simp [hdigits, intOfDigits, hlong, hlarge]

/-- The loop has one answer. -/
theorem readBody_answered {limit : Int} {buffered messages : List Message} {received : Nat}
    {sent : List Sent} (h : readBody limit buffered received messages = .answered sent) :
    sent = rejectTooLarge := by
  induction messages generalizing buffered received with
  | nil => cases h
  | cons message channel ih =>
    rw [readBody] at h
    split at h
    · cases h
    · dsimp only at h
      split at h
      · cases h
        rfl
      · split at h
        · exact ih h
        · cases h

/-- Below zero everything is too large, but a disconnect is passed on. -/
theorem readBody_negative {limit : Int} (hlimit : limit < 0) (messages : List Message) :
    readBody limit [] 0 messages = .answered rejectTooLarge ↔
      ∃ message ∈ messages.head?, message.type = lit "http.request" := by
  cases messages with
  | nil => simp [readBody]
  | cons message channel =>
    by_cases htype : message.type = lit "http.request"
    · have hlt : limit < ((0 + (message.body.getD []).length : Nat) : Int) := by omega
      simp only [readBody, htype, ne_eq, not_true_eq_false, ↓reduceIte, hlt]
      simp [htype]
    · simp [readBody, htype]

/-- The middleware closes above the limit and is transparent below it exactly when `int` takes
the declared length and, where a limit below zero refuses every body, there is a body to refuse.
`isdigit` lets a length of any number of digits through to `int`, which raises from 4301 digits
on. -/
theorem transparent_iff (headers : Option (List (Bytes × Bytes))) (limit : Int)
    (messages : List Message) :
    Transparent ⟨lit "http", headers⟩ limit messages ↔
      LengthReadable ⟨lit "http", headers⟩ ∧
        (DeclaredTooLarge ⟨lit "http", headers⟩ limit ∨ 0 ≤ limit ∨
          ∃ message ∈ messages.head?, message.type = lit "http.request") := by
  have hstatus : rejectTooLarge.filterMap Sent.status = [413] := rfl
  rcases bodySizeLimit_cases headers limit messages with
    ⟨hlong, hrun⟩ | ⟨hread, hdeclared, hrun⟩ | ⟨hread, hdeclared, hrun⟩
  · -- the length cannot be read
    refine iff_of_false ?_ (fun h => hlong h.1)
    intro htransparent
    by_cases hlarge : DeclaredTooLarge ⟨lit "http", headers⟩ limit ∨ limit < bodySize messages
    · obtain ⟨sent, hsent, -⟩ := htransparent.closed hlarge
      rw [hrun] at hsent
      cases hsent
    · cases hended : bodyEnded messages with
      | true =>
        obtain ⟨buffered, channel, hcalled, -⟩ := htransparent.passed hlarge hended
        rw [hrun] at hcalled
        cases hcalled
      | false =>
        have hheld := htransparent.held hlarge hended
        rw [hrun] at hheld
        cases hheld
  · refine iff_of_true ⟨fun _ => ⟨_, hrun, hstatus⟩, ?_, ?_⟩ ⟨hread, .inl hdeclared⟩
    · intro hsmall
      exact absurd (.inl hdeclared) hsmall
    · intro hsmall
      exact absurd (.inl hdeclared) hsmall
  · by_cases hlimit : 0 ≤ limit
    · refine iff_of_true ?_ ⟨hread, .inr (.inl hlimit)⟩
      obtain ⟨hover, hpassed, hheld⟩ := readBody_spec messages [] 0 (by exact_mod_cast hlimit)
      simp only [Nat.cast_zero, zero_add, List.nil_append] at hover hpassed hheld
      refine ⟨?_, ?_, ?_⟩
      · intro hlarge
        exact ⟨_, by rw [hrun, hover (hlarge.resolve_left hdeclared)], hstatus⟩
      · intro hsmall hended
        obtain ⟨buffered, channel, hread, happ⟩ :=
          hpassed (not_lt.mp (fun h => hsmall (.inr h))) hended
        refine ⟨buffered, channel, by rw [hrun, hread], fun n => ?_⟩
        rw [observed_eq_take, happ]
      · intro hsmall hended
        rw [hrun, hheld (not_lt.mp (fun h => hsmall (.inr h))) hended]
    · -- a limit below zero
      have hlarge : limit < bodySize messages := by omega
      have hiff := readBody_negative (not_le.mp hlimit) messages
      simp only [hread, hdeclared, hlimit, true_and, false_or]
      rw [← hiff, ← hrun]
      constructor
      · intro htransparent
        obtain ⟨sent, hsent, -⟩ := htransparent.closed (.inr hlarge)
        rw [hrun] at hsent ⊢
        rcases readBody_answered hsent with rfl
        exact hsent
      · intro hanswered
        exact ⟨fun _ => ⟨_, hanswered, hstatus⟩, fun h => absurd (.inr hlarge) h,
          fun h => absurd (.inr hlarge) h⟩

/-- A declared length of 4301 digits. -/
def longLength : Scope :=
  ⟨lit "http", some [(ascii "content-length", List.replicate 4301 57)]⟩

/-- It is above the limit, and there is an exception in place of the 413. -/
theorem longLength_raises :
    DeclaredTooLarge longLength 262144 ∧
      bodySizeLimit longLength 262144 [] = .raised .valueError ∧
      ¬ Transparent longLength 262144 [] := by
  have hlength : longLength.contentLength = some (List.replicate 4301 57) := rfl
  have hdigits : isDigits (List.replicate 4301 57) = true := by decide +kernel
  have hlarge : DeclaredTooLarge longLength 262144 :=
    ⟨_, hlength, hdigits, by decide +kernel⟩
  have hnot : ¬ LengthReadable longLength := by
    intro hread
    have hle := hread _ hlength hdigits
    rw [List.length_replicate] at hle
    omega
  have hraised : bodySizeLimit longLength 262144 [] = .raised .valueError := by
    rcases bodySizeLimit_cases longLength.headers 262144 [] with
      ⟨-, hrun⟩ | ⟨hread, -⟩ | ⟨hread, -⟩
    · exact hrun
    · exact absurd hread hnot
    · exact absurd hread hnot
  refine ⟨hlarge, hraised, ?_⟩
  intro htransparent
  obtain ⟨sent, hsent, -⟩ := htransparent.closed (.inl hlarge)
  rw [hraised] at hsent
  cases hsent

end Axg
