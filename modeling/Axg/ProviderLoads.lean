/-
# Context providers, loaded by many requests (`load_providers` in `axg/context.py`)

`verify_signed_context` runs in worker threads, and each of its calls loads the providers through
one dictionary without a lock: a test for the setting, where it is not there a clear and a store,
and then a look-up.  One operation of the dictionary is one step.

A call may clear the dictionary after another one has stored or found the setting there.  The other
one's look-up is then a `KeyError`, which `verify_signed_context` does not catch.  This happens to
the look-ups that come to a cleared dictionary, and to no others (`load_providers_iff`).

Every call reads its setting anew, and nothing is assumed of the settings that are read in a run.
-/
import Axg.General.SharedFill
import Axg.SignedContext

namespace Axg

open Python General
open SharedFill (Op Point alone)

/-! ## 1. Calls of `load_providers` -/

/-- A call, and what it read of `AXG_CONTEXT_PROVIDERS`.  The outcome `missing` is the `KeyError` of
`_providers_cache[raw]`. -/
structure ProviderLoad where
  raw : Str
  point : Point (Dict ContextProvider) ConfigFault

/-- `cache` is `_providers_cache`. -/
structure ProvidersState where
  cache : Dict (Dict ContextProvider)
  calls : List ProviderLoad
  history : List (Op Str)

/-- A process that has just started. -/
def ProvidersState.Init (s : ProvidersState) : Prop :=
  s.cache = [] ∧ s.calls = [] ∧ s.history = []

section

variable (py : Interpreter)

/-- Where a call begins: no setting, no look into the cache. -/
def loadStart (raw : Str) : Point (Dict ContextProvider) ConfigFault :=
  if strip raw = [] then .ended (.returned []) else .test

/-- The next operation of a call: the cache, the call's next point, and what is added to the
history.  The configuration is parsed where the test has found nothing. -/
def loadStep (cache : Dict (Dict ContextProvider)) (raw : Str) :
    Point (Dict ContextProvider) ConfigFault →
      Dict (Dict ContextProvider) × Point (Dict ContextProvider) ConfigFault × List (Op Str)
  | .test =>
    (cache, if (cache.lookup (strip raw)).isSome then .lookup else
      match loadProviders py raw with
      | .ok byIssuer => .clear byIssuer
      | .error fault => .ended (.failed fault), [])
  | .clear byIssuer => ([], .store byIssuer, [.clear])
  | .store byIssuer => (cache.set (strip raw) byIssuer, .lookup, [.store (strip raw)])
  | .lookup =>
    (cache, .ended (match cache.lookup (strip raw) with
      | some byIssuer => .returned byIssuer
      | none => .missing), [.lookup (strip raw)])
  | .ended outcome => (cache, .ended outcome, [])

/-- A call starts, or one of the calls makes its next operation. -/
inductive ProvidersStep : ProvidersState → ProvidersState → Prop
  | start (s : ProvidersState) (raw : Str) :
    ProvidersStep s { s with calls := s.calls ++ [⟨raw, loadStart raw⟩] }
  | operate (s : ProvidersState) (before after : List ProviderLoad) (call : ProviderLoad)
      (h : s.calls = before ++ call :: after) :
    ProvidersStep s
      { cache := (loadStep py s.cache call.raw call.point).1
        calls := before ++ ⟨call.raw, (loadStep py s.cache call.raw call.point).2.1⟩ :: after
        history := s.history ++ (loadStep py s.cache call.raw call.point).2.2 }

/-! ## 2. The dictionary as a shared cache -/

/-- Only the stripped setting matters. -/
theorem loadProviders_strip (raw : Str) : loadProviders py (strip raw) = loadProviders py raw := by
  rw [loadProviders, loadProviders, strip_strip]

def ProviderLoad.abs (call : ProviderLoad) :
    SharedFill.Call Str (Dict ContextProvider) ConfigFault :=
  ⟨strip call.raw, call.point⟩

/-- The dictionary as a function, and calls under their keys. -/
def ProvidersState.abs (s : ProvidersState) :
    SharedFill.State Str (Dict ContextProvider) ConfigFault where
  cache key := s.cache.lookup key
  calls := s.calls.map ProviderLoad.abs
  history := s.history

theorem ProvidersState.Init.abs {s : ProvidersState} (h : s.Init) : s.abs.Init := by
  obtain ⟨hcache, hcalls, hhistory⟩ := h
  refine ⟨?_, ?_, hhistory⟩
  · funext key
    simp [ProvidersState.abs, hcache]
  · simp [ProvidersState.abs, hcalls]

/-- An operation on the dictionary is the operation on the function. -/
theorem loadStep_abs (cache : Dict (Dict ContextProvider)) (raw : Str)
    (point : Point (Dict ContextProvider) ConfigFault) :
    SharedFill.advance (loadProviders py) (fun key => cache.lookup key) (strip raw) point =
      (fun key => (loadStep py cache raw point).1.lookup key, (loadStep py cache raw point).2) := by
  cases point with
  | test =>
    simp only [SharedFill.advance, loadStep, SharedFill.afterMiss, loadProviders_strip]
    cases loadProviders py raw <;> rfl
  | clear byIssuer => rfl
  | store byIssuer =>
    refine Prod.ext ?_ rfl
    funext key
    simp only [SharedFill.advance, loadStep, Dict.lookup_set, Function.update_apply]
  | lookup =>
    simp only [SharedFill.advance, loadStep]
    cases cache.lookup (strip raw) <;> rfl
  | ended outcome => rfl

/-- What a call gives that no other disturbs. -/
theorem alone_strip (raw : Str) :
    alone (loadProviders py) (strip raw) = alone (loadProviders py) raw := by
  rw [alone, alone, loadProviders_strip]

theorem ProvidersStep.simulates {s t : ProvidersState} (h : ProvidersStep py s t) :
    SharedFill.Step (loadProviders py) s.abs t.abs := by
  cases h with
  | start raw =>
    by_cases hraw : strip raw = []
    · have hnone : alone (loadProviders py) (strip raw) = .returned [] := by
        rw [alone_strip, alone, loadProviders, if_pos hraw]
      have hstep : SharedFill.Step (loadProviders py) s.abs _ := .bypass _ (strip raw)
      rw [hnone] at hstep
      simpa [ProvidersState.abs, ProviderLoad.abs, loadStart, hraw] using hstep
    · have hstep : SharedFill.Step (loadProviders py) s.abs _ := .start _ (strip raw)
      simpa [ProvidersState.abs, ProviderLoad.abs, loadStart, hraw] using hstep
  | operate before after call hcalls =>
    have habs : s.abs.calls =
        before.map ProviderLoad.abs ++ call.abs :: after.map ProviderLoad.abs := by
      simp [ProvidersState.abs, hcalls]
    have hstep : SharedFill.Step (loadProviders py) s.abs _ := .operate _ _ _ _ habs
    have hop := loadStep_abs py s.cache call.raw call.point
    have hadvance : SharedFill.advance (loadProviders py) s.abs.cache call.abs.key call.abs.point =
        _ := hop
    rw [hadvance] at hstep
    simpa [ProvidersState.abs, ProviderLoad.abs] using hstep

/-- A call that has not ended gets on with each of its operations, four at most. -/
theorem loadStep_remaining {cache : Dict (Dict ContextProvider)} {raw : Str}
    {point : Point (Dict ContextProvider) ConfigFault} (h : point.remaining ≠ 0) :
    (loadStep py cache raw point).2.1.remaining < point.remaining := by
  have hless : (SharedFill.advance (loadProviders py) (fun key => cache.lookup key) (strip raw)
      point).2.1.remaining < point.remaining := SharedFill.remaining_advance (loadProviders py) h
  rwa [loadStep_abs] at hless

end

/-! ## 3. The requests behind the calls -/

section

variable (service : TokenService) (tenantId : Str) (userId : Option Str) (audienceSetting : Str)
  (tokens : List Presented)

/-- `verify_signed_context` from the end of its `load_providers` call on; `none` where the
`KeyError` leaves it. -/
def verifyLoaded :
    SharedFill.Outcome (Dict ContextProvider) ConfigFault → Option (Except PyError VerifiedContext)
  | .returned providers =>
    some (verifyLoop service providers (contextAudience audienceSetting) tenantId userId tokens
      .none)
  | .failed (.contextConfigError _) =>
    some (.ok { VerifiedContext.none with
      rejected := List.replicate tokens.length (lit "provider configuration invalid") })
  | .failed (.raised e) => some (.error e)
  | .missing => none

variable {tokens} {py : Interpreter}

theorem verifyLoaded_alone (htokens : tokens ≠ []) (raw : Str) :
    verifyLoaded service tenantId userId audienceSetting tokens (alone (loadProviders py) raw) =
      some (verifySignedContext service tenantId userId py raw audienceSetting tokens) := by
  rw [verifySignedContext, if_neg htokens, alone]
  cases loadProviders py raw with
  | ok providers => rfl
  | error fault => cases fault <;> rfl

end

/-! ## 4. Every interleaving -/

/-- A call ends as if there were no other: with the providers of its configuration (or its
`ContextConfigError`), and the context of its request is verified. -/
structure Undisturbed (py : Interpreter) (raw : Str)
    (outcome : SharedFill.Outcome (Dict ContextProvider) ConfigFault) : Prop where
  outcome_eq : outcome = alone (loadProviders py) raw
  verified : ∀ (service : TokenService) (tenantId : Str) (userId : Option Str)
    (audienceSetting : Str) (tokens : List Presented), tokens ≠ [] →
      verifyLoaded service tenantId userId audienceSetting tokens outcome =
        some (verifySignedContext service tenantId userId py raw audienceSetting tokens)

theorem undisturbed_iff {py : Interpreter} {raw : Str}
    {outcome : SharedFill.Outcome (Dict ContextProvider) ConfigFault} :
    Undisturbed py raw outcome ↔ outcome = alone (loadProviders py) raw := by
  constructor
  · exact fun h => h.outcome_eq
  · rintro rfl
    exact ⟨rfl, fun service tenantId userId audienceSetting tokens htokens =>
      verifyLoaded_alone service tenantId userId audienceSetting htokens raw⟩

/-- In every interleaving, all calls that ended are undisturbed exactly when each look-up came
after a store of its setting with no clear in between.  A call tests, clears, stores and looks up
in a dictionary that it shares with the other threads, and only the last of these can fail:
between its store and its look-up another call, with another setting, may have cleared. -/
theorem load_providers_iff {py : Interpreter} {s : ProvidersState}
    (h : Reachable ProvidersState.Init (ProvidersStep py) s) :
    (∀ call ∈ s.calls, ∀ outcome, call.point = .ended outcome →
        Undisturbed py call.raw outcome) ↔ SharedFill.Unbroken s.history := by
  have habs := h.simulated ProvidersState.abs (fun _ => ProvidersState.Init.abs)
    (fun _ _ => ProvidersStep.simulates py)
  have hiff := SharedFill.alone_iff_of_reachable habs
  simpa [ProvidersState.abs, ProviderLoad.abs, alone_strip, undisturbed_iff] using hiff

/-! ## 5. Two requests -/

/-- Two calls that read the one provider's configuration. -/
def twoLoads (cache : Dict (Dict ContextProvider)) (a b : Point (Dict ContextProvider) ConfigFault)
    (history : List (Op Str)) : ProvidersState :=
  ⟨cache, [⟨ledgerProviders, a⟩, ⟨ledgerProviders, b⟩], history⟩

section

variable {cache cache' : Dict (Dict ContextProvider)}
  {a a' b : Point (Dict ContextProvider) ConfigFault} {history ops : List (Op Str)}

theorem twoLoads_first
    (h : loadStep plainInterpreter cache ledgerProviders a = (cache', a', ops)) :
    ProvidersStep plainInterpreter (twoLoads cache a b history)
      (twoLoads cache' a' b (history ++ ops)) := by
  have hstep : ProvidersStep plainInterpreter _ _ :=
    .operate (twoLoads cache a b history) [] [⟨ledgerProviders, b⟩] ⟨ledgerProviders, a⟩ rfl
  simpa only [twoLoads, h, List.nil_append] using hstep

theorem twoLoads_second
    (h : loadStep plainInterpreter cache ledgerProviders a = (cache', a', ops)) :
    ProvidersStep plainInterpreter (twoLoads cache b a history)
      (twoLoads cache' b a' (history ++ ops)) := by
  have hstep : ProvidersStep plainInterpreter _ _ :=
    .operate (twoLoads cache b a history) [⟨ledgerProviders, b⟩] [] ⟨ledgerProviders, a⟩ rfl
  simpa only [twoLoads, h, List.cons_append, List.nil_append] using hstep

end

theorem reachable_twoLoads :
    Reachable ProvidersState.Init (ProvidersStep plainInterpreter)
      (twoLoads [] .test .test []) := by
  have hstart : loadStart ledgerProviders = .test := if_neg (by decide +kernel)
  have hinit : Reachable ProvidersState.Init (ProvidersStep plainInterpreter) ⟨[], [], []⟩ :=
    .of_init ⟨rfl, rfl, rfl⟩
  have htwo := (hinit.tail (.start _ ledgerProviders)).tail (.start _ ledgerProviders)
  rwa [hstart] at htwo

/-- The first test finds nothing. -/
theorem loadStep_miss :
    loadStep plainInterpreter [] ledgerProviders .test =
      ([], .clear [(ledger.issuer, ledger)], []) := by
  simp [loadStep, loadProviders_ledger]

/-- Both calls miss.  The second one clears the dictionary between the store of the first one and
its look-up. -/
theorem load_providers_keyError :
    loadProviders plainInterpreter ledgerProviders = .ok [(ledger.issuer, ledger)] ∧
      ∃ s, Reachable ProvidersState.Init (ProvidersStep plainInterpreter) s ∧
        (∀ call ∈ s.calls, call.raw = ledgerProviders) ∧
        ∃ call ∈ s.calls, call.point = .ended .missing := by
  have hmissed := (reachable_twoLoads.tail (twoLoads_first loadStep_miss)).tail
    (twoLoads_second loadStep_miss)
  have hstored := (hmissed.tail (twoLoads_first rfl)).tail (twoLoads_first rfl)
  have hrun := (hstored.tail (twoLoads_second rfl)).tail (twoLoads_first rfl)
  refine ⟨loadProviders_ledger, _, hrun, ?_, ⟨ledgerProviders, .ended .missing⟩, ?_, rfl⟩
  · simp [twoLoads]
  · simp [twoLoads]

/-- A call that none disturbs gets the provider. -/
theorem load_providers_iff_ledger :
    ∃ s, Reachable ProvidersState.Init (ProvidersStep plainInterpreter) s ∧
      (∃ call ∈ s.calls, call.point = .ended (.returned [(ledger.issuer, ledger)])) ∧
      ∀ call ∈ s.calls, ∀ outcome, call.point = .ended outcome →
        Undisturbed plainInterpreter call.raw outcome := by
  have hcleared := (reachable_twoLoads.tail (twoLoads_first loadStep_miss)).tail
    (twoLoads_first rfl)
  have hfound : loadStep plainInterpreter
      [(strip ledgerProviders, [(ledger.issuer, ledger)])] ledgerProviders .lookup =
        ([(strip ledgerProviders, [(ledger.issuer, ledger)])],
          .ended (.returned [(ledger.issuer, ledger)]), [.lookup (strip ledgerProviders)]) := by
    simp [loadStep]
  have hrun := (hcleared.tail (twoLoads_first rfl)).tail (twoLoads_first hfound)
  refine ⟨_, hrun, ⟨⟨ledgerProviders, _⟩, List.mem_cons_self, rfl⟩,
    (load_providers_iff hrun).mpr ?_⟩
  simp only [twoLoads, SharedFill.unbroken_concat_iff, SharedFill.filled_concat_iff]
  simp [SharedFill.unbroken_nil]

end Axg
