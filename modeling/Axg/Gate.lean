/-
# The uncertainty gate

A gated write whose intent is uncertain is raised to `CONFIRM`.  Without an intent the score of
an uncertain source is raised to the threshold itself, and then rounded to four decimals before
it is compared with the threshold again: a threshold that rounding lowers is not reached
(`gated_write_iff`).  The other scores have one decimal and are compared as they are.
-/
import Axg.Decisions

namespace Axg

open Python

/-! ## 1. Scores against the threshold -/

section

variable {request : DecisionRequest} {py : Interpreter} {sha : Sha256} {keys : KeyManager}
  {caller : Caller} {now : Clock} {uuid : Text} {plugin : Plugin} {response : DecisionResponse}
  {gate : UncertaintyGate}

/-- The action, or the one proposed or resolved, is one that the gate lists.  The three names are
looked up in one set, in which there are texts only. -/
def Listed (gate : UncertaintyGate) (request : DecisionRequest) : Prop :=
  request.actionType ∈ gate.actions ∨ ∃ a ∈ gate.actions,
    request.payload.get "proposed_action" = some (.str a) ∨
      request.intent.get "resolved" = some (.str a)

/-- The intent behind the request is uncertain: there is none and the source is uncertain, or the
score reaches the threshold. -/
def Uncertain (gate : UncertaintyGate) (request : DecisionRequest) : Prop :=
  request.intent.members = [] ∧ isUncertainSource gate request = true ∨
    gate.threshold.val ≤ min 1 (intentScore gate request)

/-- A request that the gate lets through: without intent, from an uncertain source, against a
threshold that rounding to four decimals lowers. -/
structure SlipsThrough (gate : UncertaintyGate) (request : DecisionRequest) : Prop where
  noIntent : request.intent.members = []
  source : isUncertainSource gate request = true
  above : 1 / 10 < gate.threshold.val
  rounded : round4 gate.threshold.val < gate.threshold.val
  gate : (isGatedWrite gate request).isOk = true
  log : request.Loggable

theorem inSet_eq_ok {actions : List Text} {x : Option Json} {b : Bool}
    (h : inSet actions x = .ok b) {a : Text} (ha : a ∈ actions) (hx : x = some (.str a)) :
    b = true := by
  rw [hx] at h
  cases h
  exact List.any_eq_true.mpr ⟨a, ha, decide_eq_true rfl⟩

theorem gated_of_listed (hlisted : Listed gate request) {g : Bool}
    (h : isGatedWrite gate request = .ok g) : g = true := by
  unfold isGatedWrite at h
  split at h
  · cases h; rfl
  rename_i hno
  obtain ⟨proposed, hp, h⟩ := bind_eq_ok h
  cases proposed with
  | true => cases h; rfl
  | false =>
    rcases hlisted with hmem | ⟨a, ha, hx | hx⟩
    · exact absurd (by simpa using hmem) hno
    · exact absurd (inSet_eq_ok hp ha hx) (by decide)
    · exact inSet_eq_ok h ha hx

theorem round4_intCast (n : Int) : round4 (n / 10000) = n / 10000 := by
  have hmul : (n : ℚ) / 10000 * 10000 = n := div_mul_cancel₀ _ (by norm_num)
  have hround : roundHalfEven (n : ℚ) = n := by simp [roundHalfEven]
  rw [round4, hmul, hround]

/-- The score of an intent has one decimal: rounding leaves it. -/
theorem round4_intentScore (gate : UncertaintyGate) (request : DecisionRequest) :
    round4 (intentScore gate request) = intentScore gate request ∧
      0 ≤ intentScore gate request := by
  have hscore : intentScore gate request =
      (((if isUnknownIntent request then 8000 else 0) +
        (if isFallbackUsed request then 2000 else 0) +
        (if isUncertainSource gate request then 1000 else 0) : Int) : ℚ) / 10000 := by
    unfold intentScore
    split <;> split <;> split <;> norm_num
  constructor
  · rw [hscore, round4_intCast]
  · unfold intentScore
    split <;> split <;> split <;> norm_num

/-- Without an intent only the source counts. -/
theorem intentScore_of_noIntent (h : request.intent.members = [])
    (hs : isUncertainSource gate request = true) : intentScore gate request = 1 / 10 := by
  have hget : ∀ key, request.intent.get key = none := by
    intro key
    rw [JsonObject.get, h]
    rfl
  simp [intentScore, isUnknownIntent, isFallbackUsed, hget, hs]

/-- An uncertain gated write needs confirmation, unless it slips through. -/
theorem requires_of_uncertain (huncertain : Uncertain gate request)
    (hslip : ¬ (request.intent.members = [] ∧ isUncertainSource gate request = true ∧
      1 / 10 < gate.threshold.val ∧ round4 gate.threshold.val < gate.threshold.val)) :
    requiresUncertaintyConfirmation gate request true = true := by
  obtain ⟨hround, hpos⟩ := round4_intentScore gate request
  simp only [requiresUncertaintyConfirmation, uncertaintyScore, Bool.true_and, decide_eq_true_eq]
  by_cases hno : request.intent.members = [] ∧ isUncertainSource gate request = true
  · have hcond : (isUncertainSource gate request && request.intent.members.isEmpty) = true := by
      simp [hno]
    rw [if_pos hcond, intentScore_of_noIntent hno.1 hno.2]
    simp only [clamp]
    by_cases habove : 1 / 10 < gate.threshold.val
    · rw [max_eq_right habove.le]
      have hle : gate.threshold.val ≤ round4 gate.threshold.val :=
        not_lt.mp (fun hlt => hslip ⟨hno.1, hno.2, habove, hlt⟩)
      exact le_max_of_le_right (le_min gate.threshold.le_one hle)
    · have htenth : round4 (1 / 10) = 1 / 10 := by
        have := round4_intCast 1000
        norm_num at this ⊢
        exact this
      rw [max_eq_left (not_lt.mp habove), htenth]
      exact le_max_of_le_right (le_min gate.threshold.le_one (not_lt.mp habove))
  · have hcond : ¬ (isUncertainSource gate request && request.intent.members.isEmpty) = true := by
      intro h
      simp only [Bool.and_eq_true, List.isEmpty_iff] at h
      exact hno ⟨h.2, h.1⟩
    rw [if_neg hcond]
    simp only [clamp, hround]
    exact le_max_of_le_right (huncertain.resolve_left hno)

/-- What slips through is not held back. -/
theorem SlipsThrough.not_requires (h : SlipsThrough gate request) (g : Bool) :
    requiresUncertaintyConfirmation gate request g = false := by
  cases g with
  | false => rfl
  | true =>
    have hcond : (isUncertainSource gate request && request.intent.members.isEmpty) = true := by
      simp [h.source, h.noIntent]
    simp only [requiresUncertaintyConfirmation, uncertaintyScore, Bool.true_and,
      decide_eq_false_iff_not, not_le]
    rw [if_pos hcond, intentScore_of_noIntent h.noIntent h.source, max_eq_right h.above.le]
    have hpos : 0 < gate.threshold.val := lt_trans (by norm_num) h.above
    exact max_lt hpos (lt_of_le_of_lt (min_le_right _ _) h.rounded)

/-! ## 2. Every policy with the gate -/

/-- The policy with this gate that suggests everything. -/
def suggestPolicy (gate : UncertaintyGate) : Plugin :=
  { Plugin.default (.lit "p") (.lit "1") with uncertaintyGate := gate, rules := [always .suggest] }

/-- Every policy with the gate confirms or blocks a listed, uncertain request whenever it decides
one, exactly when the request does not slip through.  The score of such a request is raised to
the threshold and then rounded to four decimals, but compared with the threshold as it stands:
one that is rounded down passes. -/
theorem gated_write_iff (hlisted : Listed gate request) (huncertain : Uncertain gate request) :
    (∀ plugin : Plugin, plugin.uncertaintyGate = gate →
        ∀ py sha keys caller now uuid context response,
          decide request py sha keys caller now uuid (.ok plugin) context = .ok response →
            response.decision = .confirm ∨ response.decision = .block) ↔
      ¬ SlipsThrough gate request := by
  constructor
  · intro hall hslip
    obtain ⟨g, hg⟩ := exists_ok_of_isOk hslip.gate
    -- a policy whose one rule suggests shows it: without the gate the decision is `SUGGEST`
    have heval : Evaluated request plainInterpreter plainSha ⟨none, [], []⟩
        .anonymous 0 (.lit "u") (suggestPolicy gate) .none [always .suggest] g
        (respond (suggestPolicy gate) request .anonymous plainSha ⟨none, [], []⟩ 0 (.lit "u") .none
          [always .suggest] g) :=
      ⟨evaluateRules_always _ _ .suggest _, hg, rfl, hslip.log⟩
    have hdecision := hall (suggestPolicy gate) rfl _ _ _ _ _ _ (.ok .none) _
      (decide_eq_ok.mpr (.inr ⟨_, _, _, _, rfl, rfl, heval⟩))
    rw [← Decision.confirm_le_iff, confirm_le_decision_iff] at hdecision
    have hfinal : finalDecision (suggestPolicy gate) request .anonymous [always .suggest] g =
        .suggest := by
      have hgate : requiresUncertaintyConfirmation (suggestPolicy gate).uncertaintyGate request g =
          false := hslip.not_requires g
      rw [finalDecision, hgate]
      rfl
    rw [hfinal] at hdecision
    rcases hdecision with h | h | ⟨h, -⟩
    · exact absurd h (by decide)
    · exact h rfl
    · cases h
  · intro hslip plugin hplugin py sha keys caller now uuid context response h
    rw [← Decision.confirm_le_iff]
    obtain ⟨message, hl, -⟩ | ⟨p, v, t, g, hl, -, he⟩ := decide_eq_ok.mp h
    · cases hl
    cases hl
    have hgate := he.gate
    rw [hplugin] at hgate
    have hg := gated_of_listed hlisted hgate
    subst hg
    have hrequires :
        requiresUncertaintyConfirmation plugin.uncertaintyGate request true = true := by
      rw [hplugin]
      refine requires_of_uncertain huncertain (fun hno => hslip ?_)
      exact ⟨hno.1, hno.2.1, hno.2.2.1, hno.2.2.2, by rw [hgate]; rfl, he.log⟩
    exact (le_finalDecision (mem_votes.mpr (.inr (.inr ⟨hrequires, rfl⟩)))).trans
      he.finalDecision_le

/-- Pay, against a threshold of 0.70004. -/
def roundedGate : UncertaintyGate :=
  { UncertaintyGate.default with
    actions := [.lit "pay"]
    threshold := ⟨70004 / 100000, by norm_num, by norm_num⟩ }

/-- The policy that declares the action and has the gate. -/
def roundedPolicy : Plugin := { payPolicy with uncertaintyGate := roundedGate }

/-- A payment from a chat, without intent. -/
def chatRequest : DecisionRequest := { payRequest with source := .lit "chat" }

theorem gated_write_allowed :
    Listed roundedGate chatRequest ∧ Uncertain roundedGate chatRequest ∧
      ∃ response,
        decide chatRequest plainInterpreter plainSha pairedKeys .trustedLocal 0 (.lit "j1")
          (.ok roundedPolicy) (.ok .none) = .ok response ∧
        response.decision = .allow ∧ response.passport.isSome = true := by
  refine ⟨.inl (by decide), .inl ⟨rfl, by decide⟩, _, decide_eq_ok.mpr (.inr ⟨_, _, [], true, rfl,
    rfl, rfl, rfl, rfl, .of_empty rfl⟩), ?_, ?_⟩
  · decide +kernel
  · decide +kernel

/-- The default threshold, 0.7, is reached. -/
theorem gated_write_iff_default :
    (∀ plugin : Plugin, plugin.uncertaintyGate =
          { UncertaintyGate.default with actions := [.lit "pay"] } →
        ∀ py sha keys caller now uuid context response,
          decide chatRequest py sha keys caller now uuid (.ok plugin) context = .ok response →
            response.decision = .confirm ∨ response.decision = .block) ↔
      ¬ SlipsThrough { UncertaintyGate.default with actions := [.lit "pay"] } chatRequest :=
  gated_write_iff (.inl (by decide)) (.inl ⟨rfl, by decide⟩)

end

end Axg
