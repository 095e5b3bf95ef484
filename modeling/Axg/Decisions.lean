/-
# What a decision rests on

One lemma says everything that `decide` does when it returns (`decide_eq_ok`), and one what each
stage does to the decision.  `ALLOW` is reached in one way only, with every check passed
(`decide_authority`).  A matched rule decides for an undeclared action as it does for any other
(`undeclared_confirmed_iff`).
-/
import Axg.Engine

namespace Axg

open Python

/-! ## 1. Everything `decide` does -/

/-- The log line of a request can be written: what `metadata` has to say about it has no integer
that is too long to print. -/
def DecisionRequest.Loggable (request : DecisionRequest) : Prop :=
  (∀ v ∈ request.metadata.get "flow", v.hasShortInts = true) ∧
    ∀ v ∈ request.metadata.get "situation", v.hasShortInts = true

theorem DecisionRequest.Loggable.of_empty {request : DecisionRequest}
    (h : request.metadata.members = []) : request.Loggable := by
  simp [Loggable, JsonObject.get, h]

theorem hasShortInts_orDefault {v : Option Json} {default : Text} :
    (orDefault v default).hasShortInts = true ↔ ∀ w ∈ v, w.hasShortInts = true := by
  cases v with
  | none => simp [orDefault, Json.hasShortInts, Json.every]
  | some w =>
    simp only [orDefault, Option.mem_some_iff, forall_eq']
    split
    · rfl
    · -- a value that is false to Python has no long integer
      rename_i h
      refine iff_of_true rfl ?_
      cases w with
      | int i =>
        have hi : i = 0 := by simpa [Json.truthy] using h
        rw [hi]; decide +kernel
      | arr xs =>
        have hx : xs = [] := by simpa [Json.truthy] using h
        rw [hx]; rfl
      | obj ms =>
        have hm : ms = [] := by simpa [Json.truthy] using h
        rw [hm]; rfl
      | _ => rfl

theorem hasShortInts_textList (ts : List Text) : (textList ts).hasShortInts = true := by
  refine Json.every_arr.mpr (fun v hv => ?_)
  obtain ⟨t, -, rfl⟩ := List.mem_map.mp hv
  rfl

/-- Only `metadata` decides whether a decision can be logged. -/
theorem decisionLog_short_iff {request : DecisionRequest} {response : DecisionResponse} :
    (decisionLog request response).sortKeys.hasShortInts = true ↔ request.Loggable := by
  rw [Json.hasShortInts_sortKeys, DecisionRequest.Loggable, ← hasShortInts_orDefault,
    ← hasShortInts_orDefault]
  simp only [Json.hasShortInts, decisionLog, strClaim, Json.every_obj, true_and,
    List.forall_mem_cons, List.not_mem_nil, false_implies, implies_true, and_true]
  constructor
  · rintro ⟨-, -, -, hflow, hsituation, -⟩
    exact ⟨hflow, hsituation⟩
  · rintro ⟨hflow, hsituation⟩
    exact ⟨rfl, rfl, rfl, hflow, hsituation, rfl, rfl, rfl, rfl, rfl, rfl, rfl, rfl, rfl, rfl, rfl,
      rfl, rfl, rfl, hasShortInts_textList _, hasShortInts_textList _⟩

theorem logged_eq_ok {request : DecisionRequest} {response r : DecisionResponse} :
    logged request response = .ok r ↔ r = response ∧ request.Loggable := by
  rw [← @decisionLog_short_iff request response]
  unfold logged dumpsAscii
  cases h : (decisionLog request response).sortKeys.hasShortInts with
  | true => simp [eq_comm, pure, Except.pure]
  | false => simp

theorem logged_eq_error {request : DecisionRequest} {response : DecisionResponse}
    (h : ¬ request.Loggable) : logged request response = .error .valueError := by
  have hlog : (decisionLog request response).sortKeys.hasShortInts = false := by
    rw [← @decisionLog_short_iff request response] at h
    exact eq_false_of_ne_true h
  simp [logged, dumpsAscii, hlog]

section

variable {request : DecisionRequest} {py : Interpreter} {sha : Sha256} {keys : KeyManager}
  {caller : Caller} {now : Clock} {uuid : Text} {plugin : Plugin} {verified : VerifiedContext}
  {response : DecisionResponse}

/-- An evaluation that returned, with the rules that triggered and the gate's verdict. -/
structure Evaluated (request : DecisionRequest) (py : Interpreter) (sha : Sha256)
    (keys : KeyManager) (caller : Caller) (now : Clock) (uuid : Text) (plugin : Plugin)
    (verified : VerifiedContext) (triggered : List PolicyRule) (gated : Bool)
    (response : DecisionResponse) : Prop where
  rules : evaluateRules py (ruleData request verified) plugin.rules = .ok triggered
  gate : isGatedWrite plugin.uncertaintyGate request = .ok gated
  eq : response = respond plugin request caller sha keys now uuid verified triggered gated
  log : request.Loggable

theorem evaluate_eq_ok :
    evaluate request py sha keys caller now uuid plugin verified = .ok response ↔
      ∃ triggered gated, Evaluated request py sha keys caller now uuid plugin verified triggered
        gated response := by
  constructor
  · intro h
    obtain ⟨triggered, ht, h⟩ := bind_eq_ok h
    obtain ⟨gated, hg, h⟩ := bind_eq_ok h
    obtain ⟨hr, hlog⟩ := logged_eq_ok.mp h
    exact ⟨triggered, gated, ht, hg, hr, hlog⟩
  · rintro ⟨triggered, gated, ht, hg, hr, hlog⟩
    rw [evaluate, ht, ok_bind, hg, ok_bind]
    exact logged_eq_ok.mpr ⟨hr, hlog⟩

/-- Everything `decide` does when it returns. -/
theorem decide_eq_ok {loaded : Except Text Plugin} {context : Except PyError VerifiedContext} :
    decide request py sha keys caller now uuid loaded context = .ok response ↔
      (∃ message, loaded = .error message ∧ response = failSafe request message ∧
          request.Loggable) ∨
        ∃ plugin verified triggered gated, loaded = .ok plugin ∧ context = .ok verified ∧
          Evaluated request py sha keys caller now uuid plugin verified triggered gated
            response := by
  cases loaded with
  | error message =>
    simp only [decide, logged_eq_ok, Except.error.injEq, reduceCtorEq, false_and,
      exists_false, or_false, exists_eq_left']
  | ok plugin =>
    cases context with
    | error e => simp [decide]
    | ok verified =>
      simp only [decide, ok_bind, evaluate_eq_ok, reduceCtorEq, false_and, exists_false,
        Except.ok.injEq, false_or]
      constructor
      · rintro ⟨triggered, gated, h⟩; exact ⟨plugin, verified, triggered, gated, rfl, rfl, h⟩
      · rintro ⟨_, _, triggered, gated, rfl, rfl, h⟩; exact ⟨triggered, gated, h⟩

/-! ## 2. The stages -/

variable {triggered : List PolicyRule} {gated : Bool} {v : Verdict}

/-- Missing context raises a decision to `CONFIRM`. -/
theorem requireContext_decision :
    (requireContext plugin request verified v).decision =
      if missingContext plugin request verified = [] then v.decision
      else max v.decision .confirm := by
  unfold requireContext
  by_cases hm : missingContext plugin request verified = []
  · simp [hm]
  · simp only [hm, ↓reduceIte]
    by_cases hd : v.decision < .confirm
    · rw [if_pos hd, max_eq_right hd.le]
    · rw [if_neg hd, max_eq_left (not_lt.mp hd)]

theorem requireCaller_decision :
    (requireCaller caller v).decision =
      if v.decision = .allow ∧ caller.authenticated = false then .confirm else v.decision := by
  unfold requireCaller
  split <;> rfl

/-- A failure to sign raises `ALLOW` to `CONFIRM`. -/
theorem signPassport_decision :
    (signPassport plugin request caller sha keys now uuid triggered v).1.decision =
      if v.decision = .allow ∧ request.shadowMode = false ∧
          (signDecision sha keys now uuid
            (passportGrant plugin request caller triggered)).isOk = false then .confirm
      else v.decision := by
  unfold signPassport
  by_cases h : v.decision = .allow ∧ request.shadowMode = false
  · rw [if_pos h]
    cases hs : signDecision sha keys now uuid (passportGrant plugin request caller triggered) with
    | ok passport => simp [Except.isOk, Except.toBool]
    | error e => simp [h, Except.isOk, Except.toBool]
  · rw [if_neg h, if_neg (fun hc => h ⟨hc.1, hc.2.1⟩)]

/-- No stage lowers the decision. -/
theorem finalDecision_le_unsigned :
    finalDecision plugin request caller triggered gated ≤
      (unsignedVerdict plugin request caller verified triggered gated).decision := by
  have hcontext : finalDecision plugin request caller triggered gated ≤
      (requireContext plugin request verified
        (firstVerdict plugin request caller triggered gated)).decision := by
    rw [requireContext_decision]
    split
    · exact le_refl _
    · exact le_max_left _ _
  rw [unsignedVerdict, requireCaller_decision]
  split
  · rename_i h
    rw [h.1] at hcontext
    exact hcontext.trans (Decision.allow_le _)
  · exact hcontext

theorem unsigned_le_decision :
    (unsignedVerdict plugin request caller verified triggered gated).decision ≤
      (respond plugin request caller sha keys now uuid verified triggered gated).decision := by
  rw [respond, signPassport_decision]
  split
  · rename_i h
    rw [h.1]
    exact Decision.allow_le _
  · exact le_refl _

/-- The first decision is a lower bound of the one that is answered. -/
theorem finalDecision_le_decision :
    finalDecision plugin request caller triggered gated ≤
      (respond plugin request caller sha keys now uuid verified triggered gated).decision :=
  finalDecision_le_unsigned.trans unsigned_le_decision

theorem Evaluated.finalDecision_le (h : Evaluated request py sha keys caller now uuid plugin
    verified triggered gated response) :
    finalDecision plugin request caller triggered gated ≤ response.decision := by
  rw [h.eq]
  exact finalDecision_le_decision

/-- The stages before signing depend on the first decision and on whether context is missing. -/
theorem unsigned_decision :
    (unsignedVerdict plugin request caller verified triggered gated).decision =
      let d := if missingContext plugin request verified = [] then
          finalDecision plugin request caller triggered gated
        else max (finalDecision plugin request caller triggered gated) .confirm
      if d = .allow ∧ caller.authenticated = false then .confirm else d := by
  rw [unsignedVerdict, requireCaller_decision, requireContext_decision]
  rfl

/-! ## 3. The first decision -/

/-- The decisions that `_final_decision` takes the strictest of. -/
def votes (plugin : Plugin) (request : DecisionRequest) (caller : Caller)
    (triggered : List PolicyRule) (gated : Bool) : List Decision :=
  triggered.map PolicyRule.decision ++ (permissionDecision plugin request caller).toList ++
    if requiresUncertaintyConfirmation plugin.uncertaintyGate request gated then [.confirm] else []

/-- The decision when nothing voted. -/
def unvoted (plugin : Plugin) (request : DecisionRequest) : Decision :=
  if (plugin.action request.actionType).isNone then .confirm
  else if plugin.thresholds.allowMinConfidence.val ≤ request.llm.confidence.val then .allow
  else if plugin.thresholds.suggestMinConfidence.val ≤ request.llm.confidence.val then .suggest
  else .confirm

theorem finalDecision_of_votes_nil (h : votes plugin request caller triggered gated = []) :
    finalDecision plugin request caller triggered gated = unvoted plugin request := by
  unfold finalDecision
  rw [votes] at h
  simp only [h]
  rfl

theorem finalDecision_le_iff (h : votes plugin request caller triggered gated ≠ [])
    {e : Decision} : finalDecision plugin request caller triggered gated ≤ e ↔
      ∀ d ∈ votes plugin request caller triggered gated, d ≤ e := by
  unfold finalDecision
  change (match votes plugin request caller triggered gated with
    | d :: ds => Decision.strictest d ds
    | [] => _) ≤ e ↔ _
  cases hv : votes plugin request caller triggered gated with
  | nil => exact absurd hv h
  | cons d ds => simp only [Decision.strictest_le_iff, List.forall_mem_cons]

theorem unvoted_le_confirm : unvoted plugin request ≤ .confirm := by
  unfold unvoted
  split
  · decide
  split
  · decide
  split <;> decide

/-- A vote is never exceeded by the decision. -/
theorem le_finalDecision {d : Decision}
    (h : d ∈ votes plugin request caller triggered gated) :
    d ≤ finalDecision plugin request caller triggered gated :=
  (finalDecision_le_iff (List.ne_nil_of_mem h)).mp (le_refl _) d h

theorem mem_votes {d : Decision} : d ∈ votes plugin request caller triggered gated ↔
    (∃ rule ∈ triggered, rule.decision = d) ∨ permissionDecision plugin request caller = some d ∨
      requiresUncertaintyConfirmation plugin.uncertaintyGate request gated = true ∧
        d = .confirm := by
  simp only [votes, List.mem_append, List.mem_map, Option.mem_toList, or_assoc]
  refine or_congr Iff.rfl (or_congr Iff.rfl ?_)
  split <;> rename_i h <;> simp [h]

/-- Nothing is missing exactly when there is no vote on permissions. -/
theorem permissionDecision_eq_none_iff :
    permissionDecision plugin request caller = none ↔
      ∀ policy ∈ plugin.action request.actionType, ∀ p ∈ policy.requiredPermissions,
        ∃ agent ∈ request.agent, p ∈ agent.permissions ∧ caller.mayGrant p = true := by
  have hgranted : ∀ p, p ∈ granted request caller ↔
      ∃ agent ∈ request.agent, p ∈ agent.permissions ∧ caller.mayGrant p = true := by
    intro p
    unfold granted
    cases request.agent with
    | none => simp
    | some agent => simp [Caller.mem_effectivePermissions]
  unfold permissionDecision
  cases plugin.action request.actionType with
  | none => simp
  | some policy =>
    simp only [Option.mem_some_iff, forall_eq', ← hgranted]
    split
    · rename_i h
      simpa [List.filter_eq_nil_iff] using h
    · rename_i h
      simpa [List.filter_eq_nil_iff] using h

theorem permissionDecision_eq_some {d : Decision}
    (h : permissionDecision plugin request caller = some d) : d = .block := by
  unfold permissionDecision at h
  split at h
  · cases h
  split at h
  · cases h
  · cases h; rfl

/-! ## 4. `ALLOW` -/

theorem finalDecision_eq_allow_iff :
    finalDecision plugin request caller triggered gated = .allow ↔
      (∀ rule ∈ triggered, rule.decision ≤ .allow) ∧
        permissionDecision plugin request caller = none ∧
        requiresUncertaintyConfirmation plugin.uncertaintyGate request gated = false ∧
        ((∃ rule ∈ triggered, rule.decision = .allow) ∨
          (plugin.action request.actionType).isSome = true ∧
            plugin.thresholds.allowMinConfidence.val ≤ request.llm.confidence.val) := by
  by_cases hv : votes plugin request caller triggered gated = []
  · -- nothing voted: the thresholds decide
    have hrules : triggered = [] := by
      by_contra h
      obtain ⟨rule, hrule⟩ := List.exists_mem_of_ne_nil _ h
      exact List.ne_nil_of_mem (mem_votes.mpr (.inl ⟨rule, hrule, rfl⟩)) hv
    have hperm : permissionDecision plugin request caller = none := by
      cases h : permissionDecision plugin request caller with
      | none => rfl
      | some d => exact absurd hv (List.ne_nil_of_mem (mem_votes.mpr (.inr (.inl h))))
    have hgate : requiresUncertaintyConfirmation plugin.uncertaintyGate request gated = false := by
      by_contra h
      exact List.ne_nil_of_mem (mem_votes.mpr (.inr (.inr ⟨by simpa using h, rfl⟩))) hv
    rw [finalDecision_of_votes_nil hv]
    simp only [hrules, hperm, hgate, List.not_mem_nil, false_and, exists_false, false_or,
      true_and, false_implies, implies_true]
    unfold unvoted
    cases plugin.action request.actionType with
    | none => simp
    | some policy =>
      simp only [Option.isNone_some, Bool.false_eq_true, ↓reduceIte, Option.isSome_some, true_and]
      split
      · simp_all
      · rename_i h
        simp only [h, iff_false]
        split <;> decide
  · -- the strictest vote decides
    rw [← Decision.le_allow_iff, finalDecision_le_iff hv]
    constructor
    · intro hall
      have hrules : ∀ rule ∈ triggered, rule.decision ≤ .allow :=
        fun rule hrule => hall _ (mem_votes.mpr (.inl ⟨rule, hrule, rfl⟩))
      have hperm : permissionDecision plugin request caller = none := by
        cases h : permissionDecision plugin request caller with
        | none => rfl
        | some d =>
          have := hall d (mem_votes.mpr (.inr (.inl h)))
          rw [permissionDecision_eq_some h] at this
          exact absurd this (by decide)
      have hgate :
          requiresUncertaintyConfirmation plugin.uncertaintyGate request gated = false := by
        by_contra h
        have := hall .confirm (mem_votes.mpr (.inr (.inr ⟨by simpa using h, rfl⟩)))
        exact absurd this (by decide)
      refine ⟨hrules, hperm, hgate, .inl ?_⟩
      obtain ⟨d, hd⟩ := List.exists_mem_of_ne_nil _ hv
      rcases mem_votes.mp hd with ⟨rule, hrule, -⟩ | h | ⟨h, -⟩
      · exact ⟨rule, hrule, Decision.le_allow_iff.mp (hrules rule hrule)⟩
      · rw [hperm] at h; cases h
      · rw [hgate] at h; cases h
    · rintro ⟨hrules, hperm, hgate, -⟩ d hd
      rcases mem_votes.mp hd with ⟨rule, hrule, rfl⟩ | h | ⟨h, -⟩
      · exact hrules rule hrule
      · rw [hperm] at h; cases h
      · rw [hgate] at h; cases h

/-- What `ALLOW` has passed before it is signed. -/
theorem unsigned_eq_allow_iff :
    (unsignedVerdict plugin request caller verified triggered gated).decision = .allow ↔
      finalDecision plugin request caller triggered gated = .allow ∧
        missingContext plugin request verified = [] ∧ caller.authenticated = true := by
  have hfirst : (firstVerdict plugin request caller triggered gated).decision =
      finalDecision plugin request caller triggered gated := rfl
  rw [unsignedVerdict, requireCaller_decision, requireContext_decision, hfirst]
  by_cases hm : missingContext plugin request verified = []
  · simp only [hm, ↓reduceIte, true_and]
    cases caller.authenticated with
    | true => simp
    | false =>
      simp only [and_true, Bool.false_eq_true, and_false, iff_false]
      split
      · decide
      · assumption
  · have hmax : max (finalDecision plugin request caller triggered gated) .confirm ≠ .allow := by
      intro h
      exact absurd (h ▸ le_max_right _ _ : Decision.confirm ≤ .allow) (by decide)
    simp [hm, hmax]

theorem missingContext_eq_nil_iff :
    missingContext plugin request verified = [] ↔
      ∀ policy ∈ plugin.action request.actionType, ∀ p ∈ policy.requiredContext,
        p ∈ verified.providers := by
  unfold missingContext
  cases plugin.action request.actionType with
  | none => simp
  | some policy => simp [List.filter_eq_nil_iff]

/-- A Passport is there exactly for an `ALLOW` that is not a shadow evaluation. -/
theorem respond_passport_isSome :
    (respond plugin request caller sha keys now uuid verified triggered gated).passport.isSome
        = true ↔
      (respond plugin request caller sha keys now uuid verified triggered gated).decision = .allow ∧
        request.shadowMode = false := by
  generalize hv : unsignedVerdict plugin request caller verified triggered gated = v
  simp only [respond, hv, signPassport]
  by_cases h : v.decision = .allow ∧ request.shadowMode = false
  · rw [if_pos h]
    cases signDecision sha keys now uuid (passportGrant plugin request caller triggered) with
    | ok passport => simp [h]
    | error e => simp
  · rw [if_neg h]
    simpa using h

theorem approvalChallenge_isSome
    (h : (approvalChallenge plugin request caller sha keys now uuid triggered v).isSome = true) :
    (v.decision = .confirm ∨ v.decision = .suggest) ∧ caller.authenticated = true ∧
      request.shadowMode = false := by
  unfold approvalChallenge at h
  split at h
  · rename_i hc; exact ⟨hc.1, hc.2.1, hc.2.2.1⟩
  · cases h

/-- `ALLOW` has authority, and only what may be acted on is signed.  An `ALLOW` takes an
authenticated caller, the permissions and the context of the action, no stricter rule, and a rule
or a confident model that speaks for it.  A Passport goes with an `ALLOW` outside shadow mode and
with nothing else, a ticket with a `CONFIRM` or a `SUGGEST` alone. -/
theorem decide_authority {loaded : Except Text Plugin}
    {context : Except PyError VerifiedContext}
    (h : decide request py sha keys caller now uuid loaded context = .ok response) :
    (response.decision = .allow →
      ∃ plugin verified triggered gated, loaded = .ok plugin ∧ context = .ok verified ∧
        evaluateRules py (ruleData request verified) plugin.rules = .ok triggered ∧
        isGatedWrite plugin.uncertaintyGate request = .ok gated ∧ caller.authenticated = true ∧
        (∀ rule ∈ triggered, rule.decision ≤ .allow) ∧
        (∀ policy ∈ plugin.action request.actionType,
          (∀ p ∈ policy.requiredPermissions,
            ∃ agent ∈ request.agent, p ∈ agent.permissions ∧ caller.mayGrant p = true) ∧
          ∀ p ∈ policy.requiredContext, p ∈ verified.providers) ∧
        requiresUncertaintyConfirmation plugin.uncertaintyGate request gated = false ∧
        ((∃ rule ∈ triggered, rule.decision = .allow) ∨
          (plugin.action request.actionType).isSome = true ∧
            plugin.thresholds.allowMinConfidence.val ≤ request.llm.confidence.val)) ∧
      (response.passport.isSome = true ↔ response.decision = .allow ∧ request.shadowMode = false) ∧
      (response.approval.isSome = true →
        (response.decision = .confirm ∨ response.decision = .suggest) ∧
          caller.authenticated = true ∧ request.shadowMode = false) ∧
      ¬ (response.passport.isSome = true ∧ response.approval.isSome = true) := by
  rcases decide_eq_ok.mp h with
    ⟨message, -, rfl, -⟩ | ⟨plugin, verified, triggered, gated, hl, hc, he⟩
  · simp [failSafe]
  have happroval : response.approval.isSome = true →
      (response.decision = .confirm ∨ response.decision = .suggest) ∧
        caller.authenticated = true ∧ request.shadowMode = false := by
    rw [he.eq]
    exact approvalChallenge_isSome
  have hpassport : response.passport.isSome = true ↔
      response.decision = .allow ∧ request.shadowMode = false := by
    rw [he.eq]
    exact respond_passport_isSome
  refine ⟨fun hallow => ?_, hpassport, happroval, ?_⟩
  -- signing can only take an `ALLOW` back, so what is signed was allowed before
  · have hunsigned : (unsignedVerdict plugin request caller verified triggered gated).decision =
        .allow := by
      rw [he.eq] at hallow
      exact Decision.le_allow_iff.mp (unsigned_le_decision.trans_eq hallow)
    obtain ⟨hfinal, hmissing, hauth⟩ := unsigned_eq_allow_iff.mp hunsigned
    obtain ⟨hrules, hperm, hgate, hreason⟩ := finalDecision_eq_allow_iff.mp hfinal
    exact ⟨plugin, verified, triggered, gated, hl, hc, he.rules, he.gate, hauth, hrules,
      fun policy hp => ⟨permissionDecision_eq_none_iff.mp hperm policy hp,
        missingContext_eq_nil_iff.mp hmissing policy hp⟩, hgate, hreason⟩
  · rintro ⟨hp, ha⟩
    have hd := (hpassport.mp hp).1
    rcases (happroval ha).1 with h | h <;> rw [hd] at h <;> cases h

/-! ## 5. `CONFIRM` or `BLOCK` -/

theorem confirm_le_finalDecision_iff :
    .confirm ≤ finalDecision plugin request caller triggered gated ↔
      (∃ d ∈ votes plugin request caller triggered gated, .confirm ≤ d) ∨
        votes plugin request caller triggered gated = [] ∧ unvoted plugin request = .confirm := by
  by_cases hv : votes plugin request caller triggered gated = []
  · rw [finalDecision_of_votes_nil hv, hv]
    simp only [List.not_mem_nil, false_and, exists_false, true_and, false_or]
    exact ⟨fun h => le_antisymm unvoted_le_confirm h, fun h => h ▸ le_refl _⟩
  · rw [← Decision.not_le_suggest_iff, finalDecision_le_iff hv]
    simp [hv, Decision.not_le_suggest_iff.symm]

/-- The grant behind the Passport of a decision. -/
theorem decide_passport {loaded : Except Text Plugin} {context : Except PyError VerifiedContext}
    {token : Token}
    (h : decide request py sha keys caller now uuid loaded context = .ok response)
    (hp : response.passport = some token) :
    ∃ plugin triggered jti, response.decision = .allow ∧ caller.authenticated = true ∧
      request.shadowMode = false ∧
      response.actionablePayload = actionablePayload request triggered ∧
      signDecision sha keys now uuid (passportGrant plugin request caller triggered) =
        .ok (token, jti) := by
  obtain ⟨message, -, hr, -⟩ | ⟨plugin, verified, triggered, gated, hl, -, he⟩ :=
    decide_eq_ok.mp h
  · rw [hr] at hp
    cases hp
  obtain ⟨hallow, hshadow⟩ : response.decision = .allow ∧ request.shadowMode = false := by
    rw [he.eq] at hp ⊢
    exact respond_passport_isSome.mp (Option.isSome_iff_exists.mpr ⟨token, hp⟩)
  have hauth : caller.authenticated = true := by
    rw [he.eq] at hallow
    exact (unsigned_eq_allow_iff.mp
      (Decision.le_allow_iff.mp (unsigned_le_decision.trans_eq hallow))).2.2
  have hpayload : response.actionablePayload = actionablePayload request triggered := by
    rw [he.eq]; rfl
  rw [he.eq] at hp
  simp only [respond, signPassport] at hp
  split at hp
  · split at hp
    · rename_i passport hsign
      cases hp
      exact ⟨plugin, triggered, passport.2, hallow, hauth, hshadow, hpayload, hsign⟩
    · cases hp
  · cases hp

/-- When is a decision strict in the end? -/
theorem confirm_le_decision_iff :
    .confirm ≤
        (respond plugin request caller sha keys now uuid verified triggered gated).decision ↔
      .confirm ≤ finalDecision plugin request caller triggered gated ∨
        missingContext plugin request verified ≠ [] ∨
        finalDecision plugin request caller triggered gated = .allow ∧
          (caller.authenticated = false ∨ request.shadowMode = false ∧
            (signDecision sha keys now uuid
              (passportGrant plugin request caller triggered)).isOk = false) := by
  have hfirst : (firstVerdict plugin request caller triggered gated).decision =
      finalDecision plugin request caller triggered gated := rfl
  rw [respond, signPassport_decision, unsignedVerdict, requireCaller_decision,
    requireContext_decision, hfirst]
  generalize finalDecision plugin request caller triggered gated = d
  by_cases hm : missingContext plugin request verified = []
  · simp only [hm, ↓reduceIte, ne_eq, not_true_eq_false, false_or]
    cases d <;> cases caller.authenticated <;> simp [Decision.confirm_le_iff]
    split <;> simp_all
  · have hmax : Decision.confirm ≤ max d .confirm := le_max_right _ _
    have hne : max d .confirm ≠ .allow := by
      intro h
      rw [h] at hmax
      exact absurd hmax (by decide)
    simp [hm, hne, hmax]

/-- A Passport cannot be signed for what has no canonical hash, nor without a private key. -/
theorem passport_isOk :
    (signDecision sha keys now uuid (passportGrant plugin request caller triggered)).isOk =
      ((hashPayload sha (actionablePayload request triggered)).isOk && keys.privateKey.isSome) :=
  signDecision_isOk rfl

/-- An action that the policy does not declare is confirmed or blocked exactly when no rule
triggers, or a triggered rule or the gate asks for it, or an `ALLOW` of the rules is not given
for want of authentication or of a signature.  The engine asks what the rules say before it asks
whether the action is declared, so an undeclared action that rules allow is allowed. -/
theorem undeclared_confirmed_iff
    (h : decide request py sha keys caller now uuid (.ok plugin) (.ok verified) = .ok response)
    (hundeclared : plugin.action request.actionType = none)
    (hrules : evaluateRules py (ruleData request verified) plugin.rules = .ok triggered)
    (hgate : isGatedWrite plugin.uncertaintyGate request = .ok gated) :
    (response.decision = .confirm ∨ response.decision = .block) ∧ response.passport = none ↔
      triggered = [] ∨ (∃ rule ∈ triggered, .confirm ≤ rule.decision) ∨
        requiresUncertaintyConfirmation plugin.uncertaintyGate request gated = true ∨
        (∀ rule ∈ triggered, rule.decision = .allow) ∧
          (caller.authenticated = false ∨ request.shadowMode = false ∧
            ((hashPayload sha (actionablePayload request triggered)).isOk &&
              keys.privateKey.isSome) = false) := by
  obtain ⟨message, hl, -⟩ | ⟨p, v, t, g, hl, hc, he⟩ := decide_eq_ok.mp h
  · cases hl
  cases hl
  cases hc
  cases hrules.symm.trans he.rules
  cases hgate.symm.trans he.gate
  have hpassport : response.passport = none ↔
      ¬ (response.decision = .allow ∧ request.shadowMode = false) := by
    rw [← not_iff_not, not_not, ← ne_eq, Option.ne_none_iff_isSome, he.eq]
    exact respond_passport_isSome
  have hperm : permissionDecision plugin request caller = none := by
    rw [permissionDecision, hundeclared]
  have hunvoted : unvoted plugin request = .confirm := by rw [unvoted, hundeclared]; rfl
  have hmissing : missingContext plugin request verified = [] := by
    rw [missingContext, hundeclared]
  -- without a declared action only the rules and the gate vote, and no vote at all is `CONFIRM`
  have hvotes : votes plugin request caller triggered gated = [] ↔
      triggered = [] ∧
        requiresUncertaintyConfirmation plugin.uncertaintyGate request gated = false := by
    simp only [votes, hperm, Option.toList_none, List.append_nil, List.append_eq_nil_iff,
      List.map_eq_nil_iff]
    refine and_congr Iff.rfl ?_
    split <;> simp_all
  have hleft : (response.decision = .confirm ∨ response.decision = .block) ∧
      response.passport = none ↔ .confirm ≤ response.decision := by
    rw [hpassport, Decision.confirm_le_iff]
    constructor
    · exact fun hd => hd.1
    · intro hd
      refine ⟨hd, fun ha => ?_⟩
      rcases hd with hd | hd <;> rw [ha.1] at hd <;> cases hd
  rw [hleft, he.eq, confirm_le_decision_iff, confirm_le_finalDecision_iff, hvotes, hunvoted,
    passport_isOk, finalDecision_eq_allow_iff, hundeclared]
  simp only [mem_votes, hperm, hmissing, reduceCtorEq, false_or, ne_eq, not_true_eq_false,
    and_true, Option.isSome_none, Bool.false_eq_true, false_and, or_false, true_and]
  constructor
  · rintro ((⟨d, ⟨rule, hrule, rfl⟩ | ⟨hr, rfl⟩, hd⟩ | ⟨rfl, -⟩) | ⟨⟨hall, -, -⟩, hwant⟩)
    · exact .inr (.inl ⟨rule, hrule, hd⟩)
    · exact .inr (.inr (.inl hr))
    · exact .inl rfl
    · exact .inr (.inr (.inr
        ⟨fun rule hrule => Decision.le_allow_iff.mp (hall rule hrule), hwant⟩))
  · intro hcond
    by_cases hr : requiresUncertaintyConfirmation plugin.uncertaintyGate request gated = true
    · exact .inl (.inl ⟨.confirm, .inr ⟨hr, rfl⟩, le_refl _⟩)
    rcases hcond with rfl | ⟨rule, hrule, hd⟩ | hr' | ⟨hall, hwant⟩
    · exact .inl (.inr ⟨rfl, by simpa using hr⟩)
    · exact .inl (.inl ⟨_, .inl ⟨rule, hrule, rfl⟩, hd⟩)
    · exact absurd hr' hr
    · by_cases ht : triggered = []
      · exact .inl (.inr ⟨ht, by simpa using hr⟩)
      · obtain ⟨rule, hrule⟩ := List.exists_mem_of_ne_nil _ ht
        exact .inr ⟨⟨fun r hr => Decision.le_allow_iff.mpr (hall r hr), by simpa using hr,
          rule, hrule, hall rule hrule⟩, hwant⟩

end

/-! ## 6. A payment -/

/-- An interpreter for data without text to convert. -/
def plainInterpreter : Interpreter := ⟨id, fun _ => none, fun _ => []⟩

/-- A rule with a decision for every request. -/
def always (decision : Decision) : PolicyRule where
  id := .lit "always"
  condition := ⟨some [⟨.lit "action_type", .exists, .null, rfl⟩], none, .inl (by simp)⟩
  decision := decision
  reason := .lit "Every request."
  confidencePenalty := ⟨0, Score.zero_nonneg, Score.zero_le⟩
  riskDelta := ⟨0, Score.zero_nonneg, Score.zero_le⟩
  actionablePayload := .empty
  auditFlags := []
  approverRole := none

theorem evaluateRules_always (py : Interpreter) (request : DecisionRequest) (decision : Decision)
    (verified : VerifiedContext) :
    evaluateRules py (ruleData request verified) [always decision] = .ok [always decision] :=
  rfl

/-- A policy that declares the action `pay`. -/
def payPolicy : Plugin :=
  { Plugin.default (.lit "p") (.lit "1") with
    actions := [(lit "pay", .default)]
    nodup := by decide }

/-- A request to pay, with a confident proposal. -/
def payRequest : DecisionRequest where
  schemaVersion := .lit "axg.decision_request.v1"
  executionId := .lit "e1"
  tenantId := .lit "tenant"
  appId := .lit "app"
  pluginId := .lit "p"
  userId := none
  agent := none
  source := .lit "web"
  actionType := .lit "pay"
  payload := .empty
  context := .empty
  signedContext := []
  signedContext_length := by decide
  llm := ⟨none, ⟨9 / 10, by norm_num, by norm_num⟩, .empty⟩
  intent := .empty
  shadowMode := false
  metadata := .empty

/-- The payment is allowed. -/
def payResponse : DecisionResponse :=
  respond payPolicy payRequest .trustedLocal plainSha pairedKeys 0 (.lit "j1") .none [] false

theorem decide_pay :
    decide payRequest plainInterpreter plainSha pairedKeys .trustedLocal 0 (.lit "j1")
      (.ok payPolicy) (.ok .none) = .ok payResponse :=
  decide_eq_ok.mpr (.inr ⟨_, _, [], false, rfl, rfl, rfl, rfl, rfl,
    .of_empty rfl⟩)

theorem decide_authority_pay :
    payResponse.passport.isSome = true ↔
      payResponse.decision = .allow ∧ payRequest.shadowMode = false :=
  (decide_authority decide_pay).2.1

/-- A policy that declares no action and has a rule that allows. -/
def allowPolicy : Plugin := { Plugin.default (.lit "p") (.lit "1") with rules := [always .allow] }

theorem decide_undeclared :
    decide payRequest plainInterpreter plainSha pairedKeys .trustedLocal 0 (.lit "j1")
      (.ok allowPolicy) (.ok .none) = .ok (respond allowPolicy payRequest .trustedLocal plainSha
        pairedKeys 0 (.lit "j1") .none [always .allow] false) :=
  decide_eq_ok.mpr (.inr ⟨_, _, [always .allow], false, rfl, rfl, rfl, rfl, rfl,
    .of_empty rfl⟩)

/-- The action is not declared, and the decision is `ALLOW` with a Passport. -/
theorem undeclared_allowed :
    allowPolicy.action payRequest.actionType = none ∧
      ∃ response, decide payRequest plainInterpreter plainSha pairedKeys .trustedLocal 0 (.lit "j1")
          (.ok allowPolicy) (.ok .none) = .ok response ∧
        response.decision = .allow ∧ response.passport.isSome = true :=
  ⟨rfl, _, decide_undeclared, by decide +kernel, by decide +kernel⟩

theorem undeclared_confirmed_iff_pay :
    ((respond allowPolicy payRequest .trustedLocal plainSha pairedKeys 0 (.lit "j1") .none
          [always .allow] false).decision = .confirm ∨
        (respond allowPolicy payRequest .trustedLocal plainSha pairedKeys 0 (.lit "j1") .none
          [always .allow] false).decision = .block) ∧
      (respond allowPolicy payRequest .trustedLocal plainSha pairedKeys 0 (.lit "j1") .none
        [always .allow] false).passport = none ↔
    [always .allow] = [] ∨ (∃ rule ∈ [always .allow], .confirm ≤ rule.decision) ∨
      requiresUncertaintyConfirmation allowPolicy.uncertaintyGate payRequest false = true ∨
      (∀ rule ∈ [always .allow], rule.decision = .allow) ∧
        (Caller.trustedLocal.authenticated = false ∨ payRequest.shadowMode = false ∧
          ((hashPayload plainSha (actionablePayload payRequest [always .allow])).isOk &&
            pairedKeys.privateKey.isSome) = false) :=
  undeclared_confirmed_iff decide_undeclared rfl rfl rfl

end Axg
