/-
# Stricter policies, stricter decisions

A policy is hardened by a rule that confirms or blocks, by permissions, or by required context.
Each adds votes or missing providers and takes none away, so no stage gives a milder decision
(`Hardens.unsigned_le`).  The order of the rules matters to none of it: the triggered rules are a
filter of the policy's, and the decision and the scores read them as a set and as sums.
-/
import Axg.Decisions

namespace Axg

open Python

/-! ## 1. Hardening -/

/-- `policy` with other requirements. -/
def Plugin.require (plugin : Plugin) (actionType : Text) (policy : ActionPolicy)
    (permissions context : List Text) : Plugin :=
  { plugin with
    actions := plugin.actions.set actionType.str
      { policy with requiredPermissions := permissions, requiredContext := context }
    nodup := Dict.nodup_set _ _ plugin.nodup }

/-- One step of hardening a policy for an action: a rule that confirms or blocks, at any place, or
more permissions or providers that the action requires. -/
inductive Hardens (actionType : Text) : Plugin → Plugin → Prop
  | rule (plugin : Plugin) (before after : List PolicyRule) (rule : PolicyRule)
      (h : plugin.rules = before ++ after) (hd : .confirm ≤ rule.decision) :
    Hardens actionType plugin { plugin with rules := before ++ rule :: after }
  | permissions (plugin : Plugin) (policy : ActionPolicy) (more : List Text)
      (h : plugin.action actionType = some policy)
      (hmore : ∀ p ∈ policy.requiredPermissions, p ∈ more) :
    Hardens actionType plugin (plugin.require actionType policy more policy.requiredContext)
  | context (plugin : Plugin) (policy : ActionPolicy) (more : List Text)
      (h : plugin.action actionType = some policy)
      (hmore : ∀ p ∈ policy.requiredContext, p ∈ more) :
    Hardens actionType plugin (plugin.require actionType policy policy.requiredPermissions more)

theorem Plugin.action_require (plugin : Plugin) (actionType : Text) (policy : ActionPolicy)
    (permissions context : List Text) :
    (plugin.require actionType policy permissions context).action actionType =
      some { policy with requiredPermissions := permissions, requiredContext := context } := by
  rw [action, require, Dict.lookup_set, if_pos rfl]

section

variable {request : DecisionRequest} {py : Interpreter} {caller : Caller} {plugin plugin' : Plugin}
  {verified : VerifiedContext} {triggered triggered' : List PolicyRule} {gated gated' : Bool}

/-! ## 2. Stages that only rise -/

/-- The first decision reads the votes as a set. -/
theorem finalDecision_eq_of_votes
    (hvotes : ∀ d, d ∈ votes plugin' request caller triggered' gated' ↔
      d ∈ votes plugin request caller triggered gated)
    (hunvoted : unvoted plugin' request = unvoted plugin request) :
    finalDecision plugin' request caller triggered' gated' =
      finalDecision plugin request caller triggered gated := by
  by_cases hv : votes plugin request caller triggered gated = []
  · have hv' : votes plugin' request caller triggered' gated' = [] :=
      List.eq_nil_iff_forall_not_mem.mpr (fun d hd => by
        rw [hvotes, hv] at hd
        exact List.not_mem_nil hd)
    rw [finalDecision_of_votes_nil hv, finalDecision_of_votes_nil hv', hunvoted]
  · obtain ⟨d, hd⟩ := List.exists_mem_of_ne_nil _ hv
    have hv' := List.ne_nil_of_mem ((hvotes d).mpr hd)
    exact le_antisymm
      ((finalDecision_le_iff hv').mpr (fun e he => le_finalDecision ((hvotes e).mp he)))
      ((finalDecision_le_iff hv).mpr (fun e he => le_finalDecision ((hvotes e).mpr he)))

/-- A stricter first decision and more missing context give a stricter decision.  From `ALLOW` to
`SUGGEST` would not do: without authentication only `ALLOW` becomes `CONFIRM`. -/
theorem unsigned_le_of_final
    (hfinal : finalDecision plugin' request caller triggered' gated' =
        finalDecision plugin request caller triggered gated ∨
      .confirm ≤ finalDecision plugin' request caller triggered' gated' ∧
        finalDecision plugin request caller triggered gated ≤
          finalDecision plugin' request caller triggered' gated')
    (hmissing : missingContext plugin' request verified = [] →
      missingContext plugin request verified = []) :
    (unsignedVerdict plugin request caller verified triggered gated).decision ≤
      (unsignedVerdict plugin' request caller verified triggered' gated').decision := by
  have hraise : ∀ {d e : Decision}, e = d ∨ .confirm ≤ e ∧ d ≤ e →
      (if d = .allow ∧ caller.authenticated = false then .confirm else d) ≤
        if e = .allow ∧ caller.authenticated = false then Decision.confirm else e := by
    intro d e hde
    cases caller.authenticated <;> revert hde <;> cases d <;> cases e <;> decide
  rw [unsigned_decision, unsigned_decision]
  refine hraise ?_
  by_cases hm' : missingContext plugin' request verified = []
  · rw [if_pos (hmissing hm'), if_pos hm']
    exact hfinal
  · rw [if_neg hm']
    have hle : finalDecision plugin request caller triggered gated ≤
        finalDecision plugin' request caller triggered' gated' :=
      hfinal.elim (fun h => h ▸ le_refl _) (fun h => h.2)
    refine .inr ⟨le_max_right _ _, ?_⟩
    split
    · exact hle.trans (le_max_left _ _)
    · exact max_le_max_right _ hle

/-- More votes, each new one at least `CONFIRM`, leave the first decision or make it strict. -/
theorem finalDecision_of_more_votes
    (hvotes : ∀ d ∈ votes plugin request caller triggered gated,
      d ∈ votes plugin' request caller triggered' gated')
    (hnew : ∀ d ∈ votes plugin' request caller triggered' gated',
      d ∈ votes plugin request caller triggered gated ∨ .confirm ≤ d)
    (hunvoted : unvoted plugin' request = unvoted plugin request) :
    finalDecision plugin' request caller triggered' gated' =
        finalDecision plugin request caller triggered gated ∨
      .confirm ≤ finalDecision plugin' request caller triggered' gated' ∧
        finalDecision plugin request caller triggered gated ≤
          finalDecision plugin' request caller triggered' gated' := by
  by_cases hstrict : ∃ d ∈ votes plugin' request caller triggered' gated', .confirm ≤ d
  · obtain ⟨d, hd, hconfirm⟩ := hstrict
    have hle := le_finalDecision hd
    refine .inr ⟨hconfirm.trans hle, ?_⟩
    by_cases hv : votes plugin request caller triggered gated = []
    · rw [finalDecision_of_votes_nil hv]
      exact (unvoted_le_confirm.trans hconfirm).trans hle
    · exact (finalDecision_le_iff hv).mpr (fun d hd => le_finalDecision (hvotes d hd))
  · have hsame : ∀ d ∈ votes plugin' request caller triggered' gated',
        d ∈ votes plugin request caller triggered gated :=
      fun d hd => (hnew d hd).resolve_right (fun h => hstrict ⟨d, hd, h⟩)
    exact .inl (finalDecision_eq_of_votes (fun d => ⟨hsame d, hvotes d⟩) hunvoted)

/-- The rules that trigger in a policy with one more rule. -/
theorem triggered_of_insert {data : Json} {before after : List PolicyRule} {rule : PolicyRule}
    (h : evaluateRules py data (before ++ after) = .ok triggered)
    (h' : evaluateRules py data (before ++ rule :: after) = .ok triggered') :
    (∀ r ∈ triggered, r ∈ triggered') ∧ ∀ r ∈ triggered', r ∈ triggered ∨ r = rule := by
  rw [evaluateRules_eq_filter h, evaluateRules_eq_filter h']
  constructor
  · intro r hr
    rw [List.mem_filter] at hr ⊢
    refine ⟨?_, hr.2⟩
    rcases List.mem_append.mp hr.1 with hm | hm <;> simp [hm]
  · intro r hr
    obtain ⟨hm, hmatch⟩ := List.mem_filter.mp hr
    rcases List.mem_append.mp hm with hm | hm
    · exact .inl (List.mem_filter.mpr ⟨List.mem_append_left _ hm, hmatch⟩)
    · rcases List.mem_cons.mp hm with rfl | hm
      · exact .inr rfl
      · exact .inl (List.mem_filter.mpr ⟨List.mem_append_right _ hm, hmatch⟩)

/-- Hardening never gives a milder decision. -/
theorem Hardens.unsigned_le (h : Hardens request.actionType plugin plugin')
    (ht : evaluateRules py (ruleData request verified) plugin.rules = .ok triggered)
    (ht' : evaluateRules py (ruleData request verified) plugin'.rules = .ok triggered')
    (hg : isGatedWrite plugin.uncertaintyGate request = .ok gated)
    (hg' : isGatedWrite plugin'.uncertaintyGate request = .ok gated') :
    (unsignedVerdict plugin request caller verified triggered gated).decision ≤
      (unsignedVerdict plugin' request caller verified triggered' gated').decision := by
  cases h with
  | rule before after rule hrules hd =>
    cases hg.symm.trans hg'
    rw [hrules] at ht
    obtain ⟨hkept, hadded⟩ := triggered_of_insert ht ht'
    refine unsigned_le_of_final (finalDecision_of_more_votes ?_ ?_ rfl) id
    · intro d hvote
      rcases mem_votes.mp hvote with ⟨r, hr, hrd⟩ | hvote | hvote
      · exact mem_votes.mpr (.inl ⟨r, hkept r hr, hrd⟩)
      · exact mem_votes.mpr (.inr (.inl hvote))
      · exact mem_votes.mpr (.inr (.inr hvote))
    · intro d hvote
      rcases mem_votes.mp hvote with ⟨r, hr, rfl⟩ | hvote | hvote
      · rcases hadded r hr with hr | rfl
        · exact .inl (mem_votes.mpr (.inl ⟨r, hr, rfl⟩))
        · exact .inr hd
      · exact .inl (mem_votes.mpr (.inr (.inl hvote)))
      · exact .inl (mem_votes.mpr (.inr (.inr hvote)))
  | permissions policy more hpolicy hmore =>
    cases hg.symm.trans hg'
    cases ht.symm.trans ht'
    have haction := plugin.action_require request.actionType policy more policy.requiredContext
    refine unsigned_le_of_final (finalDecision_of_more_votes ?_ ?_ ?_) ?_
    · intro d hvote
      rcases mem_votes.mp hvote with hvote | hvote | hvote
      · exact mem_votes.mpr (.inl hvote)
      · -- a permission that was missing still is
        have hblock := permissionDecision_eq_some hvote
        subst hblock
        refine mem_votes.mpr (.inr (.inl ?_))
        cases hp : permissionDecision
            (plugin.require request.actionType policy more policy.requiredContext) request
            caller with
        | some d => rw [permissionDecision_eq_some hp]
        | none =>
          rw [permissionDecision_eq_none_iff, haction] at hp
          have hnone : permissionDecision plugin request caller = none := by
            rw [permissionDecision_eq_none_iff, hpolicy]
            rintro _ ⟨⟩ p hpm
            exact hp _ rfl p (hmore p hpm)
          rw [hnone] at hvote
          cases hvote
      · exact mem_votes.mpr (.inr (.inr hvote))
    · intro d hvote
      rcases mem_votes.mp hvote with hvote | hvote | hvote
      · exact .inl (mem_votes.mpr (.inl hvote))
      · rw [permissionDecision_eq_some hvote]
        exact .inr (by decide)
      · exact .inl (mem_votes.mpr (.inr (.inr hvote)))
    · rw [unvoted, unvoted, hpolicy, haction]
      rfl
    · rw [missingContext, missingContext, hpolicy, haction]
      exact id
  | context policy more hpolicy hmore =>
    cases hg.symm.trans hg'
    cases ht.symm.trans ht'
    have haction := plugin.action_require request.actionType policy policy.requiredPermissions more
    have hperm : permissionDecision
        (plugin.require request.actionType policy policy.requiredPermissions more) request caller =
          permissionDecision plugin request caller := by
      rw [permissionDecision, permissionDecision, hpolicy, haction]
    have hvotes : votes (plugin.require request.actionType policy policy.requiredPermissions more)
        request caller triggered gated = votes plugin request caller triggered gated := by
      rw [votes, votes, hperm]
      rfl
    refine unsigned_le_of_final (finalDecision_of_more_votes ?_ ?_ ?_) ?_
    · exact fun d hvote => hvotes ▸ hvote
    · exact fun d hvote => .inl (hvotes ▸ hvote)
    · rw [unvoted, unvoted, hpolicy, haction]
      rfl
    · simp only [missingContext, hpolicy, haction, List.filter_eq_nil_iff]
      exact fun hall p hp => hall p (hmore p hp)

/-! ## 3. The order of the rules -/

/-- The same policy with its rules in another order. -/
def Plugin.Reorders (plugin plugin' : Plugin) : Prop :=
  ∃ rules : List PolicyRule, rules.Perm plugin.rules ∧ plugin' = { plugin with rules := rules }

theorem triggered_perm {data : Json} {rules rules' : List PolicyRule} (hperm : rules'.Perm rules)
    (h : evaluateRules py data rules = .ok triggered)
    (h' : evaluateRules py data rules' = .ok triggered') : triggered'.Perm triggered := by
  rw [evaluateRules_eq_filter h, evaluateRules_eq_filter h']
  exact hperm.filter _

/-- Sums over the triggered rules do not depend on their order. -/
theorem scores_perm (hperm : triggered'.Perm triggered) :
    scores plugin request triggered' gated = scores plugin request triggered gated := by
  have hpenalty := (hperm.map PolicyRule.penalty).sum_eq
  have hdelta := (hperm.map (fun rule => rule.riskDelta.val)).sum_eq
  simp only [scores, hpenalty, hdelta]

theorem unsigned_perm (hperm : triggered'.Perm triggered) :
    (unsignedVerdict plugin request caller verified triggered' gated).decision =
      (unsignedVerdict plugin request caller verified triggered gated).decision := by
  have hfinal : finalDecision plugin request caller triggered' gated =
      finalDecision plugin request caller triggered gated := by
    refine finalDecision_eq_of_votes (fun d => ?_) rfl
    rw [mem_votes, mem_votes]
    simp only [hperm.mem_iff]
  rw [unsigned_decision, unsigned_decision, hfinal]

/-! ## 4. Whole decisions -/

variable {sha : Sha256} {keys : KeyManager} {now now' : Clock} {uuid uuid' : Text}

/-- The Passport of an evaluation can be signed. -/
def Signs (request : DecisionRequest) (py : Interpreter) (sha : Sha256) (keys : KeyManager)
    (caller : Caller) (now : Clock) (uuid : Text) (plugin : Plugin)
    (context : Except PyError VerifiedContext) : Prop :=
  ∀ verified triggered, context = .ok verified →
    evaluateRules py (ruleData request verified) plugin.rules = .ok triggered →
      (signDecision sha keys now uuid (passportGrant plugin request caller triggered)).isOk = true

/-- With signing, the decision is the one before signing. -/
theorem decision_of_signs
    (h : (signDecision sha keys now uuid
      (passportGrant plugin request caller triggered)).isOk = true) :
    (respond plugin request caller sha keys now uuid verified triggered gated).decision =
      (unsignedVerdict plugin request caller verified triggered gated).decision := by
  rw [respond, signPassport_decision, if_neg]
  rintro ⟨-, -, hno⟩
  rw [h] at hno
  cases hno

/-- The decision is at least as strict as every triggered rule's; a hardened policy gives one at
least as strict; and a policy with its rules reordered gives the same decision, the same scores
and the same triggered rules.  All three rest on one fact: where rules trigger, the decision
starts as the strictest of theirs, and what the engine asks after that can only make it stricter. -/
theorem hardening {context : Except PyError VerifiedContext} {response : DecisionResponse}
    (h : decide request py sha keys caller now uuid (.ok plugin) context = .ok response) :
    (∀ rule ∈ response.rulesTriggered, rule.decision ≤ response.decision) ∧
      ∀ (plugin' : Plugin) (now' : Clock) (uuid' : Text) (response' : DecisionResponse),
        decide request py sha keys caller now' uuid' (.ok plugin') context = .ok response' →
        Signs request py sha keys caller now uuid plugin context →
        Signs request py sha keys caller now' uuid' plugin' context →
          (Hardens request.actionType plugin plugin' → response.decision ≤ response'.decision) ∧
          (plugin.Reorders plugin' → response'.decision = response.decision ∧
            response'.scores = response.scores ∧
            response'.rulesTriggered.Perm response.rulesTriggered) := by
  obtain ⟨message, hl, -⟩ | ⟨p, verified, triggered, gated, hl, hc, he⟩ := decide_eq_ok.mp h
  · cases hl
  cases hl
  constructor
  · intro rule hrule
    rw [he.eq] at hrule
    obtain ⟨r, hr, rfl⟩ := List.mem_map.mp hrule
    exact (le_finalDecision (mem_votes.mpr (.inl ⟨r, hr, rfl⟩))).trans he.finalDecision_le
  · intro plugin' now' uuid' response' h' hsigns hsigns'
    obtain ⟨message, hl', -⟩ | ⟨p', verified', triggered', gated', hl', hc', he'⟩ :=
      decide_eq_ok.mp h'
    · cases hl'
    cases hl'
    cases hc.symm.trans hc'
    -- both evaluations sign, so the decisions can be compared before the signature
    have hdecision : response.decision = (unsignedVerdict plugin request caller verified triggered
        gated).decision := by
      rw [he.eq]
      exact decision_of_signs (hsigns verified triggered hc he.rules)
    have hdecision' : response'.decision = (unsignedVerdict plugin' request caller verified
        triggered' gated').decision := by
      rw [he'.eq]
      exact decision_of_signs (hsigns' verified triggered' hc he'.rules)
    rw [hdecision, hdecision']
    constructor
    · exact fun hhard => hhard.unsigned_le he.rules he'.rules he.gate he'.gate
    · rintro ⟨rules, hperm, rfl⟩
      have ht := triggered_perm hperm he.rules he'.rules
      cases he.gate.symm.trans he'.gate
      refine ⟨unsigned_perm ht, ?_, ?_⟩
      · rw [he.eq, he'.eq]
        exact scores_perm ht
      · rw [he.eq, he'.eq]
        exact ht.map _

end

/-- The policy with a rule that confirms. -/
def confirmPolicy : Plugin := { payPolicy with rules := [always .confirm] }

theorem signs_pay (plugin : Plugin) (now : Clock) (uuid : Text)
    (h : ∀ triggered, evaluateRules plainInterpreter (ruleData payRequest .none) plugin.rules =
      .ok triggered → actionablePayload payRequest triggered = actionablePayload payRequest []) :
    Signs payRequest plainInterpreter plainSha pairedKeys .trustedLocal now uuid plugin
      (.ok .none) := by
  rintro verified triggered ⟨⟩ ht
  rw [passport_isOk, h triggered ht]
  decide +kernel

/-- The payment is allowed, and with the rule it is confirmed. -/
theorem hardening_pay :
    payResponse.decision ≤ (respond confirmPolicy payRequest .trustedLocal plainSha pairedKeys 0
      (.lit "j2") .none [always .confirm] false).decision := by
  refine ((hardening decide_pay).2 confirmPolicy 0 (.lit "j2") _ (decide_eq_ok.mpr (.inr ⟨_, _,
    [always .confirm], false, rfl, rfl, rfl, rfl, rfl, .of_empty rfl⟩)) (signs_pay _ _ _ ?_)
    (signs_pay _ _ _ ?_)).1 (.rule payPolicy [] [] (always .confirm) rfl (le_refl _))
  · rintro triggered ⟨⟩
    rfl
  · rintro triggered ⟨⟩
    rfl

end Axg
