/-
# Shadow mode

A shadow evaluation signs nothing, so it cannot meet the failures of signing, and the fail-safe
response does not say that it is one.  Everything else it predicts (`shadow_predicts_iff`).
-/
import Axg.Decisions

namespace Axg

open Python

/-! ## 1. Rules that do not read `shadow_mode` -/

/-- The request as a shadow evaluation. -/
def DecisionRequest.shadow (request : DecisionRequest) : DecisionRequest :=
  { request with shadowMode := true }

/-- No condition of a rule names the field. -/
def Plugin.IgnoresShadow (plugin : Plugin) : Prop :=
  ∀ rule ∈ plugin.rules, ∀ c ∈ rule.conditions,
    (c.field.str.splitOn 0x2E).head? ≠ some (lit "shadow_mode")

theorem lookup_dump_shadow (request : DecisionRequest) (rest : Dict Json) {k : Str}
    (h : k ≠ lit "shadow_mode") :
    (request.shadow.dump ++ rest).lookup k = (request.dump ++ rest).lookup k := by
  simp only [DecisionRequest.dump, DecisionRequest.shadow, strClaim, List.cons_append,
    List.nil_append, Dict.lookup_cons_ite, if_neg h]

theorem fieldValue_shadow (request : DecisionRequest) (verified : VerifiedContext) {path : Str}
    (h : (path.splitOn 0x2E).head? ≠ some (lit "shadow_mode")) :
    fieldValue (ruleData request.shadow verified) path =
      fieldValue (ruleData request verified) path := by
  refine fieldValue_congr (fun part hpart => lookup_dump_shadow request _ ?_)
  rintro rfl
  exact h hpart

theorem Plugin.IgnoresShadow.evaluateRules {plugin : Plugin} (h : plugin.IgnoresShadow)
    (py : Interpreter) (request : DecisionRequest) (verified : VerifiedContext) :
    evaluateRules py (ruleData request.shadow verified) plugin.rules =
      evaluateRules py (ruleData request verified) plugin.rules :=
  evaluateRules_congr (fun rule hr c hc => fieldValue_shadow request verified (h rule hr c hc))

/-! ## 2. Two evaluations -/

section

variable {request : DecisionRequest} {py : Interpreter} {sha : Sha256} {keys : KeyManager}
  {caller : Caller} {now now' : Clock} {uuid uuid' : Text} {plugin : Plugin}
  {verified : VerifiedContext} {triggered : List PolicyRule} {gated : Bool}

/-- Everything that `ALLOW` needs but a signature.  Where it holds, the enforced evaluation still
has to hash the payload, and the shadow evaluation does not. -/
structure EarnsAllow (plugin : Plugin) (request : DecisionRequest) (caller : Caller)
    (verified : VerifiedContext) (triggered : List PolicyRule) (gated : Bool) : Prop where
  rules : ∀ rule ∈ triggered, rule.decision ≤ .allow
  permissions : ∀ policy ∈ plugin.action request.actionType, ∀ p ∈ policy.requiredPermissions,
    ∃ agent ∈ request.agent, p ∈ agent.permissions ∧ caller.mayGrant p = true
  context : ∀ policy ∈ plugin.action request.actionType, ∀ p ∈ policy.requiredContext,
    p ∈ verified.providers
  certain : requiresUncertaintyConfirmation plugin.uncertaintyGate request gated = false
  confident : (∃ rule ∈ triggered, rule.decision = .allow) ∨
    (plugin.action request.actionType).isSome = true ∧
      plugin.thresholds.allowMinConfidence.val ≤ request.llm.confidence.val
  authenticated : caller.authenticated = true

theorem earnsAllow_iff :
    EarnsAllow plugin request caller verified triggered gated ↔
      (unsignedVerdict plugin request caller verified triggered gated).decision = .allow := by
  rw [unsigned_eq_allow_iff, finalDecision_eq_allow_iff, permissionDecision_eq_none_iff,
    missingContext_eq_nil_iff]
  constructor
  · rintro ⟨h1, h2, h3, h4, h5, h6⟩
    exact ⟨⟨h1, h2, h4, h5⟩, h3, h6⟩
  · rintro ⟨⟨h1, h2, h4, h5⟩, h3, h6⟩
    exact ⟨h1, h2, h3, h4, h5, h6⟩

/-- What a shadow response must agree on with the response that is enforced, and what makes it a
shadow response: the mode, its flag, no Passport and no ticket. -/
structure Predicts (response enforced : DecisionResponse) : Prop where
  decision : response.decision = enforced.decision
  scores : response.scores = enforced.scores
  rulesTriggered : response.rulesTriggered = enforced.rulesTriggered
  reason : response.reason = enforced.reason
  actionablePayload : response.actionablePayload = enforced.actionablePayload
  shadowMode : response.shadowMode = true
  flag : .lit "shadow_mode_active" ∈ response.auditFlags
  passport : response.passport = none
  approval : response.approval = none

/-- A shadow response is the verdict before signing. -/
theorem respond_shadow (plugin : Plugin) (request : DecisionRequest) (caller : Caller)
    (sha : Sha256) (keys : KeyManager) (now : Clock) (uuid : Text) (verified : VerifiedContext)
    (triggered : List PolicyRule) (gated : Bool) :
    let v := unsignedVerdict plugin request.shadow caller verified triggered gated
    let response := respond plugin request.shadow caller sha keys now uuid verified triggered gated
    response.decision = v.decision ∧ response.reason = v.reason ∧
      response.auditFlags = v.auditFlags ∧ response.passport = none ∧ response.approval = none := by
  have hsign : ∀ v, signPassport plugin request.shadow caller sha keys now uuid triggered v =
      (v, none) := fun v => if_neg (fun h => Bool.noConfusion h.2)
  have hticket : ∀ v, approvalChallenge plugin request.shadow caller sha keys now uuid triggered v =
      none := fun v => if_neg (fun h => Bool.noConfusion h.2.2.1)
  simp only [respond, hsign, hticket, Option.map_none, and_self]

/-- The flag is set, and no stage takes a flag away. -/
theorem shadow_flag : .lit "shadow_mode_active" ∈
    (unsignedVerdict plugin request.shadow caller verified triggered gated).auditFlags := by
  have hfirst : .lit "shadow_mode_active" ∈
      (firstVerdict plugin request.shadow caller triggered gated).auditFlags := by
    rw [firstVerdict, auditFlags, List.mem_eraseDups]
    exact List.mem_append_right _ (List.mem_singleton.mpr rfl)
  have hcontext : .lit "shadow_mode_active" ∈ (requireContext plugin request.shadow verified
      (firstVerdict plugin request.shadow caller triggered gated)).auditFlags := by
    unfold requireContext
    by_cases hm : missingContext plugin request.shadow verified = []
    · simp [hm, hfirst]
    by_cases hd : (firstVerdict plugin request.shadow caller triggered gated).decision < .confirm
    · simp [hm, hd, hfirst]
    · simp [hm, hd, hfirst]
  unfold unsignedVerdict requireCaller
  split
  · exact List.mem_append_left _ hcontext
  · exact hcontext

/-- The verdict before signing reads the mode for the flags only. -/
theorem unsigned_shadow (plugin : Plugin) (request : DecisionRequest) (caller : Caller)
    (verified : VerifiedContext) (triggered : List PolicyRule) (gated : Bool) :
    (unsignedVerdict plugin request.shadow caller verified triggered gated).decision =
        (unsignedVerdict plugin request caller verified triggered gated).decision ∧
      (unsignedVerdict plugin request.shadow caller verified triggered gated).reason =
        (unsignedVerdict plugin request caller verified triggered gated).reason := by
  have hcontext : (requireContext plugin request.shadow verified
        (firstVerdict plugin request.shadow caller triggered gated)).decision =
      (requireContext plugin request verified
        (firstVerdict plugin request caller triggered gated)).decision ∧
      (requireContext plugin request.shadow verified
        (firstVerdict plugin request.shadow caller triggered gated)).reason =
      (requireContext plugin request verified
        (firstVerdict plugin request caller triggered gated)).reason := by
    have hmissing : missingContext plugin request.shadow verified =
        missingContext plugin request verified := rfl
    have hdecision : (firstVerdict plugin request.shadow caller triggered gated).decision =
        (firstVerdict plugin request caller triggered gated).decision := rfl
    have hreason : (firstVerdict plugin request.shadow caller triggered gated).reason =
        (firstVerdict plugin request caller triggered gated).reason := rfl
    unfold requireContext
    by_cases hm : missingContext plugin request verified = []
    · simp only [hmissing, hm, ↓reduceIte, hdecision, hreason, and_self]
    by_cases hd : (firstVerdict plugin request caller triggered gated).decision < .confirm
    · simp only [hmissing, hm, hdecision, hd, ↓reduceIte, and_self]
    · simp only [hmissing, hm, hdecision, hreason, hd, ↓reduceIte, and_self]
  unfold unsignedVerdict requireCaller
  rw [hcontext.1]
  split
  · exact ⟨rfl, rfl⟩
  · exact hcontext

/-- The shadow predicts an enforced evaluation unless that earns `ALLOW` and cannot sign. -/
theorem respond_predicts_iff (hmode : request.shadowMode = false) :
    Predicts (respond plugin request.shadow caller sha keys now uuid verified triggered gated)
        (respond plugin request caller sha keys now' uuid' verified triggered gated) ↔
      (EarnsAllow plugin request caller verified triggered gated →
        (signDecision sha keys now' uuid'
          (passportGrant plugin request caller triggered)).isOk = true) := by
  obtain ⟨hd, hr, hf, hp, ha⟩ :=
    respond_shadow plugin request caller sha keys now uuid verified triggered gated
  obtain ⟨hdecision, hreason⟩ := unsigned_shadow plugin request caller verified triggered gated
  rw [earnsAllow_iff]
  constructor
  -- the shadow does not sign: where the enforced one cannot, the two decisions part
  · intro hpredicts hallow
    by_contra hfails
    have henforced := hpredicts.decision
    rw [hd, hdecision, hallow, respond, signPassport_decision,
      if_pos ⟨hallow, hmode, by simpa using hfails⟩] at henforced
    cases henforced
  · intro hsigns
    have henforced : (respond plugin request caller sha keys now' uuid' verified triggered
          gated).decision =
          (unsignedVerdict plugin request caller verified triggered gated).decision ∧
        (respond plugin request caller sha keys now' uuid' verified triggered gated).reason =
          (unsignedVerdict plugin request caller verified triggered gated).reason := by
      simp only [respond, signPassport]
      split
      · rename_i h
        obtain ⟨passport, hs⟩ := exists_ok_of_isOk (hsigns h.1)
        rw [hs]
        exact ⟨rfl, rfl⟩
      · exact ⟨rfl, rfl⟩
    exact ⟨hd.trans (hdecision.trans henforced.1.symm), rfl, rfl,
      hr.trans (hreason.trans henforced.2.symm), rfl, rfl, hf ▸ shadow_flag, hp, ha⟩

/-! ## 3. Whole decisions -/

/-- For a policy that does not read the mode, and a key that signs: the shadow evaluation returns
where the enforced one does, and predicts it exactly when the policy loaded and no evaluation
earns `ALLOW` for a payload without a canonical hash.  Shadow mode leaves the signing out, which
is the one step that can turn an `ALLOW` of the enforced evaluation alone into a `CONFIRM`. -/
theorem shadow_predicts_iff {loaded : Except Text Plugin}
    {context : Except PyError VerifiedContext} {enforced : DecisionResponse}
    (hmode : request.shadowMode = false) (hkey : keys.privateKey.isSome = true)
    (hignores : ∀ plugin ∈ loaded.toOption, plugin.IgnoresShadow)
    (h : decide request py sha keys caller now' uuid' loaded context = .ok enforced) :
    ∃ response, decide request.shadow py sha keys caller now uuid loaded context = .ok response ∧
      (Predicts response enforced ↔
        ∃ plugin verified triggered gated, loaded = .ok plugin ∧ context = .ok verified ∧
          evaluateRules py (ruleData request verified) plugin.rules = .ok triggered ∧
          isGatedWrite plugin.uncertaintyGate request = .ok gated ∧
          (EarnsAllow plugin request caller verified triggered gated →
            (hashPayload sha (actionablePayload request triggered)).isOk = true)) := by
  obtain ⟨message, rfl, rfl, hlog⟩ | ⟨plugin, verified, triggered, gated, rfl, rfl, he⟩ :=
    decide_eq_ok.mp h
  · refine ⟨failSafe request.shadow message, decide_eq_ok.mpr (.inl ⟨message, rfl, rfl, hlog⟩), ?_⟩
    refine iff_of_false (fun hp => Bool.noConfusion hp.shadowMode) ?_
    rintro ⟨plugin, verified, triggered, gated, hl, -⟩
    cases hl
  · have hrules :
        evaluateRules py (ruleData request.shadow verified) plugin.rules = .ok triggered :=
      ((hignores plugin rfl).evaluateRules py request verified).trans he.rules
    refine ⟨_, decide_eq_ok.mpr (.inr ⟨plugin, verified, triggered, gated, rfl, rfl, hrules,
      he.gate, rfl, he.log⟩), ?_⟩
    rw [he.eq, respond_predicts_iff hmode, passport_isOk, hkey, Bool.and_true]
    constructor
    · intro hsigns
      exact ⟨plugin, verified, triggered, gated, rfl, rfl, he.rules, he.gate, hsigns⟩
    · rintro ⟨_, _, t, g, ⟨⟩, ⟨⟩, ht, hg, hsigns⟩
      cases ht.symm.trans he.rules
      cases hg.symm.trans he.gate
      exact hsigns

end

/-- A payload that no double can hold: `{"amount": 2^1024}`. -/
def hugeRequest : DecisionRequest :=
  { payRequest with payload := ⟨[(lit "amount", .int (2 ^ 1024))], rfl⟩ }

theorem decide_huge (request : DecisionRequest) (h : request = hugeRequest ∨
    request = hugeRequest.shadow) :
    decide request plainInterpreter plainSha pairedKeys .trustedLocal 0 (.lit "j1")
      (.ok payPolicy) (.ok .none) = .ok (respond payPolicy request .trustedLocal plainSha pairedKeys
        0 (.lit "j1") .none [] false) := by
  rcases h with rfl | rfl
  · exact decide_eq_ok.mpr (.inr ⟨_, _, [], false, rfl, rfl, rfl, rfl, rfl, .of_empty rfl⟩)
  · exact decide_eq_ok.mpr (.inr ⟨_, _, [], false, rfl, rfl, rfl, rfl, rfl, .of_empty rfl⟩)

/-- The shadow says `ALLOW`, and enforcement confirms. -/
theorem shadow_differs :
    payPolicy.IgnoresShadow ∧
      ∃ response enforced,
        decide hugeRequest.shadow plainInterpreter plainSha pairedKeys .trustedLocal 0 (.lit "j1")
          (.ok payPolicy) (.ok .none) = .ok response ∧
        decide hugeRequest plainInterpreter plainSha pairedKeys .trustedLocal 0 (.lit "j1")
          (.ok payPolicy) (.ok .none) = .ok enforced ∧
        response.decision = .allow ∧ enforced.decision = .confirm := by
  refine ⟨fun rule hrule => absurd hrule List.not_mem_nil, _, _, decide_huge _ (.inr rfl),
    decide_huge _ (.inl rfl), ?_, ?_⟩
  · decide +kernel
  · decide +kernel

/-- The shadow of the payment. -/
theorem shadow_predicts_iff_pay :
    ∃ response, decide payRequest.shadow plainInterpreter plainSha pairedKeys .trustedLocal 0
        (.lit "j1") (.ok payPolicy) (.ok .none) = .ok response ∧
      (Predicts response payResponse ↔
        ∃ plugin verified triggered gated, (.ok payPolicy : Except Text Plugin) = .ok plugin ∧
          (.ok .none : Except PyError VerifiedContext) = .ok verified ∧
          evaluateRules plainInterpreter (ruleData payRequest verified) plugin.rules =
            .ok triggered ∧
          isGatedWrite plugin.uncertaintyGate payRequest = .ok gated ∧
          (EarnsAllow plugin payRequest .trustedLocal verified triggered gated →
            (hashPayload plainSha (actionablePayload payRequest triggered)).isOk = true)) := by
  refine shadow_predicts_iff rfl rfl ?_ decide_pay
  rintro plugin ⟨⟩ rule hrule
  exact absurd hrule List.not_mem_nil

end Axg
