/-
# Three more shipped policies (`plugins/*/rules.json`)

`budget_guard`, `finnorte` and `pocket_lawyer` decide about model calls, about transactions and
about a law firm's documents.  Their rules are lists of conditions that must all hold, so a policy
is determined by what its fields meet (`Meets`).

`block_iff` and `allow_iff` say of any policy when an evaluation ends in `BLOCK` or in `ALLOW`; for
each of the three it comes down to the fields that the policy reads (`budgetGuard_decides`,
`finnorte_decides`, `pocketLawyer_decides`).  A condition on a field that is missing does not hold,
whatever it compares with: a subscription whose history nobody sent is judged by the confidence of
the model alone.
-/
import Axg.CodingAgents
import Axg.Shadow

namespace Axg

open Python

/-! ## 1. Rules that fire -/

section Firing

variable {py : Interpreter} {request : DecisionRequest} {verified : VerifiedContext}

/-- The rule matches the request. -/
def Fires (py : Interpreter) (request : DecisionRequest) (verified : VerifiedContext)
    (rule : PolicyRule) : Prop :=
  evaluateGroup py rule.condition (ruleData request verified) = .ok true

/-- The field is there, and compares as the operator asks. -/
def Meets (py : Interpreter) (object : JsonObject) (name : String) (operator : RuleOperator)
    (value : Json) : Prop :=
  ∃ v, object.members.lookup (lit name) = some v ∧ evaluateOperator py operator v value = .ok true

theorem mem_triggered_iff {rules triggered : List PolicyRule}
    (h : evaluateRules py (ruleData request verified) rules = .ok triggered) {rule : PolicyRule} :
    rule ∈ triggered ↔ rule ∈ rules ∧ Fires py request verified rule := by
  rw [evaluateRules_eq_filter h, List.mem_filter]
  exact and_congr Iff.rfl decide_eq_true_iff

theorem allMatch_eq_true_iff {data : Json} {cs : List RuleCondition} :
    allMatch py data cs = .ok true ↔ ∀ c ∈ cs, evaluateCondition py c data = .ok true := by
  induction cs with
  | nil => simp [allMatch]
  | cons c cs ih =>
    rw [allMatch, List.forall_mem_cons, ← ih]
    cases evaluateCondition py c data with
    | error e => simp
    | ok b => cases b <;> simp [pure, Except.pure]

/-- A rule without an `any` list fires where all of its conditions hold. -/
theorem fires_iff {rule : PolicyRule} {cs : List RuleCondition}
    (hall : rule.condition.all = some cs) (hany : rule.condition.any = none) :
    Fires py request verified rule ↔
      ∀ c ∈ cs, evaluateCondition py c (ruleData request verified) = .ok true := by
  rw [Fires, evaluateGroup, hall, hany, ← allMatch_eq_true_iff, Option.getD_some, Option.getD_none,
    allMatches]
  have hnone : anyMatches py (ruleData request verified) [] = .ok true := if_pos rfl
  split
  · rename_i hnil
    rw [hnil, hnone]
    simp [allMatch, pure, Except.pure]
  · rw [hnone]
    cases allMatch py (ruleData request verified) cs with
    | error e => simp
    | ok b => cases b <;> simp [pure, Except.pure]

theorem fieldValue_payload {path : Str} {name : String}
    (h : path.splitOn 0x2E = [lit "payload", lit name]) :
    fieldValue (ruleData request verified) path = request.payload.members.lookup (lit name) := by
  rw [fieldValue, h]
  exact bind_pure (m := Option) _

theorem fieldValue_context {path : Str} {name : String}
    (h : path.splitOn 0x2E = [lit "context", lit name]) :
    fieldValue (ruleData request verified) path = request.context.members.lookup (lit name) := by
  rw [fieldValue, h]
  exact bind_pure (m := Option) _

end Firing

/-- A gate without actions gates nothing. -/
theorem not_gated_of_nil {gate : UncertaintyGate} {request : DecisionRequest} {gated : Bool}
    (hnil : gate.actions = []) (h : isGatedWrite gate request = .ok gated) : gated = false := by
  have hin : ∀ {x b}, inSet [] x = .ok b → b = false := by
    intro x b hb
    unfold inSet at hb
    split at hb <;> cases hb <;> rfl
  rw [isGatedWrite, hnil] at h
  obtain ⟨proposed, hp, h⟩ := bind_eq_ok h
  rw [hin hp] at h
  exact hin h

/-! ## 2. `BLOCK` and `ALLOW` -/

/-- The agent holds what the action requires. -/
def Permitted (plugin : Plugin) (request : DecisionRequest) (caller : Caller) : Prop :=
  ∀ policy ∈ plugin.action request.actionType, ∀ p ∈ policy.requiredPermissions,
    ∃ agent ∈ request.agent, p ∈ agent.permissions ∧ caller.mayGrant p = true

/-- The action is declared, and the model is as confident as the policy asks. -/
def Confident (plugin : Plugin) (request : DecisionRequest) : Prop :=
  (plugin.action request.actionType).isSome = true ∧
    plugin.thresholds.allowMinConfidence.val ≤ request.llm.confidence.val

/-- Nothing has to be signed, or it can be. -/
def Signable (sha : Sha256) (keys : KeyManager) (request : DecisionRequest)
    (response : DecisionResponse) : Prop :=
  request.shadowMode = true ∨
    ((hashPayload sha response.actionablePayload).isOk && keys.privateKey.isSome) = true

section Decides

variable {request : DecisionRequest} {py : Interpreter} {sha : Sha256} {keys : KeyManager}
  {caller : Caller} {now : Clock} {uuid : Text} {plugin : Plugin} {verified : VerifiedContext}
  {triggered : List PolicyRule} {gated : Bool} {response : DecisionResponse}

/-- No stage after the first makes a `BLOCK`. -/
theorem respond_eq_block_iff :
    (respond plugin request caller sha keys now uuid verified triggered gated).decision = .block ↔
      finalDecision plugin request caller triggered gated = .block := by
  constructor
  · intro h
    rw [respond_decision, unsigned_decision] at h
    generalize finalDecision plugin request caller triggered gated = d at h
    by_contra hne
    have hle : max d .confirm = .confirm := by cases d <;> first | rfl | exact absurd rfl hne
    rw [hle] at h
    simp only at h
    split_ifs at h
    exact hne h
  · intro h
    refine le_antisymm (Decision.le_block _) ?_
    rw [← h]
    exact finalDecision_le_decision

theorem finalDecision_eq_block_iff :
    finalDecision plugin request caller triggered gated = .block ↔
      (∃ rule ∈ triggered, rule.decision = .block) ∨
        permissionDecision plugin request caller ≠ none := by
  have hvote : finalDecision plugin request caller triggered gated = .block ↔
      .block ∈ votes plugin request caller triggered gated := by
    constructor
    -- without a vote for `BLOCK` every vote, and no vote at all, stays at `CONFIRM` or under it
    · intro h
      by_contra hno
      have hle : finalDecision plugin request caller triggered gated ≤ .confirm := by
        by_cases hnil : votes plugin request caller triggered gated = []
        · rw [finalDecision_of_votes_nil hnil]
          exact unvoted_le_confirm
        · refine (finalDecision_le_iff hnil).mpr (fun d hd => ?_)
          cases d with
          | block => exact absurd hd hno
          | _ => decide
      rw [h] at hle
      exact absurd hle (by decide)
    · exact fun h => le_antisymm (Decision.le_block _) (le_finalDecision h)
  rw [hvote, mem_votes]
  refine or_congr Iff.rfl ?_
  constructor
  · rintro (h | ⟨-, h⟩)
    · rw [h]
      exact Option.some_ne_none _
    · cases h
  · intro h
    obtain ⟨d, hd⟩ := Option.ne_none_iff_exists'.mp h
    rw [permissionDecision_eq_some hd] at hd
    exact .inl hd

/-- A request is blocked by a rule, or for want of a permission. -/
theorem Evaluated.block_iff (h : Evaluated request py sha keys caller now uuid plugin verified
    triggered gated response) : response.decision = .block ↔
      (∃ rule ∈ plugin.rules, rule.decision = .block ∧ Fires py request verified rule) ∨
        ¬ Permitted plugin request caller := by
  rw [h.eq, respond_eq_block_iff, finalDecision_eq_block_iff, ne_eq, permissionDecision_eq_none_iff]
  refine or_congr ?_ Iff.rfl
  constructor
  · rintro ⟨rule, hrule, hblock⟩
    obtain ⟨hmem, hfires⟩ := (mem_triggered_iff h.rules).mp hrule
    exact ⟨rule, hmem, hblock, hfires⟩
  · rintro ⟨rule, hmem, hblock, hfires⟩
    exact ⟨rule, (mem_triggered_iff h.rules).mpr ⟨hmem, hfires⟩, hblock⟩

/-- A request is allowed if no rule asks for more, and a rule allows it or the model is confident;
for a caller that may, if it can be signed. -/
theorem Evaluated.allow_iff (h : Evaluated request py sha keys caller now uuid plugin verified
    triggered gated response) : response.decision = .allow ↔
      (∀ rule ∈ plugin.rules, Fires py request verified rule → rule.decision = .allow) ∧
        ((∃ rule ∈ plugin.rules, rule.decision = .allow ∧ Fires py request verified rule) ∨
          Confident plugin request) ∧
        Permitted plugin request caller ∧
        (∀ policy ∈ plugin.action request.actionType, ∀ p ∈ policy.requiredContext,
          p ∈ verified.providers) ∧
        requiresUncertaintyConfirmation plugin.uncertaintyGate request gated = false ∧
        caller.authenticated = true ∧ Signable sha keys request response := by
  have hpayload : response.actionablePayload = actionablePayload request triggered := by
    rw [h.eq]
    rfl
  have hsigned : response.decision = .allow ↔
      EarnsAllow plugin request caller verified triggered gated ∧
        Signable sha keys request response := by
    rw [Signable, hpayload, h.eq, respond_decision, earnsAllow_iff]
    simp only
    -- a signature that fails is the one way from an earned `ALLOW` to another decision
    split_ifs with hfails
    · obtain ⟨-, hshadow, hsign⟩ := hfails
      rw [hshadow, hsign]
      simp
    · constructor
      · intro hallow
        refine ⟨hallow, ?_⟩
        by_contra hno
        rw [not_or, Bool.not_eq_true, Bool.not_eq_true] at hno
        exact hfails ⟨hallow, hno⟩
      · exact And.left
  rw [hsigned]
  constructor
  · rintro ⟨⟨hrules, hpermitted, hcontext, hcertain, hconfident, hauth⟩, hsign⟩
    refine ⟨?_, ?_, hpermitted, hcontext, hcertain, hauth, hsign⟩
    · intro rule hmem hfires
      exact Decision.le_allow_iff.mp
        (hrules rule ((mem_triggered_iff h.rules).mpr ⟨hmem, hfires⟩))
    · refine hconfident.imp ?_ id
      rintro ⟨rule, hrule, hallow⟩
      obtain ⟨hmem, hfires⟩ := (mem_triggered_iff h.rules).mp hrule
      exact ⟨rule, hmem, hallow, hfires⟩
  · rintro ⟨hrules, hconfident, hpermitted, hcontext, hcertain, hauth, hsign⟩
    refine ⟨⟨?_, hpermitted, hcontext, hcertain, ?_, hauth⟩, hsign⟩
    · intro rule hrule
      obtain ⟨hmem, hfires⟩ := (mem_triggered_iff h.rules).mp hrule
      exact Decision.le_allow_iff.mpr (hrules rule hmem hfires)
    · refine hconfident.imp ?_ id
      rintro ⟨rule, hmem, hallow, hfires⟩
      exact ⟨rule, (mem_triggered_iff h.rules).mpr ⟨hmem, hfires⟩, hallow⟩

end Decides

/-! ## 3. Rules on fields -/

/-- A condition on a field. -/
def on (field : String) (operator : RuleOperator) (value : Json) (wf : value.Wf := by rfl) :
    RuleCondition where
  field := .lit field
  operator := operator
  value := value
  wf := wf

/-- The value of `exists`, which is not read. -/
theorem wf_null : Json.null.Wf := rfl

/-- A rule whose conditions must all hold. -/
def ruleOn (id : String) (c : RuleCondition) (cs : List RuleCondition) (decision : Decision)
    (reason : String) (confidencePenalty riskDelta : Score) (actionablePayload : JsonObject)
    (auditFlags : List String) : PolicyRule where
  id := .lit id
  condition := ⟨some (c :: cs), none, .inl (List.cons_ne_nil _ _)⟩
  decision := decision
  reason := .lit reason
  confidencePenalty := confidencePenalty
  riskDelta := riskDelta
  actionablePayload := actionablePayload
  auditFlags := auditFlags.map Text.lit
  approverRole := none

section On

variable {py : Interpreter} {request : DecisionRequest} {verified : VerifiedContext}

@[simp]
theorem ruleOn_decision {id : String} {c : RuleCondition} {cs : List RuleCondition} {d : Decision}
    {reason : String} {penalty delta : Score} {payload : JsonObject} {flags : List String} :
    (ruleOn id c cs d reason penalty delta payload flags).decision = d := rfl

theorem ruleOn_fires_iff {id : String} {c : RuleCondition} {cs : List RuleCondition} {d : Decision}
    {reason : String} {penalty delta : Score} {payload : JsonObject} {flags : List String} :
    Fires py request verified (ruleOn id c cs d reason penalty delta payload flags) ↔
      ∀ c' ∈ c :: cs, evaluateCondition py c' (ruleData request verified) = .ok true :=
  fires_iff rfl rfl

/-- A condition on a field of the payload. -/
theorem on_payload_iff (field name : String) {operator : RuleOperator} {value : Json}
    {wf : value.Wf} (h : (lit field).splitOn 0x2E = [lit "payload", lit name]) :
    evaluateCondition py (on field operator value wf) (ruleData request verified) = .ok true ↔
      Meets py request.payload name operator value := by
  have hfield : fieldValue (ruleData request verified) (on field operator value wf).field.str =
      request.payload.members.lookup (lit name) := fieldValue_payload h
  rw [evaluateCondition, hfield, Meets]
  cases request.payload.members.lookup (lit name) <;> simp [on]

theorem on_context_iff (field name : String) {operator : RuleOperator} {value : Json}
    {wf : value.Wf} (h : (lit field).splitOn 0x2E = [lit "context", lit name]) :
    evaluateCondition py (on field operator value wf) (ruleData request verified) = .ok true ↔
      Meets py request.context name operator value := by
  have hfield : fieldValue (ruleData request verified) (on field operator value wf).field.str =
      request.context.members.lookup (lit name) := fieldValue_context h
  rw [evaluateCondition, hfield, Meets]
  cases request.context.members.lookup (lit name) <;> simp [on]

theorem on_actionType_iff {name : String} :
    evaluateCondition py (on "action_type" .eq (.str (lit name))) (ruleData request verified) =
      .ok true ↔ request.actionType.str = lit name := by
  have heq : (Json.str request.actionType.str).pyEq (.str (lit name)) = true ↔
      request.actionType.str = lit name := by
    rw [Json.pyEq_str_iff, Json.str.injEq]
  rw [← heq]
  change Except.ok ((Json.str request.actionType.str).pyEq (.str (lit name))) = .ok true ↔ _
  exact ⟨fun h => Except.ok.inj h, fun h => congrArg Except.ok h⟩

/-- A condition on the confidence of the model, which compares doubles. -/
theorem on_modelConfidence_iff {score : Score} {wf : score.json.Wf} :
    evaluateCondition py (on "llm.confidence" .lt score.json wf) (ruleData request verified) =
      .ok true ↔
      F64.compare (fun x y => x < y) request.llm.confidence.toFloat score.toFloat = true := by
  change Except.ok (F64.compare (fun x y => x < y) request.llm.confidence.toFloat
    score.toFloat) = .ok true ↔ _
  exact ⟨fun h => Except.ok.inj h, fun h => congrArg Except.ok h⟩

end On

/-- A score in hundredths, bounded by its type. -/
def percent (n : Fin 101) : Score := hundredths n (Nat.le_of_lt_succ n.isLt)

/-- `2.0` -/
def twoDollars : Json := .float ((floatOfInt 2).getD .nan)

/-! ## 4. `plugins/budget_guard/rules.json` -/

namespace BudgetGuard

def thresholds : Thresholds where
  allowMinConfidence := percent 85
  suggestMinConfidence := percent 70
  highRiskThreshold := percent 80

def actions : Dict ActionPolicy :=
  [(lit "reserve_ai_credits", .ofBaseRisk (percent 10))]

def noCreditBalance : PolicyRule :=
  ruleOn "no_credit_balance" (on "context.current_balance" .lte (.int 0)) []
    .block "Sem saldo de créditos de IA para este tenant."
    (percent 0) (percent 60) .empty ["budget_no_balance"]

def singleCallCostCeiling : PolicyRule :=
  ruleOn "single_call_cost_ceiling" (on "payload.estimated_cost_usd" .gt twoDollars) []
    .block "Custo estimado de uma única chamada de IA acima do limite (2 USD)."
    (percent 0) (percent 60) .empty ["budget_single_call_ceiling"]

def policy : Plugin :=
  { Plugin.default (.lit "budget_guard") (.lit "0.1.0") with
    thresholds := thresholds
    actions := actions
    nodup := by decide
    rules := [noCreditBalance, singleCallCostCeiling] }

end BudgetGuard

/-! ## 5. `plugins/finnorte/rules.json` -/

namespace Finnorte

def thresholds : Thresholds where
  allowMinConfidence := percent 85
  suggestMinConfidence := percent 65
  highRiskThreshold := percent 70

/-- An action that needs permissions. -/
def requiring (permissions : List String) (baseRisk : Score) : ActionPolicy :=
  { ActionPolicy.ofBaseRisk baseRisk with requiredPermissions := permissions.map Text.lit }

def actions : Dict ActionPolicy :=
  [(lit "create_expense", requiring ["expense:create"] (percent 45)),
    (lit "add_expense", requiring ["expense:create"] (percent 45)),
    (lit "create_income", requiring ["income:create"] (percent 35)),
    (lit "add_income", requiring ["income:create"] (percent 35)),
    (lit "create_transaction", requiring ["transaction:create"] (percent 40)),
    (lit "categorize_transaction", requiring ["transaction:categorize"] (percent 25)),
    (lit "detect_subscription", requiring ["subscription:detect"] (percent 50))]

def highValueTransaction : PolicyRule :=
  ruleOn "high_value_transaction" (on "payload.amount" .gte (.int 1000)) []
    .confirm ("This transaction has a high financial value and requires user confirmation " ++
      "before saving.")
    (percent 15) (percent 20) .empty ["high_value_transaction", "requires_user_confirmation"]

def merchantAmountAnomaly : PolicyRule :=
  ruleOn "merchant_amount_anomaly"
    (on "payload.merchant" .contains (.str (lit "uber")))
    [on "payload.amount" .gte (.int 1000)]
    .confirm ("This Uber expense is significantly higher than the user's normal Uber and " ++
      "transport spending patterns. Please confirm before saving.")
    (percent 15) (percent 25) .empty ["merchant_amount_anomaly"]

def restaurantNotSubscription : PolicyRule :=
  ruleOn "restaurant_not_subscription"
    (on "payload.merchant_type" .eq (.str (lit "restaurant")))
    [on "payload.proposed_action" .eq (.str (lit "detect_subscription"))]
    .suggest ("The AI suggested this transaction as a subscription, but the merchant appears to " ++
      "be a restaurant.")
    (percent 25) (percent 20)
    ⟨[(lit "is_subscription", .bool false), strClaim "suggested_category" (lit "Food & Dining")],
      by rfl⟩
    ["merchant_type_incompatible_with_subscription", "llm_confidence_overridden"]

def subscriptionRequiresHistory : PolicyRule :=
  ruleOn "subscription_requires_history"
    (on "payload.proposed_action" .eq (.str (lit "detect_subscription")))
    [on "context.merchant_history_count" .lt (.int 3)]
    .confirm "Subscription detection requires at least three historical merchant occurrences."
    (percent 20) (percent 15)
    ⟨[(lit "is_subscription", .bool false)], by rfl⟩
    ["insufficient_subscription_history"]

def subscriptionRequiresRecurrencePattern : PolicyRule :=
  ruleOn "subscription_requires_recurrence_pattern"
    (on "payload.proposed_action" .eq (.str (lit "detect_subscription")))
    [on "context.recurrence_pattern" .neq (.bool true)]
    .confirm "There is no recurring payment pattern."
    (percent 20) (percent 15)
    ⟨[(lit "is_subscription", .bool false)], by rfl⟩
    ["missing_recurrence_pattern"]

def confirmedRecurringSubscription : PolicyRule :=
  ruleOn "confirmed_recurring_subscription"
    (on "payload.proposed_action" .eq (.str (lit "detect_subscription")))
    [on "context.merchant_history_count" .gte (.int 3),
      on "context.recurrence_pattern" .eq (.bool true),
      on "context.amount_variance_percent" .lte (.int 5),
      on "context.previous_user_confirmed_category" .exists .null wf_null]
    .allow "The transaction has recurring evidence, stable amount and previous user confirmation."
    (percent 0) (percent 0)
    ⟨[strClaim "suggested_category" (lit "Housing"), (lit "is_subscription", .bool true)], by rfl⟩
    ["confirmed_recurring_subscription"]

def lowConfidenceRequiresConfirmation : PolicyRule :=
  ruleOn "low_confidence_requires_confirmation" (on "llm.confidence" .lt (percent 65).json) []
    .confirm "The model confidence is too low for automatic execution."
    (percent 25) (percent 20) .empty ["low_confidence"]

def uncertaintyGate : UncertaintyGate where
  actions := [.lit "add_expense", .lit "add_income", .lit "create_transaction",
    .lit "categorize_transaction", .lit "detect_subscription", .lit "create_expense",
    .lit "create_income"]
  uncertainSources := [.lit "whatsapp_bot", .lit "telegram_bot", .lit "chat"]
  uncertainSourceSuffixes := [.lit "_bot"]
  threshold := percent 70
  auditFlag := .lit "financial_write_requires_confirmation"
  reason :=
    .lit ("Intent could not be confidently identified. Because this is a financial write " ++
    "operation, confirmation is required before saving.")

def policy : Plugin :=
  { Plugin.default (.lit "finnorte") (.lit "0.1.0") with
    thresholds := thresholds
    actions := actions
    nodup := by decide
    rules := [highValueTransaction, merchantAmountAnomaly, restaurantNotSubscription,
      subscriptionRequiresHistory, subscriptionRequiresRecurrencePattern,
      confirmedRecurringSubscription, lowConfidenceRequiresConfirmation]
    uncertaintyGate := uncertaintyGate }

end Finnorte

/-! ## 6. `plugins/pocket_lawyer/rules.json` -/

namespace PocketLawyer

def thresholds : Thresholds where
  allowMinConfidence := percent 85
  suggestMinConfidence := percent 70
  highRiskThreshold := percent 75

def actions : Dict ActionPolicy :=
  [(lit "answer_client_question", .ofBaseRisk (percent 30)),
    (lit "qualify_lead", .ofBaseRisk (percent 20)),
    (lit "send_contract", .ofBaseRisk (percent 60)),
    (lit "schedule_meeting", .ofBaseRisk (percent 25)),
    (lit "save_original_document", .ofBaseRisk (percent 10)),
    (lit "process_document", .ofBaseRisk (percent 15)),
    (lit "delete_original_document", .ofBaseRisk (percent 95)),
    (lit "generate_dossier", .ofBaseRisk (percent 40)),
    (lit "send_sensitive_message", .ofBaseRisk (percent 80)),
    (lit "generate_legal_draft", .ofBaseRisk (percent 50))]

def blockDeleteOriginal : PolicyRule :=
  ruleOn "block_delete_original" (on "action_type" .eq (.str (lit "delete_original_document"))) []
    .block ("É terminantemente proibido excluir documentos originais enviados pelos clientes. A " ++
      "conformidade exige guarda integral do acervo bruto.")
    (percent 100) (percent 90) .empty
    ["excluir_documento_original", "violation_data_retention"]

def blockSuccessPromise : PolicyRule :=
  ruleOn "block_success_promise" (on "payload.has_success_promise" .eq (.bool true)) []
    .block
      ("O Código de Ética proíbe promessas irreais de êxito ou garantia de causas jurídicas. " ++
      "A análise humana de Salvador Vivas é obrigatória.")
    (percent 80) (percent 85) .empty ["promessa_de_exito", "ethical_violation_guarantee"]

def blockAutomaticFiling : PolicyRule :=
  ruleOn "block_automatic_filing" (on "payload.is_court_filing" .eq (.bool true)) []
    .block ("Peticionamento automático sem validação humana e assinatura digital de advogado " ++
      "habilitado é estritamente bloqueado.")
    (percent 90) (percent 95) .empty
    ["peticionamento_automatico", "unauthorized_practice_of_law"]

def confirmSendContract : PolicyRule :=
  ruleOn "confirm_send_contract" (on "action_type" .eq (.str (lit "send_contract"))) []
    .confirm ("O envio de contratos ou propostas de honorários requer confirmação expressa do " ++
      "advogado responsável antes de ser encaminhado ao cliente.")
    (percent 10) (percent 30) .empty
    ["lead_qualificado_para_contrato", "requires_lawyer_approval"]

def confirmSensitiveMessage : PolicyRule :=
  ruleOn "confirm_sensitive_message" (on "action_type" .eq (.str (lit "send_sensitive_message"))) []
    .confirm ("Mensagem com potencial impacto jurídico identificada. Revisão e autorização de " ++
      "Salvador Vivas obrigatórias.")
    (percent 20) (percent 40) .empty
    ["resposta_com_impacto_juridico", "requires_lawyer_approval"]

def confirmLowConfidence : PolicyRule :=
  ruleOn "confirm_low_confidence" (on "context.confidence" .lt (percent 70).json) []
    .confirm
      ("A confiança calculada pelo motor de triagem é inferior ao limiar mínimo (70%). O caso " ++
      "deve ser revisado por um advogado.")
    (percent 30) (percent 25) .empty ["baixa_confianca_juridica", "human_fallback"]

def suggestMissingDocument : PolicyRule :=
  ruleOn "suggest_missing_document" (on "context.has_missing_documents" .eq (.bool true)) []
    .suggest
      ("O checklist documental aponta pendências para este tema. Sugerido envio da lista de " ++
      "faltantes ao lead.")
    (percent 0) (percent 5) .empty ["pedir_documento_faltante"]

def allowSaveOriginal : PolicyRule :=
  ruleOn "allow_save_original" (on "action_type" .eq (.str (lit "save_original_document"))) []
    .allow
      ("Salvar originais recebidos no Google Drive é uma operação segura e obrigatória para a " ++
      "conformidade.")
    (percent 0) (percent 0) .empty ["salvar_original_no_drive", "safe_operation"]

def allowProcessDocument : PolicyRule :=
  ruleOn "allow_process_document" (on "action_type" .eq (.str (lit "process_document"))) []
    .allow "A conversão de imagens para PDF e compressão documental é permitida automaticamente."
    (percent 0) (percent 0) .empty ["converter_imagem_pdf", "safe_operation"]

def allowGeneralQuestion : PolicyRule :=
  ruleOn "allow_general_question"
    (on "action_type" .eq (.str (lit "answer_client_question")))
    [on "payload.has_success_promise" .neq (.bool true),
      on "context.confidence" .gte (percent 70).json]
    .allow "Pergunta informativa geral de triagem com alta confiança. Disparo liberado."
    (percent 0) (percent 0) .empty ["resposta_informativa", "safe_operation"]

def policy : Plugin :=
  { Plugin.default (.lit "pocket_lawyer") (.lit "0.1.0") with
    thresholds := thresholds
    actions := actions
    nodup := by decide
    rules := [blockDeleteOriginal, blockSuccessPromise, blockAutomaticFiling, confirmSendContract,
      confirmSensitiveMessage, confirmLowConfidence, suggestMissingDocument, allowSaveOriginal,
      allowProcessDocument, allowGeneralQuestion] }

end PocketLawyer

/-! ## 7. What the policies decide -/

section Decided

variable {request : DecisionRequest} {py : Interpreter} {sha : Sha256} {keys : KeyManager}
  {caller : Caller} {now : Clock} {uuid : Text} {plugin : Plugin} {verified : VerifiedContext}
  {triggered : List PolicyRule} {gated : Bool} {response : DecisionResponse}

/-- A policy whose actions require nothing, and whose gate lists none, asks the rules, the model and
the caller alone. -/
theorem Evaluated.decides_of_plain (h : Evaluated request py sha keys caller now uuid plugin
    verified triggered gated response)
    (hplain : ∀ entry ∈ plugin.actions,
      entry.2.requiredPermissions = [] ∧ entry.2.requiredContext = [])
    (hgate : plugin.uncertaintyGate.actions = []) :
    (response.decision = .block ↔
      ∃ rule ∈ plugin.rules, rule.decision = .block ∧ Fires py request verified rule) ∧
    (response.decision = .allow ↔
      (∀ rule ∈ plugin.rules, Fires py request verified rule → rule.decision = .allow) ∧
        ((∃ rule ∈ plugin.rules, rule.decision = .allow ∧ Fires py request verified rule) ∨
          Confident plugin request) ∧
        caller.authenticated = true ∧ Signable sha keys request response) := by
  have hpermitted : Permitted plugin request caller := by
    intro policy hpolicy p hp
    rw [(hplain _ (Dict.lookup_mem hpolicy)).1] at hp
    cases hp
  have hcontext : ∀ policy ∈ plugin.action request.actionType, ∀ p ∈ policy.requiredContext,
      p ∈ verified.providers := by
    intro policy hpolicy p hp
    rw [(hplain _ (Dict.lookup_mem hpolicy)).2] at hp
    cases hp
  have hungated : requiresUncertaintyConfirmation plugin.uncertaintyGate request gated = false := by
    rw [not_gated_of_nil hgate h.gate]
    rfl
  refine ⟨h.block_iff.trans (or_iff_left (not_not_intro hpermitted)), h.allow_iff.trans ?_⟩
  constructor
  · rintro ⟨hrules, hconfident, -, -, -, hauth, hsign⟩
    exact ⟨hrules, hconfident, hauth, hsign⟩
  · rintro ⟨hrules, hconfident, hauth, hsign⟩
    exact ⟨hrules, hconfident, hpermitted, hcontext, hungated, hauth, hsign⟩

/-- A call is blocked without a balance, or when it is estimated at more than two dollars. -/
theorem budgetGuard_decides (h : Evaluated request py sha keys caller now uuid BudgetGuard.policy
    verified triggered gated response) :
    (response.decision = .block ↔
      Meets py request.context "current_balance" .lte (.int 0) ∨
        Meets py request.payload "estimated_cost_usd" .gt twoDollars) ∧
    (response.decision = .allow ↔
      ¬ Meets py request.context "current_balance" .lte (.int 0) ∧
        ¬ Meets py request.payload "estimated_cost_usd" .gt twoDollars ∧
        Confident BudgetGuard.policy request ∧ caller.authenticated = true ∧
        Signable sha keys request response) := by
  obtain ⟨hblock, hallow⟩ := h.decides_of_plain (by decide) rfl
  have hrules : BudgetGuard.policy.rules =
      [BudgetGuard.noCreditBalance, BudgetGuard.singleCallCostCeiling] := rfl
  have hbalance := @on_context_iff py request verified "context.current_balance" "current_balance"
    .lte (.int 0) rfl (by decide +kernel)
  have hcost := @on_payload_iff py request verified "payload.estimated_cost_usd"
    "estimated_cost_usd" .gt twoDollars rfl (by decide +kernel)
  rw [hblock, hallow, hrules]
  constructor
  · simp [BudgetGuard.noCreditBalance, BudgetGuard.singleCallCostCeiling, ruleOn_fires_iff,
      hbalance, hcost]
  · simp [BudgetGuard.noCreditBalance, BudgetGuard.singleCallCostCeiling, ruleOn_fires_iff,
      hbalance, hcost, and_assoc]

/-- A tenant has spent all of its credits. -/
def spentRequest : DecisionRequest :=
  { payRequest with context := ⟨[(lit "current_balance", .int 0)], by decide⟩ }

theorem budgetGuard_decides_spent : ∃ triggered, (respond BudgetGuard.policy spentRequest
    .trustedLocal plainSha pairedKeys 0 (.lit "j1") .none triggered false).decision = .block := by
  obtain ⟨triggered, ht⟩ : ∃ triggered, evaluateRules plainInterpreter
      (ruleData spentRequest .none) BudgetGuard.policy.rules = .ok triggered :=
    exists_ok_of_isOk (by decide +kernel)
  have he : Evaluated spentRequest plainInterpreter plainSha pairedKeys .trustedLocal 0 (.lit "j1")
      BudgetGuard.policy .none triggered false _ := ⟨ht, rfl, rfl, .of_empty rfl⟩
  exact ⟨triggered, (budgetGuard_decides he).1.mpr (.inl ⟨_, rfl, by decide +kernel⟩)⟩

/-- What no agent of the firm may do. -/
def PocketLawyer.Forbidden (py : Interpreter) (request : DecisionRequest) : Prop :=
  request.actionType.str = lit "delete_original_document" ∨
    Meets py request.payload "has_success_promise" .eq (.bool true) ∨
    Meets py request.payload "is_court_filing" .eq (.bool true)

/-- Nothing that a lawyer or the client has to be asked about. -/
structure PocketLawyer.Routine (py : Interpreter) (request : DecisionRequest) : Prop where
  contract : request.actionType.str ≠ lit "send_contract"
  message : request.actionType.str ≠ lit "send_sensitive_message"
  confidence : ¬ Meets py request.context "confidence" .lt (percent 70).json
  documents : ¬ Meets py request.context "has_missing_documents" .eq (.bool true)

/-- What is done however little the model trusts itself. -/
def PocketLawyer.Cleared (py : Interpreter) (request : DecisionRequest) : Prop :=
  request.actionType.str = lit "save_original_document" ∨
    request.actionType.str = lit "process_document" ∨
    request.actionType.str = lit "answer_client_question" ∧
      Meets py request.payload "has_success_promise" .neq (.bool true) ∧
      Meets py request.context "confidence" .gte (percent 70).json

/-- The firm's policy blocks what is forbidden, and allows what is routine and either cleared or
proposed by a confident model.  The rules are read off one by one, so what is left of the engine
is its last two questions: is the caller authenticated, and can the payload be signed? -/
theorem pocketLawyer_decides (h : Evaluated request py sha keys caller now uuid PocketLawyer.policy
    verified triggered gated response) :
    (response.decision = .block ↔ PocketLawyer.Forbidden py request) ∧
    (response.decision = .allow ↔
      ¬ PocketLawyer.Forbidden py request ∧ PocketLawyer.Routine py request ∧
        (PocketLawyer.Cleared py request ∨ Confident PocketLawyer.policy request) ∧
        caller.authenticated = true ∧ Signable sha keys request response) := by
  obtain ⟨hblock, hallow⟩ := h.decides_of_plain (by decide) rfl
  have hpromise : ∀ operator, _ := fun operator => @on_payload_iff py request verified
    "payload.has_success_promise" "has_success_promise" operator (.bool true) rfl
    (by decide +kernel)
  have hfiling := @on_payload_iff py request verified "payload.is_court_filing" "is_court_filing"
    .eq (.bool true) rfl (by decide +kernel)
  have hconfidence : ∀ operator, _ := fun operator => @on_context_iff py request verified
    "context.confidence" "confidence" operator (percent 70).json rfl (by decide +kernel)
  have hdocuments := @on_context_iff py request verified "context.has_missing_documents"
    "has_missing_documents" .eq (.bool true) rfl (by decide +kernel)
  have hrules : PocketLawyer.policy.rules = [PocketLawyer.blockDeleteOriginal,
      PocketLawyer.blockSuccessPromise, PocketLawyer.blockAutomaticFiling,
      PocketLawyer.confirmSendContract, PocketLawyer.confirmSensitiveMessage,
      PocketLawyer.confirmLowConfidence, PocketLawyer.suggestMissingDocument,
      PocketLawyer.allowSaveOriginal, PocketLawyer.allowProcessDocument,
      PocketLawyer.allowGeneralQuestion] := rfl
  rw [hblock, hallow, hrules]
  simp [PocketLawyer.blockDeleteOriginal, PocketLawyer.blockSuccessPromise,
    PocketLawyer.blockAutomaticFiling, PocketLawyer.confirmSendContract,
    PocketLawyer.confirmSensitiveMessage, PocketLawyer.confirmLowConfidence,
    PocketLawyer.suggestMissingDocument, PocketLawyer.allowSaveOriginal,
    PocketLawyer.allowProcessDocument, PocketLawyer.allowGeneralQuestion, ruleOn_fires_iff,
    on_actionType_iff, hpromise, hfiling, hconfidence, hdocuments, PocketLawyer.Forbidden,
    PocketLawyer.Cleared]
  constructor
  · rintro ⟨⟨hdelete, hsuccess, hcourt, hcontract, hmessage, hlow, hmissing⟩, hrest⟩
    exact ⟨⟨hdelete, hsuccess, hcourt⟩, ⟨hcontract, hmessage, hlow, hmissing⟩, hrest⟩
  · rintro ⟨⟨hdelete, hsuccess, hcourt⟩, ⟨hcontract, hmessage, hlow, hmissing⟩, hrest⟩
    exact ⟨⟨hdelete, hsuccess, hcourt, hcontract, hmessage, hlow, hmissing⟩, hrest⟩

/-- An agent wants to delete what a client sent. -/
def deleteRequest : DecisionRequest :=
  { payRequest with actionType := .lit "delete_original_document" }

theorem pocketLawyer_decides_delete : (respond PocketLawyer.policy deleteRequest .trustedLocal
    plainSha pairedKeys 0 (.lit "j1") .none [PocketLawyer.blockDeleteOriginal] false).decision =
      .block := by
  have he : Evaluated deleteRequest plainInterpreter plainSha pairedKeys .trustedLocal 0 (.lit "j1")
      PocketLawyer.policy .none [PocketLawyer.blockDeleteOriginal] false _ :=
    ⟨rfl, rfl, rfl, .of_empty rfl⟩
  exact (pocketLawyer_decides he).1.mpr (.inl rfl)

/-- A subscription is proposed. -/
def Finnorte.Proposed (py : Interpreter) (request : DecisionRequest) : Prop :=
  Meets py request.payload "proposed_action" .eq (.str (lit "detect_subscription"))

/-- The charge recurs, at a stable amount, and was put into a category before. -/
structure Finnorte.Recurring (py : Interpreter) (request : DecisionRequest) : Prop where
  history : Meets py request.context "merchant_history_count" .gte (.int 3)
  pattern : Meets py request.context "recurrence_pattern" .eq (.bool true)
  variance : Meets py request.context "amount_variance_percent" .lte (.int 5)
  category : Meets py request.context "previous_user_confirmed_category" .exists .null

/-- Nothing that the user has to be asked about. -/
structure Finnorte.Unremarkable (py : Interpreter) (request : DecisionRequest) : Prop where
  amount : ¬ Meets py request.payload "amount" .gte (.int 1000)
  confidence :
    F64.compare (fun x y => x < y) request.llm.confidence.toFloat (percent 65).toFloat = false
  merchant : Finnorte.Proposed py request →
    ¬ Meets py request.payload "merchant_type" .eq (.str (lit "restaurant"))
  history : Finnorte.Proposed py request →
    ¬ Meets py request.context "merchant_history_count" .lt (.int 3)
  pattern : Finnorte.Proposed py request →
    ¬ Meets py request.context "recurrence_pattern" .neq (.bool true)

/-- A transaction is blocked for want of a permission alone, and allowed when nothing about it is
remarkable and the proposed subscription is a recurring charge or the model is confident.  No
rule of this policy says `BLOCK`, so what a rule finds can only make a human confirm. -/
theorem finnorte_decides (h : Evaluated request py sha keys caller now uuid Finnorte.policy
    verified triggered gated response) :
    (response.decision = .block ↔ ¬ Permitted Finnorte.policy request caller) ∧
    (response.decision = .allow ↔ Finnorte.Unremarkable py request ∧
      (Finnorte.Proposed py request ∧ Finnorte.Recurring py request ∨
        Confident Finnorte.policy request) ∧
      Permitted Finnorte.policy request caller ∧
      requiresUncertaintyConfirmation Finnorte.uncertaintyGate request gated = false ∧
      caller.authenticated = true ∧ Signable sha keys request response) := by
  have hamount := @on_payload_iff py request verified "payload.amount" "amount" .gte (.int 1000)
    rfl (by decide +kernel)
  have huber := @on_payload_iff py request verified "payload.merchant" "merchant" .contains
    (.str (lit "uber")) rfl (by decide +kernel)
  have hmerchant := @on_payload_iff py request verified "payload.merchant_type" "merchant_type"
    .eq (.str (lit "restaurant")) rfl (by decide +kernel)
  have hproposed := @on_payload_iff py request verified "payload.proposed_action"
    "proposed_action" .eq (.str (lit "detect_subscription")) rfl (by decide +kernel)
  have hhistory : ∀ operator, _ := fun operator => @on_context_iff py request verified
    "context.merchant_history_count" "merchant_history_count" operator (.int 3) rfl
    (by decide +kernel)
  have hpattern : ∀ operator, _ := fun operator => @on_context_iff py request verified
    "context.recurrence_pattern" "recurrence_pattern" operator (.bool true) rfl (by decide +kernel)
  have hvariance := @on_context_iff py request verified "context.amount_variance_percent"
    "amount_variance_percent" .lte (.int 5) rfl (by decide +kernel)
  have hcategory := @on_context_iff py request verified "context.previous_user_confirmed_category"
    "previous_user_confirmed_category" .exists .null rfl (by decide +kernel)
  have hlow : evaluateCondition py (on "llm.confidence" .lt (percent 65).json)
      (ruleData request verified) = .ok true ↔ _ := on_modelConfidence_iff
  have hrules : Finnorte.policy.rules = [Finnorte.highValueTransaction,
      Finnorte.merchantAmountAnomaly, Finnorte.restaurantNotSubscription,
      Finnorte.subscriptionRequiresHistory, Finnorte.subscriptionRequiresRecurrencePattern,
      Finnorte.confirmedRecurringSubscription, Finnorte.lowConfidenceRequiresConfirmation] := rfl
  have hcontext : ∀ policy ∈ Finnorte.policy.action request.actionType,
      ∀ p ∈ policy.requiredContext, p ∈ verified.providers := by
    intro policy hpolicy p hp
    have hnone : ∀ entry ∈ Finnorte.policy.actions, entry.2.requiredContext = [] := by decide
    rw [hnone _ (Dict.lookup_mem hpolicy)] at hp
    cases hp
  rw [h.block_iff, h.allow_iff, hrules]
  simp [Finnorte.highValueTransaction, Finnorte.merchantAmountAnomaly,
    Finnorte.restaurantNotSubscription, Finnorte.subscriptionRequiresHistory,
    Finnorte.subscriptionRequiresRecurrencePattern, Finnorte.confirmedRecurringSubscription,
    Finnorte.lowConfidenceRequiresConfirmation, ruleOn_fires_iff, hamount, huber, hmerchant,
    hproposed, hhistory, hpattern, hvariance, hcategory, hlow]
  constructor
  · rintro ⟨⟨hsum, -, hrestaurant, hcount, hrecur, hconfident⟩, hbasis, hpermitted, -, hrest⟩
    refine ⟨⟨hsum, hconfident, fun hp hm => hrestaurant hm hp, hcount, hrecur⟩, ?_, hpermitted,
      hrest⟩
    rcases hbasis with ⟨hp, hthree, hstable, hvaried, hknown⟩ | hconfident
    · exact .inl ⟨hp, hthree, hstable, hvaried, hknown⟩
    · exact .inr hconfident
  · rintro ⟨⟨hsum, hconfident, hrestaurant, hcount, hrecur⟩, hbasis, hpermitted, hrest⟩
    -- the rule on Uber asks what the rule on the amount asks already
    refine ⟨⟨hsum, fun _ => hsum, fun hm hp => hrestaurant hp hm, hcount, hrecur, hconfident⟩, ?_,
      hpermitted, hcontext, hrest⟩
    rcases hbasis with ⟨hp, hrecurring⟩ | hconfident
    · exact .inl ⟨hp, hrecurring.history, hrecurring.pattern, hrecurring.variance,
        hrecurring.category⟩
    · exact .inr hconfident

/-- A subscription is proposed by nobody in particular. -/
def subscriptionRequest : DecisionRequest :=
  { payRequest with
    actionType := .lit "detect_subscription"
    payload := ⟨[strClaim "proposed_action" (lit "detect_subscription")], by decide⟩ }

theorem finnorte_decides_subscription : ∃ triggered, (respond Finnorte.policy subscriptionRequest
    .trustedLocal plainSha pairedKeys 0 (.lit "j1") .none triggered true).decision = .block := by
  obtain ⟨triggered, ht⟩ : ∃ triggered, evaluateRules plainInterpreter
      (ruleData subscriptionRequest .none) Finnorte.policy.rules = .ok triggered :=
    exists_ok_of_isOk (by decide +kernel)
  have he : Evaluated subscriptionRequest plainInterpreter plainSha pairedKeys .trustedLocal 0
      (.lit "j1") Finnorte.policy .none triggered true _ := ⟨ht, rfl, rfl, .of_empty rfl⟩
  refine ⟨triggered, (finnorte_decides he).1.mpr (fun h => ?_)⟩
  obtain ⟨agent, hagent, -⟩ := h (Finnorte.requiring ["subscription:detect"] (percent 50)) rfl
    (.lit "subscription:detect") (List.mem_singleton.mpr rfl)
  cases hagent

end Decided

end Axg
