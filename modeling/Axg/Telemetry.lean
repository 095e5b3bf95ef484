/-
# Spans and metrics (`axg/telemetry.py`)

Every evaluation has a span with the request and the response as attributes, and is counted; so is
every submission of an approval.  What is exported is metadata.  The texts of a decision's span are
labels of the request and of the policy, words of the engine, the providers whose context was
verified and the id of the Passport; metrics have fewer still, and no id of a tenant, an execution
or an agent (`telemetry_confined`).  So no text of the payload, no reason and no Passport is shown
unless it is also one of these.  An approval shows what its ticket says, and not who approved
(`approval_telemetry_confined`).

An exception that leaves the span is another matter: the SDK records it there with its message, and
every refusal of an approval is one (an `HTTPException` with the status and the detail).  What it
records is a parameter, and what is said of such a span is said of the attributes that AXG sets.
-/
import Axg.Api
import Axg.Challenges

namespace Axg

open Python

namespace Telemetry

/-! ## 1. What is exported -/

inductive AttributeValue
  | text (value : Text)
  | texts (values : List Text)
  | score (value : Score)
  | flag (value : Bool)

abbrev Attributes := List (String × AttributeValue)

structure Event where
  name : String
  attributes : Attributes

/-- A span, with the description of its status where that is an error. -/
structure Span where
  name : String
  attributes : Attributes
  events : List Event
  status : Option Text

inductive Instrument
  | decisions
  | rules
  | duration
  | approvals
deriving DecidableEq

/-- A measurement, without its number. -/
structure Measurement where
  instrument : Instrument
  attributes : Attributes

structure Observed where
  span : Span
  measurements : List Measurement

def AttributeValue.shown : AttributeValue → List Text
  | text value => [value]
  | texts values => values
  | score _ => []
  | flag _ => []

/-- The texts of attributes. -/
def shown (attributes : Attributes) : List Text := attributes.flatMap fun p => p.2.shown

def Span.shown (span : Span) : List Text :=
  Telemetry.shown span.attributes ++ span.events.flatMap (fun e => Telemetry.shown e.attributes) ++
    span.status.toList

/-! ## 2. Decisions -/

/-- `FAILURE_FLAGS` -/
def failureFlags : List Text := [.lit "plugin_load_failed", signingFailed]

/-- `", ".join(texts)` -/
def commaJoined : List Text → Text
  | [] => .lit ""
  | [t] => t
  | t :: ts => t ++ .lit ", " ++ commaJoined ts

/-- The status of a decision with these flags. -/
def failureStatus (auditFlags : List Text) : Option Text :=
  let failures := auditFlags.filter fun flag => failureFlags.contains flag
  if failures = [] then none else some (commaJoined failures)

/-- `if value: attributes[name] = value` -/
def optionalAttribute (name : String) (value : Option Text) : Attributes :=
  ((Text.truthy value).map fun t => (name, AttributeValue.text t)).toList

/-- `_request_attributes` -/
def requestAttributes (request : DecisionRequest) (caller : Caller) : Attributes :=
  [("axg.execution.id", .text request.executionId), ("axg.tenant.id", .text request.tenantId),
    ("axg.app.id", .text request.appId), ("axg.plugin.id", .text request.pluginId),
    ("axg.action.type", .text request.actionType), ("axg.source", .text request.source),
    ("axg.client.id", .text caller.clientId), ("axg.shadow_mode", .flag request.shadowMode),
    ("axg.proposal.confidence", .score request.llm.confidence)] ++
  optionalAttribute "axg.proposal.model" request.llm.model ++
  (request.agent.map fun agent => ("gen_ai.agent.id", AttributeValue.text agent.id)).toList

/-- `_metric_attributes` -/
def metricAttributes (request : DecisionRequest) (caller : Caller) : Attributes :=
  [("axg.plugin.id", .text request.pluginId), ("axg.action.type", .text request.actionType),
    ("axg.client.id", .text caller.clientId), ("axg.shadow_mode", .flag request.shadowMode)]

/-- The attributes that `DecisionObservation.record` sets. -/
def responseAttributes (response : DecisionResponse) : Attributes :=
  [("axg.decision", .text response.decision.value), ("axg.policy", .text response.pluginVersion),
    ("axg.risk.score", .score response.scores.riskScore),
    ("axg.risk.level", .text response.scores.riskLevel.value),
    ("axg.confidence.final", .score response.scores.finalConfidence),
    ("axg.uncertainty.score", .score response.scores.uncertaintyScore),
    ("axg.rules.triggered", .texts (response.rulesTriggered.map TriggeredRule.id)),
    ("axg.audit.flags", .texts response.auditFlags),
    ("axg.context.verified", .texts response.verifiedContext)] ++
  optionalAttribute "axg.passport.id" response.passportId

def ruleAttributes (rule : TriggeredRule) : Attributes :=
  [("axg.rule.id", .text rule.id), ("axg.rule.decision", .text rule.decision.value)]

/-- `observe_decision` around an evaluation: `qualname` is the name of an exception's type, and
`recorded` what the SDK makes of the span that it leaves. -/
def observeDecision (qualname : PyError → Text) (recorded : PyError → Span → Span)
    (request : DecisionRequest) (caller : Caller) : Except PyError DecisionResponse → Observed
  | .ok response =>
    { span :=
        { name := "axg.decide"
          attributes := requestAttributes request caller ++ responseAttributes response
          events := response.rulesTriggered.map fun rule =>
            ⟨"axg.rule.triggered", ruleAttributes rule⟩
          status := failureStatus response.auditFlags }
      measurements :=
        ⟨.decisions, metricAttributes request caller ++
          [("axg.decision", .text response.decision.value)]⟩ ::
        response.rulesTriggered.map (fun rule =>
          ⟨.rules, ("axg.plugin.id", .text request.pluginId) :: ruleAttributes rule⟩) ++
        [⟨.duration, metricAttributes request caller ++
          [("axg.decision", .text response.decision.value)]⟩] }
  | .error e =>
    { span := recorded e ⟨"axg.decide", requestAttributes request caller, [], none⟩
      measurements :=
        [⟨.duration, metricAttributes request caller ++ [("error.type", .text (qualname e))]⟩] }

/-! ## 3. Approvals and introspections -/

/-- The outcome that `submit_approval` fills in. -/
def approvalOutcome : Except SubmitError (ApprovalResponse × ApprovalRecord) → Attributes
  | .ok (response, record) =>
    [("axg.approval.outcome", .text response.outcome.recorded),
      ("axg.approval.ticket_id", .text record.ticketId),
      ("axg.approval.role", .text record.approverRole), ("axg.policy", .text record.policy),
      ("axg.action.type", .text record.actionType)]
  | .error (.rejected _ detail) =>
    [("axg.approval.outcome", .text (.lit "rejected")), ("axg.approval.rejection", .text detail)]
  | .error (.raised _) => [("axg.approval.outcome", .text (.lit "rejected"))]

/-- The span of a submission, as AXG sets it. -/
def approvalSpan (caller : Caller)
    (result : Except SubmitError (ApprovalResponse × ApprovalRecord)) : Span where
  name := "axg.approve"
  attributes := ("axg.client.id", .text caller.clientId) :: approvalOutcome result
  events := []
  status := none

/-- `observe_approval` around a submission: `recorded` is what the SDK makes of the span that the
exception leaves, for a refusal as for anything else that is raised. -/
def observeApproval (recorded : SubmitError → Span → Span) (caller : Caller)
    (result : Except SubmitError (ApprovalResponse × ApprovalRecord)) : Observed where
  span :=
    match result with
    | .ok _ => approvalSpan caller result
    | .error e => recorded e (approvalSpan caller result)
  measurements := [⟨.approvals, ("axg.client.id", .text caller.clientId) ::
    (approvalOutcome result).filter fun p => p.1 = "axg.approval.outcome"⟩]

/-! ## 4. What may be exported -/

/-- The texts that name a request, and not what it is about. -/
def requestLabels (request : DecisionRequest) (caller : Caller) : List Text :=
  [request.executionId, request.tenantId, request.appId, request.pluginId, request.actionType,
    request.source, caller.clientId] ++
  request.llm.model.toList ++ (request.agent.map AgentIdentity.id).toList

/-- The texts of a policy that name it, its rules and what they flag. -/
def policyLabels (plugin : Plugin) : List Text :=
  [plugin.versionLabel, plugin.uncertaintyGate.auditFlag] ++
    plugin.rules.flatMap fun rule => rule.id :: rule.auditFlags

/-- The engine's own words. -/
def engineWords : List Text :=
  [Decision.allow.value, Decision.suggest.value, Decision.confirm.value, Decision.block.value,
    RiskLevel.low.value, RiskLevel.medium.value, RiskLevel.high.value, .lit "unknown_intent",
    .lit "fallback_used", .lit "shadow_mode_active", .lit "plugin_load_failed", contextRejected,
    contextMissing, unauthenticated, signingFailed]

section

variable (request : DecisionRequest) (caller : Caller) (loaded : Except Text Plugin)

/-- What the span of a decision may show. -/
inductive MayShow (context : Except PyError VerifiedContext) (response : DecisionResponse) :
    Text → Prop
  | label {t : Text} : t ∈ requestLabels request caller → MayShow context response t
  | word {t : Text} : t ∈ engineWords → MayShow context response t
  | policy {t : Text} {plugin : Plugin} : loaded = .ok plugin → t ∈ policyLabels plugin →
      MayShow context response t
  | unavailable : MayShow context response (request.pluginId ++ .lit "@unavailable")
  | provider {t : Text} {verified : VerifiedContext} : context = .ok verified →
      t ∈ verified.providers → MayShow context response t
  | passport {t : Text} : response.passportId = some t → MayShow context response t
  | status {ts : List Text} : (∀ t ∈ ts, t ∈ failureFlags) →
      MayShow context response (commaJoined ts)

/-- What a measurement of a decision may show. -/
inductive MayCount : Text → Prop
  | plugin : MayCount request.pluginId
  | action : MayCount request.actionType
  | client : MayCount caller.clientId
  | decision (d : Decision) : MayCount d.value
  | rule {plugin : Plugin} {rule : PolicyRule} : loaded = .ok plugin → rule ∈ plugin.rules →
      MayCount rule.id

end

/-! ## 5. Attributes -/

section

variable {request : DecisionRequest} {caller : Caller} {loaded : Except Text Plugin}
  {context : Except PyError VerifiedContext} {response : DecisionResponse}

theorem shown_append {as bs : Attributes} : shown (as ++ bs) = shown as ++ shown bs :=
  List.flatMap_append

theorem mem_optionalAttribute {name : String} {value : Option Text} {t : Text}
    (h : t ∈ shown (optionalAttribute name value)) : value = some t := by
  cases value with
  | none => cases h
  | some v =>
    rw [optionalAttribute, Text.truthy, Option.filter_some] at h
    split at h
    · simpa [shown, AttributeValue.shown, eq_comm] using h
    · cases h

theorem decision_mem_engineWords (d : Decision) : d.value ∈ engineWords := by
  cases d <;> simp [engineWords]

theorem riskLevel_mem_engineWords (r : RiskLevel) : r.value ∈ engineWords := by
  cases r <;> simp [engineWords]

/-- The attributes of a request are its labels. -/
theorem requestAttributes_labels {t : Text} (h : t ∈ shown (requestAttributes request caller)) :
    t ∈ requestLabels request caller := by
  rw [requestAttributes, shown_append, shown_append, List.mem_append, List.mem_append] at h
  rw [requestLabels, List.mem_append, List.mem_append, Option.mem_toList, Option.mem_toList]
  obtain (h | h) | h := h
  · exact Or.inl (Or.inl (by simpa [shown, AttributeValue.shown] using h))
  · exact Or.inl (Or.inr (mem_optionalAttribute h))
  · cases ha : request.agent with
    | none => rw [ha] at h; cases h
    | some agent =>
      rw [ha] at h
      exact Or.inr (by simpa [shown, AttributeValue.shown, eq_comm] using h)

/-- The attributes of a metric, whatever the decision. -/
theorem metricAttributes_count {t : Text} (h : t ∈ shown (metricAttributes request caller)) :
    MayCount request caller loaded t := by
  simp only [metricAttributes, shown, AttributeValue.shown, List.flatMap_cons, List.flatMap_nil,
    List.mem_append, List.mem_singleton, List.not_mem_nil, or_false] at h
  obtain rfl | rfl | rfl := h
  · exact .plugin
  · exact .action
  · exact .client

/-! ## 6. The flags of a decision -/

theorem auditFlags_confined {plugin : Plugin} {triggered : List PolicyRule} {gated : Bool}
    (hrules : ∀ rule ∈ triggered, rule ∈ plugin.rules) {t : Text}
    (h : t ∈ auditFlags plugin request triggered gated) :
    t ∈ policyLabels plugin ∨ t ∈ engineWords := by
  rw [auditFlags, List.mem_eraseDups, List.mem_append, List.mem_append, List.mem_append,
    List.mem_append] at h
  obtain (((h | h) | h) | h) | h := h
  · obtain ⟨rule, hr, ht⟩ := List.mem_flatMap.mp h
    refine Or.inl (List.mem_append_right _ (List.mem_flatMap.mpr ⟨rule, hrules rule hr, ?_⟩))
    split at ht
    · rw [List.mem_singleton.mp ht]
      exact List.mem_cons_self
    · exact List.mem_cons_of_mem _ ht
  · split at h
    · rw [List.mem_singleton.mp h]
      exact Or.inr (by simp [engineWords])
    · cases h
  · split at h
    · rw [List.mem_singleton.mp h]
      exact Or.inr (by simp [engineWords])
    · cases h
  · split at h
    · rw [List.mem_singleton.mp h]
      exact Or.inl (by simp [policyLabels])
    · cases h
  · split at h
    · rw [List.mem_singleton.mp h]
      exact Or.inr (by simp [engineWords])
    · cases h

/-- The context adds flags of the engine only. -/
theorem requireContext_flags {plugin : Plugin} {verified : VerifiedContext} {v : Verdict} {t : Text}
    (h : t ∈ (requireContext plugin request verified v).auditFlags) :
    t ∈ v.auditFlags ∨ t ∈ engineWords := by
  have hflags : t ∈ (v.auditFlags ++ if verified.rejected = [] then [] else [contextRejected]) →
      t ∈ v.auditFlags ∨ t ∈ engineWords := by
    intro h
    refine (List.mem_append.mp h).imp id (fun h => ?_)
    split at h
    · cases h
    · rw [List.mem_singleton.mp h]
      simp [engineWords]
  have hmissing : t ∈ (v.auditFlags ++ if verified.rejected = [] then [] else [contextRejected]) ++
      [contextMissing] → t ∈ v.auditFlags ∨ t ∈ engineWords := by
    intro h
    obtain h | h := List.mem_append.mp h
    · exact hflags h
    · rw [List.mem_singleton.mp h]
      exact Or.inr (by simp [engineWords])
  unfold requireContext at h
  simp only at h
  split at h
  · exact hflags h
  split at h
  · exact hmissing h
  · exact hmissing h

theorem requireCaller_flags {v : Verdict} {t : Text} (h : t ∈ (requireCaller caller v).auditFlags) :
    t ∈ v.auditFlags ∨ t ∈ engineWords := by
  unfold requireCaller at h
  split at h
  · refine (List.mem_append.mp h).imp id (fun h => ?_)
    rw [List.mem_singleton.mp h]
    simp [engineWords]
  · exact Or.inl h

theorem signPassport_flags {plugin : Plugin} {sha : Sha256} {keys : KeyManager} {now : Clock}
    {uuid : Text} {triggered : List PolicyRule} {v : Verdict} {t : Text}
    (h : t ∈ (signPassport plugin request caller sha keys now uuid triggered v).1.auditFlags) :
    t ∈ v.auditFlags ∨ t ∈ engineWords := by
  unfold signPassport at h
  split at h
  · split at h
    · exact Or.inl h
    · refine (List.mem_append.mp h).imp id (fun h => ?_)
      rw [List.mem_singleton.mp h]
      simp [engineWords]
  · exact Or.inl h

/-- The flags of a response are those of its policy, and the engine's. -/
theorem flags_confined {py : Interpreter} {sha : Sha256} {keys : KeyManager} {now : Clock}
    {uuid : Text} {plugin : Plugin} {verified : VerifiedContext} {triggered : List PolicyRule}
    {gated : Bool}
    (he : Evaluated request py sha keys caller now uuid plugin verified triggered gated response)
    (hrules : ∀ rule ∈ triggered, rule ∈ plugin.rules) {t : Text} (h : t ∈ response.auditFlags) :
    t ∈ policyLabels plugin ∨ t ∈ engineWords := by
  rw [he.eq] at h
  obtain h | h := signPassport_flags h
  · obtain h | h := requireCaller_flags h
    · obtain h | h := requireContext_flags h
      · exact auditFlags_confined hrules h
      · exact Or.inr h
    · exact Or.inr h
  · exact Or.inr h

end

/-! ## 7. Nothing else is exported -/

section

variable {request : DecisionRequest} {caller : Caller} {loaded : Except Text Plugin}
  {context : Except PyError VerifiedContext} {response : DecisionResponse}

/-- The parts of a response that are observed come from where they may. -/
structure Confined (request : DecisionRequest) (caller : Caller) (loaded : Except Text Plugin)
    (context : Except PyError VerifiedContext) (response : DecisionResponse) : Prop where
  version : MayShow request caller loaded context response response.pluginVersion
  rules : ∀ r ∈ response.rulesTriggered, ∃ plugin rule, loaded = .ok plugin ∧
    rule ∈ plugin.rules ∧ r.id = rule.id
  flags : ∀ t ∈ response.auditFlags, MayShow request caller loaded context response t
  verified : ∀ t ∈ response.verifiedContext, MayShow request caller loaded context response t

theorem decide_confined {py : Interpreter} {sha : Sha256} {keys : KeyManager} {now : Clock}
    {uuid : Text}
    (h : decide request py sha keys caller now uuid loaded context = .ok response) :
    Confined request caller loaded context response := by
  obtain ⟨message, -, rfl, -⟩ | ⟨plugin, verified, triggered, gated, hload, hverified, he⟩ :=
    decide_eq_ok.mp h
  · refine ⟨.unavailable, fun r hr => (List.not_mem_nil hr).elim, fun t ht => ?_,
      fun t ht => (List.not_mem_nil ht).elim⟩
    rw [List.mem_singleton.mp ht]
    exact .word (by simp [engineWords])
  · have hrules : ∀ rule ∈ triggered, rule ∈ plugin.rules := by
      rw [evaluateRules_eq_filter he.rules]
      exact fun rule hr => (List.mem_filter.mp hr).1
    refine ⟨?_, fun r hr => ?_, fun t ht => ?_, fun t ht => ?_⟩
    · rw [he.eq]
      exact .policy hload (by simp [policyLabels, respond])
    · rw [he.eq] at hr
      obtain ⟨rule, hrule, rfl⟩ := List.mem_map.mp hr
      exact ⟨plugin, rule, hload, hrules rule hrule, rfl⟩
    · obtain hpolicy | hword := flags_confined he hrules ht
      · exact .policy hload hpolicy
      · exact .word hword
    · rw [he.eq] at ht
      exact .provider hverified (mem_sortedBy.mp ht)

theorem Confined.rule_mem (h : Confined request caller loaded context response)
    {r : TriggeredRule} (hr : r ∈ response.rulesTriggered) :
    MayShow request caller loaded context response r.id := by
  obtain ⟨plugin, rule, hload, hrule, hid⟩ := h.rules r hr
  rw [hid]
  exact .policy hload (List.mem_append_right _ (List.mem_flatMap.mpr
    ⟨rule, hrule, List.mem_cons_self⟩))

/-- The attributes that a response adds. -/
theorem Confined.attributes (h : Confined request caller loaded context response) {t : Text}
    (ht : t ∈ shown (responseAttributes response)) :
    MayShow request caller loaded context response t := by
  rw [responseAttributes, shown_append, List.mem_append] at ht
  obtain ht | ht := ht
  · simp only [shown, AttributeValue.shown, List.flatMap_cons, List.flatMap_nil, List.mem_append,
      List.mem_singleton, List.not_mem_nil, or_false, false_or] at ht
    obtain rfl | rfl | rfl | hrule | hflag | hprovider := ht
    · exact .word (decision_mem_engineWords _)
    · exact h.version
    · exact .word (riskLevel_mem_engineWords _)
    · obtain ⟨r, hr, rfl⟩ := List.mem_map.mp hrule
      exact h.rule_mem hr
    · exact h.flags t hflag
    · exact h.verified t hprovider
  · exact .passport (mem_optionalAttribute ht)

/-- The attributes of a rule that triggered. -/
theorem shown_ruleAttributes {r : TriggeredRule} {t : Text} :
    t ∈ shown (ruleAttributes r) ↔ t = r.id ∨ t = r.decision.value := by
  simp [shown, ruleAttributes, AttributeValue.shown]

variable (qualname : PyError → Text) (recorded : PyError → Span → Span)

theorem Confined.span (h : Confined request caller loaded context response) {t : Text}
    (ht : t ∈ (observeDecision qualname recorded request caller (.ok response)).span.shown) :
    MayShow request caller loaded context response t := by
  rw [Span.shown, List.mem_append, List.mem_append] at ht
  obtain (ht | ht) | ht := ht
  · rw [observeDecision, shown_append, List.mem_append] at ht
    obtain ht | ht := ht
    · exact .label (requestAttributes_labels ht)
    · exact h.attributes ht
  · obtain ⟨e, he, ht⟩ := List.mem_flatMap.mp ht
    obtain ⟨r, hr, rfl⟩ := List.mem_map.mp he
    obtain rfl | rfl := shown_ruleAttributes.mp ht
    · exact h.rule_mem hr
    · exact .word (decision_mem_engineWords _)
  · change t ∈ (failureStatus response.auditFlags).toList at ht
    unfold failureStatus at ht
    simp only at ht
    split at ht
    · cases ht
    · rw [Option.toList_some, List.mem_singleton] at ht
      subst ht
      exact .status fun t hmem => by simpa using (List.mem_filter.mp hmem).2

theorem Confined.measurement (h : Confined request caller loaded context response)
    {m : Measurement}
    (hm : m ∈ (observeDecision qualname recorded request caller (.ok response)).measurements)
    {t : Text} (ht : t ∈ shown m.attributes) : MayCount request caller loaded t := by
  have hcounted : t ∈ shown (metricAttributes request caller ++
      [("axg.decision", .text response.decision.value)]) → MayCount request caller loaded t := by
    intro ht
    rw [shown_append, List.mem_append] at ht
    obtain ht | ht := ht
    · exact metricAttributes_count ht
    · obtain rfl : t = response.decision.value := by simpa [shown, AttributeValue.shown] using ht
      exact .decision _
  rw [observeDecision, List.mem_append, List.mem_cons] at hm
  obtain (rfl | hm) | hm := hm
  · exact hcounted ht
  · obtain ⟨r, hr, rfl⟩ := List.mem_map.mp hm
    rw [shown, List.flatMap_cons, List.mem_append, ← shown] at ht
    obtain ht | ht := ht
    · rw [List.mem_singleton.mp ht]
      exact .plugin
    · obtain rfl | rfl := shown_ruleAttributes.mp ht
      · obtain ⟨plugin, rule, hload, hrule, hid⟩ := h.rules r hr
        rw [hid]
        exact .rule hload hrule
      · exact .decision _
  · rw [List.mem_singleton.mp hm] at ht
    exact hcounted ht

/-- The span of a decision shows labels, and its metrics only those of them that are few.  A
label names a request, a policy or a rule; what a request is about (its payload, its intent, the
reasons for the decision and the Passport) is in none of the attributes, events and status texts. -/
theorem telemetry_confined {py : Interpreter} {sha : Sha256} {keys : KeyManager} {now : Clock}
    {uuid : Text}
    (h : decide request py sha keys caller now uuid loaded context = .ok response) :
    (∀ t ∈ (observeDecision qualname recorded request caller (.ok response)).span.shown,
      MayShow request caller loaded context response t) ∧
    ∀ m ∈ (observeDecision qualname recorded request caller (.ok response)).measurements,
      ∀ t ∈ shown m.attributes, MayCount request caller loaded t :=
  ⟨fun _ ht => (decide_confined h).span qualname recorded ht,
    fun _ hm _ ht => (decide_confined h).measurement qualname recorded hm ht⟩

end

/-- What is observed of the payment that a rule allows. -/
def observedPay : Observed :=
  observeDecision (fun _ => .lit "ValueError") (fun _ span => span) payRequest .trustedLocal
    (.ok (respond allowPolicy payRequest .trustedLocal plainSha pairedKeys 0 (.lit "j1") .none
      [always .allow] false))

/-- The rule is named and counted, and its reason is not shown. -/
theorem telemetry_confined_pay :
    (∀ t ∈ observedPay.span.shown, MayShow payRequest .trustedLocal (.ok allowPolicy) (.ok .none)
      (respond allowPolicy payRequest .trustedLocal plainSha pairedKeys 0 (.lit "j1") .none
        [always .allow] false) t) ∧
      (always .allow).id ∈ observedPay.span.shown ∧
      (always .allow).reason ∉ observedPay.span.shown ∧ observedPay.measurements.length = 3 :=
  ⟨(telemetry_confined _ _ decide_undeclared).1, by decide +kernel, by decide +kernel, rfl⟩

/-! ## 8. Approvals -/

/-- The texts of a ticket that an approval shows. -/
def ticketLabels (ticket : TicketClaims) : List Text :=
  [ticket.jti, ticket.requiredRole, ticket.policy, ticket.actionType, roleRefusal ticket]

/-- The words of an outcome. -/
def outcomeWords : List Text :=
  [Outcome.approve.recorded, Outcome.deny.recorded, .lit "rejected"]

/-- What the span of an approval may show. -/
inductive MayShowApproval (keys : KeyManager) (now : Clock) (request : ApprovalRequest)
    (caller : Caller) : Text → Prop
  | client : MayShowApproval keys now request caller caller.clientId
  | outcome {t : Text} : t ∈ outcomeWords → MayShowApproval keys now request caller t
  | refusal {t : Text} : t ∈ refusals.map Prod.snd → MayShowApproval keys now request caller t
  | ticket {t : Text} {ticket : TicketClaims} :
      verifyApprovalTicket keys now request.ticket = .ok ticket → t ∈ ticketLabels ticket →
      MayShowApproval keys now request caller t

section

variable {sha : Sha256} {keys : KeyManager} {request : ApprovalRequest} {caller : Caller}
  {loaded : Option Plugin} {now later : Clock} {call : CallContext}

theorem outcome_mem_outcomeWords (outcome : Outcome) : outcome.recorded ∈ outcomeWords := by
  cases outcome <;> simp [outcomeWords]

/-- The record says of the approver no more than the role that the ticket asks for. -/
theorem submit_shown {response : ApprovalResponse} {record : ApprovalRecord}
    (h : submit sha keys request caller loaded now later call = .ok (response, record)) :
    ∃ ticket, verifyApprovalTicket keys now request.ticket = .ok ticket ∧
      record.ticketId = ticket.jti ∧ record.approverRole = ticket.requiredRole ∧
      record.policy = ticket.policy ∧ record.actionType = ticket.actionType := by
  obtain ⟨ticket, hadmit, hexchange⟩ := bind_eq_ok h
  obtain ⟨plugin, passport, -, -, -, -, rfl⟩ := exchange_eq_ok hexchange
  have hadmitted := admitRequest_eq_ok hadmit
  exact ⟨ticket, hadmitted.verified, rfl, hadmitted.role, rfl, rfl⟩

theorem approvalOutcome_confined {t : Text}
    (h : t ∈ shown (approvalOutcome (submit sha keys request caller loaded now later call))) :
    MayShowApproval keys now request caller t := by
  cases hsubmit : submit sha keys request caller loaded now later call with
  | ok answer =>
    obtain ⟨response, record⟩ := answer
    obtain ⟨ticket, hticket, hid, hrole, hpolicy, haction⟩ := submit_shown hsubmit
    rw [hsubmit, approvalOutcome, hid, hrole, hpolicy, haction] at h
    rw [shown, List.flatMap_cons, List.mem_append, ← shown] at h
    obtain h | h := h
    · rw [List.mem_singleton.mp h]
      exact .outcome (outcome_mem_outcomeWords _)
    · refine .ticket hticket ?_
      simp only [shown, AttributeValue.shown, List.flatMap_cons, List.flatMap_nil,
        List.mem_append, List.mem_singleton, List.not_mem_nil, or_false] at h
      simp only [ticketLabels, List.mem_cons, List.not_mem_nil, or_false]
      tauto
  | error e =>
    rw [hsubmit] at h
    cases e with
    | raised e =>
      rw [List.mem_singleton.mp h]
      exact .outcome (by simp [outcomeWords])
    | rejected status detail =>
      obtain rfl | rfl : t = .lit "rejected" ∨ t = detail := by
        simpa [approvalOutcome, shown, AttributeValue.shown] using h
      · exact .outcome (by simp [outcomeWords])
      · obtain hfixed | ⟨ticket, hticket, hrole⟩ := submit_refusal hsubmit
        · exact .refusal (List.mem_map.mpr ⟨_, hfixed, rfl⟩)
        · rw [(Prod.mk.inj hrole).2]
          exact .ticket hticket (by simp [ticketLabels])

/-- The outcome that is counted. -/
theorem approvalOutcome_counted {t : Text}
    {result : Except SubmitError (ApprovalResponse × ApprovalRecord)}
    (h : t ∈ shown ((approvalOutcome result).filter fun p => p.1 = "axg.approval.outcome")) :
    t ∈ outcomeWords := by
  cases result with
  | ok answer =>
    obtain rfl : t = answer.1.outcome.recorded := by
      simpa [approvalOutcome, shown, AttributeValue.shown] using h
    exact outcome_mem_outcomeWords _
  | error e =>
    obtain rfl : t = .lit "rejected" := by
      cases e <;> simpa [approvalOutcome, shown, AttributeValue.shown] using h
    simp [outcomeWords]

theorem approvalSpan_confined {t : Text}
    (h : t ∈ (approvalSpan caller (submit sha keys request caller loaded now later call)).shown) :
    MayShowApproval keys now request caller t := by
  rw [Span.shown, approvalSpan, List.flatMap_nil, Option.toList_none, List.append_nil,
    List.append_nil, shown, List.flatMap_cons, List.mem_append, ← shown] at h
  obtain h | h := h
  · rw [List.mem_singleton.mp h]
    exact .client
  · exact approvalOutcome_confined h

/-- The span of an approval that is answered shows its ticket.  That of a submission that is refused
or raises is what the SDK makes of one that shows its ticket and why it was refused: the exception
that the SDK adds is no attribute of AXG's.  The metric shows the client and the outcome. -/
theorem approval_telemetry_confined (recorded : SubmitError → Span → Span) :
    let result := submit sha keys request caller loaded now later call
    let observed := observeApproval recorded caller result
    (∀ answer, result = .ok answer →
        ∀ t ∈ observed.span.shown, MayShowApproval keys now request caller t) ∧
      (∀ e, result = .error e → ∃ own : Span, observed.span = recorded e own ∧
        ∀ t ∈ own.shown, MayShowApproval keys now request caller t) ∧
      ∀ m ∈ observed.measurements, ∀ t ∈ shown m.attributes,
        t = caller.clientId ∨ t ∈ outcomeWords := by
  refine ⟨fun answer hanswer t ht => ?_, fun e he => ?_, fun m hm t ht => ?_⟩
  · simp only [observeApproval, hanswer] at ht
    exact approvalSpan_confined (hanswer ▸ ht)
  · refine ⟨approvalSpan caller (submit sha keys request caller loaded now later call), ?_,
      fun t => approvalSpan_confined⟩
    simp only [observeApproval, he]
  · rw [List.mem_singleton.mp hm, shown, List.flatMap_cons, List.mem_append, ← shown] at ht
    obtain ht | ht := ht
    · exact Or.inl (List.mem_singleton.mp ht)
    · exact Or.inr (approvalOutcome_counted ht)

end

end Telemetry

end Axg
