/-
# The decision engine (`axg/engine.py`)

`evaluate` is one evaluation with a policy that loaded: rules, scores, the first decision, and
then the stages that can only make it stricter, required context, authentication and signing.
`respond` is all of it that cannot raise.  What can raise comes before it, the rules and
`_is_gated_write`, and after it, the log line.

`_is_gated_write` depends on the policy and the request alone and is evaluated first by
`_scores`; its value is passed on to the other functions that call it.
-/
import Mathlib.Data.Rat.Floor
import Axg.Crypto
import Axg.Rules
import Axg.Python.JsonAscii

namespace Axg

open Python

/-! ## 1. Strictness -/

namespace Decision

theorem precedence_injective : Function.Injective precedence := by
  intro a b h
  cases a <;> cases b <;> first | rfl | cases h

/-- Decisions are ordered by `DECISION_PRECEDENCE`. -/
instance : LinearOrder Decision := LinearOrder.lift' precedence precedence_injective

theorem le_iff {a b : Decision} : a ≤ b ↔ a.precedence ≤ b.precedence := Iff.rfl

theorem allow_le (d : Decision) : allow ≤ d := by cases d <;> decide

theorem le_block (d : Decision) : d ≤ block := by cases d <;> decide

theorem le_allow_iff {d : Decision} : d ≤ allow ↔ d = allow := by cases d <;> decide

theorem confirm_le_iff {d : Decision} : confirm ≤ d ↔ d = confirm ∨ d = block := by
  cases d <;> decide

theorem not_le_suggest_iff {d : Decision} : ¬ d ≤ suggest ↔ confirm ≤ d := by
  cases d <;> decide

/-- `max(decisions, key=precedence)`, of a list that is not empty. -/
def strictest (d : Decision) (ds : List Decision) : Decision := ds.foldl max d

theorem strictest_le_iff {d e : Decision} {ds : List Decision} :
    strictest d ds ≤ e ↔ d ≤ e ∧ ∀ x ∈ ds, x ≤ e := by
  induction ds generalizing d with
  | nil => simp [strictest]
  | cons x xs ih =>
    rw [strictest, List.foldl_cons, ← strictest, ih, max_le_iff]
    simp [and_assoc]

end Decision

/-! ## 2. Reading a request -/

namespace Text

/-- `sep.join(texts)` -/
def join (sep : Text) : List Text → Text
  | [] => .lit ""
  | [t] => t
  | t :: ts => t ++ sep ++ join sep ts

/-- An optional text that `or` takes. -/
def truthy (t : Option Text) : Option Text := t.filter (fun t => t.str ≠ [])

end Text

namespace JsonObject

/-- `o.get(key)`, with what is known of a member. -/
def find (o : JsonObject) (key : Str) : Option {v : Json // v.Wf} :=
  match h : o.members.lookup key with
  | none => none
  | some v => some ⟨v, o.wf_of_lookup h⟩

theorem find_map (o : JsonObject) (key : Str) :
    (o.find key).map Subtype.val = o.members.lookup key := by
  unfold find
  split
  · rename_i h; rw [h]; rfl
  · rename_i v h; exact h.symm

end JsonObject

def optionalText (t : Option Text) : Json :=
  match t with
  | none => .null
  | some t => .str t

def textList (ts : List Text) : Json := .arr (ts.map (fun t => .str t))

/-- `agent.model_dump()` -/
def AgentIdentity.dump (agent : AgentIdentity) : Json :=
  .obj [strClaim "id" agent.id, strClaim "type" agent.type,
    (lit "permissions", textList agent.permissions)]

/-- `llm.model_dump()` -/
def LlmSignal.dump (llm : LlmSignal) : Json :=
  .obj [(lit "model", optionalText llm.model), (lit "confidence", llm.confidence.json),
    (lit "raw_output", llm.rawOutput.json)]

/-- `request.model_dump()` -/
def DecisionRequest.dump (request : DecisionRequest) : Dict Json :=
  [strClaim "schema_version" request.schemaVersion, strClaim "execution_id" request.executionId,
    strClaim "tenant_id" request.tenantId, strClaim "app_id" request.appId,
    strClaim "plugin_id" request.pluginId, (lit "user_id", optionalText request.userId),
    (lit "agent", (request.agent.map AgentIdentity.dump).getD .null),
    strClaim "source" request.source, strClaim "action_type" request.actionType,
    (lit "payload", request.payload.json), (lit "context", request.context.json),
    (lit "signed_context", textList request.signedContext), (lit "llm", request.llm.dump),
    (lit "intent", request.intent.json), (lit "shadow_mode", .bool request.shadowMode),
    (lit "metadata", request.metadata.json)]

/-- What `verify_signed_context` returns: facts by provider id, and why tokens were rejected. -/
structure VerifiedContext where
  facts : List (Text × JsonObject)
  nodup : (facts.map Prod.fst).Nodup
  rejected : List Str

/-- The providers of the facts. -/
def VerifiedContext.providers (verified : VerifiedContext) : List Text :=
  verified.facts.map Prod.fst

/-- `VerifiedContext()` -/
def VerifiedContext.none : VerifiedContext := ⟨[], List.nodup_nil, []⟩

/-- `_rule_data` -/
def ruleData (request : DecisionRequest) (verified : VerifiedContext) : Json :=
  .obj (request.dump ++
    [(lit "verified", .obj (verified.facts.map (fun p => (p.1.str, p.2.json))))])

/-! ## 3. Scores -/

/-- `round(value)`, a tie going to the even neighbour. -/
def roundHalfEven (q : ℚ) : Int :=
  if q - ⌊q⌋ < 1 / 2 then ⌊q⌋
  else if 1 / 2 < q - ⌊q⌋ then ⌊q⌋ + 1
  else if ⌊q⌋ % 2 = 0 then ⌊q⌋ else ⌊q⌋ + 1

/-- `round(value, 4)` -/
def round4 (q : ℚ) : ℚ := roundHalfEven (q * 10000) / 10000

/-- `_clamp` -/
def clamp (q : ℚ) : Score :=
  ⟨max 0 (min 1 (round4 q)), le_max_left _ _, max_le zero_le_one (min_le_left _ _)⟩

/-- `DEFAULT_PENALTY` -/
def defaultPenalty : Decision → ℚ
  | .allow => 0
  | .suggest => 1 / 10
  | .confirm => 1 / 4
  | .block => 1 / 2

/-- `rule.confidence_penalty or DEFAULT_PENALTY[rule.decision]` -/
def PolicyRule.penalty (rule : PolicyRule) : ℚ :=
  if rule.confidencePenalty.val = 0 then defaultPenalty rule.decision
  else rule.confidencePenalty.val

/-- `x in gated`, for a set of strings; `none` is Python's `None`. -/
def inSet (actions : List Text) : Option Json → Except PyError Bool
  | none => .ok false
  | some (.str s) => .ok (actions.any (fun a => a.str = s))
  | some (.arr _) => .error .typeError
  | some (.obj _) => .error .typeError
  | some _ => .ok false

section Gate

variable (gate : UncertaintyGate) (request : DecisionRequest)

/-- `_is_uncertain_source` -/
def isUncertainSource : Bool :=
  gate.uncertainSources.contains request.source ||
    gate.uncertainSourceSuffixes.any (fun suffix => suffix.str.isSuffixOf request.source.str)

/-- `_is_gated_write` -/
def isGatedWrite : Except PyError Bool :=
  if gate.actions.contains request.actionType then .ok true
  else do
    let proposed ← inSet gate.actions (request.payload.get "proposed_action")
    if proposed then return true else inSet gate.actions (request.intent.get "resolved")

/-- `intent.get("original") == "unknown"` -/
def isUnknownIntent : Bool :=
  (request.intent.get "original").any (fun v => v.pyEq (.str (lit "unknown")))

/-- `intent.get("fallback_used") is True` -/
def isFallbackUsed : Bool :=
  match request.intent.get "fallback_used" with
  | some (.bool b) => b
  | _ => false

/-- The score of an intent and a source. -/
def intentScore : ℚ :=
  (if isUnknownIntent request then 8 / 10 else 0) + (if isFallbackUsed request then 2 / 10 else 0) +
    (if isUncertainSource gate request then 1 / 10 else 0)

/-- `_uncertainty_score` -/
def uncertaintyScore (gated : Bool) : Score :=
  if gated && isUncertainSource gate request && request.intent.members.isEmpty then
    clamp (max (intentScore gate request) gate.threshold.val)
  else clamp (intentScore gate request)

/-- `_requires_uncertainty_confirmation`, at the uncertainty score of the request. -/
def requiresUncertaintyConfirmation (gated : Bool) : Bool :=
  gated && decide (gate.threshold.val ≤ (uncertaintyScore gate request gated).val)

end Gate

section Policy

variable (plugin : Plugin) (request : DecisionRequest)

/-- `_scores` -/
def scores (triggered : List PolicyRule) (gated : Bool) : DecisionScores :=
  let confidencePenalty := (triggered.map PolicyRule.penalty).sum
  let baseRisk := match plugin.action request.actionType with
    | some policy => policy.baseRisk.val
    | none => plugin.thresholds.highRiskThreshold.val
  let riskScore := clamp (baseRisk + (triggered.map (fun rule => rule.riskDelta.val)).sum)
  { llmConfidence := request.llm.confidence
    finalConfidence := clamp (request.llm.confidence.val - confidencePenalty)
    riskScore := riskScore
    riskLevel :=
      if plugin.thresholds.highRiskThreshold.val ≤ riskScore.val then .high
      else if 4 / 10 ≤ riskScore.val then .medium
      else .low
    uncertaintyScore := uncertaintyScore plugin.uncertaintyGate request gated }

/-! ## 4. The first decision -/

variable (caller : Caller)

/-- The permissions that the agent holds: those it claims and its caller may grant. -/
def granted : List Text :=
  match request.agent with
  | some agent => caller.effectivePermissions agent.permissions
  | none => []

/-- `_permission_decision` -/
def permissionDecision : Option Decision :=
  match plugin.action request.actionType with
  | none => none
  | some policy =>
    if policy.requiredPermissions.filter (fun p => !(granted request caller).contains p) = [] then
      none
    else some .block

/-- `_final_decision` -/
def finalDecision (triggered : List PolicyRule) (gated : Bool) : Decision :=
  let decisions := triggered.map PolicyRule.decision ++
    (permissionDecision plugin request caller).toList ++
    if requiresUncertaintyConfirmation plugin.uncertaintyGate request gated then [.confirm] else []
  match decisions with
  | d :: ds => .strictest d ds
  | [] =>
    if (plugin.action request.actionType).isNone then .confirm
    else if plugin.thresholds.allowMinConfidence.val ≤ request.llm.confidence.val then .allow
    else if plugin.thresholds.suggestMinConfidence.val ≤ request.llm.confidence.val then .suggest
    else .confirm

/-- `sorted(triggered_rules, key=precedence, reverse=True)` -/
def mostCriticalFirst (triggered : List PolicyRule) : List PolicyRule :=
  sortedBy (fun rule => 3 - rule.decision.precedence) triggered

/-- `_reason` -/
def reason (decision : Decision) (triggered : List PolicyRule) (gated : Bool) : Text :=
  let ruleReasons := Text.join (.lit " ") ((mostCriticalFirst triggered).map PolicyRule.reason)
  if decision = .block then
    if triggered.any (fun rule => rule.decision = .block) then ruleReasons
    else .lit "The proposed action is not permitted for this agent."
  else if requiresUncertaintyConfirmation plugin.uncertaintyGate request gated then
    plugin.uncertaintyGate.reason
  else if triggered ≠ [] then ruleReasons
  else if decision = .allow then
    .lit ("No policy rule was triggered and confidence is within the automatic execution " ++
      "threshold.")
  else if decision = .suggest then
    .lit "No policy rule was triggered, but confidence recommends assisted execution."
  else .lit "The proposal requires confirmation before execution."

/-- `_audit_flags` -/
def auditFlags (triggered : List PolicyRule) (gated : Bool) : List Text :=
  (triggered.flatMap
    (fun rule : PolicyRule => if rule.auditFlags = [] then [rule.id] else rule.auditFlags) ++
    (if isUnknownIntent request then [Text.lit "unknown_intent"] else []) ++
    (if isFallbackUsed request then [Text.lit "fallback_used"] else []) ++
    (if requiresUncertaintyConfirmation plugin.uncertaintyGate request gated then
      [plugin.uncertaintyGate.auditFlag] else []) ++
    (if request.shadowMode then [Text.lit "shadow_mode_active"] else [])).eraseDups

/-- `_missing_context` -/
def missingContext (verified : VerifiedContext) : List Text :=
  match plugin.action request.actionType with
  | none => []
  | some policy => policy.requiredContext.filter (fun p => !verified.providers.contains p)

/-- `_actionable_payload` -/
def actionablePayload (triggered : List PolicyRule) : JsonObject :=
  let payload := request.payload.setdefault (lit "proposed_action") (.str request.actionType) rfl
  let payload := match request.payload.find (lit "proposed_category") with
    | some category => payload.set (lit "suggested_category") category.val category.property
    | none => payload
  triggered.foldl (fun payload rule => payload.update rule.actionablePayload) payload

/-- `_approver_role` -/
def approverRole (triggered : List PolicyRule) : Text :=
  match (mostCriticalFirst triggered).findSome? (fun rule => Text.truthy rule.approverRole) with
  | some role => role
  | none =>
    ((plugin.action request.actionType).bind (fun action => Text.truthy action.approverRole)).getD
      plugin.approval.defaultRole

/-! ## 5. The stages -/

/-- The parts of a response that the stages change. -/
structure Verdict where
  decision : Decision
  auditFlags : List Text
  reason : Text

def firstVerdict (triggered : List PolicyRule) (gated : Bool) : Verdict where
  decision := finalDecision plugin request caller triggered gated
  auditFlags := auditFlags plugin request triggered gated
  reason := reason plugin request (finalDecision plugin request caller triggered gated) triggered
    gated

def contextRejected : Text := .lit "signed_context_rejected"

def contextMissing : Text := .lit "verified_context_missing"

def unauthenticated : Text := .lit "unauthenticated_caller"

def signingFailed : Text := .lit "passport_signing_failed"

/-- Rejected context is flagged, and missing context raises the decision to `CONFIRM`. -/
def requireContext (verified : VerifiedContext) (v : Verdict) : Verdict :=
  let missing := missingContext plugin request verified
  let flags := v.auditFlags ++ if verified.rejected = [] then [] else [contextRejected]
  if missing = [] then { v with auditFlags := flags }
  else if v.decision < .confirm then
    { decision := .confirm
      auditFlags := flags ++ [contextMissing]
      reason := .lit "This action needs verified context from " ++ Text.join (.lit ", ") missing ++
        .lit (", which was missing or invalid. Confirmation is required before execution.") }
  else { v with auditFlags := flags ++ [contextMissing] }

/-- `ALLOW` needs an authenticated caller. -/
def requireCaller (v : Verdict) : Verdict :=
  if v.decision = .allow ∧ caller.authenticated = false then
    { decision := .confirm
      auditFlags := v.auditFlags ++ [unauthenticated]
      reason := .lit
        "The caller is not authenticated. Confirmation is required before execution." }
  else v

/-- The decision before signing. -/
def unsignedVerdict (verified : VerifiedContext) (triggered : List PolicyRule) (gated : Bool) :
    Verdict :=
  requireCaller caller (requireContext plugin request verified
    (firstVerdict plugin request caller triggered gated))

/-- The arguments of `sign_decision`. -/
def passportGrant (triggered : List PolicyRule) : DecisionGrant where
  executionId := request.executionId
  appId := request.appId
  tenantId := request.tenantId
  decision := .allow
  actionType := request.actionType
  actionablePayload := actionablePayload request triggered
  clientId := caller.clientId
  policy := plugin.versionLabel
  jti := none
  approval := none

/-- The arguments of `sign_approval_ticket`. -/
def challengeGrant (triggered : List PolicyRule) (decision : Decision) : TicketGrant where
  executionId := request.executionId
  appId := request.appId
  tenantId := request.tenantId
  pluginId := request.pluginId
  policy := plugin.versionLabel
  decision := decision
  actionType := request.actionType
  actionablePayload := actionablePayload request triggered
  clientId := caller.clientId
  requiredRole := approverRole plugin request triggered
  userId := request.userId
  agentId := request.agent.map AgentIdentity.id
  ttlSeconds := plugin.approval.ticketTtlSeconds

section Signing

variable (sha : Sha256) (keys : KeyManager) (now : Clock) (uuid : Text)

/-- A Passport, for an `ALLOW` that is not a shadow evaluation. -/
def signPassport (triggered : List PolicyRule) (v : Verdict) : Verdict × Option (Token × Text) :=
  if v.decision = .allow ∧ request.shadowMode = false then
    match signDecision sha keys now uuid (passportGrant plugin request caller triggered) with
    | .ok passport => (v, some passport)
    | .error _ =>
      ({ decision := .confirm
         auditFlags := v.auditFlags ++ [signingFailed]
         reason := .lit
           "AXG could not issue a passport. Confirmation is required before execution." }, none)
  else (v, none)

/-- An approval ticket, for a `CONFIRM` or a `SUGGEST` of an authenticated caller. -/
def approvalChallenge (triggered : List PolicyRule) (v : Verdict) : Option ApprovalChallenge :=
  if (v.decision = .confirm ∨ v.decision = .suggest) ∧ caller.authenticated = true ∧
      request.shadowMode = false ∧ signingFailed ∉ v.auditFlags then
    (signApprovalTicket sha keys now uuid
      (challengeGrant plugin request caller triggered v.decision)).toOption
  else none

/-- The response, on the rules that triggered. -/
def respond (verified : VerifiedContext) (triggered : List PolicyRule) (gated : Bool) :
    DecisionResponse :=
  let signed := signPassport plugin request caller sha keys now uuid triggered
    (unsignedVerdict plugin request caller verified triggered gated)
  { executionId := request.executionId
    pluginVersion := plugin.versionLabel
    decision := signed.1.decision
    passport := signed.2.map Prod.fst
    passportId := signed.2.map Prod.snd
    scores := scores plugin request triggered gated
    actionablePayload := actionablePayload request triggered
    reason := signed.1.reason
    auditFlags := signed.1.auditFlags
    rulesTriggered := triggered.map (fun rule => ⟨rule.id, rule.decision, rule.reason⟩)
    shadowMode := request.shadowMode
    metadata := request.metadata
    approval := approvalChallenge plugin request caller sha keys now uuid triggered signed.1
    verifiedContext := sortedBy Text.str verified.providers }

end Signing

end Policy

/-! ## 6. `decide` -/

section Decide

variable (request : DecisionRequest)

/-- The situation of a decision that names none: its first flag, else the decision. -/
def defaultSituation (response : DecisionResponse) : Text :=
  match response.auditFlags with
  | flag :: _ => flag
  | [] =>
    match response.decision with
    | .allow => .lit "allow"
    | .suggest => .lit "suggest"
    | .confirm => .lit "confirm"
    | .block => .lit "block"

/-- `v or default` -/
def orDefault (v : Option Json) (default : Text) : Json :=
  match v with
  | none => .str default
  | some v => if v.truthy then v else .str default

/-- `get_decision_log` -/
def decisionLog (response : DecisionResponse) : Json :=
  .obj [strClaim "service" (lit "axg"), strClaim "component" (lit "decision_engine"),
    strClaim "event" (lit "axg.decision.evaluated"),
    (lit "flow", orDefault (request.metadata.get "flow")
      (request.source ++ .lit ":" ++ request.actionType)),
    (lit "situation", orDefault (request.metadata.get "situation") (defaultSituation response)),
    strClaim "execution_id" response.executionId, strClaim "tenant_id" request.tenantId,
    strClaim "app_id" request.appId, strClaim "plugin_id" request.pluginId,
    strClaim "plugin_version" response.pluginVersion, strClaim "source" request.source,
    strClaim "action_type" request.actionType, strClaim "decision" response.decision.value,
    (lit "llm_confidence", response.scores.llmConfidence.json),
    (lit "final_confidence", response.scores.finalConfidence.json),
    (lit "risk_score", response.scores.riskScore.json),
    strClaim "risk_level" response.scores.riskLevel.value,
    (lit "uncertainty_score", response.scores.uncertaintyScore.json),
    (lit "shadow_mode", .bool response.shadowMode),
    (lit "audit_flags", textList response.auditFlags),
    (lit "rules_triggered", textList (response.rulesTriggered.map TriggeredRule.id))]

/-- `logger.info(json.dumps(log, sort_keys=True))`, and the response. -/
def logged (response : DecisionResponse) : Except PyError DecisionResponse := do
  let _ ← dumpsAscii [0x20] (decisionLog request response).sortKeys
  return response

/-- `_fail_safe`, for the text of a `PluginLoadError`. -/
def failSafe (message : Text) : DecisionResponse where
  executionId := request.executionId
  pluginVersion := request.pluginId ++ .lit "@unavailable"
  decision := .confirm
  passport := none
  passportId := none
  scores :=
    { llmConfidence := request.llm.confidence
      finalConfidence := ⟨0, Score.zero_nonneg, Score.zero_le⟩
      riskScore := ⟨1, Score.zero_le, Score.one_le⟩
      riskLevel := .high
      uncertaintyScore := ⟨1, Score.zero_le, Score.one_le⟩ }
  actionablePayload := .empty
  reason := .lit "AXG failed safe: " ++ message
  auditFlags := [.lit "plugin_load_failed"]
  rulesTriggered := []
  shadowMode := false
  metadata := request.metadata
  approval := none
  verifiedContext := []

variable (py : Interpreter) (sha : Sha256) (keys : KeyManager) (caller : Caller) (now : Clock)
  (uuid : Text)

/-- `_evaluate`, with the policy loaded and the signed context verified. -/
def evaluate (plugin : Plugin) (verified : VerifiedContext) : Except PyError DecisionResponse := do
  let triggered ← evaluateRules py (ruleData request verified) plugin.rules
  let gated ← isGatedWrite plugin.uncertaintyGate request
  logged request (respond plugin request caller sha keys now uuid verified triggered gated)

/-- `decide`.  `loaded` is what the loader returned, or the text of its `PluginLoadError`;
`verified` is what the verification of the signed context returned, or the exception that left
it. -/
def decide (loaded : Except Text Plugin) (verified : Except PyError VerifiedContext) :
    Except PyError DecisionResponse :=
  match loaded with
  | .error message => logged request (failSafe request message)
  | .ok plugin => do
    let verified ← verified
    evaluate request py sha keys caller now uuid plugin verified

end Decide

end Axg
