/-
# The record of a decision, and the line it becomes

`POST /v1/decisions` runs `decide` and then `get_execution_record`, and the sink is given the dump
of the record.  Each of the three has its own idea of which values it takes.  A rule's comparison
raises on an integer past the largest double, the gate on a list where it looks for an action, the
record on a payload that has no canonical hash; and the sink hashes the record with the metadata
in it, where it swallows what is raised.  The two main results say on which requests the decision
is answered (`decisions_total_iff`), and which records become a line (`audited_iff`).
-/
import Axg.AuditLog
import Axg.Challenges
import Axg.SignedContext

namespace Axg

open Python

/-! ## 1. Records -/

/-- `ExecutionRecord`, with the fields that a decision sets. -/
structure ExecutionRecord where
  executionId : Text
  tenantId : Text
  appId : Text
  pluginId : Text
  source : Text
  requestedBy : Option Text
  agentId : Option Text
  inputHash : Str
  actionType : Text
  proposalModel : Option Text
  proposalConfidence : Score
  intentFallbackUsed : Bool
  decision : Decision
  policy : Text
  riskScore : Score
  riskLevel : RiskLevel
  rulesTriggered : List Text
  auditFlags : List Text
  passportId : Option Text
  humanConfirmationRequired : Bool
  shadowMode : Bool
  verifiedContext : List Text
  createdAt : Text
  metadata : JsonObject
  traceId : Option Text

/-- `get_execution_record`, at a time and in a trace. -/
def getExecutionRecord (sha : Sha256) (request : DecisionRequest) (response : DecisionResponse)
    (createdAt : Text) (traceId : Option Text) : Except PyError ExecutionRecord := do
  let agentId := request.agent.map AgentIdentity.id
  let inputHash ← hashPayload sha request.payload
  return {
    executionId := request.executionId
    tenantId := request.tenantId
    appId := request.appId
    pluginId := request.pluginId
    source := request.source
    requestedBy := (Text.truthy request.userId).or agentId
    agentId := agentId
    inputHash := inputHash
    actionType := request.actionType
    proposalModel := request.llm.model
    proposalConfidence := request.llm.confidence
    intentFallbackUsed := isFallbackUsed request
    decision := response.decision
    policy := response.pluginVersion
    riskScore := response.scores.riskScore
    riskLevel := response.scores.riskLevel
    rulesTriggered := response.rulesTriggered.map TriggeredRule.id
    auditFlags := response.auditFlags
    passportId := response.passportId
    humanConfirmationRequired := response.decision == .confirm
    shadowMode := request.shadowMode
    verifiedContext := response.verifiedContext
    createdAt := createdAt
    metadata := response.metadata
    traceId := traceId }

/-- `record.model_dump(mode="json")` -/
def ExecutionRecord.dump (r : ExecutionRecord) : Dict Json :=
  [strClaim "schema_version" (lit "axg.execution_record.v2"),
    strClaim "execution_id" r.executionId, strClaim "tenant_id" r.tenantId,
    strClaim "app_id" r.appId, strClaim "plugin_id" r.pluginId, strClaim "source" r.source,
    (lit "requested_by", optionalText r.requestedBy), (lit "agent_id", optionalText r.agentId),
    strClaim "input_hash" r.inputHash, strClaim "action_type" r.actionType,
    (lit "proposal_model", optionalText r.proposalModel),
    (lit "proposal_confidence", r.proposalConfidence.json),
    (lit "intent_fallback_used", .bool r.intentFallbackUsed),
    strClaim "decision" r.decision.value, strClaim "policy" r.policy,
    (lit "risk_score", r.riskScore.json), strClaim "risk_level" r.riskLevel.value,
    (lit "rules_triggered", textList r.rulesTriggered), (lit "audit_flags", textList r.auditFlags),
    (lit "passport_id", optionalText r.passportId),
    (lit "human_confirmation_required", .bool r.humanConfirmationRequired),
    (lit "shadow_mode", .bool r.shadowMode),
    (lit "verified_context", textList r.verifiedContext),
    strClaim "execution_status" (lit "pending"), (lit "execution_result", .null),
    (lit "error", .null), strClaim "created_at" r.createdAt, (lit "metadata", r.metadata.json),
    (lit "trace_id", optionalText r.traceId)]

/-- `ApprovalRecord.outcome` -/
def Outcome.recorded : Outcome → Text
  | approve => .lit "approved"
  | deny => .lit "denied"

/-- `record.model_dump(mode="json")` -/
def ApprovalRecord.dump (r : ApprovalRecord) : Dict Json :=
  [strClaim "schema_version" (lit "axg.approval_record.v1"),
    strClaim "execution_id" r.executionId, strClaim "tenant_id" r.tenantId,
    strClaim "app_id" r.appId, strClaim "action_type" r.actionType, strClaim "policy" r.policy,
    strClaim "ticket_id" r.ticketId, strClaim "payload_hash" r.payloadHash,
    strClaim "approver_id" r.approverId, strClaim "approver_role" r.approverRole,
    strClaim "outcome" r.outcome.recorded, strClaim "client_id" r.clientId,
    (lit "passport_id", optionalText r.passportId), strClaim "created_at" r.createdAt,
    (lit "trace_id", optionalText r.traceId)]

/-! ## 2. The answer -/

/-- `scores.model_dump()` -/
def DecisionScores.dump (scores : DecisionScores) : Json :=
  .obj [(lit "llm_confidence", scores.llmConfidence.json),
    (lit "final_confidence", scores.finalConfidence.json),
    (lit "risk_score", scores.riskScore.json), strClaim "risk_level" scores.riskLevel.value,
    (lit "uncertainty_score", scores.uncertaintyScore.json)]

def TriggeredRule.dump (rule : TriggeredRule) : Json :=
  .obj [strClaim "id" rule.id, strClaim "decision" rule.decision.value,
    strClaim "reason" rule.reason]

section

variable (compact : Token → Text)

def ApprovalChallenge.dump (challenge : ApprovalChallenge) : Json :=
  .obj [strClaim "ticket" (compact challenge.ticket), strClaim "ticket_id" challenge.ticketId,
    strClaim "required_role" challenge.requiredRole, (lit "expires_at", .int challenge.expiresAt)]

/-- `response.model_dump(mode="json")`, with the compact text of its tokens. -/
def DecisionResponse.dump (r : DecisionResponse) : Dict Json :=
  [strClaim "schema_version" (lit "axg.decision_response.v1"),
    strClaim "execution_id" r.executionId, strClaim "plugin_version" r.pluginVersion,
    strClaim "decision" r.decision.value, (lit "passport", optionalText (r.passport.map compact)),
    (lit "passport_id", optionalText r.passportId), (lit "scores", r.scores.dump),
    (lit "actionable_payload", r.actionablePayload.json), strClaim "reason" r.reason,
    (lit "audit_id", .null), (lit "audit_flags", textList r.auditFlags),
    (lit "rules_triggered", .arr (r.rulesTriggered.map TriggeredRule.dump)),
    (lit "shadow_mode", .bool r.shadowMode), (lit "metadata", r.metadata.json),
    (lit "approval", (r.approval.map (ApprovalChallenge.dump compact)).getD .null),
    (lit "verified_context", textList r.verifiedContext)]

end

/-- No float of the value is an infinity or a `NaN`. -/
def hasFiniteFloats : Json → Bool :=
  Json.every
    (fun
      | .float (.finite _ _) => true
      | .float _ => false
      | _ => true)
    (fun _ => true)

/-- `JSONResponse.render`: the body of an answer. -/
def renderResponse (content : Json) : Except PyError Str :=
  if content.hasShortInts = true ∧ hasFiniteFloats content = true then
    encodeUtf8 (content.doc.render .plain [])
  else .error .valueError

/-! ## 3. The sink -/

/-- The hash that `record` goes on from. -/
def lastHashOr (file : Option Str) (lastHash : Option Json) : Except PyError Json :=
  match lastHash with
  | some prev => .ok prev
  | none => readLastHash file

/-- The text that a call of `record` appends, or what it raises before it opens the file. -/
def appended (sha : Sha256) (file : Option Str) (lastHash : Option Json) (decisionLog : Dict Json)
    (timestamp : Timestamp) : Except PyError Str := do
  let prev ← lastHashOr file lastHash
  let entry ← chainedEntry sha decisionLog timestamp prev
  entryLine entry

/-- `FileAuditSink.record`, where the file opens and is written: the file after the call.  What the
call raises is logged. -/
def recordTo (sha : Sha256) (file : Option Str) (lastHash : Option Json) (decisionLog : Dict Json)
    (timestamp : Timestamp) : Option Str :=
  match appended sha file lastHash decisionLog timestamp with
  | .ok line => some (file.getD [] ++ line)
  | .error _ => file

/-! ## 4. What is text and what has a hash -/

theorem isText_iff {v : Json} :
    v.isText = true ↔ hasFiniteFloats v = true ∧ ∀ s ∈ v.strings, IsScalar s := by
  induction v using Json.inductValue with
  | null => simp [Json.isText, hasFiniteFloats, Json.every, Json.strings]
  | bool b => simp [Json.isText, hasFiniteFloats, Json.every, Json.strings]
  | int i => simp [Json.isText, hasFiniteFloats, Json.every, Json.strings]
  | float x => cases x <;> simp [Json.isText, hasFiniteFloats, Json.every, Json.strings]
  | str s => simp [Json.isText, hasFiniteFloats, Json.every, Json.strings]
  | arr xs ih =>
    rw [Json.isText, hasFiniteFloats, Json.every_arr, Json.every_arr]
    simp only [Json.mem_strings_arr, forall_exists_index, and_imp]
    constructor
    · intro ht
      have hall := fun v hv => (ih v hv).mp (ht v hv)
      exact ⟨fun v hv => (hall v hv).1, fun s v hv hs => (hall v hv).2 s hs⟩
    · rintro ⟨hf, hs⟩ v hv
      exact (ih v hv).mpr ⟨hf v hv, fun s h => hs s v hv h⟩
  | obj ms ih =>
    rw [Json.isText, hasFiniteFloats, Json.every_obj, Json.every_obj, decide_eq_true_iff]
    simp only [Json.mem_strings_obj, forall_exists_index, and_imp, true_and]
    constructor
    · rintro ⟨hk, ht⟩
      have hall := fun p hp => (ih p hp).mp (ht p hp)
      refine ⟨fun p hp => (hall p hp).1, fun s p hp hs => ?_⟩
      rcases hs with rfl | hs
      · exact hk _ (List.mem_map_of_mem hp)
      · exact (hall p hp).2 s hs
    · rintro ⟨hf, hs⟩
      refine ⟨fun k hk => ?_, fun p hp => (ih p hp).mpr ⟨hf p hp, fun s h => hs s p hp (.inr h)⟩⟩
      obtain ⟨p, hp, rfl⟩ := List.mem_map.mp hk
      exact hs _ p hp (.inl rfl)

/-- What is sent: text, with integers that are not too long to print. -/
theorem renderResponse_isOk_iff {content : Json} :
    (∃ body, renderResponse content = .ok body) ↔
      content.hasShortInts = true ∧ content.isText = true := by
  have hscalar : content.hasShortInts = true →
      (IsScalar (content.doc.render .plain []) ↔ ∀ s ∈ content.strings, IsScalar s) := by
    intro hshort
    simp only [isScalar_iff_allChars]
    rw [allChars_render charTest_surrogate allChars_nil _ (Json.doc_ok hshort)]
    exact forall_congr' (fun s => imp_congr Json.mem_strings_doc Iff.rfl)
  unfold renderResponse
  rw [isText_iff]
  constructor
  · rintro ⟨body, h⟩
    split at h
    · rename_i hc
      exact ⟨hc.1, hc.2, (hscalar hc.1).mp (encodeUtf8_eq_ok h).1⟩
    · cases h
  · rintro ⟨hshort, hfinite, hstrings⟩
    rw [if_pos ⟨hshort, hfinite⟩]
    exact ⟨_, encodeUtf8_of_isScalar ((hscalar hshort).mpr hstrings)⟩

/-- The value has a canonical hash. -/
def Hashable (v : Json) : Prop := v.isText = true ∧ v.hasDoubles = true

theorem hashable_obj_iff {ms : Dict Json} :
    Hashable (.obj ms) ↔ (∀ k ∈ Dict.keys ms, IsScalar k) ∧ ∀ p ∈ ms, Hashable p.2 := by
  rw [Hashable, Json.isText, Json.hasDoubles, Json.every_obj, Json.every_obj, decide_eq_true_iff]
  constructor
  · rintro ⟨⟨hk, ht⟩, -, hd⟩
    exact ⟨hk, fun p hp => ⟨ht p hp, hd p hp⟩⟩
  · rintro ⟨hk, h⟩
    exact ⟨⟨hk, fun p hp => (h p hp).1⟩, rfl, fun p hp => (h p hp).2⟩

theorem hashable_str {s : Str} : Hashable (.str s) ↔ IsScalar s := by
  simp [Hashable, Json.isText, Json.hasDoubles, Json.every]

theorem Text.hashable (t : Text) : Hashable (.str t) := hashable_str.mpr t.isScalar

theorem hashable_null : Hashable .null := ⟨rfl, rfl⟩

theorem hashable_bool (b : Bool) : Hashable (.bool b) := ⟨rfl, rfl⟩

theorem hashable_lit (s : String) : Hashable (.str (lit s)) := hashable_str.mpr (isScalar_lit s)

theorem hashable_optionalText (t : Option Text) : Hashable (optionalText t) := by
  cases t with
  | none => exact hashable_null
  | some t => exact t.hashable

theorem hashable_textList (ts : List Text) : Hashable (textList ts) := by
  have hall : ∀ v ∈ ts.flatMap (fun t => [t.str]), IsScalar v := by
    intro v hv
    obtain ⟨t, -, ht⟩ := List.mem_flatMap.mp hv
    rw [List.mem_singleton.mp ht]
    exact t.isScalar
  have hitem : ∀ v ∈ (ts.flatMap (fun t => [t.str])).map Json.str, Hashable v := by
    intro v hv
    obtain ⟨s, hs, rfl⟩ := List.mem_map.mp hv
    exact hashable_str.mpr (hall s hs)
  exact ⟨Json.every_arr.mpr (fun v hv => (hitem v hv).1),
    Json.every_arr.mpr (fun v hv => (hitem v hv).2)⟩

theorem Score.hashable (s : Score) : Hashable s.json := by
  obtain ⟨m, hm⟩ := s.exists_toFloat
  rw [Score.json, hm]
  exact ⟨rfl, rfl⟩

theorem isScalar_keys {names : List String} {k : Str} (h : k ∈ names.map lit) : IsScalar k := by
  obtain ⟨name, -, rfl⟩ := List.mem_map.mp h
  exact isScalar_lit name

/-- The field names of a record. -/
def ExecutionRecord.fields : List String :=
  ["schema_version", "execution_id", "tenant_id", "app_id", "plugin_id", "source", "requested_by",
    "agent_id", "input_hash", "action_type", "proposal_model", "proposal_confidence",
    "intent_fallback_used", "decision", "policy", "risk_score", "risk_level", "rules_triggered",
    "audit_flags", "passport_id", "human_confirmation_required", "shadow_mode",
    "verified_context", "execution_status", "execution_result", "error", "created_at", "metadata",
    "trace_id"]

def ApprovalRecord.fields : List String :=
  ["schema_version", "execution_id", "tenant_id", "app_id", "action_type", "policy", "ticket_id",
    "payload_hash", "approver_id", "approver_role", "outcome", "client_id", "passport_id",
    "created_at", "trace_id"]

theorem ExecutionRecord.keys_dump (r : ExecutionRecord) :
    Dict.keys r.dump = ExecutionRecord.fields.map lit := rfl

theorem ApprovalRecord.keys_dump (r : ApprovalRecord) :
    Dict.keys r.dump = ApprovalRecord.fields.map lit := rfl

/-- Only its metadata can keep a record from having a hash. -/
theorem ExecutionRecord.hashable_dump_iff {r : ExecutionRecord} (h : IsScalar r.inputHash) :
    Hashable (.obj r.dump) ↔ Hashable r.metadata.json := by
  rw [hashable_obj_iff, r.keys_dump]
  constructor
  · rintro ⟨-, hp⟩
    exact hp (lit "metadata", r.metadata.json) (by simp [dump])
  · intro hmeta
    refine ⟨fun k hk => isScalar_keys hk, ?_⟩
    simp only [dump, strClaim, List.forall_mem_cons, List.not_mem_nil, false_implies,
      implies_true, and_true]
    exact ⟨hashable_lit _, r.executionId.hashable, r.tenantId.hashable, r.appId.hashable,
      r.pluginId.hashable, r.source.hashable, hashable_optionalText _, hashable_optionalText _,
      hashable_str.mpr h, r.actionType.hashable, hashable_optionalText _, Score.hashable _,
      hashable_bool _, Text.hashable _, r.policy.hashable, Score.hashable _, Text.hashable _,
      hashable_textList _, hashable_textList _, hashable_optionalText _, hashable_bool _,
      hashable_bool _, hashable_textList _, hashable_lit _, hashable_null, hashable_null,
      r.createdAt.hashable, hmeta, hashable_optionalText _⟩

theorem ApprovalRecord.hashable_dump {r : ApprovalRecord} (h : IsScalar r.payloadHash) :
    Hashable (.obj r.dump) := by
  rw [hashable_obj_iff, r.keys_dump]
  refine ⟨fun k hk => isScalar_keys hk, ?_⟩
  simp only [dump, strClaim, List.forall_mem_cons, List.not_mem_nil, false_implies, implies_true,
    and_true]
  exact ⟨hashable_lit _, r.executionId.hashable, r.tenantId.hashable, r.appId.hashable,
    r.actionType.hashable, r.policy.hashable, r.ticketId.hashable, hashable_str.mpr h,
    r.approverId.hashable, r.approverRole.hashable, Text.hashable _, r.clientId.hashable,
    hashable_optionalText _, r.createdAt.hashable, hashable_optionalText _⟩

theorem DecisionResponse.isText_metadata {compact : Token → Text} {r : DecisionResponse}
    (h : (Json.obj (r.dump compact)).isText = true) : r.metadata.json.isText = true := by
  rw [Json.isText, Json.every_obj] at h
  exact h.2 (lit "metadata", r.metadata.json) (by simp [dump])

/-! ## 5. One line a record -/

section

variable {sha : Sha256} {file : Option Str} {lastHash : Option Json} {d : Dict Json}
  {timestamp : Timestamp}

variable (sha file lastHash d timestamp) in
/-- The call of `record` appends one line to the file. -/
def Appends : Prop :=
  ∃ text, (0x0A : CodePoint) ∉ text ∧
    recordTo sha file lastHash d timestamp = some (file.getD [] ++ text ++ [0x0A])

variable (file lastHash) in
/-- The sink has a last hash to go on from, or can read one, and it has a hash itself: a file may
end with a line of somebody else, whose `record_hash` is any JSON value. -/
def CanContinue : Prop := ∃ prev, lastHashOr file lastHash = .ok prev ∧ Hashable prev

/-- None of the keys is one that the sink sets. -/
def Fresh (d : Dict Json) : Prop :=
  timestampKey ∉ Dict.keys d ∧ prevHashKey ∉ Dict.keys d ∧ recordHashKey ∉ Dict.keys d

theorem ExecutionRecord.fresh_dump (r : ExecutionRecord) : Fresh r.dump := by
  rw [Fresh, r.keys_dump]
  decide +kernel

theorem ApprovalRecord.fresh_dump (r : ApprovalRecord) : Fresh r.dump := by
  rw [Fresh, r.keys_dump]
  decide +kernel

theorem Fresh.stamped_eq (h : Fresh d) (prev : Json) :
    stamped d timestamp prev = d ++ [(timestampKey, .str timestamp.text), (prevHashKey, prev)] := by
  rw [stamped, Dict.set_of_not_mem _ h.1, Dict.set_of_not_mem, List.append_assoc]
  · rfl
  · simp only [Dict.keys, List.map_append, List.map_cons, List.map_nil, List.mem_append,
      List.mem_singleton, not_or]
    exact ⟨h.2.1, by decide⟩

theorem Fresh.keys_stamped (h : Fresh d) (prev : Json) :
    Dict.keys (stamped d timestamp prev) = Dict.keys d ++ [timestampKey, prevHashKey] := by
  rw [h.stamped_eq]
  simp [Dict.keys]

theorem Fresh.recordHashKey_notMem (h : Fresh d) (prev : Json) :
    recordHashKey ∉ Dict.keys (stamped d timestamp prev) := by
  rw [h.keys_stamped]
  simp only [List.mem_append, List.mem_cons, List.not_mem_nil, or_false, not_or]
  exact ⟨h.2.2, by decide, by decide⟩

theorem Fresh.hashable_stamped_iff (h : Fresh d) {prev : Json} :
    Hashable (.obj (stamped d timestamp prev)) ↔ Hashable (.obj d) ∧ Hashable prev := by
  rw [hashable_obj_iff, hashable_obj_iff, h.keys_stamped, h.stamped_eq]
  simp only [List.mem_append, List.mem_cons, List.not_mem_nil, or_false, or_imp, forall_and,
    forall_eq]
  constructor
  · rintro ⟨⟨hk, -⟩, hp, -, hprev⟩
    exact ⟨⟨hk, hp⟩, hprev⟩
  · rintro ⟨⟨hk, hp⟩, hprev⟩
    have htime := isScalar_of_ascii ascii_lt timestamp.allChars
    exact ⟨⟨hk, keys_isScalar.1, keys_isScalar.2.1⟩, hp, hashable_str.mpr htime, hprev⟩

theorem without_of_notMem {e : Dict Json} {k : Str} (h : k ∉ Dict.keys e) : e.without k = e := by
  refine List.filter_eq_self.mpr (fun p hp => ?_)
  rw [decide_eq_true_iff]
  rintro rfl
  exact h (List.mem_map_of_mem hp)

/-- What has a chain hash is what has a hash. -/
theorem Fresh.chainHash_isOk_iff (h : Fresh d) {prev : Json} :
    (∃ hash, chainHash sha (stamped d timestamp prev) = .ok hash) ↔
      Hashable (.obj d) ∧ Hashable prev := by
  rw [chainHash, without_of_notMem (h.recordHashKey_notMem prev), canonicalHash_isOk_iff,
    ← h.hashable_stamped_iff]
  rfl

/-- The entry of a record with a hash has a text, of one line. -/
theorem Fresh.entryLine_eq (h : Fresh d) {prev : Json} {hash : Str}
    (hc : chainHash sha (stamped d timestamp prev) = .ok hash) :
    ∃ text, (0x0A : CodePoint) ∉ text ∧
      entryLine ((stamped d timestamp prev).set recordHashKey (.str hash)) =
        .ok (text ++ [0x0A]) := by
  obtain ⟨hd, hprev⟩ := h.chainHash_isOk_iff.mp ⟨hash, hc⟩
  have hstamped : Hashable (.obj (stamped d timestamp prev)) :=
    h.hashable_stamped_iff.mpr ⟨hd, hprev⟩
  have hshort : (Json.obj ((stamped d timestamp prev).set recordHashKey (.str hash))).hasShortInts
      = true := by
    refine hasShortInts_of_hasDoubles ?_
    rw [Dict.set_of_not_mem _ (h.recordHashKey_notMem prev), Json.hasDoubles, Json.every_obj]
    refine ⟨rfl, fun p hp => ?_⟩
    rcases List.mem_append.mp hp with hp | hp
    · exact ((hashable_obj_iff.mp hstamped).2 p hp).2
    · rw [List.mem_singleton.mp hp]; rfl
  refine ⟨_, ?_, Axg.entryLine_eq hshort⟩
  intro hmem
  have := isRawBreak_of_mem_entryText hshort hmem (by decide)
  revert this
  decide

theorem Fresh.appended_isOk_iff (h : Fresh d) :
    (∃ line, appended sha file lastHash d timestamp = .ok line) ↔
      CanContinue file lastHash ∧ Hashable (.obj d) := by
  constructor
  · rintro ⟨line, hl⟩
    obtain ⟨prev, hprev, hl⟩ := bind_eq_ok hl
    obtain ⟨entry, he, -⟩ := bind_eq_ok hl
    obtain ⟨hash, hhash, -⟩ := bind_eq_ok he
    obtain ⟨hd, hp⟩ := h.chainHash_isOk_iff.mp ⟨hash, hhash⟩
    exact ⟨⟨prev, hprev, hp⟩, hd⟩
  · rintro ⟨⟨prev, hprev, hp⟩, hd⟩
    obtain ⟨hash, hhash⟩ := (@Fresh.chainHash_isOk_iff sha d timestamp h prev).mpr
      ⟨hd, hp⟩
    obtain ⟨text, -, htext⟩ := h.entryLine_eq hhash
    refine ⟨text ++ [0x0A], ?_⟩
    rw [appended, hprev, ok_bind, chainedEntry, hhash]
    exact htext

/-- What the sink makes of a record: one line exactly when it can go on and the record has a
hash. -/
theorem Fresh.appends_iff (h : Fresh d) :
    Appends sha file lastHash d timestamp ↔ CanContinue file lastHash ∧ Hashable (.obj d) := by
  rw [← @Fresh.appended_isOk_iff sha file lastHash d timestamp h]
  constructor
  · rintro ⟨text, -, hr⟩
    unfold recordTo at hr
    split at hr
    · rename_i line hl
      exact ⟨line, hl⟩
    · -- the file is as it was, and so has no line more
      cases file with
      | none => cases hr
      | some f =>
        simp only [Option.getD_some, Option.some.injEq] at hr
        have := congrArg List.length hr
        simp at this
  · rintro ⟨line, hl⟩
    obtain ⟨prev, -, hentry⟩ := bind_eq_ok hl
    obtain ⟨entry, he, hline⟩ := bind_eq_ok hentry
    obtain ⟨hash, hhash, hset⟩ := bind_eq_ok he
    cases hset
    obtain ⟨text, hno, htext⟩ := h.entryLine_eq hhash
    refine ⟨text, hno, ?_⟩
    rw [recordTo, hl]
    cases htext.symm.trans hline
    rw [List.append_assoc]

end

/-! ## 6. Requests that are answered -/

/-- What a running engine works with: the interpreter, its libraries, its keys, and the settings
for signed context. -/
structure Deployment where
  py : Interpreter
  sha : Sha256
  keys : KeyManager
  service : TokenService
  providers : Str
  audience : Str

section

variable (deployed : Deployment) (request : DecisionRequest) (caller : Caller) (now : Clock)
  (loaded : Except Text Plugin) (tokens : List Presented) (context : CallContext)

/-- `_verified_context`, with the tokens of `signed_context` as they are decoded. -/
def verifiedContext : Except PyError VerifiedContext :=
  verifySignedContext deployed.service request.tenantId (request.userId.map Text.str) deployed.py
    deployed.providers deployed.audience tokens

/-- `create_decision`, past the checks of the caller: the decision and then its record. -/
def createDecision : Except PyError (DecisionResponse × ExecutionRecord) := do
  let response ← decide request deployed.py deployed.sha deployed.keys caller now context.uuid
    loaded (verifiedContext deployed request tokens)
  let record ← getExecutionRecord deployed.sha request response context.createdAt context.traceId
  return (response, record)

/-- The request is answered and recorded.  A Passport that cannot be signed makes the decision
`CONFIRM`, and a ticket that cannot be signed is left out. -/
structure Answers : Prop where
  returns : ∃ response record,
    createDecision deployed request caller now loaded tokens context = .ok (response, record)
  unsigned : ∀ response plugin verified triggered gated, loaded = .ok plugin →
    verifiedContext deployed request tokens = .ok verified →
    Evaluated request deployed.py deployed.sha deployed.keys caller now context.uuid plugin
      verified triggered gated response →
    (unsignedVerdict plugin request caller verified triggered gated).decision = .allow →
    request.shadowMode = false →
    (signDecision deployed.sha deployed.keys now context.uuid
      (passportGrant plugin request caller triggered)).isOk = false →
    response.decision = .confirm ∧ response.passport = none
  unticketed : ∀ response plugin verified triggered gated, loaded = .ok plugin →
    verifiedContext deployed request tokens = .ok verified →
    Evaluated request deployed.py deployed.sha deployed.keys caller now context.uuid plugin
      verified triggered gated response →
    (signApprovalTicket deployed.sha deployed.keys now context.uuid
      (challengeGrant plugin request caller triggered response.decision)).isOk = false →
    response.approval = none

/-- A value that Python cannot look up in a set. -/
def isUnhashable : Option Json → Bool
  | some (.arr _) => true
  | some (.obj _) => true
  | _ => false

/-- The rules and the gate of the policy take the request. -/
structure Evaluable (plugin : Plugin) (verified : VerifiedContext) : Prop where
  rules : ∀ c ∈ reachedConditions deployed.py (ruleData request verified) plugin.rules,
    raises deployed.py (ruleData request verified) c = false
  gate : request.actionType ∈ plugin.uncertaintyGate.actions ∨
    isUnhashable (request.payload.get "proposed_action") = false ∧
      ((∃ action ∈ plugin.uncertaintyGate.actions,
          request.payload.get "proposed_action" = some (.str action.str)) ∨
        isUnhashable (request.intent.get "resolved") = false)

/-- Every value of the request is one that the code which reads it takes.  Nothing is asked of
the values that are only passed on, and nothing of the policy where it does not load. -/
structure Answerable : Prop where
  policy : ∀ plugin, loaded = .ok plugin →
    ContextReadable deployed.service deployed.py deployed.providers deployed.audience tokens ∧
      ∀ verified, verifiedContext deployed request tokens = .ok verified →
        Evaluable deployed request plugin verified
  log : request.Loggable
  payload : Hashable request.payload.json

end

section

variable {deployed : Deployment} {request : DecisionRequest} {caller : Caller} {now : Clock}
  {loaded : Except Text Plugin} {tokens : List Presented} {context : CallContext}
  {plugin : Plugin} {verified : VerifiedContext} {triggered : List PolicyRule} {gated : Bool}
  {response : DecisionResponse} {record : ExecutionRecord}

theorem inSet_isOk_iff {actions : List Text} {v : Option Json} :
    (∃ b, inSet actions v = .ok b) ↔ isUnhashable v = false := by
  cases v with
  | none => simp [inSet, isUnhashable]
  | some v => cases v <;> simp [inSet, isUnhashable]

theorem inSet_eq_true_iff {actions : List Text} {v : Option Json} :
    inSet actions v = .ok true ↔ ∃ action ∈ actions, v = some (.str action.str) := by
  cases v with
  | none => simp [inSet]
  | some v =>
    cases v with
    | str s =>
      simp only [inSet, Except.ok.injEq, List.any_eq_true, decide_eq_true_eq, Option.some.injEq,
        Json.str.injEq]
      exact exists_congr (fun a => and_congr_right (fun _ => eq_comm))
    | _ => simp [inSet]

theorem isGatedWrite_isOk_iff {gate : UncertaintyGate} :
    (∃ gated, isGatedWrite gate request = .ok gated) ↔
      request.actionType ∈ gate.actions ∨
        isUnhashable (request.payload.get "proposed_action") = false ∧
          ((∃ action ∈ gate.actions,
              request.payload.get "proposed_action" = some (.str action.str)) ∨
            isUnhashable (request.intent.get "resolved") = false) := by
  unfold isGatedWrite
  by_cases haction : gate.actions.contains request.actionType = true
  · simp [List.contains_iff_mem.mp haction]
  have hnot : request.actionType ∉ gate.actions := fun h => haction (List.contains_iff_mem.mpr h)
  simp only [haction, Bool.false_eq_true, ↓reduceIte, hnot, false_or]
  constructor
  · rintro ⟨b, h⟩
    obtain ⟨proposed, hp, h⟩ := bind_eq_ok h
    refine ⟨inSet_isOk_iff.mp ⟨_, hp⟩, ?_⟩
    cases proposed with
    | true => exact .inl (inSet_eq_true_iff.mp hp)
    | false => exact .inr (inSet_isOk_iff.mp ⟨_, h⟩)
  · rintro ⟨hproposed, h⟩
    obtain ⟨proposed, hp⟩ := (@inSet_isOk_iff gate.actions _).mpr hproposed
    rw [hp, ok_bind]
    cases proposed with
    | true => exact ⟨true, rfl⟩
    | false =>
      rcases h with hnamed | hresolved
      · cases (inSet_eq_true_iff.mpr hnamed).symm.trans hp
      · exact inSet_isOk_iff.mpr hresolved

/-- The rules and the gate return exactly when they take the request. -/
theorem evaluable_iff :
    Evaluable deployed request plugin verified ↔
      (∃ triggered, evaluateRules deployed.py (ruleData request verified) plugin.rules =
          .ok triggered) ∧
        ∃ gated, isGatedWrite plugin.uncertaintyGate request = .ok gated := by
  have hrules : (∃ triggered, evaluateRules deployed.py (ruleData request verified) plugin.rules =
        .ok triggered) ↔
      ∀ c ∈ reachedConditions deployed.py (ruleData request verified) plugin.rules,
        raises deployed.py (ruleData request verified) c = false := by
    have hok := @evaluateRules_isOk deployed.py (ruleData request verified) plugin.rules
    constructor
    · rintro ⟨triggered, ht⟩
      rw [ht] at hok
      have hall := List.all_eq_true.mp hok.symm
      exact fun c hc => by simpa using hall c hc
    · intro hall
      refine exists_ok_of_isOk (hok.trans (List.all_eq_true.mpr (fun c hc => ?_)))
      rw [hall c hc]
      rfl
  rw [hrules, isGatedWrite_isOk_iff]
  exact ⟨fun h => ⟨h.rules, h.gate⟩, fun h => ⟨h.1, h.2⟩⟩

theorem getExecutionRecord_isOk_iff {createdAt : Text} {traceId : Option Text} :
    (∃ record, getExecutionRecord deployed.sha request response createdAt traceId = .ok record) ↔
      Hashable request.payload.json := by
  unfold getExecutionRecord
  have hash : (∃ h, hashPayload deployed.sha request.payload = .ok h) ↔
      Hashable request.payload.json := canonicalHash_isOk_iff
  rw [← hash]
  constructor
  · rintro ⟨record, h⟩
    obtain ⟨hash, hh, -⟩ := bind_eq_ok h
    exact ⟨hash, hh⟩
  · rintro ⟨h, hh⟩
    rw [hh]
    exact ⟨_, rfl⟩

/-- What a record keeps of the request and the response. -/
theorem getExecutionRecord_eq_ok {createdAt : Text} {traceId : Option Text}
    (h : getExecutionRecord deployed.sha request response createdAt traceId = .ok record) :
    hashPayload deployed.sha request.payload = .ok record.inputHash ∧
      record.metadata = response.metadata := by
  obtain ⟨hash, hh, h⟩ := bind_eq_ok h
  cases h
  exact ⟨hh, rfl⟩

theorem createDecision_eq_ok
    (h : createDecision deployed request caller now loaded tokens context =
      .ok (response, record)) :
    decide request deployed.py deployed.sha deployed.keys caller now context.uuid loaded
        (verifiedContext deployed request tokens) = .ok response ∧
      getExecutionRecord deployed.sha request response context.createdAt context.traceId =
        .ok record := by
  obtain ⟨r, hr, h⟩ := bind_eq_ok h
  obtain ⟨rec, hrec, h⟩ := bind_eq_ok h
  cases h
  exact ⟨hr, hrec⟩

theorem decide_isOk_iff {py : Interpreter} {sha : Sha256} {keys : KeyManager} {uuid : Text}
    {verify : Except PyError VerifiedContext} :
    (∃ response, decide request py sha keys caller now uuid loaded verify = .ok response) ↔
      request.Loggable ∧ ∀ plugin, loaded = .ok plugin →
        ∃ verified, verify = .ok verified ∧
          (∃ triggered, evaluateRules py (ruleData request verified) plugin.rules =
            .ok triggered) ∧
          ∃ gated, isGatedWrite plugin.uncertaintyGate request = .ok gated := by
  simp only [decide_eq_ok]
  constructor
  · rintro ⟨response, ⟨message, hl, -, hlog⟩ | ⟨plugin, verified, triggered, gated, hl, hv, he⟩⟩
    · refine ⟨hlog, fun plugin hp => ?_⟩
      cases hl.symm.trans hp
    · refine ⟨he.log, fun p hp => ?_⟩
      cases hl.symm.trans hp
      exact ⟨verified, hv, ⟨triggered, he.rules⟩, gated, he.gate⟩
  · rintro ⟨hlog, h⟩
    cases loaded with
    | error message => exact ⟨_, .inl ⟨message, rfl, rfl, hlog⟩⟩
    | ok plugin =>
      obtain ⟨verified, hv, ⟨triggered, ht⟩, gated, hg⟩ := h plugin rfl
      exact ⟨_, .inr ⟨plugin, verified, triggered, gated, rfl, hv, ht, hg, rfl, hlog⟩⟩

/-- What cannot be signed is confirmed without a Passport. -/
theorem Evaluated.confirm_of_unsigned {py : Interpreter} {sha : Sha256} {keys : KeyManager}
    {uuid : Text}
    (h : Evaluated request py sha keys caller now uuid plugin verified triggered gated response)
    (hallow : (unsignedVerdict plugin request caller verified triggered gated).decision = .allow)
    (hshadow : request.shadowMode = false)
    (hsign : (signDecision sha keys now uuid
      (passportGrant plugin request caller triggered)).isOk = false) :
    response.decision = .confirm ∧ response.passport = none := by
  have hdecision : response.decision = .confirm := by
    rw [h.eq, respond]
    simp only [signPassport_decision]
    rw [if_pos ⟨hallow, hshadow, hsign⟩]
  refine ⟨hdecision, ?_⟩
  rw [← Option.not_isSome_iff_eq_none, h.eq, respond_passport_isSome]
  rintro ⟨hd, -⟩
  rw [← h.eq, hdecision] at hd
  cases hd

/-- A ticket that cannot be signed is left out. -/
theorem Evaluated.approval_eq_none {py : Interpreter} {sha : Sha256} {keys : KeyManager}
    {uuid : Text}
    (h : Evaluated request py sha keys caller now uuid plugin verified triggered gated response)
    (hsign : (signApprovalTicket sha keys now uuid
      (challengeGrant plugin request caller triggered response.decision)).isOk = false) :
    response.approval = none := by
  cases hc : response.approval with
  | none => rfl
  | some challenge =>
    rw [h.signed_ticket hc] at hsign
    cases hsign

end

/-- A request is answered and recorded exactly when every value of it is one that its readers
take.  Each part of `Answerable` is about a reader that raises past the handlers: the signed
context, the conditions of the rules, the look-up in the set of gated writes, the text of the
log, and the hash of the payload for the record.  The Passport and the ticket are signed inside
one, and their failures are answers. -/
theorem decisions_total_iff (deployed : Deployment) (request : DecisionRequest) (caller : Caller)
    (now : Clock) (loaded : Except Text Plugin) (tokens : List Presented) (context : CallContext) :
    Answers deployed request caller now loaded tokens context ↔
      Answerable deployed request loaded tokens := by
  constructor
  · rintro ⟨⟨response, record, h⟩, -, -⟩
    obtain ⟨hdecide, hrecord⟩ := createDecision_eq_ok h
    obtain ⟨hlog, hpolicy⟩ := decide_isOk_iff.mp ⟨response, hdecide⟩
    refine ⟨fun plugin hl => ?_, hlog, getExecutionRecord_isOk_iff.mp ⟨record, hrecord⟩⟩
    obtain ⟨verified, hv, hevaluable⟩ := hpolicy plugin hl
    refine ⟨verifySignedContext_isOk_iff.mp ⟨verified, hv⟩, fun v hv' => ?_⟩
    cases hv.symm.trans hv'
    exact evaluable_iff.mpr hevaluable
  · intro h
    obtain ⟨response, hdecide⟩ : ∃ response, decide request deployed.py deployed.sha deployed.keys
        caller now context.uuid loaded (verifiedContext deployed request tokens) =
          .ok response := by
      refine decide_isOk_iff.mpr ⟨h.log, fun plugin hl => ?_⟩
      obtain ⟨hreadable, hevaluable⟩ := h.policy plugin hl
      obtain ⟨verified, hv⟩ := verifySignedContext_isOk_iff.mpr hreadable
      exact ⟨verified, hv, evaluable_iff.mp (hevaluable verified hv)⟩
    obtain ⟨record, hrecord⟩ := getExecutionRecord_isOk_iff.mpr h.payload
    refine ⟨⟨response, record, ?_⟩, ?_, ?_⟩
    · rw [createDecision, hdecide, ok_bind, hrecord]
      rfl
    · intro _ _ _ _ _ _ _ he hallow hshadow hsign
      exact he.confirm_of_unsigned hallow hshadow hsign
    · intro _ _ _ _ _ _ _ he hsign
      exact he.approval_eq_none hsign

/-- The response keeps the metadata of the request. -/
theorem metadata_of_decide {request : DecisionRequest} {py : Interpreter} {sha : Sha256}
    {keys : KeyManager} {caller : Caller} {now : Clock} {uuid : Text}
    {loaded : Except Text Plugin} {verify : Except PyError VerifiedContext}
    {response : DecisionResponse}
    (h : decide request py sha keys caller now uuid loaded verify = .ok response) :
    response.metadata = request.metadata := by
  obtain ⟨message, -, hr, -⟩ | ⟨plugin, verified, triggered, gated, -, -, he⟩ :=
    decide_eq_ok.mp h
  · rw [hr]; rfl
  · rw [he.eq]; rfl

theorem isScalar_payloadHash {sha : Sha256} {keys : KeyManager} {request : ApprovalRequest}
    {caller : Caller} {loaded : Option Plugin} {now later : Clock} {context : CallContext}
    {response : ApprovalResponse} {record : ApprovalRecord}
    (h : submit sha keys request caller loaded now later context = .ok (response, record)) :
    IsScalar record.payloadHash := by
  obtain ⟨ticket, hadmit, hx⟩ := bind_eq_ok h
  obtain ⟨plugin, passport, -, -, -, -, hrecord⟩ := exchange_eq_ok hx
  rw [hrecord]
  exact isScalar_hashPayload (admitRequest_eq_ok hadmit).payload

/-- An answered decision has its line exactly when the sink can go on and every integer of the
metadata has a double.  An approval has its line whenever the sink can go on.  The metadata of a
request are the one part of a record that nothing before the sink has hashed or signed. -/
theorem audited_iff (deployed : Deployment) :
    (∀ request caller now loaded tokens context response record compact body,
      createDecision deployed request caller now loaded tokens context = .ok (response, record) →
      renderResponse (.obj (response.dump compact)) = .ok body →
      ∀ file lastHash timestamp,
        Appends deployed.sha file lastHash record.dump timestamp ↔
          CanContinue file lastHash ∧ request.metadata.json.hasDoubles = true) ∧
    ∀ request caller loaded now later context response record,
      submit deployed.sha deployed.keys request caller loaded now later context =
        .ok (response, record) →
      ∀ file lastHash timestamp,
        Appends deployed.sha file lastHash record.dump timestamp ↔ CanContinue file lastHash := by
  constructor
  · intro request caller now loaded tokens context response record compact body h hbody file
      lastHash timestamp
    obtain ⟨hdecide, hrecord⟩ := createDecision_eq_ok h
    obtain ⟨hhash, hmeta⟩ := getExecutionRecord_eq_ok hrecord
    have htext : request.metadata.json.isText = true := by
      rw [← metadata_of_decide hdecide]
      exact DecisionResponse.isText_metadata (renderResponse_isOk_iff.mp ⟨body, hbody⟩).2
    rw [record.fresh_dump.appends_iff,
      ExecutionRecord.hashable_dump_iff (isScalar_hashPayload hhash), hmeta,
      metadata_of_decide hdecide]
    exact and_congr_right (fun _ => ⟨fun hm => hm.2, fun hd => ⟨htext, hd⟩⟩)
  · intro request caller loaded now later context response record h file lastHash timestamp
    rw [record.fresh_dump.appends_iff]
    exact and_iff_left (ApprovalRecord.hashable_dump (isScalar_payloadHash h))

/-! ## 7. Payloads that are not answered -/

/-- A deployment without providers of signed context. -/
def plainDeployment : Deployment := ⟨plainInterpreter, plainSha, pairedKeys, pemService, [], []⟩

def plainContext : CallContext := ⟨.lit "j1", .lit "2026-01-02T03:04:05+00:00", none⟩

/-- An integer past the largest double. -/
def hugeNumber : JsonObject := ⟨[(lit "n", .int (10 ^ 400))], rfl⟩

/-- A payload without a canonical hash. -/
def overflowRequest : DecisionRequest := { payRequest with payload := hugeNumber }

/-- A payload that proposes a list for an action. -/
def listRequest : DecisionRequest :=
  { payRequest with payload := ⟨[(lit "proposed_action", .arr [])], rfl⟩ }

theorem not_hashable_hugeNumber : ¬ Hashable hugeNumber.json := by
  rintro ⟨-, h⟩
  have hno : hugeNumber.json.hasDoubles = false := by decide +kernel
  rw [hno] at h
  cases h

/-- A policy without gated actions asks a set for the list, and a payload whose Passport cannot be
signed cannot be recorded. -/
theorem decisions_escape :
    decide listRequest plainInterpreter plainSha pairedKeys .trustedLocal 0 plainContext.uuid
        (.ok barePolicy) (.ok .none) = .error .typeError ∧
      ¬ Answers plainDeployment listRequest .trustedLocal 0 (.ok barePolicy) [] plainContext ∧
      (∃ response, decide overflowRequest plainInterpreter plainSha pairedKeys .trustedLocal 0
          plainContext.uuid (.ok payPolicy) (.ok .none) = .ok response ∧
        response.decision = .confirm ∧
        ∀ record, getExecutionRecord plainSha overflowRequest response plainContext.createdAt
          plainContext.traceId ≠ .ok record) ∧
      ¬ Answers plainDeployment overflowRequest .trustedLocal 0
        (.ok payPolicy) [] plainContext := by
  refine ⟨rfl, ?_, ?_, ?_⟩
  · intro h
    obtain ⟨response, record, hc⟩ := h.returns
    obtain ⟨hd, -⟩ := createDecision_eq_ok hc
    cases hd
  · refine ⟨_, decide_eq_ok.mpr (.inr ⟨_, _, [], false, rfl, rfl, rfl, rfl, rfl, .of_empty rfl⟩),
      by decide +kernel, fun record h => ?_⟩
    exact not_hashable_hugeNumber
      ((@getExecutionRecord_isOk_iff plainDeployment overflowRequest _ _ _).mp ⟨record, h⟩)
  · intro h
    obtain ⟨response, record, hc⟩ := h.returns
    exact not_hashable_hugeNumber
      (getExecutionRecord_isOk_iff.mp ⟨record, (createDecision_eq_ok hc).2⟩)

/-! ## 8. A Passport without its line -/

/-- The payment, with metadata. -/
def noted (metadata : JsonObject) : DecisionRequest := { payRequest with metadata := metadata }

def notedResponse (metadata : JsonObject) : DecisionResponse :=
  respond payPolicy (noted metadata) .trustedLocal plainSha pairedKeys 0 (.lit "j1") .none [] false

/-- The payment is decided and recorded, whatever its metadata notes. -/
theorem createDecision_noted {metadata : JsonObject} (hlog : (noted metadata).Loggable) :
    ∃ record, createDecision plainDeployment (noted metadata) .trustedLocal 0 (.ok payPolicy) []
      plainContext = .ok (notedResponse metadata, record) := by
  have hdecide : decide (noted metadata) plainInterpreter plainSha pairedKeys .trustedLocal 0
      (.lit "j1") (.ok payPolicy) (.ok .none) = .ok (notedResponse metadata) :=
    decide_eq_ok.mpr (.inr ⟨_, _, [], false, rfl, rfl, rfl, rfl, rfl, hlog⟩)
  obtain ⟨record, hrecord⟩ := (@getExecutionRecord_isOk_iff plainDeployment (noted metadata)
    (notedResponse metadata) plainContext.createdAt plainContext.traceId).mpr
      ⟨rfl, rfl⟩
  refine ⟨record, ?_⟩
  have hverify : verifiedContext plainDeployment (noted metadata) [] = .ok .none := rfl
  rw [createDecision, hverify]
  change (decide (noted metadata) plainInterpreter plainSha pairedKeys .trustedLocal 0
    (.lit "j1") (.ok payPolicy) (.ok .none) >>= _) = _
  rw [hdecide, ok_bind, hrecord]
  rfl

/-- Tokens are shown as nothing. -/
def shortToken (_ : Token) : Text := .lit ""

theorem canContinue_new : CanContinue none none :=
  ⟨.str genesisHash, rfl, hashable_str.mpr (by decide +kernel)⟩

/-- The decision is `ALLOW`, its Passport is sent, and the file stays as it was. -/
theorem passport_unaudited : ∃ record body,
    createDecision plainDeployment (noted hugeNumber) .trustedLocal 0 (.ok payPolicy) []
        plainContext = .ok (notedResponse hugeNumber, record) ∧
      renderResponse (.obj ((notedResponse hugeNumber).dump shortToken)) = .ok body ∧
      (notedResponse hugeNumber).decision = .allow ∧
      (notedResponse hugeNumber).passport.isSome = true ∧
      CanContinue none none ∧
      ∀ timestamp, ¬ Appends plainSha none none record.dump timestamp := by
  have hlog : (noted hugeNumber).Loggable := by
    constructor
    · intro v hv
      cases hv
    · intro v hv
      cases hv
  obtain ⟨record, hrecord⟩ := createDecision_noted hlog
  have hrender : ∃ body,
      renderResponse (.obj ((notedResponse hugeNumber).dump shortToken)) = .ok body :=
    renderResponse_isOk_iff.mpr ⟨by decide +kernel, by decide +kernel⟩
  obtain ⟨body, hbody⟩ := hrender
  refine ⟨record, body, hrecord, hbody, by decide +kernel, by decide +kernel, canContinue_new,
    fun timestamp h => ?_⟩
  obtain ⟨hdecide, hrec⟩ := createDecision_eq_ok hrecord
  obtain ⟨hhash, hmeta⟩ := getExecutionRecord_eq_ok hrec
  have hhashable := (record.fresh_dump.appends_iff.mp h).2
  rw [ExecutionRecord.hashable_dump_iff (isScalar_hashPayload hhash), hmeta] at hhashable
  exact not_hashable_hugeNumber hhashable

/-- Without metadata the payment has its line. -/
theorem audited_iff_pay : ∃ record body,
    createDecision plainDeployment (noted .empty) .trustedLocal 0 (.ok payPolicy) []
        plainContext = .ok (notedResponse .empty, record) ∧
      renderResponse (.obj ((notedResponse .empty).dump shortToken)) = .ok body ∧
      ∀ timestamp, Appends plainSha none none record.dump timestamp ↔
        CanContinue none none ∧ (noted .empty).metadata.json.hasDoubles = true := by
  obtain ⟨record, hrecord⟩ := createDecision_noted (.of_empty rfl : (noted .empty).Loggable)
  obtain ⟨body, hbody⟩ : ∃ body,
      renderResponse (.obj ((notedResponse .empty).dump shortToken)) = .ok body :=
    renderResponse_isOk_iff.mpr ⟨by decide +kernel, by decide +kernel⟩
  exact ⟨record, body, hrecord, hbody, (audited_iff plainDeployment).1 _ _ _ _ _ _ _ _ _ _
    hrecord hbody none none⟩

end Axg
