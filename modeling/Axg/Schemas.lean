/-
# The published contracts (`schemas/*.schema.json`)

AXG publishes a JSON Schema for each of its contracts, and integrators validate against the files.
Their properties stand here in the order of the files.

Everything that leaves the server in a run validates: the answers, the claims of the tokens in them,
the records that are scheduled for the audit, and the lines of the log (`server_conforms`).  The
claims have a `payload_hash` of 64 hexadecimal digits, which is what a SHA-256 digest is.  On the
way in, `ApprovalRequest` takes the objects that its schema accepts, of the bodies that are Unicode
text (`approvalRequest_accepts_iff`).
-/
import Axg.Python.JsonSchema
import Axg.Accountability
import Axg.ApprovalClients

namespace Axg

open Python General
open Python.Schema (nullable accepts_member accepts_object_iff)
open Gateway (objectAt objectAt_eq_some_iff textField_eq_some)

namespace Contract

/-! ## 1. The files -/

def text : Schema := .string 0

/-- `"type": "object", "additionalProperties": true` -/
def mapping : Schema := .object [] [] false

/-- `"type": "object"`, with properties and no word on others. -/
def record (properties : List (String × Schema)) (required : List String) : Schema :=
  .object properties required false

def decision : Schema := .enum ["ALLOW", "SUGGEST", "CONFIRM", "BLOCK"]

def executionStatus : Schema := .enum ["pending", "running", "completed", "failed"]

/-- `"pattern": "^[0-9a-f]{64}$"` -/
def digest : Schema := .pattern isHexDigit 64

def score : Schema := .number 0 1

def approvalChallenge : Schema :=
  record [("expires_at", .integer), ("required_role", text), ("ticket", text), ("ticket_id", text)]
    ["ticket", "ticket_id", "required_role", "expires_at"]

def decisionScores : Schema :=
  record [("final_confidence", score), ("llm_confidence", score), ("risk_level", text),
      ("risk_score", score), ("uncertainty_score", score)]
    ["llm_confidence", "final_confidence", "risk_score"]

def triggeredRule : Schema :=
  record [("decision", decision), ("id", text), ("reason", text)] ["id", "decision", "reason"]

def decisionResponse : Schema :=
  record [("actionable_payload", mapping), ("approval", nullable approvalChallenge),
      ("audit_flags", .array text), ("audit_id", nullable text), ("decision", decision),
      ("execution_id", text), ("metadata", mapping), ("passport", nullable text),
      ("passport_id", nullable text), ("plugin_version", text), ("reason", text),
      ("rules_triggered", .array triggeredRule), ("schema_version", text),
      ("scores", decisionScores), ("shadow_mode", .boolean), ("verified_context", .array text)]
    ["execution_id", "plugin_version", "decision", "scores", "reason"]

def executionRecord : Schema :=
  record [("action_type", text), ("agent_id", nullable text), ("app_id", text),
      ("audit_flags", .array text), ("created_at", text), ("decision", decision),
      ("error", nullable text), ("execution_id", text), ("execution_result", .any),
      ("execution_status", executionStatus), ("human_confirmation_required", .boolean),
      ("input_hash", nullable text), ("intent_fallback_used", .boolean), ("metadata", mapping),
      ("passport_id", nullable text), ("plugin_id", text), ("policy", text),
      ("proposal_confidence", score), ("proposal_model", nullable text),
      ("requested_by", nullable text), ("risk_level", text), ("risk_score", score),
      ("rules_triggered", .array text), ("schema_version", .literal "axg.execution_record.v2"),
      ("shadow_mode", .boolean), ("source", text), ("tenant_id", text),
      ("trace_id", nullable text), ("verified_context", .array text)]
    ["execution_id", "tenant_id", "app_id", "plugin_id", "source", "action_type", "decision",
      "policy", "risk_score", "risk_level", "created_at"]

def approvalRecord : Schema :=
  record [("action_type", text), ("app_id", text), ("approver_id", text), ("approver_role", text),
      ("client_id", text), ("created_at", text), ("execution_id", text),
      ("outcome", .enum ["approved", "denied"]), ("passport_id", nullable text),
      ("payload_hash", text), ("policy", text),
      ("schema_version", .literal "axg.approval_record.v1"), ("tenant_id", text),
      ("ticket_id", text), ("trace_id", nullable text)]
    ["execution_id", "tenant_id", "app_id", "action_type", "policy", "ticket_id", "payload_hash",
      "approver_id", "approver_role", "outcome", "client_id", "created_at"]

def approvalResponse : Schema :=
  record [("actionable_payload", mapping), ("execution_id", text),
      ("outcome", .enum ["approved", "denied"]), ("passport", nullable text),
      ("passport_id", nullable text), ("schema_version", text)]
    ["execution_id", "outcome"]

def introspectionResponse : Schema :=
  record [("active", .boolean), ("claims", nullable mapping), ("reason", nullable text),
      ("schema_version", text)]
    ["active"]

def passportApproval : Schema :=
  .object [("approver_id", text), ("approver_role", text), ("ticket_id", text)]
    ["ticket_id", "approver_id", "approver_role"] true

def passportClaims : Schema :=
  .object [("action_type", text), ("approval", nullable passportApproval), ("aud", text),
      ("azp", text), ("decision", .literal "ALLOW"), ("exp", .integer), ("iat", .integer),
      ("iss", .literal "axg-engine"), ("jti", text), ("nbf", .integer), ("payload_hash", digest),
      ("policy", text), ("sub", text), ("tenant_id", text), ("ver", .constant 2)]
    ["sub", "aud", "azp", "iat", "nbf", "exp", "jti", "tenant_id", "action_type", "policy",
      "payload_hash"] true

def approvalTicketClaims : Schema :=
  .object [("action_type", text), ("agent_id", nullable text), ("aud", text), ("azp", text),
      ("decision", .enum ["CONFIRM", "SUGGEST"]), ("exp", .integer), ("iat", .integer),
      ("iss", .literal "axg-engine"), ("jti", text), ("nbf", .integer), ("payload_hash", digest),
      ("plugin_id", text), ("policy", text), ("required_role", text), ("sub", text),
      ("tenant_id", text), ("typ", .literal "approval"), ("user_id", nullable text)]
    ["sub", "aud", "azp", "iat", "nbf", "exp", "jti", "tenant_id", "plugin_id", "policy",
      "decision", "action_type", "payload_hash", "required_role"] true

def approverIdentity : Schema :=
  record [("id", .string 1), ("role", .string 1)] ["id", "role"]

def approvalRequest : Schema :=
  record [("actionable_payload", mapping), ("approver", approverIdentity),
      ("outcome", .enum ["approve", "deny"]), ("schema_version", text), ("ticket", text)]
    ["ticket", "actionable_payload", "approver"]

/-! ## 2. What AXG writes -/

theorem accepts_texts (ts : List Text) : (Schema.array text).accepts (textList ts) = true := by
  refine Schema.accepts_array fun v hv => ?_
  obtain ⟨t, -, rfl⟩ := List.mem_map.mp hv
  exact Schema.accepts_text _

theorem accepts_optionalText (t : Option Text) :
    (nullable text).accepts (optionalText t) = true := by
  cases t with
  | none => exact Schema.accepts_nullable_null text
  | some t => exact Schema.accepts_nullable (Schema.accepts_text _)

theorem accepts_decision (d : Decision) : decision.accepts (.str d.value) = true := by
  cases d <;> decide

/-- The double nearest to a number from 0 to 1 is from 0 to 1. -/
theorem accepts_score (x : Score) : score.accepts x.json = true := by
  obtain ⟨m, hm⟩ := x.exists_toFloat
  have hround : Python.round (x.val.num.natAbs * one) x.val.den = some m := by
    unfold Score.toFloat at hm
    cases h : Python.round (x.val.num.natAbs * one) x.val.den with
    | none =>
      rw [h] at hm
      cases hm
    | some m' =>
      rw [h] at hm
      cases hm
      rfl
  have hle : x.val.num.natAbs ≤ x.val.den := by
    have hnum : x.val.num ≤ x.val.den := by simpa using Rat.le_iff x.val 1 |>.mp x.le_one
    have hnonneg := Rat.num_nonneg.mpr x.nonneg
    omega
  obtain ⟨u, hu⟩ := exists_mag_of_lt (n := 1) (by decide)
  have hone : Python.round (x.val.den * one) x.val.den = some u := by
    rw [Nat.mul_comm, ← Nat.one_mul one, ← hu]
    exact round_units u x.val.pos
  have hunits : m.units ≤ one := by
    calc m.units = roundUnits (x.val.num.natAbs * one) x.val.den := units_of_round hround
      _ ≤ roundUnits (x.val.den * one) x.val.den :=
        roundUnits_mono x.val.pos (Nat.mul_le_mul_right one hle)
      _ = u.units := (units_of_round hone).symm
      _ = one := by rw [hu, Nat.one_mul]
  have hbetween : Schema.isBetween 0 1 (.float (.finite false m)) =
      (Decidable.decide ((0 : Int) * one ≤ m.units) &&
        Decidable.decide ((m.units : Int) ≤ 1 * one)) := rfl
  rw [Score.json, hm]
  change Schema.isBetween 0 1 (.float (.finite false m)) = true
  rw [hbetween, Bool.and_eq_true, decide_eq_true_iff, decide_eq_true_iff]
  exact ⟨by omega, by omega⟩

/-- An open object, with the keys `names`, whose members validate. -/
theorem accepts_record {properties : List (String × Schema)} {required names : List String}
    {ms : Dict Json} (hkeys : Dict.keys ms = names.map lit) (hrequired : required ⊆ names)
    (hmembers : ∀ p ∈ properties, ∀ w ∈ ms.lookup (lit p.1), p.2.accepts w = true) :
    (record properties required).accepts (.obj ms) = true :=
  accepts_object_iff.mpr ⟨hmembers, Schema.required_of_keys hkeys hrequired, nofun⟩

/-- The keys of the scores. -/
def scoreFields : List String :=
  ["llm_confidence", "final_confidence", "risk_score", "risk_level", "uncertainty_score"]

theorem accepts_scores (scores : DecisionScores) : decisionScores.accepts scores.dump = true := by
  refine @accepts_record _ _ scoreFields _ rfl (by decide) ?_
  simp only [List.forall_mem_cons, List.not_mem_nil, false_implies, implies_true, and_true]
  exact ⟨accepts_member rfl (accepts_score _), accepts_member rfl (accepts_score _),
    accepts_member rfl (Schema.accepts_text _), accepts_member rfl (accepts_score _),
    accepts_member rfl (accepts_score _)⟩

theorem accepts_rule (rule : TriggeredRule) : triggeredRule.accepts rule.dump = true := by
  refine @accepts_record _ _ ["id", "decision", "reason"] _ rfl (by decide) ?_
  simp only [List.forall_mem_cons, List.not_mem_nil, false_implies, implies_true, and_true]
  exact ⟨accepts_member rfl (accepts_decision _), accepts_member rfl (Schema.accepts_text _),
    accepts_member rfl (Schema.accepts_text _)⟩

theorem accepts_challenge (compact : Token → Text) (challenge : ApprovalChallenge) :
    approvalChallenge.accepts (challenge.dump compact) = true := by
  refine @accepts_record _ _ ["ticket", "ticket_id", "required_role", "expires_at"] _ rfl
    (by decide) ?_
  simp only [List.forall_mem_cons, List.not_mem_nil, false_implies, implies_true, and_true]
  exact ⟨accepts_member rfl (Schema.accepts_integer _), accepts_member rfl (Schema.accepts_text _),
    accepts_member rfl (Schema.accepts_text _), accepts_member rfl (Schema.accepts_text _)⟩

/-- A decision is answered as `decision_response.v1` says. -/
theorem accepts_decisionResponse (compact : Token → Text) (r : DecisionResponse) :
    decisionResponse.accepts (.obj (r.dump compact)) = true := by
  have happroval : (nullable approvalChallenge).accepts
      ((r.approval.map (ApprovalChallenge.dump compact)).getD .null) = true := by
    cases r.approval with
    | none => exact Schema.accepts_nullable_null _
    | some challenge => exact Schema.accepts_nullable (accepts_challenge compact challenge)
  have hrules : (Schema.array triggeredRule).accepts
      (.arr (r.rulesTriggered.map TriggeredRule.dump)) = true := by
    refine Schema.accepts_array fun v hv => ?_
    obtain ⟨rule, -, rfl⟩ := List.mem_map.mp hv
    exact accepts_rule rule
  refine accepts_record (r.keys_dump compact) (by decide) ?_
  simp only [List.forall_mem_cons, List.not_mem_nil, false_implies, implies_true, and_true]
  exact ⟨accepts_member rfl (Schema.accepts_open _), accepts_member rfl happroval,
    accepts_member rfl (accepts_texts _), accepts_member rfl (Schema.accepts_nullable_null _),
    accepts_member rfl (accepts_decision _), accepts_member rfl (Schema.accepts_text _),
    accepts_member rfl (Schema.accepts_open _), accepts_member rfl (accepts_optionalText _),
    accepts_member rfl (accepts_optionalText _), accepts_member rfl (Schema.accepts_text _),
    accepts_member rfl (Schema.accepts_text _), accepts_member rfl hrules,
    accepts_member rfl (Schema.accepts_text _), accepts_member rfl (accepts_scores _),
    accepts_member rfl rfl, accepts_member rfl (accepts_texts _)⟩

/-- A decision is recorded as `execution_record.v2` says. -/
theorem accepts_executionRecord (r : ExecutionRecord) :
    executionRecord.accepts (.obj r.dump) = true := by
  refine accepts_record r.keys_dump (by decide) ?_
  simp only [List.forall_mem_cons, List.not_mem_nil, false_implies, implies_true, and_true]
  refine ⟨accepts_member rfl (Schema.accepts_text _), accepts_member rfl (accepts_optionalText _),
    accepts_member rfl (Schema.accepts_text _), accepts_member rfl (accepts_texts _),
    accepts_member rfl (Schema.accepts_text _), accepts_member rfl (accepts_decision _),
    accepts_member rfl (Schema.accepts_nullable_null _), accepts_member rfl (Schema.accepts_text _),
    accepts_member rfl rfl, accepts_member rfl (by decide), accepts_member rfl rfl,
    accepts_member rfl (Schema.accepts_nullable (Schema.accepts_text _)),
    accepts_member rfl rfl, accepts_member rfl (Schema.accepts_open _),
    accepts_member rfl (accepts_optionalText _), accepts_member rfl (Schema.accepts_text _),
    accepts_member rfl (Schema.accepts_text _), accepts_member rfl (accepts_score _),
    accepts_member rfl (accepts_optionalText _), accepts_member rfl (accepts_optionalText _),
    accepts_member rfl (Schema.accepts_text _), accepts_member rfl (accepts_score _),
    accepts_member rfl (accepts_texts _), accepts_member rfl (by decide), accepts_member rfl rfl,
    accepts_member rfl (Schema.accepts_text _), accepts_member rfl (Schema.accepts_text _),
    accepts_member rfl (accepts_optionalText _), accepts_member rfl (accepts_texts _)⟩

theorem accepts_recorded (o : Outcome) :
    (Schema.enum ["approved", "denied"]).accepts (.str o.recorded) = true := by
  cases o <;> decide

/-- An approval is recorded as `approval_record.v1` says. -/
theorem accepts_approvalRecord (r : ApprovalRecord) :
    approvalRecord.accepts (.obj r.dump) = true := by
  refine accepts_record r.keys_dump (by decide) ?_
  simp only [List.forall_mem_cons, List.not_mem_nil, false_implies, implies_true, and_true]
  exact ⟨accepts_member rfl (Schema.accepts_text _), accepts_member rfl (Schema.accepts_text _),
    accepts_member rfl (Schema.accepts_text _), accepts_member rfl (Schema.accepts_text _),
    accepts_member rfl (Schema.accepts_text _), accepts_member rfl (Schema.accepts_text _),
    accepts_member rfl (Schema.accepts_text _), accepts_member rfl (accepts_recorded _),
    accepts_member rfl (accepts_optionalText _), accepts_member rfl (Schema.accepts_text _),
    accepts_member rfl (Schema.accepts_text _), accepts_member rfl (by decide),
    accepts_member rfl (Schema.accepts_text _), accepts_member rfl (Schema.accepts_text _),
    accepts_member rfl (accepts_optionalText _)⟩

theorem accepts_approvalResponse (compact : Token → Text) (r : ApprovalResponse) :
    approvalResponse.accepts (.obj (r.dump compact)) = true := by
  refine @accepts_record _ _ ApprovalResponse.fields _ rfl (by decide) ?_
  simp only [List.forall_mem_cons, List.not_mem_nil, false_implies, implies_true, and_true]
  exact ⟨accepts_member rfl (Schema.accepts_open _), accepts_member rfl (Schema.accepts_text _),
    accepts_member rfl (accepts_recorded _), accepts_member rfl (accepts_optionalText _),
    accepts_member rfl (accepts_optionalText _), accepts_member rfl (Schema.accepts_text _)⟩

theorem accepts_introspectionResponse (r : IntrospectionResponse) :
    introspectionResponse.accepts (.obj r.dump) = true := by
  have hreason : (nullable text).accepts ((r.reason.map (fun s => Json.str s)).getD .null) =
      true := by
    cases r.reason with
    | none => exact Schema.accepts_nullable_null _
    | some t => exact Schema.accepts_nullable (Schema.accepts_text _)
  have hclaims : (nullable mapping).accepts ((r.claims.map Json.obj).getD .null) = true := by
    cases r.claims with
    | none => exact Schema.accepts_nullable_null _
    | some claims => exact Schema.accepts_nullable (Schema.accepts_open _)
  refine @accepts_record _ _ ["schema_version", "active", "reason", "claims"] _ rfl (by decide) ?_
  simp only [List.forall_mem_cons, List.not_mem_nil, false_implies, implies_true, and_true]
  exact ⟨accepts_member rfl rfl, accepts_member rfl hclaims, accepts_member rfl hreason,
    accepts_member rfl (Schema.accepts_text _)⟩

/-- A closed object, with the keys `names`, whose members validate. -/
theorem accepts_closed {properties : List (String × Schema)} {required names : List String}
    {ms : Dict Json} (hkeys : Dict.keys ms = names.map lit) (hrequired : required ⊆ names)
    (hnames : names ⊆ properties.map Prod.fst)
    (hmembers : ∀ p ∈ properties, ∀ w ∈ ms.lookup (lit p.1), p.2.accepts w = true) :
    (Schema.object properties required true).accepts (.obj ms) = true := by
  refine accepts_object_iff.mpr ⟨hmembers, Schema.required_of_keys hkeys hrequired, ?_⟩
  rintro - k hk
  rw [hkeys] at hk
  obtain ⟨name, hname, rfl⟩ := List.mem_map.mp hk
  obtain ⟨p, hp, rfl⟩ := List.mem_map.mp (hnames hname)
  exact List.mem_map_of_mem hp

theorem accepts_passportApproval (approval : PassportApproval) :
    passportApproval.accepts approval.dump = true := by
  refine @accepts_closed _ _ ["ticket_id", "approver_id", "approver_role"] _ rfl (by decide)
    (by decide) ?_
  simp only [List.forall_mem_cons, List.not_mem_nil, false_implies, implies_true, and_true]
  exact ⟨accepts_member rfl (Schema.accepts_text _), accepts_member rfl (Schema.accepts_text _),
    accepts_member rfl (Schema.accepts_text _)⟩

/-- A field that is left out when it is `None`. -/
def optionalField {α : Type} (name : String) (field : Option α) : List String :=
  (field.map fun _ => name).toList

theorem optionalField_subset {α : Type} {name : String} {names : List String} (field : Option α)
    (h : name ∈ names) : optionalField name field ⊆ names := by
  cases field with
  | none => exact List.nil_subset _
  | some x => exact List.cons_subset.mpr ⟨h, List.nil_subset _⟩

/-- The claims of every Passport. -/
def passportFields : List String :=
  ["iss", "sub", "aud", "azp", "iat", "nbf", "exp", "jti", "ver", "tenant_id", "decision",
    "action_type", "policy", "payload_hash"]

/-- The claims of a Passport are those of `passport_claims.v2`. -/
theorem accepts_passportClaims (c : PassportClaims)
    (hdigest : digest.accepts (.str c.payloadHash) = true) :
    passportClaims.accepts (.obj c.dump) = true := by
  have hkeys : Dict.keys c.dump =
      (passportFields ++ optionalField "approval" c.approval).map lit := by
    obtain ⟨sub, aud, azp, iat, nbf, exp, jti, tenant, action, policy, hash, approval⟩ := c
    cases approval <;> rfl
  have happroval : ∀ w ∈ c.dump.lookup (lit "approval"),
      (nullable passportApproval).accepts w = true := by
    obtain ⟨sub, aud, azp, iat, nbf, exp, jti, tenant, action, policy, hash, approval⟩ := c
    cases approval with
    | none => rintro w ⟨⟩
    | some approval =>
      exact accepts_member rfl (Schema.accepts_nullable (accepts_passportApproval approval))
  refine accepts_closed hkeys (List.subset_append_of_subset_left _ (by decide))
    (List.append_subset.mpr ⟨by decide, optionalField_subset _ (by decide)⟩) ?_
  simp only [List.forall_mem_cons, List.not_mem_nil, false_implies, implies_true, and_true]
  exact ⟨accepts_member rfl (Schema.accepts_text _), happroval,
    accepts_member rfl (Schema.accepts_text _), accepts_member rfl (Schema.accepts_text _),
    accepts_member rfl (by decide), accepts_member rfl (Schema.accepts_integer _),
    accepts_member rfl (Schema.accepts_integer _), accepts_member rfl (by decide),
    accepts_member rfl (Schema.accepts_text _), accepts_member rfl (Schema.accepts_integer _),
    accepts_member rfl hdigest, accepts_member rfl (Schema.accepts_text _),
    accepts_member rfl (Schema.accepts_text _), accepts_member rfl (Schema.accepts_text _),
    accepts_member rfl (by decide +kernel)⟩

/-- The claims of every ticket. -/
def ticketRequired : List String :=
  ["iss", "typ", "sub", "aud", "azp", "iat", "nbf", "exp", "jti", "tenant_id", "plugin_id",
    "policy", "decision", "action_type", "payload_hash", "required_role"]

/-- The claims of a ticket are those of `approval_ticket_claims.v1`. -/
theorem accepts_ticketClaims (c : TicketClaims)
    (hdigest : digest.accepts (.str c.payloadHash) = true) :
    approvalTicketClaims.accepts (.obj c.dump) = true := by
  have hdecision : (Schema.enum ["CONFIRM", "SUGGEST"]).accepts (.str c.decision.value) = true := by
    rcases c.confirmOrSuggest with h | h <;> rw [h] <;> decide
  have hkeys : Dict.keys c.dump =
      (ticketRequired ++ optionalField "user_id" c.userId ++
        optionalField "agent_id" c.agentId).map lit := by
    obtain ⟨sub, aud, azp, iat, nbf, exp, jti, tenant, plugin, policy, decision, hissued, action,
      hash, role, user, agent⟩ := c
    cases user <;> cases agent <;> rfl
  have huser : ∀ w ∈ c.dump.lookup (lit "user_id"), (nullable text).accepts w = true := by
    obtain ⟨sub, aud, azp, iat, nbf, exp, jti, tenant, plugin, policy, decision, hissued, action,
      hash, role, user, agent⟩ := c
    cases user with
    | none => cases agent <;> rintro w ⟨⟩
    | some user =>
      cases agent <;> exact accepts_member rfl (Schema.accepts_nullable (Schema.accepts_text _))
  have hagent : ∀ w ∈ c.dump.lookup (lit "agent_id"), (nullable text).accepts w = true := by
    obtain ⟨sub, aud, azp, iat, nbf, exp, jti, tenant, plugin, policy, decision, hissued, action,
      hash, role, user, agent⟩ := c
    cases agent with
    | none => cases user <;> rintro w ⟨⟩
    | some agent =>
      cases user <;> exact accepts_member rfl (Schema.accepts_nullable (Schema.accepts_text _))
  refine accepts_closed hkeys
    (List.subset_append_of_subset_left _ (List.subset_append_of_subset_left _ (by decide)))
    (List.append_subset.mpr ⟨List.append_subset.mpr ⟨by decide, optionalField_subset _ (by decide)⟩,
      optionalField_subset _ (by decide)⟩) ?_
  simp only [List.forall_mem_cons, List.not_mem_nil, false_implies, implies_true, and_true]
  exact ⟨accepts_member rfl (Schema.accepts_text _), hagent,
    accepts_member rfl (Schema.accepts_text _), accepts_member rfl (Schema.accepts_text _),
    accepts_member rfl hdecision, accepts_member rfl (Schema.accepts_integer _),
    accepts_member rfl (Schema.accepts_integer _), accepts_member rfl (by decide),
    accepts_member rfl (Schema.accepts_text _), accepts_member rfl (Schema.accepts_integer _),
    accepts_member rfl hdigest, accepts_member rfl (Schema.accepts_text _),
    accepts_member rfl (Schema.accepts_text _), accepts_member rfl (Schema.accepts_text _),
    accepts_member rfl (Schema.accepts_text _), accepts_member rfl (Schema.accepts_text _),
    accepts_member rfl (by decide), huser⟩

/-! ## 3. The order of members -/

theorem mem_keys_inKeyOrder {ms : Dict Json} {k : Str} :
    k ∈ Dict.keys (inKeyOrder ms) ↔ k ∈ Dict.keys ms := by
  rw [← Dict.keys_map Json.sortKeys ms]
  exact ((inKeyOrder_perm ms).map Prod.fst).mem_iff

mutual

/-- Validation does not depend on the order of members. -/
theorem accepts_sortKeys : ∀ (schema : Schema) {v : Json}, v.Wf →
    schema.accepts v.sortKeys = schema.accepts v
  | .any, _, _ => rfl
  | .null, v, _ => by cases v <;> rfl
  | .boolean, v, _ => by cases v <;> rfl
  | .integer, v, _ => by cases v <;> rfl
  | .number _ _, v, _ => by cases v <;> rfl
  | .string _, v, _ => by cases v <;> rfl
  | .pattern _ _, v, _ => by cases v <;> rfl
  | .literal _, v, _ => by cases v <;> rfl
  | .constant _, v, _ => by cases v <;> rfl
  | .enum _, v, _ => by cases v <;> rfl
  | .array items, v, hv => by
    cases v with
    | arr vs =>
      have hitems : ∀ w ∈ vs, items.accepts w.sortKeys = items.accepts w :=
        fun w hw => accepts_sortKeys items (Json.wf_arr.mp hv w hw)
      change (Json.sortKeysItems vs).all items.accepts = vs.all items.accepts
      rw [Json.sortKeysItems_eq_map, List.all_map, Bool.eq_iff_iff, List.all_eq_true,
        List.all_eq_true]
      exact forall₂_congr fun w hw => by rw [Function.comp_apply, hitems w hw]
    | _ => rfl
  | .object properties required closed, v, hv => by
    cases v with
    | obj ms =>
      have hfields := acceptsFields_sortKeys properties hv
      change (Schema.object properties required closed).accepts (.obj (inKeyOrder ms)) = _
      rw [Bool.eq_iff_iff, accepts_object_iff, accepts_object_iff, ← Schema.acceptsFields_iff,
        ← Schema.acceptsFields_iff, hfields]
      simp only [mem_keys_inKeyOrder]
    | _ => rfl
  | .anyOf options, v, hv => by
    change Schema.acceptsAny options v.sortKeys = Schema.acceptsAny options v
    exact acceptsAny_sortKeys options hv

theorem acceptsFields_sortKeys : ∀ (properties : List (String × Schema)) {ms : Dict Json},
    (Json.obj ms).Wf → Schema.acceptsFields properties (inKeyOrder ms) =
      Schema.acceptsFields properties ms
  | [], _, _ => rfl
  | (name, schema) :: properties, ms, hms => by
    rw [Schema.acceptsFields, Schema.acceptsFields, acceptsFields_sortKeys properties hms,
      lookup_inKeyOrder (Json.wf_obj.mp hms).1]
    cases hv : ms.lookup (lit name) with
    | none => rfl
    | some v =>
      have hwf : v.Wf := (Json.wf_obj.mp hms).2 _ (Dict.lookup_mem hv)
      simp only [Option.map_some, Option.all_some, accepts_sortKeys schema hwf]

theorem acceptsAny_sortKeys : ∀ (options : List Schema) {v : Json}, v.Wf →
    Schema.acceptsAny options v.sortKeys = Schema.acceptsAny options v
  | [], _, _ => rfl
  | schema :: options, v, hv => by
    rw [Schema.acceptsAny, Schema.acceptsAny, accepts_sortKeys schema hv,
      acceptsAny_sortKeys options hv]

end

end Contract

/-! ## 4. What leaves the server -/

/-- The contract of an answer. -/
def Reply.contract : Reply → Schema
  | decision _ => Contract.decisionResponse
  | approval _ => Contract.approvalResponse
  | introspection _ => Contract.introspectionResponse

/-- A record of a decision or of an approval. -/
def IsRecord (d : Dict Json) : Prop :=
  Contract.executionRecord.accepts (.obj d) = true ∨ Contract.approvalRecord.accepts (.obj d) = true

/-- A token with the claims of a Passport or of a ticket. -/
def Token.Conforms (token : Token) : Prop :=
  ∃ header claims signer, token = .jws header claims signer ∧
    (Contract.passportClaims.accepts (.obj claims) = true ∨
      Contract.approvalTicketClaims.accepts (.obj claims) = true)

/-- Everything that leaves the server validates against its contract.  A token is judged by its
claims, which its reader decodes; a line of the log by the text, which is scanned. -/
structure Server.Conforms (s : Server) (compact : Token → Text) : Prop where
  answers : ∀ a ∈ s.answers, ∀ reply, a.reply = .ok reply →
    reply.contract.accepts (.obj (reply.dump compact)) = true
  tokens : ∀ a ∈ s.answers, ∀ token, a.Shows token → token.Conforms
  records : ∀ a ∈ s.answers, ∀ record ∈ a.record, IsRecord record
  log : (∀ call ∈ s.audit.finished, HasNoRawBreaks call.1) →
    ∃ entries, fileRecords s.audit.text = .ok entries ∧ ∀ entry ∈ entries, IsRecord entry

section

variable {sha : Sha256} {keys : KeyManager} {deployed : Deployment} {settings : Settings}
  {validate : Json → Option Plugin} {compact : Token → Text} {s : Server} {w : World}

theorem Reply.accepts_contract (reply : Reply) :
    reply.contract.accepts (.obj (reply.dump compact)) = true := by
  cases reply with
  | decision response => exact Contract.accepts_decisionResponse compact response
  | approval response => exact Contract.accepts_approvalResponse compact response
  | introspection response => exact Contract.accepts_introspectionResponse response

theorem accepts_digest (hsha : ∀ t, (sha.hexdigest t).length = 64) {payload : JsonObject}
    {hash : Str} (h : hashPayload sha payload = .ok hash) :
    Contract.digest.accepts (.str hash) = true := by
  obtain ⟨t, -, -, rfl⟩ := canonicalHash_eq_ok h
  rw [Contract.digest, Schema.accepts, Bool.and_eq_true, beq_iff_eq, List.all_eq_true]
  exact ⟨hsha t, sha.isHex t⟩

/-- A Passport has the claims of its contract. -/
theorem signDecision_conforms (hsha : ∀ t, (sha.hexdigest t).length = 64) {now : Clock}
    {uuid : Text} {grant : DecisionGrant} {token : Token} {jti : Text}
    (h : signDecision sha keys now uuid grant = .ok (token, jti)) : token.Conforms := by
  obtain ⟨hash, key, hhash, -, -, -, rfl⟩ := signDecision_eq_ok h
  exact ⟨_, _, _, rfl, .inl (Contract.accepts_passportClaims _ (accepts_digest hsha hhash))⟩

/-- As has a ticket. -/
theorem signApprovalTicket_conforms (hsha : ∀ t, (sha.hexdigest t).length = 64) {now : Clock}
    {uuid : Text} {grant : TicketGrant} {challenge : ApprovalChallenge}
    (h : signApprovalTicket sha keys now uuid grant = .ok challenge) :
    challenge.ticket.Conforms := by
  obtain ⟨hash, key, hd, hhash, -, rfl⟩ := signApprovalTicket_eq_ok h
  exact ⟨_, _, _, rfl, .inr (Contract.accepts_ticketClaims _ (accepts_digest hsha hhash))⟩

theorem Answer.Explained.isRecord {a : Answer} (h : a.Explained deployed compact w) :
    ∀ record ∈ a.record, IsRecord record := by
  cases h with
  | decision flight request now loaded tokens context response record body hrequest hmade hbody
      hmem =>
    rintro d ⟨⟩
    exact .inl (Contract.accepts_executionRecord record)
  | approval flight request now later plugin context response record hrequest hmade hmem =>
    rintro d ⟨⟩
    exact .inr (Contract.accepts_approvalRecord record)
  | introspection flight response => rintro d ⟨⟩
  | failed flight e => rintro d ⟨⟩

theorem Answer.Explained.conforms (hsha : ∀ t, (deployed.sha.hexdigest t).length = 64) {a : Answer}
    (h : a.Explained deployed compact w) {token : Token} (hshows : a.Shows token) :
    token.Conforms := by
  cases h with
  | decision flight request now loaded tokens context response record body hrequest hmade hbody
      hmem =>
    rcases hshows with ⟨r, hr, htoken⟩ | ⟨r, hr, -⟩
    swap
    · cases hr
    cases hr
    obtain ⟨hdecide, -⟩ := createDecision_eq_ok hmade
    obtain ⟨message, -, rfl, -⟩ | ⟨plugin, verified, triggered, gated, -, -, he⟩ :=
      decide_eq_ok.mp hdecide
    · rcases htoken with htoken | ⟨challenge, hc, -⟩
      · cases htoken
      · cases hc
    · rcases htoken with htoken | ⟨challenge, hc, rfl⟩
      · obtain ⟨jti, -, -, hsign⟩ := he.passport_id htoken
        exact signDecision_conforms hsha hsign
      · exact signApprovalTicket_conforms hsha (he.signed_ticket hc)
  | approval flight request now later plugin context response record hrequest hmade hmem =>
    rcases hshows with ⟨r, hr, -⟩ | ⟨r, hr, htoken⟩
    · cases hr
    cases hr
    obtain ⟨ticket, -, hx⟩ := bind_eq_ok hmade
    obtain ⟨p, passport, -, -, hpass, hresponse, -⟩ := exchange_eq_ok hx
    rw [hresponse] at htoken
    obtain ⟨⟨token', jti⟩, rfl, rfl⟩ := Option.map_eq_some_iff.mp htoken
    exact signDecision_conforms hsha (approvalPassport_eq_some hpass).2
  | introspection flight response =>
    rcases hshows with ⟨r, hr, -⟩ | ⟨r, hr, -⟩ <;> cases hr
  | failed flight e =>
    rcases hshows with ⟨r, hr, -⟩ | ⟨r, hr, -⟩ <;> cases hr

/-- An open object with its sink fields. -/
theorem accepts_entry {properties : List (String × Schema)} {required : List String}
    {call : AuditRecord × Timestamp} {entry : Dict Json} (hext : Extends call entry)
    (hproperties : ∀ p ∈ properties,
      lit p.1 ≠ recordHashKey ∧ lit p.1 ≠ prevHashKey ∧ lit p.1 ≠ timestampKey)
    (hrequired : required ⊆ properties.map Prod.fst)
    (h : (Contract.record properties required).accepts (.obj call.1.members) = true) :
    (Contract.record properties required).accepts (.obj entry) = true := by
  refine Schema.accepts_of_fields h (fun p hp => hext.lookup (hproperties p hp)) ?_
  intro name hname hmem
  obtain ⟨p, hp, rfl⟩ := List.mem_map.mp (hrequired hname)
  rw [← Dict.lookup_isSome_iff] at hmem ⊢
  rw [hext.lookup (hproperties p hp)]
  exact hmem

theorem IsRecord.extends {call : AuditRecord × Timestamp} {entry : Dict Json}
    (h : IsRecord call.1.members) (hext : Extends call entry) : IsRecord entry := by
  rcases h with h | h
  · exact .inl (accepts_entry hext (by decide +kernel) (by decide) h)
  · exact .inr (accepts_entry hext (by decide +kernel) (by decide) h)

theorem IsRecord.inKeyOrder {d : Dict Json} (hwf : (Json.obj d).Wf) (h : IsRecord d) :
    IsRecord (inKeyOrder d) := by
  rw [IsRecord, ← sortKeys_obj, Contract.accepts_sortKeys _ hwf, Contract.accepts_sortKeys _ hwf]
  exact h

/-- In every run, the answers, the claims of the tokens in them, the records and the lines of the
log validate against what AXG publishes.  A line of the log is its record with the time and the
two hashes filled in and the members in the order of their names; a schema minds neither. -/
theorem server_conforms (hsha : ∀ t, (deployed.sha.hexdigest t).length = 64)
    (h : Reachable Server.Init (ServerStep validate deployed settings compact) s) :
    s.Conforms compact := by
  have htraced := Server.traced_of_reachable h
  have hrecorded := Server.recorded_of_reachable h
  refine ⟨fun a _ reply _ => reply.accepts_contract,
    fun a ha token hshows => (htraced.answers a ha).2.conforms hsha hshows,
    fun a ha => (htraced.answers a ha).2.isRecord, ?_⟩
  intro hbreaks
  obtain ⟨-, hparse⟩ := hrecorded.sink.inv.verifies hbreaks
  refine ⟨_, hparse, ?_⟩
  intro e he
  obtain ⟨entry, hentry, rfl⟩ := List.mem_map.mp he
  refine IsRecord.inKeyOrder (hrecorded.sink.inv.wf entry hentry) ?_
  obtain ⟨call, hcall, prev, hash, -, -, hextends⟩ := hrecorded.sink.inv.exists_call hentry
  refine IsRecord.extends ?_ ⟨prev, hash, hextends⟩
  -- the call is one of an answer
  have hstarted : call.1 ∈ s.audit.started := by
    rw [(hrecorded.sink.inv.accounted hrecorded.sink.noneFailed).mem_iff]
    exact List.mem_append_left _ (List.mem_map_of_mem hcall)
  have hscheduled : call.1.members ∈ s.scheduled := by
    rw [hrecorded.once.mem_iff]
    exact List.mem_append_right _ (List.mem_map_of_mem hstarted)
  obtain ⟨a, ha, hrecord⟩ := List.mem_filterMap.mp hscheduled
  exact (htraced.answers a ha).2.isRecord _ hrecord

end

theorem servedSha_length (t : Str) : (servedSha.hexdigest t).length = 64 := by
  change ((servedDigests.rows.lookup t).getD noDigest).length = 64
  cases h : servedDigests.rows.lookup t with
  | none => exact List.length_replicate
  | some d => exact (servedDigests.mem_rows h).1

/-- The Passport of the payment has the claims of its contract. -/
theorem server_conforms_pay : ∃ (s : Server) (token : Token),
    servedResponse.passport = some token ∧ token.Conforms ∧ s.Conforms shortToken := by
  obtain ⟨s, h, a, ha, hreply⟩ := reachable_served
  have hsome : servedResponse.passport.isSome = true := by decide +kernel
  obtain ⟨token, htoken⟩ := Option.isSome_iff_exists.mp hsome
  have hsha : ∀ t, (keyDeployment.sha.hexdigest t).length = 64 := servedSha_length
  have hconforms := server_conforms hsha h
  exact ⟨s, token, htoken,
    hconforms.tokens a ha token (.inl ⟨servedResponse, hreply, .inl htoken⟩), hconforms⟩

/-! ## 5. What comes in -/

section

variable {parse : Str → Token} {ms : Dict Json} {name : String}

/-- The member `name` is there, and validates. -/
def Holds (schema : Schema) (ms : Dict Json) (name : String) : Prop :=
  ∃ w, ms.lookup (lit name) = some w ∧ schema.accepts w = true

theorem holds_iff {schema : Schema} :
    Holds schema ms name ↔
      (∀ w ∈ ms.lookup (lit name), schema.accepts w = true) ∧ lit name ∈ Dict.keys ms := by
  rw [← Dict.lookup_isSome_iff, Option.isSome_iff_exists]
  constructor
  · rintro ⟨w, hw, h⟩
    exact ⟨accepts_member hw h, w, hw⟩
  · rintro ⟨h, w, hw⟩
    exact ⟨w, hw, h w hw⟩

theorem isText_of_lookup {w : Json} (htext : (Json.obj ms).isText = true)
    (hw : ms.lookup (lit name) = some w) : w.isText = true := by
  rw [Json.isText, Json.every_obj] at htext
  exact htext.2 _ (Dict.lookup_mem hw)

/-- A text field is read when it holds a text. -/
theorem holds_string_iff {minLength : Nat} (htext : (Json.obj ms).isText = true) :
    Holds (.string minLength) ms name ↔
      ∃ t, textField ms name = some t ∧ minLength ≤ t.str.length := by
  constructor
  · rintro ⟨w, hw, h⟩
    cases w with
    | str s =>
      have hs : IsScalar s := by
        have := isText_of_lookup htext hw
        simpa [Json.isText, Json.every] using this
      exact ⟨⟨s, hs⟩, textField_of_lookup hw, of_decide_eq_true h⟩
    | _ => cases h
  · rintro ⟨t, ht, hlength⟩
    exact ⟨_, textField_eq_some ht, decide_eq_true hlength⟩

theorem holds_text_iff (htext : (Json.obj ms).isText = true) :
    (textField ms name).isSome = true ↔ Holds Contract.text ms name := by
  rw [Contract.text, holds_string_iff htext, Option.isSome_iff_exists]
  exact exists_congr fun t => (and_iff_left (Nat.zero_le _)).symm

theorem objectAt_isSome_iff {body : JsonObject} :
    (objectAt body (lit name)).isSome = true ↔ Holds Contract.mapping body.members name := by
  rw [Option.isSome_iff_exists]
  constructor
  · rintro ⟨o, ho⟩
    exact ⟨_, objectAt_eq_some_iff.mp ho, Schema.accepts_open _⟩
  · rintro ⟨w, hw, h⟩
    cases w with
    | obj members => exact ⟨⟨members, JsonObject.wf_of_lookup hw⟩, objectAt_eq_some_iff.mpr hw⟩
    | _ => cases h

/-- `ApproverIdentity` takes what its schema accepts. -/
theorem approverIdentity_accepts_iff {body : JsonObject} (htext : body.json.isText = true) :
    (ApproverIdentity.validate body).isSome = true ↔
      Contract.approverIdentity.accepts body.json = true := by
  have hvalidate : (ApproverIdentity.validate body).isSome = true ↔
      Holds (.string 1) body.members "id" ∧ Holds (.string 1) body.members "role" := by
    rw [holds_string_iff htext, holds_string_iff htext]
    unfold ApproverIdentity.validate
    cases textField body.members "id" with
    | none => simp
    | some id =>
      cases textField body.members "role" with
      | none => simp
      | some role => simp [Nat.one_le_iff_ne_zero]
  have haccepts : Contract.approverIdentity.accepts body.json = true ↔
      (∀ p ∈ [("id", Schema.string 1), ("role", Schema.string 1)],
        ∀ w ∈ body.members.lookup (lit p.1), p.2.accepts w = true) ∧
      (∀ name ∈ ["id", "role"], lit name ∈ Dict.keys body.members) ∧
      (false = true → ∀ k ∈ Dict.keys body.members, k ∈ _) := accepts_object_iff
  rw [hvalidate, haccepts, holds_iff, holds_iff]
  simp only [List.forall_mem_cons, List.not_mem_nil, false_implies, implies_true, and_true,
    Bool.false_eq_true]
  exact and_and_and_comm

theorem outcomeField_isSome_iff :
    (outcomeField ms).isSome = true ↔
      ∀ w ∈ ms.lookup (lit "outcome"), (Schema.enum ["approve", "deny"]).accepts w = true := by
  unfold outcomeField
  cases hw : ms.lookup (lit "outcome") with
  | none => simp
  | some w =>
    cases w with
    | str s =>
      have haccepts : (Schema.enum ["approve", "deny"]).accepts (.str s) = true ↔
          s = lit "approve" ∨ s = lit "deny" := by
        simp [Schema.accepts]
      simp only [Option.mem_def, Option.some.injEq, forall_eq', haccepts]
      split_ifs with happrove hdeny
      · exact iff_of_true rfl (.inl happrove)
      · exact iff_of_true rfl (.inr hdeny)
      · exact iff_of_false Bool.false_ne_true (not_or.mpr ⟨happrove, hdeny⟩)
    | _ => simp [Schema.accepts]

/-- A version is a text, where there is one. -/
theorem schemaVersion_iff (htext : (Json.obj ms).isText = true) :
    ¬ ((ms.lookup (lit "schema_version")).isSome ∧ (textField ms "schema_version").isNone) ↔
      ∀ w ∈ ms.lookup (lit "schema_version"), Contract.text.accepts w = true := by
  have hholds := @holds_text_iff _ "schema_version" htext
  rw [holds_iff, ← Dict.lookup_isSome_iff] at hholds
  rw [← Option.not_isSome, Bool.not_eq_true', ← Bool.not_eq_true, not_and, not_not, hholds]
  cases ms.lookup (lit "schema_version") with
  | none => simp
  | some w => simp

/-- `ApprovalRequest` takes what its schema accepts: the required fields with their types, the
defaults where a field is absent, and fields that neither knows.  The model is pydantic's reading
of the class, the schema is the published file; nothing but this theorem keeps the two together. -/
theorem approvalRequest_accepts_iff {body : JsonObject} (htext : body.json.isText = true) :
    (ApprovalRequest.validate parse body).isSome = true ↔
      Contract.approvalRequest.accepts body.json = true := by
  have hidentity : (∃ o, objectAt body (lit "approver") = some o ∧
      (ApproverIdentity.validate o).isSome = true) ↔
        Holds Contract.approverIdentity body.members "approver" := by
    constructor
    · rintro ⟨o, ho, hvalid⟩
      have hlookup := objectAt_eq_some_iff.mp ho
      have ho' : o.json.isText = true := isText_of_lookup htext hlookup
      exact ⟨_, hlookup, (approverIdentity_accepts_iff ho').mp hvalid⟩
    · rintro ⟨w, hw, h⟩
      cases w with
      | obj members =>
        have ho : objectAt body (lit "approver") = some ⟨members, JsonObject.wf_of_lookup hw⟩ :=
          objectAt_eq_some_iff.mpr hw
        exact ⟨_, ho, (approverIdentity_accepts_iff (isText_of_lookup htext hw)).mpr h⟩
      | _ => cases h
  -- the fields in the order in which the class reads them, one question for each
  have hvalidate : (ApprovalRequest.validate parse body).isSome = true ↔
      ¬ ((body.members.lookup (lit "schema_version")).isSome ∧
          (textField body.members "schema_version").isNone) ∧
        (textField body.members "ticket").isSome = true ∧
        (objectAt body (lit "actionable_payload")).isSome = true ∧
        (∃ o, objectAt body (lit "approver") = some o ∧
          (ApproverIdentity.validate o).isSome = true) ∧
        (outcomeField body.members).isSome = true := by
    unfold ApprovalRequest.validate
    dsimp only
    split_ifs with hversion
    · simp [hversion]
    · rw [and_iff_right hversion]
      cases textField body.members "ticket" with
      | none => simp
      | some ticket =>
        cases objectAt body (lit "actionable_payload") with
        | none => simp
        | some payload =>
          cases objectAt body (lit "approver") with
          | none => simp
          | some approver =>
            cases hid : ApproverIdentity.validate approver with
            | none => simp [hid]
            | some identity => cases outcomeField body.members <;> simp [hid]
  have haccepts : Contract.approvalRequest.accepts body.json = true ↔ _ ∧ _ ∧ _ :=
    accepts_object_iff
  rw [hvalidate, schemaVersion_iff htext, holds_text_iff htext, objectAt_isSome_iff, hidentity,
    outcomeField_isSome_iff, haccepts, holds_iff, holds_iff, holds_iff]
  simp only [List.forall_mem_cons, List.not_mem_nil, false_implies, implies_true, and_true,
    Bool.false_eq_true]
  constructor
  · rintro ⟨hversion, ⟨hticket, ht⟩, ⟨hpayload, hp⟩, ⟨happrover, ha⟩, houtcome⟩
    exact ⟨⟨hpayload, happrover, houtcome, hversion, hticket⟩, ht, hp, ha⟩
  · rintro ⟨⟨hpayload, happrover, houtcome, hversion, hticket⟩, ht, hp, ha⟩
    exact ⟨hversion, ⟨hticket, ht⟩, ⟨hpayload, hp⟩, ⟨happrover, ha⟩, houtcome⟩

end

/-- The body of a submission that the clients send. -/
theorem approvalRequest_accepts_iff_amount :
    Contract.approvalRequest.accepts (.obj (amountApproval.submission ticketText).body) = true := by
  have htext := (@sendable_submission _ ticketText sendable_amountApproval).1
  refine (@approvalRequest_accepts_iff approvalApi.parse
    ⟨(amountApproval.submission ticketText).body, wf_submission _⟩ htext).mp ?_
  rw [validate_submission parse_approvalApi]
  rfl

end Axg
