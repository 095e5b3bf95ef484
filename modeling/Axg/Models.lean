/-
# Requests, policies and decisions (`axg/models.py`)

The pydantic models, with what validation guarantees as part of the types: a score lies between
0 and 1, a ticket lives between a minute and a week, a condition group is not empty, and a
string is Unicode text.  Payloads, contexts, intents and metadata are JSON objects of any shape.

Scores are exact rationals.  `Score.json` is the double that a model dump shows for one.
-/
import Mathlib.Algebra.Order.Field.Rat
import Mathlib.Tactic.NormNum
import Axg.Auth
import Axg.Jwt

namespace Axg

open Python

/-! ## 1. Values -/

/-- A JSON object as `json.loads` builds one: each key once, at every level. -/
structure JsonObject where
  members : Dict Json
  wf : (Json.obj members).Wf

namespace JsonObject

def empty : JsonObject := ⟨[], by decide⟩

def json (o : JsonObject) : Json := .obj o.members

/-- `o.get(key)` -/
def get (o : JsonObject) (key : String) : Option Json := o.members.lookup (lit key)

theorem nodup (o : JsonObject) : o.members.keys.Nodup := (Json.wf_obj.mp o.wf).1

theorem wf_of_lookup {o : JsonObject} {k : Str} {v : Json} (h : o.members.lookup k = some v) :
    v.Wf := (Json.wf_obj.mp o.wf).2 _ (Dict.lookup_mem h)

/-- `{**o, key: value}` -/
def set (o : JsonObject) (key : Str) (v : Json) (hv : v.Wf) : JsonObject :=
  ⟨o.members.set key v, Json.wf_obj.mpr ⟨Dict.nodup_set key v o.nodup, fun p hp => by
    rcases Dict.mem_set hp with rfl | hp
    · exact hv
    · exact (Json.wf_obj.mp o.wf).2 p hp⟩⟩

/-- `o.update(p)` -/
def update (o p : JsonObject) : JsonObject :=
  ⟨o.members.update p.members, Json.wf_obj.mpr ⟨Dict.nodup_update p.members o.nodup,
    fun q hq => (Dict.mem_update hq).elim ((Json.wf_obj.mp o.wf).2 q)
      ((Json.wf_obj.mp p.wf).2 q)⟩⟩

/-- `o.setdefault(key, value)` -/
def setdefault (o : JsonObject) (key : Str) (v : Json) (hv : v.Wf) : JsonObject :=
  if (o.members.lookup key).isSome then o else o.set key v hv

@[simp] theorem members_set (o : JsonObject) (key : Str) (v : Json) (hv : v.Wf) :
    (o.set key v hv).members = o.members.set key v := rfl

@[simp] theorem members_update (o p : JsonObject) :
    (o.update p).members = o.members.update p.members := rfl

end JsonObject

/-- A confidence, a threshold, a penalty or a risk: a number from 0 to 1. -/
structure Score where
  val : ℚ
  nonneg : 0 ≤ val
  le_one : val ≤ 1
deriving DecidableEq

theorem Score.zero_nonneg : (0 : ℚ) ≤ 0 := le_refl _

theorem Score.zero_le : (0 : ℚ) ≤ 1 := zero_le_one

theorem Score.one_le : (1 : ℚ) ≤ 1 := le_refl _

/-- The double nearest to a score. -/
def Score.toFloat (s : Score) : F64 :=
  ((round (s.val.num.natAbs * one) s.val.den).map (F64.finite false)).getD (.inf false)

def Score.json (s : Score) : Json := .float s.toFloat

/-- A score is shown as a finite double. -/
theorem Score.exists_toFloat (s : Score) : ∃ m, s.toFloat = .finite false m := by
  have hnum : s.val.num.natAbs ≤ s.val.den := by
    have hle : s.val.num ≤ s.val.den := by simpa using Rat.le_iff s.val 1 |>.mp s.le_one
    have hnonneg := Rat.num_nonneg.mpr s.nonneg
    omega
  obtain ⟨u, hu⟩ := exists_mag_of_lt (n := 1) (by decide)
  have hone : round (s.val.den * one) s.val.den = some u := by
    rw [Nat.mul_comm, ← Nat.one_mul one, ← hu]
    exact round_units u s.val.pos
  obtain ⟨m, hm⟩ : ∃ m, round (s.val.num.natAbs * one) s.val.den = some m := by
    refine exists_round s.val.pos (lt_of_le_of_lt ?_ u.units_lt)
    rw [units_of_round hone]
    exact roundUnits_mono s.val.pos (Nat.mul_le_mul_right one hnum)
  exact ⟨m, by rw [toFloat, hm]; rfl⟩

/-! ## 2. Requests -/

inductive Decision
  | allow
  | suggest
  | confirm
  | block
deriving DecidableEq

namespace Decision

def value : Decision → Text
  | allow => .lit "ALLOW"
  | suggest => .lit "SUGGEST"
  | confirm => .lit "CONFIRM"
  | block => .lit "BLOCK"

/-- `DECISION_PRECEDENCE` -/
def precedence : Decision → Nat
  | allow => 0
  | suggest => 1
  | confirm => 2
  | block => 3

end Decision

structure AgentIdentity where
  id : Text
  type : Text
  permissions : List Text

structure LlmSignal where
  model : Option Text
  confidence : Score
  rawOutput : JsonObject

structure DecisionRequest where
  schemaVersion : Text
  executionId : Text
  tenantId : Text
  appId : Text
  pluginId : Text
  userId : Option Text
  agent : Option AgentIdentity
  source : Text
  actionType : Text
  payload : JsonObject
  context : JsonObject
  signedContext : List Text
  signedContext_length : signedContext.length ≤ 8
  llm : LlmSignal
  intent : JsonObject
  shadowMode : Bool
  metadata : JsonObject

/-! ## 3. Policies -/

inductive RuleOperator
  | eq
  | neq
  | gt
  | gte
  | lt
  | lte
  | isIn
  | notIn
  | exists
  | contains
deriving DecidableEq

structure RuleCondition where
  field : Text
  operator : RuleOperator
  value : Json
  wf : value.Wf

/-- The last field is `require_condition`. -/
structure ConditionGroup where
  all : Option (List RuleCondition)
  any : Option (List RuleCondition)
  nonempty : all.getD [] ≠ [] ∨ any.getD [] ≠ []

structure PolicyRule where
  id : Text
  condition : ConditionGroup
  decision : Decision
  reason : Text
  confidencePenalty : Score
  riskDelta : Score
  actionablePayload : JsonObject
  auditFlags : List Text
  approverRole : Option Text

structure Thresholds where
  allowMinConfidence : Score
  suggestMinConfidence : Score
  highRiskThreshold : Score

structure ActionPolicy where
  requiredPermissions : List Text
  baseRisk : Score
  approverRole : Option Text
  requiredContext : List Text

structure ApprovalPolicy where
  defaultRole : Text
  ticketTtlSeconds : Nat
  minute_le : 60 ≤ ticketTtlSeconds
  le_week : ticketTtlSeconds ≤ 604800

structure UncertaintyGate where
  actions : List Text
  uncertainSources : List Text
  uncertainSourceSuffixes : List Text
  threshold : Score
  auditFlag : Text
  reason : Text

structure Plugin where
  plugin : Text
  version : Text
  thresholds : Thresholds
  actions : Dict ActionPolicy
  nodup : actions.keys.Nodup
  rules : List PolicyRule
  uncertaintyGate : UncertaintyGate
  approval : ApprovalPolicy

/-- `f"{self.plugin}@{self.version}"` -/
def Plugin.versionLabel (plugin : Plugin) : Text := plugin.plugin ++ .lit "@" ++ plugin.version

/-- `plugin.actions.get(request.action_type)` -/
def Plugin.action (plugin : Plugin) (actionType : Text) : Option ActionPolicy :=
  plugin.actions.lookup actionType.str

/-! The defaults of the models. -/

def Thresholds.default : Thresholds where
  allowMinConfidence := ⟨85 / 100, by norm_num, by norm_num⟩
  suggestMinConfidence := ⟨65 / 100, by norm_num, by norm_num⟩
  highRiskThreshold := ⟨7 / 10, by norm_num, by norm_num⟩

def ActionPolicy.default : ActionPolicy := ⟨[], ⟨25 / 100, by norm_num, by norm_num⟩, none, []⟩

def ApprovalPolicy.default : ApprovalPolicy := ⟨.lit "end_user", 3600, by decide, by decide⟩

def UncertaintyGate.default : UncertaintyGate where
  actions := []
  uncertainSources := [.lit "whatsapp_bot", .lit "telegram_bot", .lit "chat"]
  uncertainSourceSuffixes := [.lit "_bot"]
  threshold := ⟨7 / 10, by norm_num, by norm_num⟩
  auditFlag := .lit "write_requires_confirmation"
  reason := .lit ("Intent could not be confidently identified. This action changes data, " ++
    "so confirmation is required before execution.")

/-- A policy of which only the name and the version are given. -/
def Plugin.default (plugin version : Text) : Plugin where
  plugin := plugin
  version := version
  thresholds := .default
  actions := []
  nodup := List.nodup_nil
  rules := []
  uncertaintyGate := .default
  approval := .default

/-! ## 4. Decisions -/

inductive RiskLevel
  | low
  | medium
  | high
deriving DecidableEq

def RiskLevel.value : RiskLevel → Text
  | low => .lit "low"
  | medium => .lit "medium"
  | high => .lit "high"

structure DecisionScores where
  llmConfidence : Score
  finalConfidence : Score
  riskScore : Score
  riskLevel : RiskLevel
  uncertaintyScore : Score

structure TriggeredRule where
  id : Text
  decision : Decision
  reason : Text

structure ApprovalChallenge where
  ticket : Token
  ticketId : Text
  requiredRole : Text
  expiresAt : Int

structure DecisionResponse where
  executionId : Text
  pluginVersion : Text
  decision : Decision
  passport : Option Token
  passportId : Option Text
  scores : DecisionScores
  actionablePayload : JsonObject
  reason : Text
  auditFlags : List Text
  rulesTriggered : List TriggeredRule
  shadowMode : Bool
  metadata : JsonObject
  approval : Option ApprovalChallenge
  verifiedContext : List Text

end Axg
