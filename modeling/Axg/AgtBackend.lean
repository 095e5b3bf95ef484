/-
# The backend of the Agent Governance Toolkit (`integrations/agt-dotnet`)

`AxgPolicyBackend` asks AXG about every evaluation and maps the answer to a decision of the toolkit
and to a sink that the host reads.  Only `ALLOW` with a Passport allows (`evaluate_allowed_iff`):
another status, a text that is not JSON and a transport that fails are errors and deny, and the
other decisions deny without one.

`GetValue` and the indexer of a `JsonNode` raise for a value of another kind and for a key that
occurs twice, and neither `Evaluate` nor `EvaluateAsync` catches that.  AXG sends none of these:
what it renders for a decision is mapped, and the sink has the decision, the Passport, the payload
that it is signed for and the approval ticket (`agt_reads_decision`).

`System.Text.Json` is a parameter, as is what the evaluation context holds under the keys of the
options.
-/
import Axg.ApprovalClients

namespace Axg

open Python

namespace Agt

/-! ## 1. `System.Text.Json` -/

/-- `JsonNode.Parse`, which raises a `JsonException` for what is not JSON, `ToJsonString` and
`JsonSerializer.Serialize`. -/
structure JsonLibrary where
  parse : Str → Option Json
  toJsonString : Json → Str
  serialize : Json → Str

/-- What leaves `Evaluate`. -/
inductive Escaped
  /-- `GetValue`, or the indexer, of a node of another kind. -/
  | invalidOperation
  /-- The first look into an object with a key that occurs twice. -/
  | argument
  /-- What sending raises, other than the exceptions that are caught. -/
  | transport

/-- A node, or the `null` that JSON's `null` becomes. -/
def nullable : Json → Option Json
  | .null => none
  | v => some v

/-- `node?[key]` -/
def item (node : Option Json) (key : String) : Except Escaped (Option Json) :=
  match node with
  | none => .ok none
  | some (.obj members) =>
    if (Dict.keys members).Nodup then .ok ((members.lookup (lit key)).bind nullable)
    else .error .argument
  | some _ => .error .invalidOperation

/-- `node?.GetValue<string>()` -/
def getString : Option Json → Except Escaped (Option Str)
  | none => .ok none
  | some (.str s) => .ok (some s)
  | some _ => .error .invalidOperation

/-- `node?.GetValue<long>()` -/
def getLong : Option Json → Except Escaped (Option Int)
  | none => .ok none
  | some (.int i) =>
    if -2 ^ 63 ≤ i ∧ i < 2 ^ 63 then .ok (some i) else .error .invalidOperation
  | some _ => .error .invalidOperation

/-- `node?[key]?.GetValue<string>()` -/
def stringAt (node : Option Json) (key : String) : Except Escaped (Option Str) := do
  getString (← item node key)

/-! ## 2. The backend -/

/-- `AxgPolicyBackendOptions`, without the keys of the context and the transport. -/
structure Options where
  appId : Text
  pluginId : Option Text
  defaultTenant : Text

/-- What an evaluation context holds under the keys of the options, and whether it has a sink. -/
structure Context where
  agentDid : Option Text
  permissions : List Text
  tenant : Option Text
  action : Option Text
  payload : Option Json
  hasSink : Bool

/-- The body of `BuildRequest`; `guid` is `Guid.NewGuid()`. -/
def buildRequest (options : Options) (context : Context) (guid : Text) : Dict Json :=
  [strClaim "execution_id" (Text.lit "agt-" ++ guid),
    strClaim "tenant_id" (context.tenant.getD options.defaultTenant),
    strClaim "app_id" options.appId, strClaim "plugin_id" (options.pluginId.getD options.appId),
    (lit "agent", .obj [strClaim "id" (context.agentDid.getD (.lit "unknown-agent")),
      strClaim "type" (lit "agent"), (lit "permissions", textList context.permissions)]),
    strClaim "source" (lit "agt"), strClaim "action_type" (context.action.getD (.lit "")),
    (lit "payload", context.payload.getD (.obj [])),
    (lit "llm", .obj [(lit "confidence", Interceptor.certain.json)]),
    (lit "metadata", .obj [strClaim "flow" (lit "agt:evaluate")])]

/-- The metadata of a decision that was mapped. -/
structure Metadata where
  axgDecision : Str
  requiresApproval : Bool
  executionId : Str
  passport : Str
  passportId : Str
  actionablePayload : Str
  riskLevel : Str
  approvalTicket : Str
  approvalTicketId : Str
  approvalRequiredRole : Str
  approvalExpiresAt : Int

/-- `ExternalPolicyDecision`, without the time it took. -/
structure ExternalPolicyDecision where
  allowed : Bool
  reason : Str
  error : Option Str
  metadata : Option Metadata

/-- `Failure` -/
def failure (error : Str) : ExternalPolicyDecision := ⟨false, error, some error, none⟩

/-- `AxgDecisionSink` -/
structure Sink where
  decision : Option Str
  allowed : Bool
  requiresApproval : Bool
  reason : Option Str
  error : Option Str
  executionId : Option Str
  passport : Option Str
  passportId : Option Str
  actionablePayloadJson : Option Str
  riskLevel : Option Str
  approvalTicket : Option Str
  approvalTicketId : Option Str
  approvalRequiredRole : Option Str
  approvalExpiresAt : Option Int

/-- A text of the metadata that is not empty. -/
def nonempty (s : Str) : Option Str := if s = [] then none else some s

/-- `Report`: what the sink is given. -/
def report (result : ExternalPolicyDecision) : Sink where
  decision := result.metadata.bind (nonempty ·.axgDecision)
  allowed := result.allowed
  requiresApproval := result.metadata.any (·.requiresApproval)
  reason := some result.reason
  error := result.error
  executionId := result.metadata.bind (nonempty ·.executionId)
  passport := result.metadata.bind (nonempty ·.passport)
  passportId := result.metadata.bind (nonempty ·.passportId)
  actionablePayloadJson := result.metadata.bind (nonempty ·.actionablePayload)
  riskLevel := result.metadata.bind (nonempty ·.riskLevel)
  approvalTicket := result.metadata.bind (nonempty ·.approvalTicket)
  approvalTicketId := result.metadata.bind (nonempty ·.approvalTicketId)
  approvalRequiredRole := result.metadata.bind (nonempty ·.approvalRequiredRole)
  approvalExpiresAt :=
    (result.metadata.map (·.approvalExpiresAt)).filter (fun expires => 0 < expires)

def awaitsApproval (decision : Str) : Bool :=
  decision = Decision.confirm.value.str || decision = Decision.suggest.value.str

section

variable (dotnet : JsonLibrary)

/-- `Map`, of a body that is JSON. -/
def mapNode (node : Option Json) : Except Escaped ExternalPolicyDecision := do
  let decision := (← stringAt node "decision").getD (lit "UNKNOWN")
  let passport ← stringAt node "passport"
  let reason := (← stringAt node "reason").getD (lit "no reason given")
  let executionId ← stringAt node "execution_id"
  let passportId ← stringAt node "passport_id"
  let payload ← item node "actionable_payload"
  let riskLevel ← stringAt (← item node "scores") "risk_level"
  let ticket ← stringAt (← item node "approval") "ticket"
  let ticketId ← stringAt (← item node "approval") "ticket_id"
  let requiredRole ← stringAt (← item node "approval") "required_role"
  let expiresAt ← getLong (← item (← item node "approval") "expires_at")
  return {
    allowed := decision = Decision.allow.value.str && passport.getD [] ≠ []
    reason := lit "AXG " ++ decision ++ lit ": " ++ reason
    error := none
    metadata := some {
      axgDecision := decision
      requiresApproval := awaitsApproval decision
      executionId := executionId.getD []
      passport := passport.getD []
      passportId := passportId.getD []
      actionablePayload := (payload.map dotnet.toJsonString).getD (lit "\x7b\x7d")
      riskLevel := riskLevel.getD []
      approvalTicket := ticket.getD []
      approvalTicketId := ticketId.getD []
      approvalRequiredRole := requiredRole.getD []
      approvalExpiresAt := expiresAt.getD 0 } }

/-- `Map` -/
def map (response : HttpAnswer) : Except Escaped ExternalPolicyDecision :=
  if ¬ (200 ≤ response.statusCode ∧ response.statusCode < 300) then
    .ok (failure (lit "AXG returned HTTP " ++ strNat response.statusCode))
  else
    match dotnet.parse response.text with
    | none => .ok (failure (lit "AXG returned an unreadable response"))
    | some node => mapNode dotnet (nullable node)

/-- The decision on what sending comes to. -/
def decided : HttpExchange → Except Escaped ExternalPolicyDecision
  | .failed message => .ok (failure (lit "AXG unavailable: " ++ message))
  | .raised => .error .transport
  | .answered response => map dotnet response

/-- `Evaluate`, and `EvaluateAsync`: the decision, and the sink when there is one. -/
def evaluate (options : Options) (send : Str → HttpExchange) (context : Context) (guid : Text) :
    Except Escaped (ExternalPolicyDecision × Option Sink) := do
  let body := dotnet.serialize (.obj (buildRequest options context guid))
  let result ← decided dotnet (send body)
  return (result, if context.hasSink then some (report result) else none)

end

/-! ## 3. What allows -/

section

variable {dotnet : JsonLibrary} {members : Dict Json} {key : String}

theorem item_eq (hkeys : (Dict.keys members).Nodup) :
    item (some (.obj members)) key = .ok ((members.lookup (lit key)).bind nullable) := if_pos hkeys

/-- A text is read from an object with no key twice. -/
theorem stringAt_eq_some_iff {node : Option Json} {s : Str} :
    stringAt node key = .ok (some s) ↔
      ∃ members, node = some (.obj members) ∧ (Dict.keys members).Nodup ∧
        members.lookup (lit key) = some (.str s) := by
  constructor
  · intro h
    obtain ⟨v, hitem, hstring⟩ := bind_eq_ok h
    obtain rfl : v = some (.str s) := by
      unfold getString at hstring
      split at hstring <;> cases hstring
      rfl
    unfold item at hitem
    split at hitem
    · cases hitem
    · rename_i members
      split at hitem
      · rename_i hkeys
        obtain ⟨w, hlookup, hw⟩ := Option.bind_eq_some_iff.mp (Except.ok.inj hitem)
        refine ⟨members, rfl, hkeys, hlookup.trans (congrArg some ?_)⟩
        unfold nullable at hw
        split at hw <;> cases hw
        rfl
      · cases hitem
    · cases hitem
  · rintro ⟨members, rfl, hkeys, hlookup⟩
    rw [stringAt, item_eq hkeys, hlookup]
    rfl

/-- A text or `null` of an object is read as it is. -/
theorem stringAt_optionalText (hkeys : (Dict.keys members).Nodup) {t : Option Text}
    (hlookup : members.lookup (lit key) = some (optionalText t)) :
    stringAt (some (.obj members)) key = .ok (t.map Text.str) := by
  rw [stringAt, item_eq hkeys, hlookup]
  cases t <;> rfl

theorem stringAt_str (hkeys : (Dict.keys members).Nodup) {s : Str}
    (hlookup : members.lookup (lit key) = some (.str s)) :
    stringAt (some (.obj members)) key = .ok (some s) :=
  stringAt_eq_some_iff.mpr ⟨members, rfl, hkeys, hlookup⟩

variable {options : Options} {send : Str → HttpExchange} {context : Context} {guid : Text}

end

/-! ## 4. What AXG answers -/

section

variable {dotnet : JsonLibrary} {compact : Token → Text} {response : DecisionResponse}

variable (dotnet compact response) in
/-- The decision that a response of AXG is mapped to. -/
def responseDecision : ExternalPolicyDecision where
  allowed := response.decision = .allow && (response.passport.map compact).isSome
  reason := lit "AXG " ++ response.decision.value.str ++ lit ": " ++ response.reason.str
  error := none
  metadata := some {
    axgDecision := response.decision.value.str
    requiresApproval := response.decision = .confirm || response.decision = .suggest
    executionId := response.executionId.str
    passport := ((response.passport.map compact).map Text.str).getD []
    passportId := (response.passportId.map Text.str).getD []
    actionablePayload := dotnet.toJsonString response.actionablePayload.json
    riskLevel := response.scores.riskLevel.value.str
    approvalTicket := (response.approval.map (fun c => (compact c.ticket).str)).getD []
    approvalTicketId := (response.approval.map (·.ticketId.str)).getD []
    approvalRequiredRole := (response.approval.map (·.requiredRole.str)).getD []
    approvalExpiresAt := (response.approval.map (·.expiresAt)).getD 0 }

/-- The approval of a response is read field by field, where there is one. -/
theorem approval_read (hexpires : ∀ c ∈ response.approval, 0 < c.expiresAt ∧ c.expiresAt < 2 ^ 63) :
    ∃ node, item (some (.obj (response.dump compact))) "approval" = .ok node ∧
      stringAt node "ticket" = .ok (response.approval.map (fun c => (compact c.ticket).str)) ∧
      stringAt node "ticket_id" = .ok (response.approval.map (·.ticketId.str)) ∧
      stringAt node "required_role" = .ok (response.approval.map (·.requiredRole.str)) ∧
      (item node "expires_at" >>= getLong) = .ok (response.approval.map (·.expiresAt)) := by
  refine ⟨_, item_eq (response.nodup_dump compact), ?_⟩
  have hlookup : (response.dump compact).lookup (lit "approval") =
      some ((response.approval.map (ApprovalChallenge.dump compact)).getD .null) := rfl
  rw [hlookup]
  cases happroval : response.approval with
  | none => exact ⟨rfl, rfl, rfl, rfl⟩
  | some c =>
    obtain ⟨hpos, hlong⟩ := hexpires c happroval
    refine ⟨rfl, rfl, rfl, ?_⟩
    change getLong (some (.int c.expiresAt)) = _
    exact if_pos ⟨by omega, hlong⟩

/-- Every response that AXG can render is mapped. -/
theorem mapNode_response (hcompact : ∀ token, (compact token).str ≠ [])
    (hexpires : ∀ c ∈ response.approval, 0 < c.expiresAt ∧ c.expiresAt < 2 ^ 63) :
    mapNode dotnet (some (.obj (response.dump compact))) =
      .ok (responseDecision dotnet compact response) := by
  have hkeys := response.nodup_dump compact
  have hdecision : stringAt (some (.obj (response.dump compact))) "decision" =
      .ok (some response.decision.value.str) := stringAt_str hkeys rfl
  have hpassport : stringAt (some (.obj (response.dump compact))) "passport" =
      .ok ((response.passport.map compact).map Text.str) := stringAt_optionalText hkeys rfl
  have hreason : stringAt (some (.obj (response.dump compact))) "reason" =
      .ok (some response.reason.str) := stringAt_str hkeys rfl
  have hexecution : stringAt (some (.obj (response.dump compact))) "execution_id" =
      .ok (some response.executionId.str) := stringAt_str hkeys rfl
  have hid : stringAt (some (.obj (response.dump compact))) "passport_id" =
      .ok (response.passportId.map Text.str) := stringAt_optionalText hkeys rfl
  have hpayload : item (some (.obj (response.dump compact))) "actionable_payload" =
      .ok (some response.actionablePayload.json) := item_eq hkeys
  have hscores : item (some (.obj (response.dump compact))) "scores" =
      .ok (some response.scores.dump) := item_eq hkeys
  have hrisk : stringAt (some response.scores.dump) "risk_level" =
      .ok (some response.scores.riskLevel.value.str) := by
    refine stringAt_str ?_ rfl
    have hfields : ∀ members, response.scores.dump = .obj members → Dict.keys members =
      ["llm_confidence", "final_confidence", "risk_score", "risk_level", "uncertainty_score"].map
        lit := by
      intro members hmembers
      cases hmembers
      rfl
    rw [hfields _ rfl]
    decide
  obtain ⟨node, happroval, hticket, hticketId, hrole, hexpiry⟩ :=
    @approval_read compact response hexpires
  obtain ⟨expires, hexpires, hlong⟩ := bind_eq_ok hexpiry
  simp only [mapNode, hdecision, hpassport, hreason, hexecution, hid, hpayload, hscores, hrisk,
    happroval, hticket, hticketId, hrole, hexpires, hlong, ok_bind]
  have hallow : (response.decision.value.str = Decision.allow.value.str) =
      (response.decision = .allow) := by
    cases response.decision <;> exact propext (by decide)
  have hawaits : awaitsApproval response.decision.value.str =
      (response.decision = .confirm || response.decision = .suggest) := by
    cases response.decision <;> decide
  have htoken : (((response.passport.map compact).map Text.str).getD [] ≠ []) =
      ((response.passport.map compact).isSome = true) := by
    cases response.passport with
    | none => exact propext ⟨fun h => absurd rfl h, fun h => nomatch h⟩
    | some token => exact propext (iff_of_true (hcompact token) rfl)
  simp only [responseDecision, Option.getD_some, Option.map_some, hallow, hawaits, htoken,
    Bool.decide_eq_true]
  rfl

/-- The sink tells a response of AXG: `payload` is the text of the payload.  An id or a role that is
empty is told as none. -/
structure Sink.Tells (sink : Sink) (compact : Token → Text) (response : DecisionResponse)
    (payload : Str) : Prop where
  decision : sink.decision = some response.decision.value.str
  allowed : sink.allowed = true ↔ response.decision = .allow ∧ response.passport.isSome = true
  reason : sink.reason =
    some (lit "AXG " ++ response.decision.value.str ++ lit ": " ++ response.reason.str)
  error : sink.error = none
  executionId : sink.executionId = nonempty response.executionId.str
  passport : sink.passport = response.passport.map (fun token => (compact token).str)
  passportId : sink.passportId = response.passportId.bind (nonempty ·.str)
  riskLevel : sink.riskLevel = some response.scores.riskLevel.value.str
  actionablePayload : sink.actionablePayloadJson = some payload
  reads : loads payload = .ok response.actionablePayload.json
  ticket : sink.approvalTicket = response.approval.map (fun c => (compact c.ticket).str)
  ticketId : sink.approvalTicketId = response.approval.bind (nonempty ·.ticketId.str)
  requiredRole : sink.approvalRequiredRole = response.approval.bind (nonempty ·.requiredRole.str)
  expiresAt : sink.approvalExpiresAt = response.approval.map (·.expiresAt)
  requiresApproval : sink.requiresApproval = true ↔
    response.decision = .confirm ∨ response.decision = .suggest

theorem report_tells (hcompact : ∀ token, (compact token).str ≠ [])
    (hexpires : ∀ c ∈ response.approval, 0 < c.expiresAt ∧ c.expiresAt < 2 ^ 63)
    (hwrites : loads (dotnet.toJsonString response.actionablePayload.json) =
      .ok response.actionablePayload.json) :
    (report (responseDecision dotnet compact response)).Tells compact response
      (dotnet.toJsonString response.actionablePayload.json) where
  decision := by
    refine if_neg ?_
    change response.decision.value.str ≠ []
    cases response.decision <;> decide
  allowed := by
    change (Decidable.decide _ && (response.passport.map compact).isSome) = true ↔ _
    rw [Bool.and_eq_true, decide_eq_true_iff, Option.isSome_map]
  reason := rfl
  error := rfl
  executionId := rfl
  passportId := by
    change nonempty _ = _
    cases response.passportId <;> rfl
  riskLevel := by
    refine if_neg ?_
    change response.scores.riskLevel.value.str ≠ []
    cases response.scores.riskLevel <;> decide
  passport := by
    change nonempty _ = _
    cases response.passport with
    | none => rfl
    | some token => exact if_neg (hcompact token)
  actionablePayload := by
    refine if_neg ?_
    intro hempty
    change dotnet.toJsonString response.actionablePayload.json = [] at hempty
    rw [hempty] at hwrites
    cases hwrites
  reads := hwrites
  ticket := by
    change nonempty _ = _
    cases response.approval with
    | none => rfl
    | some c => exact if_neg (hcompact c.ticket)
  ticketId := by
    change nonempty _ = _
    cases response.approval <;> rfl
  requiredRole := by
    change nonempty _ = _
    cases response.approval <;> rfl
  expiresAt := by
    change Option.filter (fun expires => 0 < expires)
      (some ((response.approval.map (·.expiresAt)).getD 0)) = _
    cases happroval : response.approval with
    | none => rfl
    | some c => exact if_pos (decide_eq_true (hexpires c happroval).1)
  requiresApproval := by
    change (Decidable.decide _ || Decidable.decide _) = true ↔ _
    rw [Bool.or_eq_true, decide_eq_true_iff, decide_eq_true_iff]

variable {options : Options} {send : Str → HttpExchange} {context : Context} {guid : Text}
  {request : DecisionRequest} {py : Interpreter} {sha : Sha256} {keys : KeyManager}
  {caller : Caller} {now : Clock} {uuid : Text} {loaded : Except Text Plugin}
  {verified : Except PyError VerifiedContext} {text : Str}

/-- A Passport is in the answer exactly for an `ALLOW` that is not a shadow evaluation. -/
theorem passport_isSome_iff
    (h : Axg.decide request py sha keys caller now uuid loaded verified = .ok response) :
    response.passport.isSome = true ↔ response.decision = .allow ∧ request.shadowMode = false := by
  obtain ⟨message, -, rfl, -⟩ | ⟨plugin, context, triggered, gated, -, -, he⟩ := decide_eq_ok.mp h
  · simp [failSafe]
  · rw [he.eq]
    exact respond_passport_isSome

/-- What AXG renders of a response is mapped, and reported. -/
theorem evaluate_response (hcompact : ∀ token, (compact token).str ≠ [])
    (hexpires : ∀ c ∈ response.approval, 0 < c.expiresAt ∧ c.expiresAt < 2 ^ 63)
    (hbody : renderResponse (.obj (response.dump compact)) = .ok text)
    (hparse : ∀ v, v.Wf → renderResponse v = .ok text → dotnet.parse text = some v)
    (hserves : send (dotnet.serialize (.obj (buildRequest options context guid))) =
      .answered ⟨200, text⟩)
    (hsink : context.hasSink = true) :
    evaluate dotnet options send context guid =
      .ok (responseDecision dotnet compact response,
        some (report (responseDecision dotnet compact response))) := by
  have hmap : map dotnet ⟨200, text⟩ = .ok (responseDecision dotnet compact response) := by
    have hsuccess : 200 ≤ 200 ∧ 200 < 300 := by decide
    rw [map, if_neg (not_not_intro hsuccess), hparse _ (response.wf_dump compact) hbody]
    exact mapNode_response hcompact hexpires
  simp only [evaluate, hserves, decided, hmap, ok_bind, hsink, ↓reduceIte]
  rfl

/-- The host allows what AXG allows.  Its sink has what AXG answered, field by field, and the
Passport in it is accepted for the payload beside it, for five minutes.  The payload crosses as a
text, so a host executes what it reads from there. -/
theorem agt_reads_decision
    (hdecide : Axg.decide request py sha keys caller now uuid loaded verified = .ok response)
    (hcompact : ∀ token, (compact token).str ≠ [])
    (hexpires : ∀ c ∈ response.approval, 0 < c.expiresAt ∧ c.expiresAt < 2 ^ 63)
    (hbody : renderResponse (.obj (response.dump compact)) = .ok text)
    (hparse : ∀ v, v.Wf → renderResponse v = .ok text → dotnet.parse text = some v)
    (hwrites : loads (dotnet.toJsonString response.actionablePayload.json) =
      .ok response.actionablePayload.json)
    (hserves : send (dotnet.serialize (.obj (buildRequest options context guid))) =
      .answered ⟨200, text⟩)
    (hsink : context.hasSink = true) :
    ∃ result sink payload,
      evaluate dotnet options send context guid = .ok (result, some sink) ∧
      result.error = none ∧
      (result.allowed = true ↔ response.decision = .allow ∧ request.shadowMode = false) ∧
      sink.Tells compact response payload ∧
      ∀ token ∈ response.passport, ∀ (call : VerifyCall) (later : Clock), call.token = token →
        loads payload = .ok call.payload.json →
        call.keySource.signingKey token = keys.privateKey →
        call.appId = request.appId.str → call.appId ≠ [] →
        (∀ t ∈ call.tenantId, t ≠ [] → request.tenantId.str = t) →
        (∀ as ∈ call.allowedActionTypes, as ≠ [] → request.actionType.str ∈ as) →
        now ≤ later → Clock.seconds later < Clock.seconds now + 300 →
        ∃ claims, decodeStep sha call later = .ok claims := by
  have heval := evaluate_response hcompact hexpires hbody hparse hserves hsink
  refine ⟨_, _, _, heval, rfl, ?_, report_tells hcompact hexpires hwrites, ?_⟩
  · have hissued := passport_isSome_iff hdecide
    rw [responseDecision, Bool.and_eq_true, decide_eq_true_iff, Option.isSome_map, hissued]
    exact ⟨And.right, fun h => ⟨h.1, h⟩⟩
  · intro token hpassport call later htoken hpayload hkey happ hne htenant haction hbegun hexp
    obtain ⟨plugin, triggered, jti, -, -, -, hactionable, hsign⟩ :=
      decide_passport hdecide hpassport
    cases htoken
    refine decodeStep_fresh hsign hkey happ.symm hne htenant haction ?_ hbegun hexp
    have hjson : call.payload.json = response.actionablePayload.json :=
      Except.ok.inj (hpayload.symm.trans hwrites)
    rw [hashPayload, hjson, hactionable]
    rfl

end

/-- A library that reads and writes JSON as AXG does. -/
def plainDotnet : JsonLibrary where
  parse text := (loads text).toOption
  toJsonString v := v.doc.render .plain []
  serialize v := v.doc.render .plain []

def plainOptions : Options := ⟨.lit "app", none, .lit "default"⟩

/-- An evaluation of the tool `pay`, with a sink. -/
def payContext : Context :=
  ⟨some (.lit "a1"), [], some (.lit "tenant"), some (.lit "pay"), some (amount 5).json, true⟩

theorem invoice_renders :
    ∃ text, renderResponse (.obj (invoiceResponse.dump fun _ => ticketText)) = .ok text :=
  renderResponse_isOk_iff.mpr ⟨by decide +kernel, by decide +kernel⟩

theorem plainDotnet_parses {text : Str} {v : Json} (hwf : v.Wf)
    (h : renderResponse v = .ok text) : plainDotnet.parse text = some v := by
  change (loads text).toOption = some v
  rw [renderResponse_loads hwf h]
  rfl

theorem agt_reads_decision_invoice : ∃ text result sink payload,
    evaluate plainDotnet plainOptions (fun _ => .answered ⟨200, text⟩) payContext (.lit "g") =
      .ok (result, some sink) ∧ result.allowed = true ∧
    sink.Tells (fun _ => ticketText) invoiceResponse payload := by
  obtain ⟨text, htext⟩ := invoice_renders
  have hpayload : loads (invoiceResponse.actionablePayload.json.doc.render .plain []) =
      .ok invoiceResponse.actionablePayload.json := by
    have hwf : invoiceResponse.actionablePayload.json.Wf := invoiceResponse.actionablePayload.wf
    rw [loads_render_plain (by simp) (Json.doc_ok (by decide +kernel)), Json.doc_value hwf]
  obtain ⟨result, sink, payload, heval, -, hallowed, htells, -⟩ :=
    @agt_reads_decision plainDotnet (fun _ => ticketText) _ plainOptions
      (fun _ => .answered ⟨200, text⟩) payContext (.lit "g") _ _ _ _ _ _ _ _ _ _
      decide_invoice (fun _ => List.cons_ne_nil _ _)
      (fun c hc => absurd (Option.isSome_of_mem hc) (by decide +kernel)) htext
      (fun _ => plainDotnet_parses) hpayload rfl rfl
  exact ⟨text, result, sink, payload, heval, hallowed.mpr ⟨by decide +kernel, rfl⟩, htells⟩

end Agt

end Axg
