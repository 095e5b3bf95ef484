/-
# Submitting an approval over HTTP (both SDKs, and `POST /v1/approvals`)

`submit_approval` of the Python SDK and `submitApproval` of the Node SDK send the same fields and
tell the same things apart: the body of a 200, the detail of a refusal with AXG's status, and an AXG
that cannot be reached.  They read the detail of a refusal differently: `or` and `??`, an exception
that is not a `ValueError` and a `catch` of everything.

On whatever AXG answers to a submission they agree: a status other than 200 comes with a detail that
is not empty, and what is told is the answer (`submitApproval_told`, `Node.submitApproval_told`).
So an approval that is returned has been made, and its Passport verifies for the payload beside it
(`returned_passport_verifies`).

How `httpx` writes a body, `JSON.parse` and the template text of a value are parameters.
-/
import Axg.Api
import Axg.ApprovalRuns
import Axg.Challenges
import Axg.ForwardedCalls
import Axg.NodeSdk

namespace Axg

open Python
open Gateway (objectAt objectAt_eq_some_iff)

/-! ## 1. The endpoint, as it is called -/

/-- An HTTP answer: its status and its body, as text. -/
structure HttpAnswer where
  statusCode : Nat
  text : Str

/-- `ApproverIdentity.model_validate` -/
def ApproverIdentity.validate (body : JsonObject) : Option ApproverIdentity := do
  let id ← textField body.members "id"
  let role ← textField body.members "role"
  if h : id.str ≠ [] ∧ role.str ≠ [] then some ⟨id, role, h.1, h.2⟩ else none

/-- The outcome, `approve` where there is none. -/
def outcomeField (claims : Dict Json) : Option Outcome :=
  match claims.lookup (lit "outcome") with
  | none => some .approve
  | some (.str s) =>
    if s = lit "approve" then some .approve else if s = lit "deny" then some .deny else none
  | some _ => none

/-- `ApprovalRequest.model_validate` -/
def ApprovalRequest.validate (parse : Str → Token) (body : JsonObject) :
    Option ApprovalRequest := do
  let schemaVersion := body.members.lookup (lit "schema_version")
  if schemaVersion.isSome ∧ (textField body.members "schema_version").isNone then none
  else
    let ticket ← textField body.members "ticket"
    let payload ← objectAt body (lit "actionable_payload")
    let approver ← objectAt body (lit "approver")
    let identity ← ApproverIdentity.validate approver
    let outcome ← outcomeField body.members
    return ⟨parse ticket, payload, identity, outcome⟩

/-- The body of a 500 of Starlette. -/
def internalText : Str := lit "Internal Server Error"

/-- A JSON body with its status. -/
def jsonAnswer (statusCode : Nat) (content : Json) : HttpAnswer :=
  match renderResponse content with
  | .ok body => ⟨statusCode, body⟩
  | .error _ => ⟨500, internalText⟩

/-- AXG, and a call that reaches it: its header, the windows of the limiter, and what `submit`
reads.  `unprocessable` answers what is not a request. -/
structure ApprovalApi where
  deployed : Deployment
  settings : Settings
  parse : Str → Token
  compact : Token → Text
  authorization : Option Str
  windows : Windows
  instant : ℚ
  loaded : Option Plugin
  now : Clock
  later : Clock
  context : CallContext
  unprocessable : HttpAnswer

section

variable (api : ApprovalApi)

/-- `resolve_caller`, and the limiter. -/
def ApprovalApi.admitted (request : ApprovalRequest) : Except HttpError Caller := do
  let caller ← entitled api.deployed.py api.deployed.sha api.settings api.authorization
    (.approval request)
  (limited api.settings.rateLimit api.windows caller api.instant).1
  return caller

/-- `submit_approval` of `axg/api.py`: the answer, and the record for the background task. -/
def ApprovalApi.answer (request : ApprovalRequest) : Except HttpError Reply × Option (Dict Json) :=
  match api.admitted request with
  | .error e => (.error e, none)
  | .ok caller =>
    approvalAnswer api.compact api.deployed request caller api.loaded api.now api.later api.context

/-- The answer on the wire. -/
def ApprovalApi.reply (request : ApprovalRequest) : HttpAnswer :=
  match (api.answer request).1 with
  | .ok reply => jsonAnswer 200 (.obj (reply.dump api.compact))
  | .error (.rejected statusCode detail _) =>
    jsonAnswer statusCode (.obj [strClaim "detail" detail])
  | .error .internal => ⟨500, internalText⟩

theorem wf_of_loads_obj {text : Str} {members : Dict Json}
    (h : loads text = .ok (.obj members)) : (Json.obj members).Wf := loads_wf h

/-- `POST /v1/approvals` -/
def ApprovalApi.post (text : Str) : HttpAnswer :=
  match h : loads text with
  | .ok (.obj members) =>
    match ApprovalRequest.validate api.parse ⟨members, wf_of_loads_obj h⟩ with
    | none => api.unprocessable
    | some request => api.reply request
  | _ => api.unprocessable

end

/-! ## 2. The clients -/

/-- What a call of a client raises. -/
inductive ClientError
  /-- The outcome is neither `approve` nor `deny`. -/
  | outcome
  /-- `AxgApprovalError` -/
  | approval (message : Str) (statusCode : Nat)
  /-- Any other exception. -/
  | other

/-- What sending a body comes to: an exception of the transport, with its name, or an answer. -/
inductive HttpExchange
  | failed (name : Str)
  | raised
  | answered (answer : HttpAnswer)

/-- The arguments of both clients. -/
structure ApprovalSubmission where
  ticket : Text
  actionablePayload : JsonObject
  approverId : Text
  approverRole : Text
  outcome : Str

def ApprovalSubmission.approver (s : ApprovalSubmission) : Dict Json :=
  [strClaim "id" s.approverId, strClaim "role" s.approverRole]

/-- The body that both of them send. -/
def ApprovalSubmission.body (s : ApprovalSubmission) : Dict Json :=
  [strClaim "ticket" s.ticket, (lit "actionable_payload", s.actionablePayload.json),
    (lit "approver", .obj s.approver), strClaim "outcome" s.outcome]

def outcomes : List Str := [lit "approve", lit "deny"]

def unavailableMessage (name : Str) : Str := lit "AXG is unavailable: " ++ name

def refusedMessage (detail : Str) : Str := lit "AXG refused the approval: " ++ detail

section

variable (py : Interpreter)

/-- `_approval_result` -/
def approvalResult (response : HttpAnswer) : Except ClientError Json :=
  if response.statusCode = 200 then
    match loads response.text with
    | .ok v => .ok v
    | .error _ => .error .other
  else
    let refused := fun detail => ClientError.approval (refusedMessage detail) response.statusCode
    match loads response.text with
    | .ok (.obj members) =>
      match (members.lookup (lit "detail")).filter Json.truthy with
      | none => .error (refused response.text)
      | some detail =>
        match pyStr py detail with
        | .ok s => .error (refused s)
        | .error _ => .error .other
    -- only an object has `get`
    | .ok _ => .error .other
    | .error _ => .error (refused response.text)

/-- `submit_approval` of the Python SDK. -/
def submitApproval (encode : Json → Option Str) (send : Str → HttpExchange)
    (s : ApprovalSubmission) : Except ClientError Json :=
  if outcomes.contains s.outcome = false then .error .outcome
  else
    match encode (.obj s.body) with
    | none => .error .other
    | some text =>
      match send text with
      | .failed name => .error (.approval (unavailableMessage name) 503)
      | .raised => .error .other
      | .answered response => approvalResult py response

end

namespace Node

/-- `JSON.stringify`, `JSON.parse` and the text of a value in a template. -/
structure Script where
  stringify : Json → Str
  parse : Str → Option Json
  template : Json → Str

variable (js : Script)

/-- `value.detail`, where `value` is not `null`, and neither `undefined` nor `null` itself. -/
def detailOf (v : Json) : Option Json :=
  (property v (lit "detail")).filter (fun d => !Json.sameData d .null)

/-- The answers of `submitApproval`. -/
def approvalResult (response : HttpAnswer) : Except ClientError Json :=
  if response.statusCode = 200 then
    match js.parse response.text with
    | some v => .ok v
    | none => .error .other
  else
    -- a text that is not JSON, or `null`, is caught
    match (js.parse response.text).bind detailOf with
    | some detail =>
      .error (.approval (refusedMessage (js.template detail)) response.statusCode)
    | none => .error (.approval (refusedMessage response.text) response.statusCode)

/-- `submitApproval` of the Node SDK.  Whatever `fetch` throws is caught. -/
def submitApproval (send : Str → HttpExchange) (s : ApprovalSubmission) : Except ClientError Json :=
  if outcomes.contains s.outcome = false then .error .outcome
  else
    match send (js.stringify (.obj s.body)) with
    | .failed name => .error (.approval (unavailableMessage name) 503)
    | .raised => .error (.approval (unavailableMessage (lit "network error")) 503)
    | .answered response => approvalResult js response

end Node

/-! ## 3. What AXG answers -/

section

/-- The answer is told by its status, and says why. -/
def HttpError.Clear : HttpError → Prop
  | rejected statusCode detail _ => statusCode ≠ 200 ∧ detail.str ≠ []
  | internal => True

theorem renderResponse_loads {content : Json} {body : Str} (hwf : content.Wf)
    (h : renderResponse content = .ok body) : loads body = .ok content := by
  unfold renderResponse at h
  split at h
  · rename_i hc
    rw [(encodeUtf8_eq_ok h).2, loads_render_plain (by simp) (Json.doc_ok hc.1), Json.doc_value hwf]
  · cases h

variable {sha : Sha256} {keys : KeyManager} {ticket : TicketClaims} {request : ApprovalRequest}
  {caller : Caller} {now later : Clock} {loaded : Option Plugin} {context : CallContext}

/-- What `submit` refuses with is clear. -/
theorem submit_clear {e : SubmitError}
    (h : submit sha keys request caller loaded now later context = .error e) : e.toHttp.Clear := by
  have hrefusals : ∀ p ∈ refusals, p.1 ≠ 200 ∧ p.2.str ≠ [] := by decide +kernel
  cases e with
  | raised e => trivial
  | rejected status detail =>
    obtain hfixed | ⟨ticket, -, hrole⟩ := submit_refusal h
    · exact hrefusals _ hfixed
    · obtain ⟨rfl, rfl⟩ := Prod.mk.inj hrole
      exact ⟨by decide, List.append_ne_nil_of_right_ne_nil _ (by decide)⟩

theorem resolveCaller_clear {py : Interpreter} {settings : Settings} {authorization : Option Str}
    {e : HttpError} (h : resolveCaller py sha settings authorization = .error e) : e.Clear := by
  unfold resolveCaller at h
  dsimp only at h
  repeat' split at h
  all_goals cases h
  all_goals trivial

theorem ApprovalApi.admitted_clear (api : ApprovalApi) {e : HttpError}
    (h : api.admitted request = .error e) : e.Clear := by
  rcases bind_eq_error h with hentitled | ⟨caller, -, h⟩
  · rcases bind_eq_error hentitled with hcaller | ⟨caller, -, hentitled⟩
    · exact resolveCaller_clear hcaller
    · rcases bind_eq_error hentitled with hpermitted | ⟨u, -, hentitled⟩
      · cases hpermitted
      · cases hentitled
  · rcases bind_eq_error h with hlimited | ⟨u, -, h⟩
    · rw [limited_eq] at hlimited
      dsimp only at hlimited
      split at hlimited
      · cases hlimited
      · cases hlimited
        exact ⟨by decide, by decide⟩
    · cases h

/-- Whatever turns a submission away says why, with a status of its own. -/
theorem ApprovalApi.answer_clear (api : ApprovalApi) {e : HttpError}
    (h : (api.answer request).1 = .error e) : e.Clear := by
  unfold ApprovalApi.answer at h
  cases hadmitted : api.admitted request with
  | error e' =>
    rw [hadmitted] at h
    cases h
    exact api.admitted_clear hadmitted
  | ok caller =>
    rw [hadmitted] at h
    simp only at h
    rcases @approvalAnswer_cases api.compact api.deployed caller api.now api.later api.context
      request api.loaded with ⟨response, record, -, hanswer⟩ | ⟨e', hsubmit, hanswer⟩
    · rw [hanswer] at h
      cases h
    · rw [hanswer] at h
      cases h
      exact submit_clear hsubmit

end

/-! ## 4. What the clients tell -/

/-- An answer of AXG, as its client tells it. -/
def told (compact : Token → Text) : Except HttpError Reply → Except ClientError Json
  | .ok reply => .ok (.obj (reply.dump compact))
  | .error (.rejected statusCode detail _) =>
    .error (.approval (refusedMessage detail.str) statusCode)
  | .error .internal => .error (.approval (refusedMessage internalText) 500)

/-- The value of an outcome. -/
def Outcome.value : Outcome → Str
  | approve => lit "approve"
  | deny => lit "deny"

/-- The submission that stands for a request, its ticket as the text `ticket`. -/
def ApprovalRequest.submission (request : ApprovalRequest) (ticket : Text) :
    ApprovalSubmission where
  ticket := ticket
  actionablePayload := request.actionablePayload
  approverId := request.approver.id
  approverRole := request.approver.role
  outcome := request.outcome.value

/-- Unicode text, with integers that are not too long to print: what can be sent as JSON and
reads back as it was. -/
def Sendable (v : Json) : Prop := v.isText = true ∧ v.hasShortInts = true

section

variable {api : ApprovalApi} {request : ApprovalRequest} {ticket : Text}

theorem sendable_obj_iff {ms : Dict Json} :
    Sendable (.obj ms) ↔ (∀ k ∈ Dict.keys ms, IsScalar k) ∧ ∀ p ∈ ms, Sendable p.2 := by
  rw [Sendable, Json.isText, Json.hasShortInts, Json.every_obj, Json.every_obj, decide_eq_true_iff]
  constructor
  · rintro ⟨⟨hk, ht⟩, -, hs⟩
    exact ⟨hk, fun p hp => ⟨ht p hp, hs p hp⟩⟩
  · rintro ⟨hk, h⟩
    exact ⟨⟨hk, fun p hp => (h p hp).1⟩, rfl, fun p hp => (h p hp).2⟩

theorem sendable_text (t : Text) : Sendable (.str t) := ⟨t.hashable.1, rfl⟩

theorem wf_approver (s : ApprovalSubmission) : (Json.obj s.approver).Wf := by
  have hkeys : Dict.keys s.approver = ["id", "role"].map lit := rfl
  refine Json.wf_obj.mpr ⟨by rw [hkeys]; decide, ?_⟩
  simp only [ApprovalSubmission.approver, strClaim, List.forall_mem_cons, List.not_mem_nil,
    false_implies, implies_true, and_true]
  exact ⟨rfl, rfl⟩

/-- The field names of a submission. -/
def ApprovalSubmission.fields : List String :=
  ["ticket", "actionable_payload", "approver", "outcome"]

theorem wf_submission (s : ApprovalSubmission) : (Json.obj s.body).Wf := by
  have hkeys : Dict.keys s.body = ApprovalSubmission.fields.map lit := rfl
  refine Json.wf_obj.mpr ⟨by rw [hkeys]; decide, ?_⟩
  simp only [ApprovalSubmission.body, strClaim, List.forall_mem_cons, List.not_mem_nil,
    false_implies, implies_true, and_true]
  exact ⟨rfl, s.actionablePayload.wf, wf_approver s, rfl⟩

theorem sendable_submission (h : Sendable request.actionablePayload.json) :
    Sendable (.obj (request.submission ticket).body) := by
  have happrover : Sendable (.obj (request.submission ticket).approver) := by
    have hkeys : Dict.keys (request.submission ticket).approver = ["id", "role"].map lit := rfl
    refine sendable_obj_iff.mpr ⟨fun k hk => isScalar_keys (hkeys ▸ hk), ?_⟩
    simp only [ApprovalSubmission.approver, strClaim, List.forall_mem_cons, List.not_mem_nil,
      false_implies, implies_true, and_true]
    exact ⟨sendable_text _, sendable_text _⟩
  have houtcome : Sendable (.str request.outcome.value) := by
    cases request.outcome <;> exact ⟨(hashable_lit _).1, rfl⟩
  have hkeys : Dict.keys (request.submission ticket).body = ApprovalSubmission.fields.map lit := rfl
  refine sendable_obj_iff.mpr ⟨fun k hk => isScalar_keys (hkeys ▸ hk), ?_⟩
  simp only [ApprovalSubmission.body, strClaim, List.forall_mem_cons, List.not_mem_nil,
    false_implies, implies_true, and_true]
  exact ⟨sendable_text _, h, happrover, houtcome⟩

/-- What a client sends is read as the request that it stands for. -/
theorem validate_submission (hparse : api.parse ticket.str = request.ticket) :
    ApprovalRequest.validate api.parse ⟨(request.submission ticket).body, wf_submission _⟩ =
      some request := by
  have hticket : textField (request.submission ticket).body "ticket" = some ticket :=
    textField_of_lookup rfl
  have hpayload : objectAt ⟨(request.submission ticket).body, wf_submission _⟩
      (lit "actionable_payload") = some request.actionablePayload :=
    objectAt_eq_some_iff.mpr rfl
  have happrover : objectAt ⟨(request.submission ticket).body, wf_submission _⟩ (lit "approver") =
      some ⟨(request.submission ticket).approver, wf_approver _⟩ := objectAt_eq_some_iff.mpr rfl
  have hidentity : ApproverIdentity.validate ⟨(request.submission ticket).approver, wf_approver _⟩ =
      some request.approver := by
    have hid : textField (request.submission ticket).approver "id" = some request.approver.id :=
      textField_of_lookup rfl
    have hrole : textField (request.submission ticket).approver "role" =
        some request.approver.role := textField_of_lookup rfl
    simp only [ApproverIdentity.validate, hid, hrole, Option.bind_eq_bind, Option.bind_some]
    exact dif_pos ⟨request.approver.id_ne, request.approver.role_ne⟩
  have houtcome : outcomeField (request.submission ticket).body = some request.outcome := by
    have hlookup : (request.submission ticket).body.lookup (lit "outcome") =
        some (.str request.outcome.value) := rfl
    rw [outcomeField, hlookup]
    cases request.outcome <;> rfl
  have hversion : ¬ (((request.submission ticket).body.lookup (lit "schema_version")).isSome ∧
      (textField (request.submission ticket).body "schema_version").isNone) := by
    rintro ⟨h, -⟩
    cases h
  simp only [ApprovalRequest.validate, if_neg hversion, hticket, hpayload, happrover, hidentity,
    houtcome, Option.bind_eq_bind, Option.bind_some, hparse]
  rfl

theorem wf_approvalResponse (compact : Token → Text) (r : ApprovalResponse) :
    (Json.obj (r.dump compact)).Wf := by
  have hkeys : Dict.keys (r.dump compact) = ApprovalResponse.fields.map lit := rfl
  refine Json.wf_obj.mpr ⟨by rw [hkeys]; decide, ?_⟩
  simp only [ApprovalResponse.dump, strClaim, List.forall_mem_cons, List.not_mem_nil,
    false_implies, implies_true, and_true]
  refine ⟨rfl, rfl, rfl, ?_, ?_, r.actionablePayload.wf⟩
  · cases r.passport <;> rfl
  · cases r.passportId <;> rfl

/-- A submission that is answered with a 200 has been accepted. -/
theorem answer_eq_ok {reply : Reply} (h : (api.answer request).1 = .ok reply) :
    ∃ caller response record, api.admitted request = .ok caller ∧
      submit api.deployed.sha api.deployed.keys request caller api.loaded api.now api.later
        api.context = .ok (response, record) ∧
      reply = .approval response ∧ (api.answer request).2 = some record.dump := by
  unfold ApprovalApi.answer at h ⊢
  cases hadmitted : api.admitted request with
  | error e =>
    rw [hadmitted] at h
    cases h
  | ok caller =>
    rw [hadmitted] at h
    simp only at h ⊢
    rcases @approvalAnswer_cases api.compact api.deployed caller api.now api.later api.context
      request api.loaded with ⟨response, record, hsubmit, hanswer⟩ | ⟨e, -, hanswer⟩
    · rw [hanswer] at h ⊢
      cases h
      exact ⟨caller, response, record, rfl, hsubmit, rfl, rfl⟩
    · rw [hanswer] at h
      cases h

theorem hashable_detail (detail : Text) : Hashable (.obj [strClaim "detail" detail]) := by
  have hkeys : Dict.keys [strClaim "detail" detail] = ["detail"].map lit := rfl
  refine hashable_obj_iff.mpr ⟨fun k hk => isScalar_keys (hkeys ▸ hk), ?_⟩
  exact List.forall_mem_singleton.mpr detail.hashable

/-- What AXG sends: a body that reads back, a detail with its status, or the text of a 500. -/
theorem reply_cases (api : ApprovalApi) (request : ApprovalRequest) :
    (∃ reply text, (api.answer request).1 = .ok reply ∧ api.reply request = ⟨200, text⟩ ∧
        renderResponse (.obj (reply.dump api.compact)) = .ok text ∧
        (Json.obj (reply.dump api.compact)).Wf ∧
        Hashable (.obj (reply.dump api.compact))) ∨
      (∃ statusCode detail headers text, (api.answer request).1 =
          .error (.rejected statusCode detail headers) ∧ statusCode ≠ 200 ∧ detail.str ≠ [] ∧
        api.reply request = ⟨statusCode, text⟩ ∧
        renderResponse (.obj [strClaim "detail" detail]) = .ok text) ∨
      (api.answer request).1 = .error .internal ∧ api.reply request = ⟨500, internalText⟩ := by
  cases hanswer : (api.answer request).1 with
  | ok reply =>
    obtain ⟨caller, response, record, -, hsubmit, rfl, -⟩ := answer_eq_ok hanswer
    obtain ⟨text, htext⟩ : ∃ text,
        renderResponse (.obj (response.dump api.compact)) = .ok text := approval_renders hsubmit
    refine .inl ⟨.approval response, text, rfl, ?_, htext, wf_approvalResponse _ _,
      approval_hashable hsubmit⟩
    rw [ApprovalApi.reply, hanswer]
    simp only [jsonAnswer, Reply.dump, htext]
  | error e =>
    have hclear : e.Clear := api.answer_clear hanswer
    right
    cases e with
    | internal => exact .inr ⟨rfl, by rw [ApprovalApi.reply, hanswer]⟩
    | rejected statusCode detail headers =>
      obtain ⟨text, htext⟩ : ∃ text,
          renderResponse (.obj [strClaim "detail" detail]) = .ok text := by
        obtain ⟨hdetail, -⟩ := hashable_detail detail
        exact renderResponse_isOk_iff.mpr ⟨rfl, hdetail⟩
      refine .inl ⟨statusCode, detail, headers, text, rfl, hclear.1, hclear.2, ?_, htext⟩
      rw [ApprovalApi.reply, hanswer]
      simp only [jsonAnswer, htext]

/-- The text of a 500 is no JSON. -/
theorem loads_internalText : ∃ e, loads internalText = .error e := by
  have hfails : (loads internalText).isOk = false := by decide +kernel
  cases hloads : loads internalText with
  | ok v =>
    rw [hloads] at hfails
    cases hfails
  | error e => exact ⟨e, rfl⟩

variable {py : Interpreter}

theorem approvalResult_reply (api : ApprovalApi) (request : ApprovalRequest) :
    approvalResult py (api.reply request) = told api.compact (api.answer request).1 := by
  rcases reply_cases api request with ⟨reply, text, hanswer, hreply, htext, hwf, -⟩ |
    ⟨statusCode, detail, headers, text, hanswer, hstatus, hdetail, hreply, htext⟩ |
    ⟨hanswer, hreply⟩
  · rw [hanswer, hreply, approvalResult, if_pos rfl, renderResponse_loads hwf htext]
    rfl
  · have hwf : (Json.obj [strClaim "detail" detail]).Wf := rfl
    rw [hanswer, hreply, approvalResult, if_neg hstatus, renderResponse_loads hwf htext]
    have hlookup : ([strClaim "detail" detail].lookup (lit "detail")).filter Json.truthy =
        some (.str detail) := by
      have hsome : [strClaim "detail" detail].lookup (lit "detail") = some (.str detail) := rfl
      rw [hsome, Option.filter_some, if_pos (by simpa [Json.truthy] using hdetail)]
    simp only [hlookup]
    rfl
  · obtain ⟨e, he⟩ := loads_internalText
    rw [hanswer, hreply, approvalResult, if_neg (by decide), he]
    rfl

variable (api) in
/-- AXG reads the text as the request. -/
def ApprovalApi.Reads (text : Str) (request : ApprovalRequest) : Prop :=
  ∃ members, ∃ h : loads text = .ok (.obj members),
    ApprovalRequest.validate api.parse ⟨members, wf_of_loads_obj h⟩ = some request

theorem ApprovalApi.Reads.post {text : Str} (h : api.Reads text request) :
    api.post text = api.reply request := by
  obtain ⟨members, hloads, hvalidate⟩ := h
  unfold ApprovalApi.post
  split
  · rename_i members' hmembers
    cases hloads.symm.trans hmembers
    rw [hvalidate]
  · rename_i hnot
    exact absurd hloads (hnot _)

/-- A client that writes JSON is read. -/
theorem reads_submission (hparse : api.parse ticket.str = request.ticket) {text : Str}
    (h : loads text = .ok (.obj (request.submission ticket).body)) : api.Reads text request :=
  ⟨_, h, validate_submission hparse⟩

/-- An outcome that the clients know is not refused. -/
theorem outcome_known {outcome : Str} (h : outcome ∈ outcomes) :
    ¬ outcomes.contains outcome = false := ne_false_of_eq_true (List.contains_iff_mem.mpr h)

theorem submitApproval_reply {encode : Json → Option Str} {send : Str → HttpExchange}
    {s : ApprovalSubmission} {text : Str} (houtcome : s.outcome ∈ outcomes)
    (hencode : encode (.obj s.body) = some text) (hserves : send text = .answered (api.post text))
    (hreads : api.Reads text request) :
    submitApproval py encode send s = told api.compact (api.answer request).1 := by
  rw [submitApproval, if_neg (outcome_known houtcome), hencode]
  simp only [hserves, hreads.post]
  exact approvalResult_reply api request

/-- `JSON.parse` reads what AXG writes, its numbers as doubles, and a template shows a text as it
is. -/
structure Node.Script.Faithful (js : Node.Script) : Prop where
  parse : ∀ v text, v.Wf → Hashable v → renderResponse v = .ok text →
    js.parse text = some v.toBinary64
  internal : js.parse internalText = none
  template : ∀ s, js.template (.str s) = s

theorem Node.approvalResult_reply {js : Node.Script} (hjs : js.Faithful) (api : ApprovalApi)
    (request : ApprovalRequest) : Node.approvalResult js (api.reply request) =
      (told api.compact (api.answer request).1).map Json.toBinary64 := by
  rcases reply_cases api request with ⟨reply, text, hanswer, hreply, htext, hwf, hhash⟩ |
    ⟨statusCode, detail, headers, text, hanswer, hstatus, hdetail, hreply, htext⟩ |
    ⟨hanswer, hreply⟩
  · rw [hanswer, hreply, Node.approvalResult, if_pos rfl, hjs.parse _ _ hwf hhash htext]
    rfl
  · have hwf : (Json.obj [strClaim "detail" detail]).Wf := rfl
    rw [hanswer, hreply, Node.approvalResult, if_neg hstatus,
      hjs.parse _ _ hwf (hashable_detail detail) htext]
    have hdetailOf : Node.detailOf (Json.obj [strClaim "detail" detail]).toBinary64 =
        some (.str detail) := rfl
    simp only [Option.bind_some, hdetailOf, hjs.template]
    rfl
  · rw [hanswer, hreply, Node.approvalResult, if_neg (by decide), hjs.internal]
    rfl

/-- Both clients tell a submission that AXG reads as AXG answers it: the response, or the status
and detail of the refusal.  The Node client tells numbers as doubles, which is how JavaScript
reads them. -/
theorem clients_tell {encode : Json → Option Str} {js : Node.Script} {send : Str → HttpExchange}
    {s : ApprovalSubmission} {text : Str} (hjs : js.Faithful) (houtcome : s.outcome ∈ outcomes)
    (hencode : encode (.obj s.body) = some text)
    (hserves : ∀ text, send text = .answered (api.post text))
    (hpython : api.Reads text request) (hnode : api.Reads (js.stringify (.obj s.body)) request) :
    submitApproval py encode send s = told api.compact (api.answer request).1 ∧
      Node.submitApproval js send s =
        (told api.compact (api.answer request).1).map Json.toBinary64 := by
  refine ⟨submitApproval_reply houtcome hencode (hserves text) hpython, ?_⟩
  rw [Node.submitApproval, if_neg (outcome_known houtcome)]
  simp only [hserves, hnode.post]
  exact Node.approvalResult_reply hjs api request

/-- What the Python client tells of a request that it sends. -/
theorem submitApproval_told {encode : Json → Option Str} {send : Str → HttpExchange} {text : Str}
    (hencode : encode (.obj (request.submission ticket).body) = some text)
    (hloads : loads text = .ok (.obj (request.submission ticket).body))
    (hserves : ∀ text, send text = .answered (api.post text))
    (hparse : api.parse ticket.str = request.ticket) :
    submitApproval py encode send (request.submission ticket) =
      told api.compact (api.answer request).1 := by
  have houtcome : (request.submission ticket).outcome ∈ outcomes := by
    change request.outcome.value ∈ outcomes
    cases request.outcome <;> decide
  exact submitApproval_reply houtcome hencode (hserves text) (reads_submission hparse hloads)

/-! ## 5. From an approval to a verified Passport -/

/-- A Passport is returned with the payload of the request. -/
theorem submit_payload {sha : Sha256} {keys : KeyManager} {caller : Caller} {now later : Clock}
    {loaded : Option Plugin} {context : CallContext} {response : ApprovalResponse}
    {record : ApprovalRecord}
    (h : submit sha keys request caller loaded now later context = .ok (response, record))
    (hsome : response.passport.isSome = true) :
    response.actionablePayload = request.actionablePayload := by
  obtain ⟨claims, -, hx⟩ := bind_eq_ok h
  obtain ⟨plugin, passport, -, -, -, rfl, -⟩ := exchange_eq_ok hx
  rw [approvalResponse, Option.isSome_map] at hsome
  exact if_pos hsome

/-- A Passport that `submit_approval` returns is accepted for the payload beside it, for five
minutes, and names the ticket and the approver.  The verifier is the one that a tool runs, with
AXG's key, so nothing is asked of the client that submitted. -/
theorem returned_passport_verifies {encode : Json → Option Str} {send : Str → HttpExchange}
    {text : Str}
    (hencode : encode (.obj (request.submission (api.compact request.ticket)).body) = some text)
    (hloads : loads text = .ok (.obj (request.submission (api.compact request.ticket)).body))
    (hserves : ∀ text, send text = .answered (api.post text))
    (hparse : api.parse (api.compact request.ticket).str = request.ticket)
    (ho : request.outcome = .approve) {body : Json}
    (h : submitApproval py encode send (request.submission (api.compact request.ticket)) =
      .ok body) :
    ∃ members token claims, body = .obj members ∧
      members.lookup (lit "passport") = some (.str (api.compact token).str) ∧
      members.lookup (lit "actionable_payload") = some request.actionablePayload.json ∧
      verifyApprovalTicket api.deployed.keys api.now request.ticket = .ok claims ∧
      ∀ (call : VerifyCall) (now : Clock), call.token = token →
        call.payload = request.actionablePayload →
        call.keySource.signingKey token = api.deployed.keys.privateKey →
        call.appId = claims.aud.str → call.appId ≠ [] →
        (∀ t ∈ call.tenantId, t ≠ [] → claims.tenantId.str = t) →
        (∀ as ∈ call.allowedActionTypes, as ≠ [] → claims.actionType.str ∈ as) →
        api.later ≤ now → Clock.seconds now < Clock.seconds api.later + 300 →
        ∃ passport : PassportClaims, decodeStep api.deployed.sha call now = .ok passport.dump ∧
          passport.approval = some ⟨claims.jti, request.approver.id, request.approver.role⟩ := by
  rw [submitApproval_told hencode hloads hserves hparse] at h
  cases hanswer : (api.answer request).1 with
  | error e =>
    rw [hanswer] at h
    cases e <;> cases h
  | ok reply =>
    rw [hanswer] at h
    cases h
    obtain ⟨caller, response, record, -, hsubmit, rfl, -⟩ := answer_eq_ok hanswer
    obtain ⟨-, claims, token, jti, hpassport, hadmitted, hsign⟩ := submit_passport ho hsubmit
    have hpayload' : response.actionablePayload = request.actionablePayload :=
      submit_payload hsubmit (by rw [hpassport]; rfl)
    refine ⟨response.dump api.compact, token, claims, rfl, ?_, ?_, hadmitted.verified, ?_⟩
    · change some (optionalText (response.passport.map api.compact)) = _
      rw [hpassport]
      rfl
    · change some response.actionablePayload.json = _
      rw [hpayload']
    · intro call now htoken hcall hkey happ hne htenant haction hbegun hexp
      obtain ⟨hash, key, hhash, -, hsigner, -, hjws⟩ := signDecision_eq_ok hsign
      obtain ⟨hbegun', hexp'⟩ := Clock.reached_of_fresh hbegun hexp
      have hdecode : decodeStep api.deployed.sha call now =
          .ok (passportClaims api.later (approvalGrant claims request caller) jti hash).dump := by
        refine (decodeStep_issued rfl (htoken.trans hjws)).mpr ⟨rfl, ?_, hbegun', hexp', ?_,
          happ.symm, htenant, haction, ?_⟩
        · rw [htoken, hkey, hsigner]
        · exact happ ▸ hne
        · rw [hcall]
          exact hhash
      exact ⟨_, hdecode, rfl⟩

end

/-- The key of a client, the payload of an approval, and their digests. -/
def approvalDigests : DigestTable where
  rows := (lit "k", keyDigest) :: amountDigests.rows
  isDigest := by decide +kernel
  nodup := by decide

/-- The text of every token. -/
def ticketText : Text := .lit "header.claims.signature"

/-- An AXG to which the ticket is one text, as is the Passport. -/
def approvalApi : ApprovalApi where
  deployed := { plainDeployment with sha := .ofTable approvalDigests }
  settings := keySettings
  parse := parseOnly amountChallenge.ticket
  compact := fun _ => ticketText
  authorization := some (lit "bearer k")
  windows := []
  instant := 0
  loaded := some (.default (.lit "p") (.lit "1"))
  now := 0
  later := 0
  context := plainContext
  unprocessable := ⟨422, []⟩

/-- JSON, with every character outside ASCII escaped. -/
def asciiEncode (v : Json) : Option Str := (dumpsAscii [0x20] v).toOption

theorem asciiEncode_reads_back (v : Json) (hwf : v.Wf) (hv : Sendable v) :
    ∃ text, asciiEncode v = some text ∧ loads text = .ok v := by
  have hdumps : dumpsAscii [0x20] v = .ok (v.doc.render .ascii [0x20]) := if_pos hv.2
  refine ⟨_, by rw [asciiEncode, hdumps]; rfl, ?_⟩
  rw [loads_dumpsAscii padSpace hdumps, Json.rejoin_of_isText hwf hv.1]

theorem admitted_approvalApi : approvalApi.admitted amountApproval = .ok starCaller := by
  have hentitled : entitled plainInterpreter (.ofTable approvalDigests) keySettings
      (some (lit "bearer k")) (.approval amountApproval) = .ok starCaller := entitled_star rfl rfl
  have hlimited : (limited 600 [] starCaller 0).1 = .ok () := by
    have hcheck : (check 600 [] starCaller.clientId.str (0 : ℚ)).1 = none := by decide +kernel
    rw [limited_eq, hcheck]
  change (entitled plainInterpreter (.ofTable approvalDigests) keySettings
    (some (lit "bearer k")) (.approval amountApproval) >>= fun caller =>
      (limited 600 [] caller 0).1 >>= fun _ => .ok caller) = _
  rw [hentitled, ok_bind, hlimited]
  rfl

theorem answer_approvalApi : ∃ reply, (approvalApi.answer amountApproval).1 = .ok reply := by
  have hhash : hashPayload (.ofTable approvalDigests) (amount 9007199254740992) = .ok amountHash :=
    canonicalHash_of_isScalar canonicalJson_amount.1 (isScalar_lit _)
  have hsign : signApprovalTicket (.ofTable approvalDigests) pairedKeys 0 (.lit "t1") amountTicket =
      .ok amountChallenge := by
    have hpayload : amountTicket.actionablePayload = amount 9007199254740992 := rfl
    rw [signApprovalTicket, hpayload, hhash]
    rfl
  obtain ⟨⟨response, record⟩, hsubmit⟩ : ∃ answer, submit (.ofTable approvalDigests) pairedKeys
      amountApproval starCaller (some (.default (.lit "p") (.lit "1"))) 0 0 plainContext =
        .ok answer :=
    (submit_challenge_iff hsign rfl rfl).mpr ⟨rfl, rfl, by decide, rfl, rfl, rfl, rfl, rfl,
      by decide, by decide, _, rfl, rfl⟩
  rcases @approvalAnswer_cases approvalApi.compact approvalApi.deployed starCaller 0 0 plainContext
    amountApproval approvalApi.loaded with ⟨response, record, -, hanswer⟩ | ⟨e, herror, -⟩
  · refine ⟨.approval response, ?_⟩
    rw [ApprovalApi.answer, admitted_approvalApi]
    exact congrArg Prod.fst hanswer
  · cases hsubmit.symm.trans herror

/-- A runtime that shows texts as they are. -/
def plainScript : Node.Script where
  stringify v := v.doc.render .ascii [0x20]
  parse text := (loads text).toOption.map Json.toBinary64
  template
    | .str s => s
    | _ => []

theorem plainScript_faithful : plainScript.Faithful where
  parse v text hwf _ h := by
    simp only [plainScript, renderResponse_loads hwf h]
    rfl
  internal := by
    obtain ⟨e, he⟩ := loads_internalText
    simp only [plainScript, he]
    rfl
  template _ := rfl

theorem sendable_amountApproval : Sendable amountApproval.actionablePayload.json :=
  ⟨by decide +kernel, by decide +kernel⟩

theorem parse_approvalApi : approvalApi.parse ticketText.str = amountApproval.ticket := by
  have hparse : approvalApi.parse = parseOnly amountChallenge.ticket := rfl
  have htext : ticketText.str = passportText := rfl
  rw [hparse, htext, parseOnly, if_pos rfl]
  rfl

theorem clients_tell_amount : ∃ body,
    submitApproval plainInterpreter asciiEncode (fun text => .answered (approvalApi.post text))
        (amountApproval.submission ticketText) = .ok body ∧
      Node.submitApproval plainScript (fun text => .answered (approvalApi.post text))
        (amountApproval.submission ticketText) = .ok body.toBinary64 := by
  obtain ⟨reply, hanswer⟩ := answer_approvalApi
  obtain ⟨text, htext, hloads⟩ := asciiEncode_reads_back _
    (wf_submission (amountApproval.submission ticketText))
    (sendable_submission sendable_amountApproval)
  have hnode : asciiEncode (.obj (amountApproval.submission ticketText).body) =
      some (plainScript.stringify (.obj (amountApproval.submission ticketText).body)) := by
    have hshort := (@sendable_submission _ ticketText sendable_amountApproval).2
    rw [asciiEncode, dumpsAscii, if_pos hshort]
    rfl
  cases htext.symm.trans hnode
  have hreads := reads_submission parse_approvalApi hloads
  obtain ⟨hpython, hscript⟩ := @clients_tell _ _ plainInterpreter _ _ _ _ _
    plainScript_faithful (by decide) htext (fun _ => rfl) hreads hreads
  rw [hanswer] at hpython hscript
  exact ⟨_, hpython, hscript⟩

theorem returned_passport_verifies_amount : ∃ body token,
    submitApproval plainInterpreter asciiEncode (fun text => .answered (approvalApi.post text))
        (amountApproval.submission ticketText) = .ok body ∧
      ∃ passport : PassportClaims, decodeStep (.ofTable approvalDigests)
          (amountCall token 9007199254740992) 1 = .ok passport.dump ∧
        passport.approval = some ⟨.lit "t1", .lit "ana", .lit "manager"⟩ := by
  obtain ⟨reply, hanswer⟩ := answer_approvalApi
  obtain ⟨text, htext, hloads⟩ := asciiEncode_reads_back _
    (wf_submission (amountApproval.submission ticketText))
    (sendable_submission sendable_amountApproval)
  have hbody : submitApproval plainInterpreter asciiEncode
      (fun text => .answered (approvalApi.post text)) (amountApproval.submission ticketText) =
        .ok (.obj (reply.dump approvalApi.compact)) := by
    rw [submitApproval_told htext hloads (fun _ => rfl) parse_approvalApi, hanswer]
    rfl
  obtain ⟨members, token, claims, -, -, -, hclaims, hverifies⟩ :=
    returned_passport_verifies htext hloads (fun _ => rfl) parse_approvalApi rfl hbody
  have hticket : claims = amountTicketClaims := by
    exact ((verifyApprovalTicket_dump (by decide) rfl).mp hclaims).1
  cases hticket
  have happ : lit "app" ≠ [] := by decide
  obtain ⟨passport, hdecode, happroval⟩ := hverifies (amountCall token 9007199254740992) 1 rfl rfl
    rfl rfl happ (by rintro t ⟨⟩ -; rfl) (by rintro as ⟨⟩ -; decide) (by decide) (by decide)
  exact ⟨_, token, hbody, passport, hdecode, happroval⟩

end Axg
