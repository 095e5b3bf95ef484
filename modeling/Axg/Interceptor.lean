/-
# The interceptor of tool calls (`integrations/agentcore/axg_interceptor.py`)

`govern_tools_call` answers one MCP `tools/call`.  A call that carries a Passport is checked with
AXG's introspection and forwarded as it came; any other one is decided by AXG, and forwarded with
the Passport and the payload in its `_meta`.  Everything else is a tool result with `isError`.

The call, the caller's claims and AXG's replies are JSON of any shape, and the code reads them as
objects.  `govern_forward_iff` says when it forwards what; `answers_iff` says of which shapes it
makes an answer at all.  With the context for Cedar, what is forwarded has AXG's own verdict in its
arguments unless the call carried a Passport (`cedar_iff`).

Exchanges with AXG enter as a function of the path and the body that are sent.  The log lines are
left out: they write what was read or written before.
-/
import Axg.McpTool
import Axg.Python.JsonBytes

namespace Axg

open Python

/-! ## 1. Exchanges with AXG -/

/-- What `urlopen` and `read` come to. -/
inductive UrlExchange
  /-- The `ValueError` or `KeyError` of the request, which is made before the `try`. -/
  | unmade
  /-- A `URLError`, also for a status that is an error, a `TimeoutError` or a `ValueError`. -/
  | failed
  /-- Any other exception: an `http.client.HTTPException`, or an `OSError` that is not wrapped. -/
  | raised
  | read (bytes : Bytes)

/-- `json.loads(bytes.decode("utf-8"))`.  What it raises are `ValueError`s. -/
def loadsReply (bytes : Bytes) : Except PyError Json :=
  match decodeUtf8With false bytes with
  | some text => loads text
  | none => .error .valueError

/-- `urlopen` and `read`, of a path and a body. -/
abbrev UrlOpen := Str → Str → UrlExchange

namespace Interceptor

/-- An exception that is not handled. -/
inductive Raised
  | python (e : PyError)
  | request
  | connection

/-- What `_post_axg` raises: `AxgUnavailable`, or something that it does not handle. -/
inductive PostError
  | unavailable
  | raised (e : Raised)

def raising {α : Type} : Except PyError α → Except Raised α
  | .ok a => .ok a
  | .error e => .error (.python e)

/-- `_post_axg` -/
def postAxg (exchange : UrlOpen) (path : Str) (payload : Dict Json) : Except PostError Json :=
  match dumpsAscii [0x20] (.obj payload) with
  | .error e => .error (.raised (.python e))
  | .ok body =>
    match exchange path body with
    | .unmade => .error (.raised .request)
    | .failed => .error .unavailable
    | .raised => .error (.raised .connection)
    | .read bytes =>
      match loadsReply bytes with
      | .ok reply => .ok reply
      | .error _ => .error .unavailable

def decisionsPath : Str := lit "/v1/decisions"

def introspectPath : Str := lit "/v1/passports/introspect"

/-! ## 2. Python operations -/

/-- `v or {}` -/
def orEmpty (v : Option Json) : Json := (v.filter Json.truthy).getD (.obj [])

/-- The dictionary that a method is called on. -/
def asDict : Json → Except PyError (Dict Json)
  | .obj members => .ok members
  | _ => .error .attributeError

/-- `**v` -/
def asMapping : Json → Except PyError (Dict Json)
  | .obj members => .ok members
  | _ => .error .typeError

/-- `s.split()` -/
def words (s : Str) : List Str := (s.splitOnP isSpace).filter (fun w => w ≠ [])

/-- The permissions of `claims.get("scope", "")`. -/
def permissions (scopes : Option Json) : Except PyError (List Json) :=
  match scopes with
  | none => .ok []
  | some (.str s) => .ok ((words s).map Json.str)
  | some (.arr items) => .ok items
  | some (.obj members) => .ok ((Dict.keys members).map Json.str)
  | some _ => .error .typeError

/-! ## 3. `govern_tools_call` -/

/-- `DECISION_META_KEY` -/
def decisionMetaKey : Str := lit "io.axg/decision"

/-- `APPROVAL_META_KEY` -/
def approvalMetaKey : Str := lit "io.axg/approval"

/-- `RESULT_TYPE_SINCE` -/
def resultTypeSince : Str := lit "2026-07-28"

/-- The environment variables. -/
structure Env where
  appId : Str
  pluginId : Option Str
  tenantClaim : Option Str
  agentClaim : Option Str
  cedarContext : Option Str

/-- What the interceptor returns. -/
inductive Output
  /-- `transformedGatewayRequest` -/
  | request (body : Dict Json)
  /-- `transformedGatewayResponse` -/
  | response (body : Dict Json)

/-- `_tool_error` -/
def toolError (body : Dict Json) (text : Str) (axg : Dict Json) (approval : Option (Dict Json))
    (protocolVersion : Option Str) : Output :=
  .response [strClaim "jsonrpc" (lit "2.0"), (lit "id", (body.lookup (lit "id")).getD .null),
    (lit "result", .obj ([(lit "content", .arr [.obj [strClaim "type" (lit "text"),
        strClaim "text" text]]), (lit "structuredContent", .obj [(lit "axg", .obj axg)]),
        (lit "isError", .bool true)] ++
      (approval.map (fun a => (lit "_meta", Json.obj [(approvalMetaKey, .obj a)]))).toList ++
      (if protocolVersion.any (fun v => v ≠ [] ∧ resultTypeSince ≤ v) then
        [strClaim "resultType" (lit "complete")] else [])))]

/-- `except AxgUnavailable` around an exchange. -/
def withReply (posted : Except PostError Json) (unavailable : Output)
    (onReply : Json → Except Raised Output) : Except Raised Output :=
  match posted with
  | .error .unavailable => .ok unavailable
  | .error (.raised e) => .error e
  | .ok reply => onReply reply

/-- `_arguments_authorized` -/
def argumentsAuthorized (arguments authorized : Dict Json) : Bool :=
  arguments.all (fun p => p.1 = axgArgument || (authorized.lookup p.1).any (fun v => v.pyEq p.2))

/-- `params.get("name") or ""` -/
def toolName (params : Dict Json) : Json := orDefault (params.lookup (lit "name")) (.lit "")

/-- The body of `introspect_passport`. -/
def introspection (passport tool : Json) (authorized : Dict Json) : Dict Json :=
  [(lit "passport", passport), (lit "action_type", tool),
    (lit "actionable_payload", .obj authorized)]

def unavailableText : Str :=
  lit ("This action could not be authorized right now (governance service unavailable). " ++
    "Try again later.")

/-- `1.0` -/
def certain : Score := ⟨1, Score.zero_le, Score.one_le⟩

section Govern

variable (env : Env) (py : Interpreter) (exchange : UrlOpen)

/-- `build_decision_request` -/
def buildDecisionRequest (body claims : Dict Json) (source uuid : Str) :
    Except PyError (Dict Json) := do
  let params ← asDict (orEmpty (body.lookup (lit "params")))
  let agentId := (((claims.lookup (env.agentClaim.getD (lit "client_id"))).filter Json.truthy).or
    ((claims.lookup (lit "sub")).filter Json.truthy)).getD (.str (lit "unknown-agent"))
  let permissions ← permissions (claims.lookup (lit "scope"))
  let id ← pyStr py ((body.lookup (lit "id")).getD (.str []))
  let tenantId ← pyStr py (orDefault (claims.lookup (env.tenantClaim.getD (lit "tenant_id")))
    (.lit "default"))
  let agentId ← pyStr py agentId
  return [strClaim "execution_id" (source ++ lit "-" ++ id ++ lit "-" ++ uuid),
    strClaim "tenant_id" tenantId, strClaim "app_id" env.appId,
    strClaim "plugin_id" (env.pluginId.getD env.appId),
    (lit "user_id", (claims.lookup (lit "sub")).getD .null),
    (lit "agent", .obj [strClaim "id" agentId, strClaim "type" (lit "agent"),
      (lit "permissions", .arr permissions)]),
    strClaim "source" source,
    (lit "action_type", (params.lookup (lit "name")).getD (.str [])),
    (lit "payload", orEmpty (params.lookup (lit "arguments"))),
    (lit "llm", .obj [(lit "confidence", certain.json)]),
    (lit "metadata", .obj [strClaim "flow" (source ++ lit ":tools/call")])]

/-- What is made of AXG's introspection. -/
def onIntrospection (body : Dict Json) (refused : Str → Output) (reply : Json) :
    Except Raised Output := do
  let result ← raising (asDict reply)
  if (result.lookup (lit "active")).any Json.truthy then
    let _ ← raising (asDict (orEmpty (result.lookup (lit "claims"))))
    return .request body
  else
    let reason ← raising (pyStr py (orDefault (result.lookup (lit "reason"))
      (.lit "the Passport is not valid for this call")))
    return refused (lit "Blocked: " ++ reason ++ lit ".")

/-- `_approved_call` -/
def approvedCall (body params metadata : Dict Json) (protocolVersion : Option Str) :
    Except Raised Output :=
  let refused := fun text => toolError body text [strClaim "decision" (lit "INVALID_PASSPORT")] none
    protocolVersion
  let differ := refused (lit "Blocked: the arguments differ from what the Passport authorizes.")
  match metadata.lookup payloadMetaKey with
  | some (.obj authorized) => do
    let arguments ← raising (asDict (orEmpty (params.lookup (lit "arguments"))))
    if argumentsAuthorized arguments authorized then
      withReply (postAxg exchange introspectPath (introspection
          ((metadata.lookup passportMetaKey).getD .null) (toolName params) authorized))
        (toolError body unavailableText [strClaim "decision" (lit "UNAVAILABLE")] none
          protocolVersion) (onIntrospection py body refused)
    else return differ
  | _ => .ok differ

/-- The verdict, as it is told to the agent and to the tool. -/
def summary (decision scores : Dict Json) : Dict Json :=
  [(lit "decision", (decision.lookup (lit "decision")).getD .null),
    (lit "execution_id", (decision.lookup (lit "execution_id")).getD .null),
    (lit "reason", (decision.lookup (lit "reason")).getD .null),
    (lit "risk_level", (scores.lookup (lit "risk_level")).getD .null)]

/-- `{"decision": verdict, "risk_level": summary["risk_level"]}` -/
def cedarVerdict (decision scores : Dict Json) : Json :=
  .obj [(lit "decision", (decision.lookup (lit "decision")).getD .null),
    (lit "risk_level", (scores.lookup (lit "risk_level")).getD .null)]

/-- The approval that the host gets. -/
def approvalOf (decision : Dict Json) : Except PyError (Option (Dict Json)) :=
  match (decision.lookup (lit "approval")).filter Json.truthy with
  | none => .ok none
  | some approval => do
    let approval ← asMapping approval
    return some (approval.set (lit "actionable_payload")
      (orEmpty (decision.lookup (lit "actionable_payload"))))

/-- AXG allows the call. -/
def allows (decision : Dict Json) : Bool :=
  claimIs decision "decision" (lit "ALLOW") && (decision.lookup (lit "passport")).any Json.truthy

/-- The `_meta` of a call that is forwarded. -/
def forwardedMeta (metadata decision scores : Dict Json) : Dict Json :=
  ((metadata.set passportMetaKey ((decision.lookup (lit "passport")).getD .null)).set
    payloadMetaKey (orEmpty (decision.lookup (lit "actionable_payload")))).set
    decisionMetaKey (.obj (summary decision scores))

/-- Is the context for Cedar on? -/
def cedarOn : Bool := py.lower (env.cedarContext.getD []) = lit "true"

/-- The parameters of a call that is forwarded. -/
def forwardedParams (params metadata decision scores : Dict Json) : Except PyError (Dict Json) :=
  let params := params.set (lit "_meta") (.obj (forwardedMeta metadata decision scores))
  if cedarOn env py then do
    let arguments ← asMapping (orEmpty (params.lookup (lit "arguments")))
    return params.set (lit "arguments") (.obj (arguments.set axgArgument
      (cedarVerdict decision scores)))
  else .ok params

/-- What is made of AXG's decision. -/
def onDecision (body params metadata : Dict Json) (protocolVersion : Option Str) (reply : Json) :
    Except Raised Output := do
  let decision ← raising (asDict reply)
  let scores ← raising (asDict (orEmpty (decision.lookup (lit "scores"))))
  if allows decision then
    let params ← raising (forwardedParams env py params metadata decision scores)
    return .request (body.set (lit "params") (.obj params))
  else
    let approval ← raising (approvalOf decision)
    let reason ← raising (pyStr py (orDefault (decision.lookup (lit "reason"))
      (.lit "no reason given")))
    return toolError body ((if claimIs decision "decision" (lit "BLOCK") then
        lit "Blocked by policy" else lit "Confirmation required") ++ lit ": " ++ reason)
      (summary decision scores) approval protocolVersion

/-- `govern_tools_call` -/
def governToolsCall (body claims : Dict Json) (source uuid : Str) (protocolVersion : Option Str) :
    Except Raised Output := do
  let params ← raising (asDict (orEmpty (body.lookup (lit "params"))))
  let metadata ← raising (asDict (orEmpty (params.lookup (lit "_meta"))))
  if (metadata.lookup passportMetaKey).any Json.truthy then
    approvedCall py exchange body params metadata protocolVersion
  else
    let request ← raising (buildDecisionRequest env py body claims source uuid)
    withReply (postAxg exchange decisionsPath request)
      (toolError body unavailableText [strClaim "decision" (lit "UNAVAILABLE"),
        (lit "execution_id",
          (request.lookup (lit "execution_id")).getD .null)] none protocolVersion)
      (onDecision env py body params metadata protocolVersion)

end Govern

/-! ## 4. What is forwarded -/

/-- AXG's reply to what is sent. -/
def Replies (exchange : UrlOpen) (path : Str) (payload : Dict Json) (reply : Json) : Prop :=
  ∃ text bytes, dumpsAscii [0x20] (.obj payload) = .ok text ∧ exchange path text = .read bytes ∧
    loadsReply bytes = .ok reply

/-- The parts of a call that are read as objects. -/
structure Parts (body params metadata : Dict Json) : Prop where
  readsParams : orEmpty (body.lookup (lit "params")) = .obj params
  readsMetadata : orEmpty (params.lookup (lit "_meta")) = .obj metadata

/-- The call carries a Passport, with a payload that has its arguments.  A call with a Passport
that fails this is refused; it is not decided in place of that. -/
structure Presents (body params metadata : Dict Json) (passport : Json)
    (authorized arguments : Dict Json) : Prop where
  parts : Parts body params metadata
  carries : metadata.lookup passportMetaKey = some passport
  truthy : passport.truthy = true
  payload : metadata.lookup payloadMetaKey = some (.obj authorized)
  readsArguments : orEmpty (params.lookup (lit "arguments")) = .obj arguments
  matching : argumentsAuthorized arguments authorized = true

/-- AXG calls the Passport that the call carries active, for this tool and this payload. -/
structure Approved (exchange : UrlOpen) (body params metadata : Dict Json) (passport : Json)
    (authorized arguments : Dict Json) : Prop
    extends Presents body params metadata passport authorized arguments where
  active : ∃ result claims, Replies exchange introspectPath
      (introspection passport (toolName params) authorized) (.obj result) ∧
    (result.lookup (lit "active")).any Json.truthy = true ∧
    orEmpty (result.lookup (lit "claims")) = .obj claims

/-- The call carries no Passport, and AXG's decision is to allow it: an `ALLOW` and a Passport to
go with it, as an `ALLOW` in shadow mode comes without one. -/
structure Decided (env : Env) (py : Interpreter) (exchange : UrlOpen) (body claims : Dict Json)
    (source uuid : Str) (params metadata request decision scores : Dict Json) : Prop where
  parts : Parts body params metadata
  noPassport : (metadata.lookup passportMetaKey).any Json.truthy = false
  builds : buildDecisionRequest env py body claims source uuid = .ok request
  reply : Replies exchange decisionsPath request (.obj decision)
  readsScores : orEmpty (decision.lookup (lit "scores")) = .obj scores
  allows : allows decision = true

section Specs

variable {env : Env} {py : Interpreter} {exchange : UrlOpen} {body claims : Dict Json}
  {source uuid : Str} {protocolVersion : Option Str} {params metadata : Dict Json}

theorem raising_eq_ok {α : Type} {x : Except PyError α} {a : α} :
    raising x = .ok a ↔ x = .ok a := by
  cases x <;> simp [raising]

theorem asDict_eq_ok {v : Json} {members : Dict Json} :
    asDict v = .ok members ↔ v = .obj members := by
  cases v <;> simp [asDict]

theorem asMapping_eq_ok {v : Json} {members : Dict Json} :
    asMapping v = .ok members ↔ v = .obj members := by
  cases v <;> simp [asMapping]

theorem postAxg_eq_ok {path : Str} {payload : Dict Json} {reply : Json} :
    postAxg exchange path payload = .ok reply ↔ Replies exchange path payload reply := by
  unfold postAxg Replies
  cases dumpsAscii [0x20] (.obj payload) with
  | error e => simp
  | ok text =>
    simp only [Except.ok.injEq, exists_eq_left', exists_and_left]
    cases exchange path text with
    | read bytes =>
      simp only [UrlExchange.read.injEq, exists_eq_left']
      cases loadsReply bytes <;> simp
    | _ => simp

/-- A call is forwarded after a reply. -/
theorem withReply_request_iff {posted : Except PostError Json} {response : Dict Json}
    {onReply : Json → Except Raised Output} {out : Dict Json} :
    withReply posted (.response response) onReply = .ok (.request out) ↔
      ∃ reply, posted = .ok reply ∧ onReply reply = .ok (.request out) := by
  unfold withReply
  cases posted with
  | ok reply => simp
  | error e => cases e <;> simp

/-- One reply to one message. -/
theorem Replies.unique {path : Str} {payload : Dict Json} {reply other : Json}
    (h : Replies exchange path payload reply) (h' : Replies exchange path payload other) :
    reply = other :=
  Except.ok.inj ((postAxg_eq_ok.mpr h).symm.trans (postAxg_eq_ok.mpr h'))

theorem Parts.unique {params' metadata' : Dict Json} (h : Parts body params metadata)
    (h' : Parts body params' metadata') : params = params' ∧ metadata = metadata' := by
  cases h.readsParams.symm.trans h'.readsParams
  cases h.readsMetadata.symm.trans h'.readsMetadata
  exact ⟨rfl, rfl⟩

theorem onIntrospection_request_iff {text : Str → Str} {axg : Dict Json} {reply : Json}
    {out : Dict Json} :
    onIntrospection py body (fun t => toolError body (text t) axg none protocolVersion) reply =
        .ok (.request out) ↔
      ∃ result claims, reply = .obj result ∧
        (result.lookup (lit "active")).any Json.truthy = true ∧
        orEmpty (result.lookup (lit "claims")) = .obj claims ∧ out = body := by
  constructor
  · intro h
    obtain ⟨result, hresult, h⟩ := bind_eq_ok h
    rw [raising_eq_ok, asDict_eq_ok] at hresult
    split at h
    · rename_i hactive
      obtain ⟨cs, hclaims, h⟩ := bind_eq_ok h
      rw [raising_eq_ok, asDict_eq_ok] at hclaims
      cases h
      exact ⟨result, cs, hresult, hactive, hclaims, rfl⟩
    · obtain ⟨reason, -, h⟩ := bind_eq_ok h
      cases h
  · rintro ⟨result, cs, rfl, hactive, hclaims, rfl⟩
    unfold onIntrospection
    rw [raising_eq_ok.mpr (asDict_eq_ok.mpr rfl), ok_bind, if_pos hactive,
      raising_eq_ok.mpr (asDict_eq_ok.mpr hclaims), ok_bind]
    rfl

/-- `_approved_call` forwards the call as it came, or not at all. -/
theorem approvedCall_request_iff (hparts : Parts body params metadata)
    (htruthy : (metadata.lookup passportMetaKey).any Json.truthy = true) {out : Dict Json} :
    approvedCall py exchange body params metadata protocolVersion = .ok (.request out) ↔
      (∃ passport authorized arguments,
        Approved exchange body params metadata passport authorized arguments) ∧ out = body := by
  obtain ⟨passport, hpassport, htrue⟩ := (Option.any_eq_true _ _).mp htruthy
  have hpassport : metadata.lookup passportMetaKey = some passport := hpassport
  constructor
  · intro h
    unfold approvedCall at h
    split at h
    · rename_i authorized hauthorized
      obtain ⟨arguments, harguments, h⟩ := bind_eq_ok h
      rw [raising_eq_ok, asDict_eq_ok] at harguments
      split at h
      · rename_i hmatch
        obtain ⟨reply, hreply, h⟩ := withReply_request_iff.mp h
        obtain ⟨result, cs, rfl, hactive, hclaims, rfl⟩ := onIntrospection_request_iff.mp h
        rw [hpassport, Option.getD_some, postAxg_eq_ok] at hreply
        exact ⟨⟨passport, authorized, arguments,
          ⟨hparts, hpassport, htrue, hauthorized, harguments, hmatch⟩,
          result, cs, hreply, hactive, hclaims⟩, rfl⟩
      · cases h
    · cases h
  · rintro ⟨⟨passport', authorized, arguments, ha⟩, rfl⟩
    obtain ⟨result, cs, hreply, hactive, hclaims⟩ := ha.active
    cases hpassport.symm.trans ha.carries
    unfold approvedCall
    simp only [ha.payload]
    rw [raising_eq_ok.mpr (asDict_eq_ok.mpr ha.readsArguments), ok_bind, if_pos ha.matching,
      hpassport, Option.getD_some, postAxg_eq_ok.mpr hreply]
    exact withReply_request_iff.mpr
      ⟨_, rfl, onIntrospection_request_iff.mpr ⟨result, cs, rfl, hactive, hclaims, rfl⟩⟩

/-- AXG's decision is forwarded where it allows the call. -/
theorem onDecision_request_iff {reply : Json} {out : Dict Json} :
    onDecision env py body params metadata protocolVersion reply = .ok (.request out) ↔
      ∃ decision scores params', reply = .obj decision ∧
        orEmpty (decision.lookup (lit "scores")) = .obj scores ∧ allows decision = true ∧
        forwardedParams env py params metadata decision scores = .ok params' ∧
        out = body.set (lit "params") (.obj params') := by
  constructor
  · intro h
    obtain ⟨decision, hdecision, h⟩ := bind_eq_ok h
    obtain ⟨scores, hscores, h⟩ := bind_eq_ok h
    rw [raising_eq_ok, asDict_eq_ok] at hdecision hscores
    split at h
    · rename_i hallows
      obtain ⟨params', hparams, h⟩ := bind_eq_ok h
      rw [raising_eq_ok] at hparams
      cases h
      exact ⟨decision, scores, params', hdecision, hscores, hallows, hparams, rfl⟩
    · obtain ⟨approval, -, h⟩ := bind_eq_ok h
      obtain ⟨reason, -, h⟩ := bind_eq_ok h
      cases h
  · rintro ⟨decision, scores, params', rfl, hscores, hallows, hparams, rfl⟩
    unfold onDecision
    rw [raising_eq_ok.mpr (asDict_eq_ok.mpr rfl), ok_bind,
      raising_eq_ok.mpr (asDict_eq_ok.mpr hscores), ok_bind, if_pos hallows,
      raising_eq_ok.mpr hparams, ok_bind]
    rfl

/-- A call with a Passport goes to introspection, and any other one to a decision. -/
theorem govern_eq_ok_iff {output : Output} :
    governToolsCall env py exchange body claims source uuid protocolVersion = .ok output ↔
      ∃ params metadata, Parts body params metadata ∧
        (((metadata.lookup passportMetaKey).any Json.truthy = true ∧
            approvedCall py exchange body params metadata protocolVersion = .ok output) ∨
          ((metadata.lookup passportMetaKey).any Json.truthy = false ∧
            ∃ request, buildDecisionRequest env py body claims source uuid = .ok request ∧
              withReply (postAxg exchange decisionsPath request)
                (toolError body unavailableText [strClaim "decision" (lit "UNAVAILABLE"),
                  (lit "execution_id", (request.lookup (lit "execution_id")).getD .null)] none
                  protocolVersion)
                (onDecision env py body params metadata protocolVersion) = .ok output)) := by
  constructor
  · intro h
    obtain ⟨params, hparams, h⟩ := bind_eq_ok h
    obtain ⟨metadata, hmetadata, h⟩ := bind_eq_ok h
    rw [raising_eq_ok, asDict_eq_ok] at hparams hmetadata
    refine ⟨params, metadata, ⟨hparams, hmetadata⟩, ?_⟩
    split at h
    · rename_i htruthy
      exact .inl ⟨htruthy, h⟩
    · rename_i hno
      obtain ⟨request, hrequest, h⟩ := bind_eq_ok h
      rw [raising_eq_ok] at hrequest
      exact .inr ⟨Bool.eq_false_iff.mpr hno, request, hrequest, h⟩
  · rintro ⟨params, metadata, hparts, h⟩
    unfold governToolsCall
    rw [raising_eq_ok.mpr (asDict_eq_ok.mpr hparts.readsParams), ok_bind,
      raising_eq_ok.mpr (asDict_eq_ok.mpr hparts.readsMetadata), ok_bind]
    rcases h with ⟨htruthy, h⟩ | ⟨hno, request, hrequest, h⟩
    · rw [if_pos htruthy, h]
    · rw [if_neg (Bool.eq_false_iff.mp hno), raising_eq_ok.mpr hrequest, ok_bind, h]

/-- What is forwarded, and when. -/
theorem govern_request_iff {out : Dict Json} :
    governToolsCall env py exchange body claims source uuid protocolVersion = .ok (.request out) ↔
      (∃ params metadata passport authorized arguments,
        Approved exchange body params metadata passport authorized arguments ∧ out = body) ∨
      ∃ params metadata request decision scores params',
        Decided env py exchange body claims source uuid params metadata request decision scores ∧
          forwardedParams env py params metadata decision scores = .ok params' ∧
          out = body.set (lit "params") (.obj params') := by
  rw [govern_eq_ok_iff]
  constructor
  · rintro ⟨params, metadata, hparts, ⟨htruthy, h⟩ | ⟨hno, request, hrequest, h⟩⟩
    · obtain ⟨⟨passport, authorized, arguments, ha⟩, rfl⟩ :=
        (approvedCall_request_iff hparts htruthy).mp h
      exact .inl ⟨params, metadata, passport, authorized, arguments, ha, rfl⟩
    · obtain ⟨reply, hreply, h⟩ := withReply_request_iff.mp h
      obtain ⟨decision, scores, params', rfl, hscores, hallows, hforward, rfl⟩ :=
        onDecision_request_iff.mp h
      exact .inr ⟨params, metadata, request, decision, scores, params',
        ⟨hparts, hno, hrequest, postAxg_eq_ok.mp hreply, hscores, hallows⟩, hforward, rfl⟩
  · rintro (⟨params, metadata, passport, authorized, arguments, ha, rfl⟩ |
      ⟨params, metadata, request, decision, scores, params', hd, hforward, rfl⟩)
    · have htruthy : (metadata.lookup passportMetaKey).any Json.truthy = true := by
        rw [ha.carries]
        exact ha.truthy
      exact ⟨params, metadata, ha.parts, .inl ⟨htruthy, (approvedCall_request_iff ha.parts
        htruthy).mpr ⟨⟨passport, authorized, arguments, ha⟩, rfl⟩⟩⟩
    · refine ⟨params, metadata, hd.parts, .inr ⟨hd.noPassport, request, hd.builds, ?_⟩⟩
      rw [postAxg_eq_ok.mpr hd.reply]
      exact onDecision_request_iff.mpr
        ⟨decision, scores, params', rfl, hd.readsScores, hd.allows, hforward, rfl⟩

/-! ## 5. What Cedar sees -/

/-- The argument that Cedar reads is AXG's decision on this call. -/
def SeesVerdict (env : Env) (py : Interpreter) (exchange : UrlOpen) (body claims : Dict Json)
    (source uuid : Str) (out : Dict Json) : Prop :=
  ∃ params metadata request decision scores, Decided env py exchange body claims source uuid params
      metadata request decision scores ∧
    ∃ params' arguments, out.lookup (lit "params") = some (.obj params') ∧
      params'.lookup (lit "arguments") = some (.obj arguments) ∧
      arguments.lookup axgArgument = some (cedarVerdict decision scores)

/-- The arguments of a call that is forwarded with a verdict. -/
theorem forwardedParams_cedar (hcedar : cedarOn env py = true) {decision scores params' : Dict Json}
    (h : forwardedParams env py params metadata decision scores = .ok params') :
    ∃ arguments : Dict Json, params'.lookup (lit "arguments") =
      some (.obj (arguments.set axgArgument (cedarVerdict decision scores))) := by
  rw [forwardedParams, if_pos hcedar] at h
  obtain ⟨arguments, -, h⟩ := bind_eq_ok h
  cases h
  exact ⟨arguments, by rw [Dict.lookup_set, if_pos rfl]⟩

/-- With the context on, Cedar sees AXG's verdict in whatever is forwarded exactly when the call
is not one that its Passport lets through.  After a decision `arguments.axg` is written over
whatever the caller had put there; a call with a Passport goes on as it came, and its own `axg`
is the one argument that is not compared with the payload. -/
theorem cedar_iff (env : Env) (py : Interpreter) (hcedar : cedarOn env py = true)
    (exchange : UrlOpen) (body claims : Dict Json) (source uuid : Str)
    (protocolVersion : Option Str) :
    (∀ out, governToolsCall env py exchange body claims source uuid protocolVersion =
        .ok (.request out) → SeesVerdict env py exchange body claims source uuid out) ↔
      ∀ params metadata passport authorized arguments,
        ¬ Approved exchange body params metadata passport authorized arguments := by
  constructor
  · intro h params metadata passport authorized arguments ha
    obtain ⟨params', metadata', request, decision, scores, hd, -⟩ :=
      h body (govern_request_iff.mpr (.inl ⟨params, metadata, passport, authorized, arguments, ha,
        rfl⟩))
    obtain ⟨rfl, rfl⟩ := ha.parts.unique hd.parts
    have hno := hd.noPassport
    rw [ha.carries, Option.any_some, ha.truthy] at hno
    cases hno
  · intro h out hout
    rcases govern_request_iff.mp hout with ⟨params, metadata, passport, authorized, arguments, ha,
      -⟩ | ⟨params, metadata, request, decision, scores, params', hd, hforward, rfl⟩
    · exact absurd ha (h params metadata passport authorized arguments)
    · obtain ⟨arguments, harguments⟩ := forwardedParams_cedar hcedar hforward
      refine ⟨params, metadata, request, decision, scores, hd, params', _, ?_, harguments, ?_⟩
      · rw [Dict.lookup_set, if_pos rfl]
      · rw [Dict.lookup_set, if_pos rfl]

end Specs

/-! ## 6. Which calls are answered -/

/-- A scope that `list` or `split` takes. -/
def isScope : Option Json → Bool
  | none => true
  | some (.str _) => true
  | some (.arr _) => true
  | some (.obj _) => true
  | some _ => false

/-- The exchange fails in a way that is handled, or AXG's reply is an object that can be read. -/
def Handled (exchange : UrlOpen) (path : Str) (payload : Dict Json)
    (readable : Dict Json → Prop) : Prop :=
  ∃ text, dumpsAscii [0x20] (.obj payload) = .ok text ∧
    (exchange path text = .failed ∨ ∃ bytes, exchange path text = .read bytes ∧
      ∀ reply, loadsReply bytes = .ok reply → ∃ members, reply = .obj members ∧ readable members)

/-- The introspection of an active Passport has claims that can be read. -/
def ReadableResult (result : Dict Json) : Prop :=
  (result.lookup (lit "active")).any Json.truthy = true →
    ∃ claims, orEmpty (result.lookup (lit "claims")) = .obj claims

/-- A decision has scores that can be read, and an approval, or for Cedar the call has arguments. -/
def ReadableDecision (cedar : Bool) (params decision : Dict Json) : Prop :=
  (∃ scores, orEmpty (decision.lookup (lit "scores")) = .obj scores) ∧
    if allows decision then
      cedar = true → ∃ arguments, orEmpty (params.lookup (lit "arguments")) = .obj arguments
    else ∃ approval, orEmpty (decision.lookup (lit "approval")) = .obj approval

/-- The shapes that the code can read, along the path that it takes.  One constructor for each
way through `govern_tools_call`, with the values that are read on that way and no others. -/
inductive Answerable (env : Env) (py : Interpreter) (exchange : UrlOpen) (body claims : Dict Json)
    (source uuid : Str) : Prop
  | approved {params metadata : Dict Json} (hparts : Parts body params metadata)
      (htruthy : (metadata.lookup passportMetaKey).any Json.truthy = true)
      (hends : ∀ authorized, metadata.lookup payloadMetaKey = some (.obj authorized) →
        ∃ arguments, orEmpty (params.lookup (lit "arguments")) = .obj arguments ∧
          (argumentsAuthorized arguments authorized = true →
            Handled exchange introspectPath (introspection
              ((metadata.lookup passportMetaKey).getD .null) (toolName params) authorized)
              ReadableResult))
  | decided {params metadata : Dict Json} (hparts : Parts body params metadata)
      (hno : (metadata.lookup passportMetaKey).any Json.truthy = false)
      (hscope : isScope (claims.lookup (lit "scope")) = true)
      (hends : ∀ request, buildDecisionRequest env py body claims source uuid = .ok request →
        Handled exchange decisionsPath request (ReadableDecision (cedarOn env py) params))

/-- A forward that AXG authorized, or a tool result with `isError` and the request's id. -/
inductive Answered (env : Env) (py : Interpreter) (exchange : UrlOpen) (body claims : Dict Json)
    (source uuid : Str) : Output → Prop
  | approved {params metadata authorized arguments : Dict Json} {passport : Json}
      (h : Approved exchange body params metadata passport authorized arguments) :
      Answered env py exchange body claims source uuid (.request body)
  | decided {params metadata request decision scores out : Dict Json}
      (h : Decided env py exchange body claims source uuid params metadata request decision
        scores) :
      Answered env py exchange body claims source uuid (.request out)
  | toolError {response result : Dict Json}
      (hid : response.lookup (lit "id") = some ((body.lookup (lit "id")).getD .null))
      (hresult : response.lookup (lit "result") = some (.obj result))
      (herror : result.lookup (lit "isError") = some (.bool true)) :
      Answered env py exchange body claims source uuid (.response response)

section Answers

variable {env : Env} {py : Interpreter} {exchange : UrlOpen} {body claims : Dict Json}
  {source uuid : Str} {protocolVersion : Option Str} {params metadata : Dict Json}

theorem answered_toolError (text : Str) (axg : Dict Json) (approval : Option (Dict Json)) :
    Answered env py exchange body claims source uuid
      (toolError body text axg approval protocolVersion) :=
  .toolError rfl rfl rfl

theorem withReply_eq_ok {posted : Except PostError Json} {unavailable output : Output}
    {onReply : Json → Except Raised Output}
    (h : withReply posted unavailable onReply = .ok output) :
    output = unavailable ∨ ∃ reply, posted = .ok reply ∧ onReply reply = .ok output := by
  unfold withReply at h
  split at h
  · cases h
    exact .inl rfl
  · cases h
  · exact .inr ⟨_, rfl, h⟩

theorem approvedCall_answered (hparts : Parts body params metadata)
    (htruthy : (metadata.lookup passportMetaKey).any Json.truthy = true) {output : Output}
    (h : approvedCall py exchange body params metadata protocolVersion = .ok output) :
    Answered env py exchange body claims source uuid output := by
  cases output with
  | request out =>
    obtain ⟨⟨passport, authorized, arguments, ha⟩, rfl⟩ :=
      (approvedCall_request_iff hparts htruthy).mp h
    exact .approved ha
  | response response =>
    unfold approvedCall at h
    split at h
    · obtain ⟨arguments, -, h⟩ := bind_eq_ok h
      split at h
      · rcases withReply_eq_ok h with h | ⟨reply, -, h⟩
        · rw [h]
          exact answered_toolError _ _ _
        · obtain ⟨result, -, h⟩ := bind_eq_ok h
          split at h
          · obtain ⟨cs, -, h⟩ := bind_eq_ok h
            cases h
          · obtain ⟨reason, -, h⟩ := bind_eq_ok h
            cases h
            exact answered_toolError _ _ _
      · cases h
        exact answered_toolError _ _ _
    · cases h
      exact answered_toolError _ _ _

/-- Whatever is returned is an answer. -/
theorem govern_answered {output : Output}
    (h : governToolsCall env py exchange body claims source uuid protocolVersion = .ok output) :
    Answered env py exchange body claims source uuid output := by
  cases output with
  | request out =>
    rcases govern_request_iff.mp h with
      ⟨params, metadata, passport, authorized, arguments, ha, rfl⟩ |
      ⟨params, metadata, request, decision, scores, params', hd, -, rfl⟩
    · exact .approved ha
    · exact .decided hd
  | response response =>
    obtain ⟨params, hparams, h⟩ := bind_eq_ok h
    obtain ⟨metadata, hmetadata, h⟩ := bind_eq_ok h
    rw [raising_eq_ok, asDict_eq_ok] at hparams hmetadata
    split at h
    · rename_i htruthy
      exact approvedCall_answered ⟨hparams, hmetadata⟩ htruthy h
    · obtain ⟨request, -, h⟩ := bind_eq_ok h
      rcases withReply_eq_ok h with h | ⟨reply, -, h⟩
      · rw [h]
        exact answered_toolError _ _ _
      · obtain ⟨decision, -, h⟩ := bind_eq_ok h
        obtain ⟨scores, -, h⟩ := bind_eq_ok h
        split at h
        · obtain ⟨params', -, h⟩ := bind_eq_ok h
          cases h
        · obtain ⟨approval, -, h⟩ := bind_eq_ok h
          obtain ⟨reason, -, h⟩ := bind_eq_ok h
          cases h
          exact answered_toolError _ _ _

/-! What the code does with short integers, which are all that `json.loads` returns. -/

theorem short_lookup {members : Dict Json} (h : (Json.obj members).hasShortInts = true) (k : Str) :
    ∀ v ∈ members.lookup k, v.hasShortInts = true :=
  fun _ hv => (Json.every_obj.mp h).2 _ (Dict.lookup_mem hv)

theorem short_orEmpty {v : Option Json} (h : ∀ w ∈ v, w.hasShortInts = true) :
    (orEmpty v).hasShortInts = true := by
  unfold orEmpty
  cases hv : v.filter Json.truthy with
  | none => rfl
  | some w => exact h w (Option.filter_eq_some_iff.mp hv).1

theorem pyStr_of_short {v : Json} (h : v.hasShortInts = true) : ∃ s, pyStr py v = .ok s := by
  cases v with
  | str s => exact ⟨s, rfl⟩
  | _ => simp [pyStr, h]

theorem loadsReply_short {bytes : Bytes} {reply : Json} (h : loadsReply bytes = .ok reply) :
    reply.hasShortInts = true := by
  unfold loadsReply at h
  split at h
  · exact loads_hasShortInts h
  · cases h

theorem withReply_isOk_iff {path : Str} {payload : Dict Json} {unavailable : Output}
    {onReply : Json → Except Raised Output} {readable : Dict Json → Prop}
    (hread : ∀ reply, reply.hasShortInts = true → ((∃ output, onReply reply = .ok output) ↔
      ∃ members, reply = .obj members ∧ readable members)) :
    (∃ output, withReply (postAxg exchange path payload) unavailable onReply = .ok output) ↔
      Handled exchange path payload readable := by
  unfold withReply postAxg Handled
  cases dumpsAscii [0x20] (.obj payload) with
  | error e => simp
  | ok text =>
    simp only [Except.ok.injEq, exists_eq_left']
    cases exchange path text with
    | unmade => simp
    | failed => simp
    | raised => simp
    | read bytes =>
      simp only [reduceCtorEq, UrlExchange.read.injEq, false_or, exists_eq_left']
      cases hreply : loadsReply bytes with
      | error e => simp
      | ok reply =>
        simp only [Except.ok.injEq, forall_eq']
        exact hread reply (loadsReply_short hreply)

theorem onIntrospection_isOk_iff {refused : Str → Output} (reply : Json)
    (hshort : reply.hasShortInts = true) :
    (∃ output, onIntrospection py body refused reply = .ok output) ↔
      ∃ result, reply = .obj result ∧ ReadableResult result := by
  constructor
  · rintro ⟨output, h⟩
    obtain ⟨result, hresult, h⟩ := bind_eq_ok h
    rw [raising_eq_ok, asDict_eq_ok] at hresult
    refine ⟨result, hresult, fun hactive => ?_⟩
    rw [if_pos hactive] at h
    obtain ⟨cs, hclaims, -⟩ := bind_eq_ok h
    rw [raising_eq_ok, asDict_eq_ok] at hclaims
    exact ⟨cs, hclaims⟩
  · rintro ⟨result, rfl, hreadable⟩
    unfold onIntrospection
    rw [raising_eq_ok.mpr (asDict_eq_ok.mpr rfl), ok_bind]
    by_cases hactive : (result.lookup (lit "active")).any Json.truthy = true
    · obtain ⟨cs, hclaims⟩ := hreadable hactive
      rw [if_pos hactive, raising_eq_ok.mpr (asDict_eq_ok.mpr hclaims), ok_bind]
      exact ⟨_, rfl⟩
    · obtain ⟨reason, hreason⟩ := @pyStr_of_short py _
        (hasShortInts_orDefault.mpr (short_lookup hshort (lit "reason")))
      rw [if_neg hactive, raising_eq_ok.mpr hreason, ok_bind]
      exact ⟨_, rfl⟩

theorem approvedCall_isOk_iff : (∃ output, approvedCall py exchange body params metadata
      protocolVersion = .ok output) ↔
    ∀ authorized, metadata.lookup payloadMetaKey = some (.obj authorized) →
      ∃ arguments, orEmpty (params.lookup (lit "arguments")) = .obj arguments ∧
        (argumentsAuthorized arguments authorized = true →
          Handled exchange introspectPath (introspection
            ((metadata.lookup passportMetaKey).getD .null) (toolName params) authorized)
            ReadableResult) := by
  unfold approvedCall
  split
  · rename_i authorized hauthorized
    rw [hauthorized]
    simp only [Option.some.injEq, Json.obj.injEq, forall_eq']
    constructor
    · rintro ⟨output, h⟩
      obtain ⟨arguments, harguments, h⟩ := bind_eq_ok h
      rw [raising_eq_ok, asDict_eq_ok] at harguments
      refine ⟨arguments, harguments, fun hmatch => ?_⟩
      rw [if_pos hmatch] at h
      exact (withReply_isOk_iff onIntrospection_isOk_iff).mp ⟨output, h⟩
    · rintro ⟨arguments, harguments, hends⟩
      rw [raising_eq_ok.mpr (asDict_eq_ok.mpr harguments), ok_bind]
      by_cases hmatch : argumentsAuthorized arguments authorized = true
      · rw [if_pos hmatch]
        exact (withReply_isOk_iff onIntrospection_isOk_iff).mpr (hends hmatch)
      · rw [if_neg hmatch]
        exact ⟨_, rfl⟩
  · rename_i hno
    exact iff_of_true ⟨_, rfl⟩ (fun authorized h => absurd h (hno authorized))

/-- An approval that is a mapping, or nothing. -/
theorem approvalOf_isOk_iff {decision : Dict Json} :
    (∃ approval, approvalOf decision = .ok approval) ↔
    ∃ approval, orEmpty (decision.lookup (lit "approval")) = .obj approval := by
  unfold approvalOf orEmpty
  cases (decision.lookup (lit "approval")).filter Json.truthy with
  | none => simp
  | some approval =>
    cases approval with
    | obj members => exact iff_of_true ⟨_, rfl⟩ ⟨members, rfl⟩
    | _ => exact iff_of_false (by rintro ⟨_, ⟨⟩⟩) (by rintro ⟨_, ⟨⟩⟩)

theorem forwardedParams_isOk_iff {decision scores : Dict Json} :
    (∃ params', forwardedParams env py params metadata decision scores = .ok params') ↔
      (cedarOn env py = true →
        ∃ arguments, orEmpty (params.lookup (lit "arguments")) = .obj arguments) := by
  have hkeep : ∀ v, (params.set (lit "_meta") v).lookup (lit "arguments") =
      params.lookup (lit "arguments") := by
    intro v
    rw [Dict.lookup_set, if_neg (by decide)]
  unfold forwardedParams
  cases hcedar : cedarOn env py with
  | false => simp
  | true =>
    simp only [↓reduceIte, true_implies, hkeep]
    cases harguments : orEmpty (params.lookup (lit "arguments")) with
    | obj arguments => exact iff_of_true ⟨_, rfl⟩ ⟨arguments, rfl⟩
    | _ => exact iff_of_false (by rintro ⟨_, ⟨⟩⟩) (by rintro ⟨_, ⟨⟩⟩)

theorem onDecision_isOk_iff (reply : Json) (hshort : reply.hasShortInts = true) :
    (∃ output, onDecision env py body params metadata protocolVersion reply = .ok output) ↔
      ∃ decision, reply = .obj decision ∧ ReadableDecision (cedarOn env py) params decision := by
  constructor
  · rintro ⟨output, h⟩
    obtain ⟨decision, hdecision, h⟩ := bind_eq_ok h
    obtain ⟨scores, hscores, h⟩ := bind_eq_ok h
    rw [raising_eq_ok, asDict_eq_ok] at hdecision hscores
    refine ⟨decision, hdecision, ⟨scores, hscores⟩, ?_⟩
    split at h
    · rename_i hallows
      obtain ⟨params', hparams, -⟩ := bind_eq_ok h
      rw [if_pos hallows]
      exact forwardedParams_isOk_iff.mp ⟨params', raising_eq_ok.mp hparams⟩
    · rename_i hallows
      obtain ⟨approval, happroval, -⟩ := bind_eq_ok h
      rw [if_neg hallows]
      exact approvalOf_isOk_iff.mp ⟨approval, raising_eq_ok.mp happroval⟩
  · rintro ⟨decision, rfl, ⟨scores, hscores⟩, hends⟩
    unfold onDecision
    rw [raising_eq_ok.mpr (asDict_eq_ok.mpr rfl), ok_bind,
      raising_eq_ok.mpr (asDict_eq_ok.mpr hscores), ok_bind]
    by_cases hallows : allows decision = true
    · rw [if_pos hallows] at hends ⊢
      obtain ⟨params', hparams⟩ := (@forwardedParams_isOk_iff env py params metadata decision
        scores).mpr hends
      rw [raising_eq_ok.mpr hparams, ok_bind]
      exact ⟨_, rfl⟩
    · rw [if_neg hallows] at hends ⊢
      obtain ⟨approval, happroval⟩ := approvalOf_isOk_iff.mpr hends
      obtain ⟨reason, hreason⟩ := @pyStr_of_short py _
        (hasShortInts_orDefault.mpr (short_lookup hshort (lit "reason")))
      rw [raising_eq_ok.mpr happroval, ok_bind, raising_eq_ok.mpr hreason, ok_bind]
      exact ⟨_, rfl⟩

theorem permissions_isOk_iff {scopes : Option Json} :
    (∃ ps, permissions scopes = .ok ps) ↔ isScope scopes = true := by
  cases scopes with
  | none => simp [permissions, isScope]
  | some v => cases v <;> simp [permissions, isScope]

theorem buildDecisionRequest_isOk_iff (hbody : (Json.obj body).hasShortInts = true)
    (hclaims : (Json.obj claims).hasShortInts = true)
    (hparams : orEmpty (body.lookup (lit "params")) = .obj params) :
    (∃ request, buildDecisionRequest env py body claims source uuid = .ok request) ↔
      isScope (claims.lookup (lit "scope")) = true := by
  constructor
  · rintro ⟨request, h⟩
    obtain ⟨params', -, h⟩ := bind_eq_ok h
    obtain ⟨ps, hps, -⟩ := bind_eq_ok h
    exact permissions_isOk_iff.mp ⟨ps, hps⟩
  · intro hscope
    obtain ⟨ps, hps⟩ := permissions_isOk_iff.mpr hscope
    have hid : ((body.lookup (lit "id")).getD (.str [])).hasShortInts = true := by
      cases hv : body.lookup (lit "id") with
      | none => rfl
      | some v => exact short_lookup hbody _ v hv
    have hagent : ((((claims.lookup (env.agentClaim.getD (lit "client_id"))).filter Json.truthy).or
        ((claims.lookup (lit "sub")).filter Json.truthy)).getD
          (.str (lit "unknown-agent"))).hasShortInts = true := by
      cases hv : (claims.lookup (env.agentClaim.getD (lit "client_id"))).filter Json.truthy with
      | some v => exact short_lookup hclaims _ v (Option.filter_eq_some_iff.mp hv).1
      | none =>
        cases hw : (claims.lookup (lit "sub")).filter Json.truthy with
        | some w => exact short_lookup hclaims _ w (Option.filter_eq_some_iff.mp hw).1
        | none => rfl
    obtain ⟨id, hid⟩ := @pyStr_of_short py _ hid
    obtain ⟨agent, hagent⟩ := @pyStr_of_short py _ hagent
    obtain ⟨tenant, htenant⟩ := @pyStr_of_short py _ ((@hasShortInts_orDefault _
      (.lit "default")).mpr (short_lookup hclaims (env.tenantClaim.getD (lit "tenant_id"))))
    unfold buildDecisionRequest
    rw [hparams, asDict_eq_ok.mpr rfl, ok_bind, hps, ok_bind, hid, ok_bind, htenant, ok_bind,
      hagent, ok_bind]
    exact ⟨_, rfl⟩

end Answers

/-- A call is answered exactly when every part of it, of the claims and of AXG's reply has a
shape that can be read where it is read, and the exchange raises nothing that is not handled.
Python calls `get` on whatever is there, and each `or` in front of it makes an object of a falsy
value only; so the condition follows the path that the call takes. -/
theorem answers_iff (env : Env) (py : Interpreter) (exchange : UrlOpen) (body claims : Dict Json)
    (hbody : (Json.obj body).hasShortInts = true) (hclaims : (Json.obj claims).hasShortInts = true)
    (source uuid : Str) (protocolVersion : Option Str) :
    (∃ output,
        governToolsCall env py exchange body claims source uuid protocolVersion = .ok output ∧
          Answered env py exchange body claims source uuid output) ↔
      Answerable env py exchange body claims source uuid := by
  constructor
  · rintro ⟨output, h, -⟩
    obtain ⟨params, metadata, hparts, ⟨htruthy, h⟩ | ⟨hno, request, hrequest, h⟩⟩ :=
      govern_eq_ok_iff.mp h
    · exact .approved hparts htruthy (approvedCall_isOk_iff.mp ⟨output, h⟩)
    · refine .decided hparts hno ((buildDecisionRequest_isOk_iff hbody hclaims
        hparts.readsParams).mp ⟨request, hrequest⟩) ?_
      intro other hother
      cases hrequest.symm.trans hother
      exact (withReply_isOk_iff onDecision_isOk_iff).mp ⟨output, h⟩
  -- an output is enough: whatever is returned is an answer
  · intro h
    have hok : ∃ output, governToolsCall env py exchange body claims source uuid protocolVersion =
        .ok output := by
      cases h with
      | approved hparts htruthy hends =>
        obtain ⟨output, h⟩ := approvedCall_isOk_iff.mpr hends
        exact ⟨output, govern_eq_ok_iff.mpr ⟨_, _, hparts, .inl ⟨htruthy, h⟩⟩⟩
      | decided hparts hno hscope hends =>
        obtain ⟨request, hrequest⟩ := (@buildDecisionRequest_isOk_iff env py body claims source uuid
          _ hbody hclaims hparts.readsParams).mpr hscope
        obtain ⟨output, h⟩ :=
          (withReply_isOk_iff onDecision_isOk_iff).mpr (hends request hrequest)
        exact ⟨output, govern_eq_ok_iff.mpr ⟨_, _, hparts, .inr ⟨hno, request, hrequest, h⟩⟩⟩
    obtain ⟨output, houtput⟩ := hok
    exact ⟨output, houtput, govern_answered houtput⟩

/-! ## 7. Calls -/

/-- An AXG that gives one reply. -/
def replying (reply : Json) : UrlOpen := fun _ _ =>
  match dumpsAscii [0x20] reply with
  | .ok text => .read (asciiBytes text)
  | .error _ => .failed

theorem replies_replying {reply : Json} {payload : Dict Json} (hreply : reply.hasShortInts = true)
    (hpayload : (Json.obj payload).hasShortInts = true) (path : Str) :
    Replies (replying reply) path payload reply.rejoin := by
  obtain ⟨text, htext⟩ : ∃ text, dumpsAscii [0x20] reply = .ok text := ⟨_, if_pos hreply⟩
  refine ⟨_, asciiBytes text, if_pos hpayload, by simp only [replying, htext], ?_⟩
  rw [loadsReply, decodeUtf8With_ascii false (printable_dumpsAscii htext)]
  exact loads_dumpsAscii padSpace htext

/-- The context for Cedar is on. -/
def cedarEnv : Env := ⟨lit "app", none, none, none, some (lit "true")⟩

/-- A verdict of the caller's own. -/
def ownVerdict : Json := .obj [strClaim "decision" (lit "ALLOW"), strClaim "risk_level" (lit "low")]

/-- A call with a Passport, an empty payload and a verdict in its arguments. -/
def passportCall : Dict Json :=
  [strClaim "method" (lit "tools/call"), (lit "params", .obj [strClaim "name" (lit "pay"),
    (lit "arguments", .obj [(axgArgument, ownVerdict)]),
    (lit "_meta", .obj [(passportMetaKey, .str passportText), (payloadMetaKey, .obj [])])])]

/-- An introspection that says that the Passport is active. -/
def activeResult : Dict Json := [(lit "active", .bool true)]

theorem approved_passportCall : Approved (replying (.obj activeResult)) passportCall
    [strClaim "name" (lit "pay"), (lit "arguments", .obj [(axgArgument, ownVerdict)]),
      (lit "_meta", .obj [(passportMetaKey, .str passportText), (payloadMetaKey, .obj [])])]
    [(passportMetaKey, .str passportText), (payloadMetaKey, .obj [])] (.str passportText) []
    [(axgArgument, ownVerdict)] where
  parts := ⟨rfl, rfl⟩
  carries := rfl
  truthy := rfl
  payload := rfl
  readsArguments := rfl
  matching := rfl
  active := ⟨activeResult, [], replies_replying rfl rfl _, rfl, rfl⟩

/-- The caller's verdict is forwarded, and Cedar sees it. -/
theorem own_verdict_forwarded :
    cedarOn cedarEnv plainInterpreter = true ∧
      governToolsCall cedarEnv plainInterpreter (replying (.obj activeResult)) passportCall [] [] []
        none = .ok (.request passportCall) ∧
      ¬ ∀ out, governToolsCall cedarEnv plainInterpreter (replying (.obj activeResult)) passportCall
          [] [] [] none = .ok (.request out) →
        SeesVerdict cedarEnv plainInterpreter (replying (.obj activeResult)) passportCall [] [] []
          out := by
  have hforward : governToolsCall cedarEnv plainInterpreter (replying (.obj activeResult))
      passportCall [] [] [] none = .ok (.request passportCall) :=
    govern_request_iff.mpr (.inl ⟨_, _, _, _, _, approved_passportCall, rfl⟩)
  refine ⟨rfl, hforward, fun h => ?_⟩
  obtain ⟨params, metadata, request, decision, scores, hd, -⟩ := h passportCall hforward
  obtain ⟨-, rfl⟩ := approved_passportCall.parts.unique hd.parts
  cases hd.noPassport

/-- The claims of a caller. -/
def agentClaims : Dict Json :=
  [strClaim "client_id" (lit "agent-1"), strClaim "tenant_id" (lit "acme"),
    (lit "scope", .arr [.str (lit "pay")])]

/-- A call without a Passport. -/
def payMessage : Dict Json :=
  [strClaim "method" (lit "tools/call"), (lit "params", .obj [strClaim "name" (lit "pay"),
    (lit "arguments", .obj [(lit "amount", .int 5)])])]

/-- AXG allows the call. -/
def allowReply : Dict Json :=
  [strClaim "decision" (lit "ALLOW"), strClaim "passport" passportText,
    (lit "actionable_payload", .obj [(lit "amount", .int 5)])]

/-- What AXG decides. -/
def agentAsked (source : Str) : Dict Json :=
  [strClaim "execution_id" (source ++ lit "-" ++ [] ++ lit "-" ++ lit "u"),
    strClaim "tenant_id" (lit "acme"), strClaim "app_id" (lit "app"),
    strClaim "plugin_id" (lit "app"), (lit "user_id", .null),
    (lit "agent", .obj [strClaim "id" (lit "agent-1"), strClaim "type" (lit "agent"),
      (lit "permissions", .arr [.str (lit "pay")])]),
    strClaim "source" source, strClaim "action_type" (lit "pay"),
    (lit "payload", .obj [(lit "amount", .int 5)]),
    (lit "llm", .obj [(lit "confidence", certain.json)]),
    (lit "metadata", .obj [strClaim "flow" (source ++ lit ":tools/call")])]

theorem decided_payMessage (py : Interpreter) (source : Str) : Decided cedarEnv py
    (replying (.obj allowReply)) payMessage agentClaims source (lit "u")
    [strClaim "name" (lit "pay"), (lit "arguments", .obj [(lit "amount", .int 5)])] []
    (agentAsked source) allowReply [] := by
  have hbuilds : buildDecisionRequest cedarEnv py payMessage agentClaims source
      (lit "u") = .ok (agentAsked source) := rfl
  have hshort : (Json.obj (agentAsked source)).hasShortInts = true := by rfl
  have hreply := @replies_replying (.obj allowReply) _ (by decide +kernel) hshort
    decisionsPath
  rw [Json.rejoin_of_isText (by decide +kernel) (by decide +kernel)] at hreply
  exact ⟨⟨rfl, rfl⟩, rfl, hbuilds, hreply, rfl, rfl⟩

/-- Of a call that AXG decides its verdict is forwarded, and Cedar sees it. -/
theorem cedar_iff_pay :
    ∃ out, governToolsCall cedarEnv plainInterpreter (replying (.obj allowReply)) payMessage
        agentClaims [] (lit "u") none = .ok (.request out) ∧
      SeesVerdict cedarEnv plainInterpreter (replying (.obj allowReply)) payMessage agentClaims []
        (lit "u") out := by
  have hd := decided_payMessage plainInterpreter []
  have hout : ∃ params', forwardedParams cedarEnv plainInterpreter
      [strClaim "name" (lit "pay"), (lit "arguments", .obj [(lit "amount", .int 5)])] [] allowReply
      [] = .ok params' := ⟨_, rfl⟩
  obtain ⟨params', hparams⟩ := hout
  have hforward := (@govern_request_iff cedarEnv plainInterpreter (replying (.obj allowReply))
    payMessage agentClaims [] (lit "u") none _).mpr
      (.inr ⟨_, _, _, _, _, params', hd, hparams, rfl⟩)
  refine ⟨_, hforward, (cedar_iff cedarEnv plainInterpreter rfl _ payMessage agentClaims []
    (lit "u") none).mpr ?_ _ hforward⟩
  -- there is no Passport in the call
  intro params metadata passport authorized arguments ha
  obtain ⟨-, rfl⟩ := hd.parts.unique ha.parts
  cases ha.carries

/-- Parameters in a list, and a connection that is cut: neither call is answered. -/
theorem calls_unanswered :
    governToolsCall cedarEnv plainInterpreter (fun _ _ => .failed)
        [strClaim "method" (lit "tools/call"), (lit "params", .arr [.null])] [] [] [] none =
        .error (.python .attributeError) ∧
      governToolsCall cedarEnv plainInterpreter (fun _ _ => .raised) passportCall [] [] [] none =
        .error .connection ∧
      ¬ ∃ output,
        governToolsCall cedarEnv plainInterpreter (fun _ _ => .raised) passportCall [] [] []
          none = .ok output ∧
        Answered cedarEnv plainInterpreter (fun _ _ => .raised) passportCall [] [] [] output := by
  have hcut : governToolsCall cedarEnv plainInterpreter (fun _ _ => .raised) passportCall [] [] []
      none = .error .connection := rfl
  refine ⟨rfl, hcut, ?_⟩
  rintro ⟨output, h, -⟩
  cases hcut.symm.trans h

/-- A call whose exchange fails in a way that is handled. -/
theorem answers_iff_failed :
    (∃ output, governToolsCall cedarEnv plainInterpreter (fun _ _ => .failed) passportCall [] [] []
          none = .ok output ∧
        Answered cedarEnv plainInterpreter (fun _ _ => .failed) passportCall [] [] [] output) ↔
      Answerable cedarEnv plainInterpreter (fun _ _ => .failed) passportCall [] [] [] :=
  answers_iff cedarEnv plainInterpreter _ passportCall [] rfl rfl [] [] none

end Interceptor

end Axg
