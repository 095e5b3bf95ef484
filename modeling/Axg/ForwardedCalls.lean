/-
# A call from the gateway to the tool

The engine makes the payload of a decision from the arguments of the call (`_actionable_payload` in
`axg/engine.py`): it adds the proposed action, copies the proposed category, and lets the rules that
trigger write fields of their own.  The gateway and the tool then want every argument of the call in
that payload.

The writers overwrite.  A call that AXG allows, or that a human approves, passes both checks exactly
when what is written under the name of an argument is equal to it (`leave_passes_iff`).

The web framework and the JWT library enter as parameters: how a request is validated, how a
response is rendered and how a token is written.
-/
import Axg.ExecutionRecords
import Axg.GatewayPassports

namespace Axg

open Python

/-! ## 1. What is written over the arguments -/

/-- What the engine writes into the payload under a name: what the last rule writes, or else the
category that it copies. -/
def overwritten (request : DecisionRequest) (triggered : List PolicyRule) (k : Str) : Option Json :=
  (triggered.reverse.findSome? (fun rule => rule.actionablePayload.members.lookup k)).or
    (if k = lit "suggested_category" then request.payload.members.lookup (lit "proposed_category")
      else none)

/-- Nothing is written over an argument, apart from `axg`, but what is equal to it.  It is a
condition on the arguments and the rules that trigger: the engine writes `suggested_category`,
the rules what they list, and the last rule that writes a field wins. -/
def Kept (request : DecisionRequest) (triggered : List PolicyRule) : Prop :=
  ∀ p ∈ request.payload.members, p.1 ≠ axgArgument →
    ∀ w ∈ overwritten request triggered p.1, w.pyEq p.2 = true

theorem lookup_rules (triggered : List PolicyRule) (o : JsonObject) (k : Str) :
    (triggered.foldl (fun o rule => o.update rule.actionablePayload) o).members.lookup k =
      (triggered.reverse.findSome? (fun rule => rule.actionablePayload.members.lookup k)).or
        (o.members.lookup k) := by
  induction triggered generalizing o with
  | nil => rfl
  | cons rule triggered ih =>
    rw [List.foldl_cons, ih, JsonObject.members_update,
      Dict.lookup_update rule.actionablePayload.nodup, List.reverse_cons, List.findSome?_append,
      Option.or_assoc]
    congr 1
    cases hrule : rule.actionablePayload.members.lookup k <;> simp [hrule]

theorem lookup_setdefault {o : JsonObject} {k key : Str} {v w : Json} (hw : w.Wf)
    (hv : o.members.lookup k = some v) : (o.setdefault key w hw).members.lookup k = some v := by
  unfold JsonObject.setdefault
  split
  · exact hv
  · rename_i hno
    rw [JsonObject.members_set, Dict.lookup_set, if_neg ?_, hv]
    rintro rfl
    rw [hv] at hno
    exact hno rfl

theorem lookup_category {request : DecisionRequest} {o : JsonObject} {k : Str} {v : Json}
    (hv : o.members.lookup k = some v) :
    ((match request.payload.find (lit "proposed_category") with
      | some category => o.set (lit "suggested_category") category.val category.property
      | none => o).members.lookup k) =
      some ((if k = lit "suggested_category" then
        request.payload.members.lookup (lit "proposed_category") else none).getD v) := by
  rw [← request.payload.find_map]
  cases request.payload.find (lit "proposed_category") with
  | none => simp [hv]
  | some category =>
    rw [JsonObject.members_set, Dict.lookup_set]
    split
    · rfl
    · exact hv

/-- The payload has what is written under the name of an argument, or else the argument. -/
theorem lookup_actionablePayload {request : DecisionRequest} (triggered : List PolicyRule) {k : Str}
    {v : Json} (hv : request.payload.members.lookup k = some v) :
    (actionablePayload request triggered).members.lookup k =
      some ((overwritten request triggered k).getD v) := by
  refine (lookup_rules triggered _ k).trans ?_
  have hdefault := @lookup_setdefault request.payload k (lit "proposed_action") v
    (.str request.actionType) rfl hv
  refine (congrArg _ (lookup_category hdefault)).trans ?_
  rw [overwritten]
  cases triggered.reverse.findSome? (fun rule => rule.actionablePayload.members.lookup k) <;> rfl

/-- The payload has every argument exactly when every argument is kept. -/
theorem argumentIs_payload_iff {request : DecisionRequest} {triggered : List PolicyRule}
    (htext : request.payload.json.isText = true) :
    (∀ p ∈ request.payload.members, p.1 ≠ axgArgument →
        argumentIs (actionablePayload request triggered) p = true) ↔ Kept request triggered := by
  refine forall₂_congr fun p hp => forall_congr' fun _ => ?_
  have hv := (Dict.lookup_eq_some_iff request.payload.nodup).mpr hp
  have hself : p.2.pyEq p.2 = true :=
    Json.pyEq_refl (request.payload.wf_of_lookup hv) ((Json.every_obj.mp htext).2 p hp)
  rw [argumentIs, lookup_actionablePayload triggered hv]
  cases overwritten request triggered p.1 with
  | none => simp [hself]
  | some w => simp

/-! ## 2. AXG, as the gateway reaches it -/

namespace Gateway

open Interceptor (Parts Approved Decided Replies orEmpty buildDecisionRequest decisionsPath
  governToolsCall govern_request_iff forwardedParams forwardedMeta)

/-- AXG, as the owner of the gateway's key reaches it.  The gateway sends no signed context. -/
structure Decider where
  deployed : Deployment
  caller : Caller
  now : Clock
  loaded : Except Text Plugin
  context : CallContext
  retryAfter : Option Nat
  readRequest : Dict Json → Option DecisionRequest
  compact : Token → Text
  render : Json → Option Bytes

/-- `POST /v1/decisions`.  Every status that is an error is a `URLError` of the caller. -/
def Decider.decides (d : Decider) (text : Str) : UrlExchange :=
  match loads text with
  | .ok (.obj members) =>
    match d.readRequest members with
    | none => .failed
    | some request =>
      if d.caller.mayActFor request.appId = false ∨ d.retryAfter.isSome then .failed
      else
        match createDecision d.deployed request d.caller d.now d.loaded [] d.context with
        | .error _ => .failed
        | .ok (response, _) =>
          match d.render (.obj (response.dump d.compact)) with
          | some bytes => .read bytes
          | none => .failed
  | _ => .failed

/-- What the framework does: a request has the fields that were sent, and a response that is
rendered reads back. -/
structure Decider.Lawful (d : Decider) : Prop where
  reads : ∀ members request, d.readRequest members = some request →
    members.lookup (lit "tenant_id") = some (.str request.tenantId) ∧
    members.lookup (lit "app_id") = some (.str request.appId) ∧
    members.lookup (lit "action_type") = some (.str request.actionType) ∧
    members.lookup (lit "payload") = some request.payload.json
  renders : ∀ v bytes, d.render v = some bytes → loadsReply bytes = .ok v

/-- The policy has loaded, and these of its rules trigger. -/
def Decider.Triggers (d : Decider) (request : DecisionRequest) (triggered : List PolicyRule) :
    Prop :=
  ∃ plugin verified, d.loaded = .ok plugin ∧
    verifiedContext d.deployed request [] = .ok verified ∧
    evaluateRules d.deployed.py (ruleData request verified) plugin.rules = .ok triggered

/-- AXG's decision on a call: the request that the gateway builds is sent and read, and the
engine decides it and makes its record. -/
structure Asked (d : Decider) (env : Interceptor.Env) (py : Interpreter) (body claims : Dict Json)
    (source uuid : Str) (request : DecisionRequest) (response : DecisionResponse) : Prop where
  sent : ∃ members, buildDecisionRequest env py body claims source uuid = .ok members ∧
    d.readRequest (Json.rejoinObj members) = some request
  decided : ∃ record, createDecision d.deployed request d.caller d.now d.loaded [] d.context =
    .ok (response, record)

/-! ## 3. Messages -/

/-- What is read of a message that is sent. -/
def received (message : Dict Json) : JsonObject :=
  ⟨Json.rejoinObj message, Json.rejoin_wf (.obj message)⟩

/-- `o[key]`, where it is an object. -/
def objectAt (o : JsonObject) (key : Str) : Option JsonObject := (o.find key).bind asObject

/-- `params.get("name", "")` -/
def calledTool (params : JsonObject) : Str :=
  match params.members.lookup (lit "name") with
  | some (.str name) => name
  | _ => []

/-- The call, as the tool verifies it. -/
def toolCall (params : JsonObject) (appId tenantId : Str) (key : Kid) : McpToolCall where
  requestMeta := objectAt params (lit "_meta")
  toolName := calledTool params
  arguments := (objectAt params (lit "arguments")).getD .empty
  appId := appId
  tenantId := some tenantId
  keySource := .publicKey key

/-- The message passes `_arguments_authorized` and `verify_mcp_tool_call`. -/
def PassesBoth (sha : Sha256) (parse : Str → Token) (message : JsonObject) (appId tenantId : Str)
    (key : Kid) (now : Clock) : Prop :=
  ∃ params authorized claims, objectAt message (lit "params") = some params ∧
    ((toolCall params appId tenantId key).metaGet payloadMetaKey).bind asObject = some authorized ∧
    Interceptor.argumentsAuthorized (toolCall params appId tenantId key).arguments.members
      authorized.members = true ∧
    (verifyMcpToolCall sha parse (toolCall params appId tenantId key) none now now).1 = .ok claims

/-- The parameters of a call that is sent with a Passport and a payload, by the gateway after
`ALLOW` or by the host with an approved ticket: two senders, and one message for the checks. -/
structure Delivers (params sent metadata : Dict Json) (passport : Text) (payload : JsonObject) :
    Prop where
  name : sent.lookup (lit "name") = params.lookup (lit "name")
  arguments : SendsArguments params sent
  readsMetadata : sent.lookup (lit "_meta") = some (.obj metadata)
  passport : metadata.lookup passportMetaKey = some (.str passport)
  payload : metadata.lookup payloadMetaKey = some payload.json

/-- The text of a token is one that the library reads back. -/
structure Written (parse : Str → Token) (text : Text) (token : Token) : Prop where
  nonempty : text.str ≠ []
  parses : parse text = token

/-- How a call comes to be sent with a Passport of AXG's: the gateway forwards it after the
decision, or its ticket is approved with the payload that was returned, and it is sent again. -/
inductive Leave (d : Decider) (parse : Str → Token) (env : Interceptor.Env) (py : Interpreter)
    (exchange : UrlOpen) (body : JsonObject) (claims : Dict Json) (source uuid : Str)
    (protocolVersion : Option Str) : DecisionRequest → Dict Json → Clock → Prop
  | allowed {params metadata out : Dict Json} {request : DecisionRequest}
      {response : DecisionResponse} {token : Token} (hparts : Parts body.members params metadata)
      (hno : (metadata.lookup passportMetaKey).any Json.truthy = false)
      (hasked : Asked d env py body.members claims source uuid request response)
      (hpassport : response.passport = some token)
      (hwritten : Written parse (d.compact token) token)
      (hforward : governToolsCall env py exchange body.members claims source uuid protocolVersion =
        .ok (.request out)) :
      Leave d parse env py exchange body claims source uuid protocolVersion request out d.now
  | approved {params sent metadata : Dict Json} {again : JsonObject} {request : DecisionRequest}
      {response : DecisionResponse} {challenge : ApprovalChallenge} {approver : ApproverIdentity}
      {submitter : Caller} {loaded : Option Plugin} {checked later : Clock} {context : CallContext}
      {answer : ApprovalResponse} {record : ApprovalRecord} {token : Token}
      (hparams : orEmpty (body.members.lookup (lit "params")) = .obj params)
      (hasked : Asked d env py body.members claims source uuid request response)
      (hticket : response.approval = some challenge)
      (hsubmit : submit d.deployed.sha d.deployed.keys
        ⟨challenge.ticket, response.actionablePayload, approver, .approve⟩ submitter loaded checked
        later context = .ok (answer, record))
      (hpassport : answer.passport = some token) (hwritten : Written parse (d.compact token) token)
      (hagain : again.members.lookup (lit "params") = some (.obj sent))
      (hdelivers : Delivers params sent metadata (d.compact token) response.actionablePayload) :
      Leave d parse env py exchange body claims source uuid protocolVersion request again.members
        later

/-! ## 4. What AXG signs for a call -/

section Signed

variable {d : Decider} {env : Interceptor.Env} {py : Interpreter} {body claims : Dict Json}
  {source uuid : Str} {request : DecisionRequest} {response : DecisionResponse}

/-- What AXG reads of the call. -/
structure ReadsCall (env : Interceptor.Env) (params : Dict Json) (request : DecisionRequest) :
    Prop where
  app : request.appId.str = joinSurrogates env.appId
  action : ((params.lookup (lit "name")).getD (.str [])).rejoin = .str request.actionType
  payload : (orEmpty (params.lookup (lit "arguments"))).rejoin = request.payload.json

theorem Asked.readsCall {params : Dict Json} (hlawful : d.Lawful)
    (h : Asked d env py body claims source uuid request response)
    (hparams : orEmpty (body.lookup (lit "params")) = .obj params) :
    ReadsCall env params request := by
  obtain ⟨members, hbuilds, hread⟩ := h.sent
  obtain ⟨-, happ, haction, hpayload⟩ := hlawful.reads _ _ hread
  obtain ⟨hkeys, hsentApp, hname, harguments⟩ := buildDecisionRequest_reads hbuilds hparams
  have hsent : ∀ {k v w}, IsPlain k → members.lookup k = some v →
      (Json.rejoinObj members).lookup k = some w → v.rejoin = w := by
    intro k v w hk hv hw
    rw [Json.lookup_rejoin hk hkeys, hv] at hw
    exact Option.some.inj hw
  have happ' : (Json.str env.appId).rejoin = .str request.appId := hsent (by decide) hsentApp happ
  exact ⟨(Json.str.inj happ').symm, hsent (by decide) hname haction,
    hsent (by decide) harguments hpayload⟩

/-- A decision with a Passport or a ticket is made by a policy. -/
theorem Asked.evaluated (h : Asked d env py body claims source uuid request response)
    (hissued : response.passport.isSome = true ∨ response.approval.isSome = true) :
    ∃ plugin verified triggered gated, d.loaded = .ok plugin ∧
      verifiedContext d.deployed request [] = .ok verified ∧
      Evaluated request d.deployed.py d.deployed.sha d.deployed.keys d.caller d.now d.context.uuid
        plugin verified triggered gated response := by
  obtain ⟨record, hcreate⟩ := h.decided
  obtain ⟨hdecide, -⟩ := createDecision_eq_ok hcreate
  obtain ⟨message, -, hr, -⟩ | ⟨plugin, verified, triggered, gated, hloaded, hverified, he⟩ :=
    decide_eq_ok.mp hdecide
  · rw [hr] at hissued
    rcases hissued with hissued | hissued <;> cases hissued
  · exact ⟨plugin, verified, triggered, gated, hloaded, hverified, he⟩

theorem Asked.isText (h : Asked d env py body claims source uuid request response) :
    request.payload.json.isText = true := by
  obtain ⟨record, hcreate⟩ := h.decided
  obtain ⟨-, hrecord⟩ := createDecision_eq_ok hcreate
  exact (getExecutionRecord_isOk_iff.mp ⟨record, hrecord⟩).1

/-- The token is a Passport that AXG signed for the request and the rules that triggered. -/
structure Issued (d : Decider) (request : DecisionRequest) (response : DecisionResponse)
    (triggered : List PolicyRule) (signedAt : Clock) (token : Token) : Prop where
  triggers : d.Triggers request triggered
  payload : response.actionablePayload = actionablePayload request triggered
  signed : ∃ uuid grant jti,
    signDecision d.deployed.sha d.deployed.keys signedAt uuid grant = .ok (token, jti) ∧
    grant.appId = request.appId ∧ grant.tenantId = request.tenantId ∧
    grant.actionType = request.actionType ∧
    grant.actionablePayload = response.actionablePayload

theorem Asked.issued (h : Asked d env py body claims source uuid request response) {token : Token}
    (hpassport : response.passport = some token) :
    ∃ triggered, Issued d request response triggered d.now token := by
  obtain ⟨plugin, verified, triggered, gated, hloaded, hverified, he⟩ :=
    h.evaluated (.inl (Option.isSome_iff_exists.mpr ⟨token, hpassport⟩))
  have hpayload : response.actionablePayload = actionablePayload request triggered := by
    rw [he.eq]
    rfl
  obtain ⟨record, hcreate⟩ := h.decided
  obtain ⟨hdecide, -⟩ := createDecision_eq_ok hcreate
  obtain ⟨plugin', triggered', jti, -, -, -, hpayload', hsign⟩ := decide_passport hdecide hpassport
  exact ⟨triggered, ⟨plugin, verified, hloaded, hverified, he.rules⟩, hpayload, _, _, jti, hsign,
    rfl, rfl, rfl, hpayload'.symm⟩

/-- The approval of a ticket signs a Passport for the decision that the ticket is about. -/
theorem Asked.issued_approval (h : Asked d env py body claims source uuid request response)
    {challenge : ApprovalChallenge} (hticket : response.approval = some challenge)
    {approver : ApproverIdentity} {submitter : Caller} {loaded : Option Plugin}
    {checked later : Clock} {context : CallContext} {answer : ApprovalResponse}
    {record : ApprovalRecord} {token : Token}
    (hsubmit : submit d.deployed.sha d.deployed.keys
      ⟨challenge.ticket, response.actionablePayload, approver, .approve⟩ submitter loaded checked
      later context = .ok (answer, record)) (hpassport : answer.passport = some token) :
    ∃ triggered, Issued d request response triggered later token := by
  obtain ⟨plugin, verified, triggered, gated, hloaded, hverified, he⟩ :=
    h.evaluated (.inr (Option.isSome_iff_exists.mpr ⟨challenge, hticket⟩))
  have hpayload : response.actionablePayload = actionablePayload request triggered := by
    rw [he.eq]
    rfl
  obtain ⟨hash, key, hd, hhash, -, hchallenge⟩ :=
    signApprovalTicket_eq_ok (he.signed_ticket hticket)
  obtain ⟨-, ticket, token', jti, htoken, hadmitted, hsign⟩ := submit_passport rfl hsubmit
  cases hpassport.symm.trans htoken
  have hverify := hadmitted.verified
  simp only [hchallenge] at hverify
  obtain ⟨rfl, -, -, -⟩ := (verifyApprovalTicket_dump (isScalar_hashPayload hhash) rfl).mp hverify
  exact ⟨triggered, ⟨plugin, verified, hloaded, hverified, he.rules⟩, hpayload, _, _, jti, hsign,
    rfl, rfl, rfl, rfl⟩

theorem Decider.Triggers.unique {triggered triggered' : List PolicyRule}
    (h : d.Triggers request triggered) (h' : d.Triggers request triggered') :
    triggered = triggered' := by
  obtain ⟨plugin, verified, hloaded, hverified, hrules⟩ := h
  obtain ⟨plugin', verified', hloaded', hverified', hrules'⟩ := h'
  cases hloaded.symm.trans hloaded'
  cases hverified.symm.trans hverified'
  exact Except.ok.inj (hrules.symm.trans hrules')

/-- What has a Passport is text. -/
theorem Issued.isText {triggered : List PolicyRule} {signedAt : Clock} {token : Token}
    (h : Issued d request response triggered signedAt token) :
    response.actionablePayload.json.isText = true := by
  obtain ⟨uuid, grant, jti, hsign, -, -, -, hpayload⟩ := h.signed
  obtain ⟨hash, -, hhash, -⟩ := signDecision_eq_ok hsign
  rw [← hpayload]
  exact (canonicalHash_isOk_iff.mp ⟨hash, hhash⟩).1

/-- While it lasts, the Passport verifies for the app under a name that is not empty, if the keys
belong together. -/
theorem Issued.verifies_iff {triggered : List PolicyRule} {signedAt now : Clock} {token : Token}
    (h : Issued d request response triggered signedAt token) (hbegun : signedAt ≤ now)
    (hexp : Clock.seconds now < Clock.seconds signedAt + 300) {verify : VerifyCall}
    (htoken : verify.token = token) (hpayload : verify.payload = response.actionablePayload)
    (htenant : verify.tenantId = some request.tenantId.str)
    (haction : verify.allowedActionTypes = some [request.actionType.str])
    (hkey : verify.keySource = .publicKey d.deployed.keys.publicKey) :
    (∃ claims, (verifyPassport d.deployed.sha verify none now now).1 = .ok claims) ↔
      request.appId.str ≠ [] ∧ request.appId.str = verify.appId ∧
        d.deployed.keys.privateKey = some d.deployed.keys.publicKey := by
  obtain ⟨uuid, grant, jti, hsign, happ, hgtenant, hgaction, hgpayload⟩ := h.signed
  obtain ⟨hash, key, hhash, -, hprivate, -, rfl⟩ := signDecision_eq_ok hsign
  have hverify : ∀ claims, (verifyPassport d.deployed.sha verify none now now).1 = .ok claims ↔
      decodeStep d.deployed.sha verify now = .ok claims := by
    intro claims
    unfold verifyPassport
    cases decodeStep d.deployed.sha verify now <;> rfl
  have hsigning : verify.keySource.signingKey verify.token = some d.deployed.keys.publicKey := by
    rw [hkey]
    rfl
  obtain ⟨hbegun', hexp'⟩ := Clock.reached_of_fresh hbegun hexp
  simp only [hverify]
  constructor
  · rintro ⟨claims, hclaims⟩
    obtain ⟨-, hsigner, -, -, hne, haud, -⟩ := (decodeStep_issued rfl htoken).mp hclaims
    rw [hsigning] at hsigner
    exact ⟨happ ▸ hne, happ ▸ haud, hprivate.trans hsigner.symm⟩
  · rintro ⟨hne, haud, hpaired⟩
    refine ⟨_, (decodeStep_issued rfl htoken).mpr ⟨rfl, ?_, hbegun', hexp', ?_, ?_, ?_, ?_, ?_⟩⟩
    · exact hsigning.trans (hpaired.symm.trans hprivate)
    · exact (congrArg Text.str happ).trans_ne hne
    · exact (congrArg Text.str happ).trans haud
    · intro t ht _
      rw [htenant] at ht
      exact (congrArg Text.str hgtenant).trans (Option.some.inj ht)
    · intro as has _
      rw [haction] at has
      cases has
      exact List.mem_singleton.mpr (congrArg Text.str hgaction)
    · rw [hpayload, ← hgpayload]
      exact hhash

end Signed

/-! ## 5. What the tool reads -/

section Delivered

variable {params sent metadata out : Dict Json} {passport : Text} {payload : JsonObject}

theorem objectAt_eq_some_iff {o p : JsonObject} {key : Str} :
    objectAt o key = some p ↔ o.members.lookup key = some p.json := by
  constructor
  · intro h
    obtain ⟨v, hv, hp⟩ := Option.bind_eq_some_iff.mp h
    rw [find_eq_some_iff.mp hv, asObject_eq_some_iff.mp hp]
  · intro h
    have hfind : o.find key = some ⟨p.json, p.wf⟩ := find_eq_some_iff.mpr h
    have hobject : asObject ⟨p.json, p.wf⟩ = some p := asObject_eq_some_iff.mpr rfl
    rw [objectAt, hfind]
    exact hobject

theorem orEmpty_obj (members : Dict Json) : orEmpty (some (.obj members)) = .obj members := by
  cases members <;> rfl

/-- Arguments that are no object are none. -/
theorem members_objectAt {o : JsonObject} {key : Str} {members : Dict Json}
    (h : orEmpty (o.members.lookup key) = .obj members) :
    ((objectAt o key).getD .empty).members = members := by
  cases hobject : objectAt o key with
  | some p =>
    rw [objectAt_eq_some_iff.mp hobject, JsonObject.json, orEmpty_obj] at h
    exact Json.obj.inj h
  | none =>
    have hno : ∀ inner, o.members.lookup key ≠ some (.obj inner) := by
      intro inner hinner
      have hsome : objectAt o key = some ⟨inner, o.wf_of_lookup hinner⟩ :=
        objectAt_eq_some_iff.mpr hinner
      rw [hsome] at hobject
      cases hobject
    unfold orEmpty at h
    cases hv : (o.members.lookup key).filter Json.truthy with
    | none =>
      rw [hv] at h
      exact Json.obj.inj h
    | some v =>
      rw [hv, Option.getD_some] at h
      subst h
      exact absurd (Option.filter_eq_some_iff.mp hv).1 (hno members)

/-- Every argument of a message, apart from `axg`, is in the payload. -/
def ArgumentsIn (arguments : Dict Json) (payload : JsonObject) : Prop :=
  ∀ p ∈ arguments, p.1 ≠ axgArgument → argumentIs payload p = true

theorem argumentsAuthorized_iff {arguments : Dict Json} :
    Interceptor.argumentsAuthorized arguments payload.members = true ↔
      ArgumentsIn arguments payload := by
  have hone : ∀ p : Str × Json, ((payload.members.lookup p.1).any fun v => v.pyEq p.2) =
      argumentIs payload p := by
    intro p
    unfold argumentIs
    cases payload.members.lookup p.1 <;> rfl
  simp only [Interceptor.argumentsAuthorized, List.all_eq_true, Bool.or_eq_true,
    decide_eq_true_eq, hone, ArgumentsIn, or_iff_not_imp_left, ne_eq]

theorem argumentsIn_axg_iff {arguments : JsonObject} :
    argumentsIn [axgArgument] arguments payload = true ↔
      ArgumentsIn arguments.members payload := by
  simp only [argumentsIn_iff, List.mem_singleton, ArgumentsIn, ne_eq]

/-- The same arguments are in the same payloads. -/
theorem argumentsIn_congr {arguments arguments' : JsonObject}
    (h : KeepsArguments arguments.json arguments'.json) :
    ArgumentsIn arguments.members payload ↔ ArgumentsIn arguments'.members payload := by
  have hlookup : ∀ k, k ≠ axgArgument →
      arguments.members.lookup k = arguments'.members.lookup k := by
    rcases h with h | ⟨p, q, hp, hq, h⟩
    · rw [Json.obj.inj h]
      exact fun _ _ => rfl
    · cases hp
      cases hq
      exact h
  have hmem : ∀ p : Str × Json, p.1 ≠ axgArgument →
      (p ∈ arguments.members ↔ p ∈ arguments'.members) := by
    intro p hp
    rw [← Dict.lookup_eq_some_iff arguments.nodup, ← Dict.lookup_eq_some_iff arguments'.nodup,
      hlookup p.1 hp]
  constructor
  · intro hall p hp hne
    exact hall p ((hmem p hne).mpr hp) hne
  · intro hall p hp hne
    exact hall p ((hmem p hne).mp hp) hne

/-- A message of the call that AXG has read, as the tool reads it. -/
structure Arrives (message params metadata : JsonObject) (request : DecisionRequest)
    (passport : Text) (payload : JsonObject) : Prop where
  readsParams : message.members.lookup (lit "params") = some params.json
  name : calledTool params = request.actionType.str
  arguments : KeepsArguments request.payload.json
    (orEmpty (params.members.lookup (lit "arguments")))
  readsMetadata : params.members.lookup (lit "_meta") = some metadata.json
  passport : metadata.members.lookup passportMetaKey = some (.str passport)
  payload : metadata.members.lookup payloadMetaKey = some payload.json

/-- What is sent arrives. -/
theorem Delivers.arrives {env : Interceptor.Env} {request : DecisionRequest}
    (h : Delivers params sent metadata passport payload) (hread : ReadsCall env params request)
    (htext : payload.json.isText = true) (hout : (Dict.keys out).Nodup)
    (hsent : (Dict.keys sent).Nodup) (hmeta : (Dict.keys metadata).Nodup)
    (hparams : out.lookup (lit "params") = some (.obj sent)) :
    Arrives (received out) (received sent) (received metadata) request passport payload := by
  refine ⟨?_, ?_, ?_, ?_, ?_, ?_⟩
  · change (Json.rejoinObj out).lookup _ = _
    rw [Json.lookup_rejoin (by decide) hout, hparams]
    rfl
  · have hname : (received sent).members.lookup (lit "name") =
        (params.lookup (lit "name")).map Json.rejoin := by
      rw [← h.name]
      exact Json.lookup_rejoin (by decide) hsent
    have haction := hread.action
    rw [calledTool, hname]
    cases hv : params.lookup (lit "name") with
    | some v =>
      rw [hv, Option.getD_some] at haction
      rw [Option.map_some, haction]
    | none =>
      rw [hv] at haction
      exact Json.str.inj haction
  · rw [← hread.payload]
    exact keepsArguments_rejoin hsent h.arguments
  · change (Json.rejoinObj sent).lookup _ = _
    rw [Json.lookup_rejoin (by decide) hsent, h.readsMetadata]
    rfl
  · change (Json.rejoinObj metadata).lookup _ = _
    rw [Json.lookup_rejoin (by decide) hmeta, h.passport, Option.map_some]
    exact congrArg (fun s => some (Json.str s)) (joinSurrogates_of_isScalar passport.isScalar)
  · change (Json.rejoinObj metadata).lookup _ = _
    rw [Json.lookup_rejoin (by decide) hmeta, h.payload, Option.map_some]
    exact congrArg some (Json.rejoin_of_isText payload.wf htext)

/-- What is the same as an object is read as one. -/
theorem KeepsArguments.exists_obj {o : JsonObject} {v : Json} (h : KeepsArguments o.json v) :
    ∃ members, v = .obj members := by
  rcases h with h | ⟨p, q, -, hq, -⟩
  · exact ⟨o.members, h.symm⟩
  · exact ⟨q, hq⟩

/-- A message that arrives passes both checks exactly when its Passport is verified and the
arguments are in the payload. -/
theorem Arrives.passesBoth_iff {message params metadata : JsonObject} {request : DecisionRequest}
    (h : Arrives message params metadata request passport payload) {sha : Sha256}
    {parse : Str → Token} {token : Token} (hwritten : Written parse passport token) {appId : Str}
    {key : Kid} {now : Clock} :
    PassesBoth sha parse message appId request.tenantId key now ↔
      (∃ claims, (verifyPassport sha ⟨token, payload, appId, some request.tenantId.str,
          some [request.actionType.str], .publicKey key⟩ none now now).1 = .ok claims) ∧
        ArgumentsIn request.payload.members payload := by
  obtain ⟨arguments, harguments⟩ := h.arguments.exists_obj
  have hread : (toolCall params appId request.tenantId key).arguments.json = .obj arguments :=
    congrArg Json.obj (members_objectAt harguments)
  -- Cedar's verdict in `axg` is the one difference between the arguments sent and received
  have hsame : ArgumentsIn request.payload.members payload ↔
      ArgumentsIn (toolCall params appId request.tenantId key).arguments.members payload := by
    refine argumentsIn_congr ?_
    rw [hread, ← harguments]
    exact h.arguments
  have hmeta : (toolCall params appId request.tenantId key).requestMeta = some metadata :=
    objectAt_eq_some_iff.mpr h.readsMetadata
  have hcarries : (toolCall params appId request.tenantId key).Carries parse token payload :=
    ⟨⟨metadata, passport.str, hmeta, h.passport, hwritten.nonempty, hwritten.parses⟩,
      metadata, hmeta, h.payload⟩
  have hauthorized : ((toolCall params appId request.tenantId key).metaGet payloadMetaKey).bind
      asObject = some payload := by
    have hpayload : objectAt metadata payloadMetaKey = some payload :=
      objectAt_eq_some_iff.mpr h.payload
    rw [McpToolCall.metaGet, hmeta]
    exact hpayload
  have hverify : (toolCall params appId request.tenantId key).verifyCall token payload =
      ⟨token, payload, appId, some request.tenantId.str, some [request.actionType.str],
        .publicKey key⟩ := by
    rw [McpToolCall.verifyCall, ← h.name]
    rfl
  rw [hsame, ← hverify]
  constructor
  · rintro ⟨params', authorized, claims, hparams, -, -, hclaims⟩
    cases (objectAt_eq_some_iff.mpr h.readsParams).symm.trans hparams
    obtain ⟨hclaims, hin⟩ := (verifyMcpToolCall_eq_ok_iff hcarries).mp hclaims
    exact ⟨⟨claims, hclaims⟩, argumentsIn_axg_iff.mp hin⟩
  · rintro ⟨⟨claims, hclaims⟩, hin⟩
    exact ⟨params, payload, claims, objectAt_eq_some_iff.mpr h.readsParams, hauthorized,
      argumentsAuthorized_iff.mpr hin,
      (verifyMcpToolCall_eq_ok_iff hcarries).mpr ⟨hclaims, argumentsIn_axg_iff.mpr hin⟩⟩

end Delivered

/-! ## 6. What leaves -/

section Leaving

variable {d : Decider} {parse : Str → Token} {env : Interceptor.Env} {py : Interpreter}
  {exchange : UrlOpen} {body : JsonObject} {claims : Dict Json} {source uuid : Str}
  {protocolVersion : Option Str} {params metadata out : Dict Json} {request : DecisionRequest}
  {response : DecisionResponse} {token : Token}

theorem forwardedParams_meta {decision scores sent : Dict Json}
    (h : forwardedParams env py params metadata decision scores = .ok sent) :
    sent.lookup (lit "_meta") = some (.obj (forwardedMeta metadata decision scores)) := by
  unfold forwardedParams at h
  split at h
  · obtain ⟨arguments, -, h⟩ := bind_eq_ok h
    cases h
    rw [Dict.lookup_set, if_neg (by decide), Dict.lookup_set, if_pos rfl]
  · cases h
    rw [Dict.lookup_set, if_pos rfl]

/-- AXG replies with the decision that it made. -/
theorem Asked.replies (hlawful : d.Lawful)
    (hserves : ∀ text, exchange decisionsPath text = d.decides text)
    (h : Asked d env py body.members claims source uuid request response) {sent : Dict Json}
    (hbuilds : buildDecisionRequest env py body.members claims source uuid = .ok sent)
    {reply : Json} (hreply : Replies exchange decisionsPath sent reply) :
    reply = .obj (response.dump d.compact) := by
  obtain ⟨members, hbuilds', hread⟩ := h.sent
  cases hbuilds.symm.trans hbuilds'
  obtain ⟨record, hcreate⟩ := h.decided
  obtain ⟨text, bytes, htext, hexchange, hloads⟩ := hreply
  have hmembers : loads text = .ok (.obj (Json.rejoinObj sent)) := loads_dumpsAscii padSpace htext
  rw [hserves, Decider.decides, hmembers] at hexchange
  simp only [hread, hcreate] at hexchange
  split at hexchange
  · cases hexchange
  split at hexchange
  · rename_i bytes' hrender
    cases hexchange
    exact Except.ok.inj (hloads.symm.trans (hlawful.renders _ _ hrender))
  · cases hexchange

/-- A call that AXG allows is forwarded with the Passport and the payload of the decision. -/
theorem forwarded_delivers (hpassport : response.passport = some token) {scores sent : Dict Json}
    (hwf : (Json.obj params).Wf)
    (hsent : forwardedParams env py params metadata (response.dump d.compact) scores = .ok sent) :
    Delivers params sent (forwardedMeta metadata (response.dump d.compact) scores) (d.compact token)
      response.actionablePayload := by
  obtain ⟨-, hname, harguments⟩ := forwardedParams_reads hwf hsent
  have htoken : (response.dump d.compact).lookup (lit "passport") =
      some (.str (d.compact token)) := by
    change some (optionalText (response.passport.map d.compact)) = _
    rw [hpassport]
    rfl
  have hpayload : (response.dump d.compact).lookup (lit "actionable_payload") =
      some response.actionablePayload.json := rfl
  refine ⟨hname, harguments, forwardedParams_meta hsent, ?_, ?_⟩
  · rw [forwardedMeta, Dict.lookup_set, if_neg (by decide), Dict.lookup_set, if_neg (by decide),
      Dict.lookup_set, if_pos rfl, htoken]
    rfl
  · rw [forwardedMeta, Dict.lookup_set, if_neg (by decide), Dict.lookup_set, if_pos rfl, hpayload]
    exact congrArg some (orEmpty_obj _)

/-- What leaves arrives, with a Passport that AXG signed for it. -/
theorem Leave.arrives (hlawful : d.Lawful)
    (hserves : ∀ text, exchange decisionsPath text = d.decides text) {signedAt : Clock}
    (h : Leave d parse env py exchange body claims source uuid protocolVersion request out
      signedAt) :
    ∃ response triggered token params metadata,
      Issued d request response triggered signedAt token ∧
      request.appId.str = joinSurrogates env.appId ∧ request.payload.json.isText = true ∧
      Written parse (d.compact token) token ∧
      Arrives (received out) params metadata request (d.compact token)
        response.actionablePayload := by
  cases h with
  | allowed hparts hno hasked hpassport hwritten hforward =>
    obtain ⟨triggered, hissued⟩ := hasked.issued hpassport
    have hread := hasked.readsCall hlawful hparts.readsParams
    have hparams := wf_orEmpty body.wf hparts.readsParams
    have hmetadata := (Json.wf_obj.mp (wf_orEmpty hparams hparts.readsMetadata)).1
    rcases govern_request_iff.mp hforward with ⟨params', metadata', passport, authorized, arguments,
      ha, -⟩ | ⟨params', metadata', members, decision, scores, sent, hd, hsent, rfl⟩
    · -- the call carries no Passport
      obtain ⟨rfl, rfl⟩ := hparts.unique ha.parts
      rw [ha.carries, Option.any_some, ha.truthy] at hno
      cases hno
    · obtain ⟨rfl, rfl⟩ := hparts.unique hd.parts
      cases hasked.replies hlawful hserves hd.builds hd.reply
      obtain ⟨hnodup, -, -⟩ := forwardedParams_reads hparams hsent
      have harrives := (forwarded_delivers hpassport hparams hsent).arrives hread hissued.isText
        (Dict.nodup_set (lit "params") (.obj sent) body.nodup) hnodup
        (Dict.nodup_set _ _ (Dict.nodup_set _ _ (Dict.nodup_set _ _ hmetadata)))
        (by rw [Dict.lookup_set, if_pos rfl])
      exact ⟨_, triggered, _, _, _, hissued, hread.app, hasked.isText, hwritten,
        harrives⟩
  | approved hparams hasked hticket hsubmit hpassport hwritten hagain hdelivers =>
    obtain ⟨triggered, hissued⟩ := hasked.issued_approval hticket hsubmit hpassport
    have hread := hasked.readsCall hlawful hparams
    have hsent := JsonObject.wf_of_lookup hagain
    have hmetadata := (Json.wf_obj.mp hsent).2 _ (Dict.lookup_mem hdelivers.readsMetadata)
    exact ⟨_, triggered, _, _, _, hissued, hread.app, hasked.isText, hwritten,
      hdelivers.arrives hread hissued.isText (JsonObject.nodup _) (Json.wf_obj.mp hsent).1
        (Json.wf_obj.mp hmetadata).1 hagain⟩

end Leaving

/-- What leaves passes both checks exactly when nothing that a rule or the engine writes differs
from an argument of the same name, the gateway has an app id, and AXG signs with the key that it
publishes.

The payload starts as a copy of the arguments, and both checks compare each argument with its
member in the payload; so a field that is added does no harm, and one that is overwritten does. -/
theorem leave_passes_iff (d : Decider) (hlawful : d.Lawful) (exchange : UrlOpen)
    (hserves : ∀ text, exchange decisionsPath text = d.decides text) (parse : Str → Token)
    (env : Interceptor.Env) (py : Interpreter) (body : JsonObject) (claims : Dict Json)
    (source uuid : Str) (protocolVersion : Option Str) (request : DecisionRequest) (out : Dict Json)
    (signedAt now : Clock)
    (hleave : Leave d parse env py exchange body claims source uuid protocolVersion request out
      signedAt)
    (hbegun : signedAt ≤ now) (hexp : Clock.seconds now < Clock.seconds signedAt + 300) :
    PassesBoth d.deployed.sha parse (received out) env.appId request.tenantId
        d.deployed.keys.publicKey now ↔
      (∀ triggered, d.Triggers request triggered → Kept request triggered) ∧
        IsScalar env.appId ∧ env.appId ≠ [] ∧
        d.deployed.keys.privateKey = some d.deployed.keys.publicKey := by
  obtain ⟨response, triggered, token, params, metadata, hissued, happ, htext, hwritten, harrives⟩ :=
    hleave.arrives hlawful hserves
  have hkept : ArgumentsIn request.payload.members response.actionablePayload ↔
      ∀ triggered, d.Triggers request triggered → Kept request triggered := by
    rw [ArgumentsIn, hissued.payload, argumentIs_payload_iff htext]
    constructor
    · intro h triggered' htriggers
      rw [← hissued.triggers.unique htriggers]
      exact h
    · intro h
      exact h triggered hissued.triggers
  -- AXG has read the app id as JSON: the tool compares with the setting itself
  have hname : request.appId.str ≠ [] ∧ request.appId.str = env.appId ↔
      IsScalar env.appId ∧ env.appId ≠ [] := by
    constructor
    · rintro ⟨hne, heq⟩
      rw [← heq]
      exact ⟨request.appId.isScalar, hne⟩
    · rintro ⟨hscalar, hne⟩
      rw [happ, joinSurrogates_of_isScalar hscalar]
      exact ⟨hne, rfl⟩
  rw [harrives.passesBoth_iff hwritten, hissued.verifies_iff hbegun hexp rfl rfl rfl rfl rfl, hkept]
  constructor
  · rintro ⟨⟨hne, haud, hpaired⟩, hkept⟩
    obtain ⟨hscalar, hne⟩ := hname.mp ⟨hne, haud⟩
    exact ⟨hkept, hscalar, hne, hpaired⟩
  · rintro ⟨hkept, hscalar, hne, hpaired⟩
    obtain ⟨hne, haud⟩ := hname.mpr ⟨hscalar, hne⟩
    exact ⟨⟨hne, haud, hpaired⟩, hkept⟩

/-! ## 7. A category that is proposed -/

/-- `{"flow": "mcp_gateway:tools/call"}` -/
def gatewayFlow : JsonObject := ⟨[strClaim "flow" (lit "mcp_gateway:tools/call")], rfl⟩

/-- A framework that reads what the gateway sends of a payment, for an agent without claims. -/
def readPayment (members : Dict Json) : Option DecisionRequest := do
  let executionId ← textField members "execution_id"
  let tenantId ← textField members "tenant_id"
  let appId ← textField members "app_id"
  let pluginId ← textField members "plugin_id"
  let source ← textField members "source"
  let actionType ← textField members "action_type"
  match members.lookup (lit "payload") with
  | some (.obj payload) =>
    if h : (Json.obj payload).Wf then
      return { payRequest with
        executionId := executionId
        tenantId := tenantId
        appId := appId
        pluginId := pluginId
        agent := some ⟨.lit "unknown-agent", .lit "agent", []⟩
        source := source
        actionType := actionType
        payload := ⟨payload, h⟩
        llm := ⟨none, Interceptor.certain, .empty⟩
        metadata := gatewayFlow }
    else none
  | _ => none

/-- AXG with the policy of payments. -/
def payAxg : Decider where
  deployed := plainDeployment
  caller := .trustedLocal
  now := 0
  loaded := .ok payPolicy
  context := plainContext
  retryAfter := none
  readRequest := readPayment
  compact := fun _ => .lit "header.claims.signature"
  render := renderText

theorem payAxg_lawful : payAxg.Lawful where
  reads := by
    intro members request h
    obtain ⟨executionId, -, h⟩ := Option.bind_eq_some_iff.mp h
    obtain ⟨tenantId, htenant, h⟩ := Option.bind_eq_some_iff.mp h
    obtain ⟨appId, happ, h⟩ := Option.bind_eq_some_iff.mp h
    obtain ⟨pluginId, -, h⟩ := Option.bind_eq_some_iff.mp h
    obtain ⟨source, -, h⟩ := Option.bind_eq_some_iff.mp h
    obtain ⟨actionType, haction, h⟩ := Option.bind_eq_some_iff.mp h
    split at h
    · rename_i payload hpayload
      split at h
      · cases h
        exact ⟨textField_eq_some htenant, textField_eq_some happ, textField_eq_some haction,
          hpayload⟩
      · cases h
    · cases h
  renders := renderText_reads_back

/-- The gateway of an app whose policy is `p`. -/
def payEnv : Interceptor.Env := { plainEnv with pluginId := some (lit "p") }

/-- The exchange with AXG. -/
def Decider.exchange (d : Decider) : UrlOpen := fun _ text => d.decides text

/-- `{"proposed_category": "food", "suggested_category": suggested}` -/
def categories (suggested : Text) : JsonObject :=
  ⟨[strClaim "proposed_category" (lit "food"), strClaim "suggested_category" suggested], rfl⟩

/-- The parameters of a call of `pay`. -/
def payParams (suggested : Text) : Dict Json :=
  [strClaim "name" (lit "pay"), (lit "arguments", (categories suggested).json)]

def payCall (suggested : Text) : JsonObject :=
  ⟨[strClaim "method" (lit "tools/call"), (lit "params", .obj (payParams suggested))], rfl⟩

/-- The request that AXG reads of it. -/
def paid (suggested : Text) : DecisionRequest :=
  { payRequest with
    executionId := .lit "mcp_gateway--"
    tenantId := .lit "default"
    agent := some ⟨.lit "unknown-agent", .lit "agent", []⟩
    source := .lit "mcp_gateway"
    payload := categories suggested
    llm := ⟨none, Interceptor.certain, .empty⟩
    metadata := gatewayFlow }

def paidResponse (suggested : Text) : DecisionResponse :=
  respond payPolicy (paid suggested) .trustedLocal plainSha pairedKeys 0 (.lit "j1") .none [] false

/-- What is sent to AXG of the call. -/
def paySent (suggested : Text) : Dict Json :=
  [strClaim "execution_id" (lit "mcp_gateway--"), strClaim "tenant_id" (lit "default"),
    strClaim "app_id" (lit "app"), strClaim "plugin_id" (lit "p"), (lit "user_id", .null),
    (lit "agent", .obj [strClaim "id" (lit "unknown-agent"), strClaim "type" (lit "agent"),
      (lit "permissions", .arr [])]),
    strClaim "source" (lit "mcp_gateway"), strClaim "action_type" (lit "pay"),
    (lit "payload", (categories suggested).json),
    (lit "llm", .obj [(lit "confidence", Interceptor.certain.json)]),
    (lit "metadata", gatewayFlow.json)]

theorem builds_paySent (suggested : Text) :
    buildDecisionRequest payEnv plainInterpreter (payCall suggested).members [] source [] =
      .ok (paySent suggested) := rfl

theorem hashable_categories (suggested : Text) : Hashable (categories suggested).json := by
  refine hashable_obj_iff.mpr
    ⟨fun k hk => @isScalar_keys ["proposed_category", "suggested_category"] k hk, ?_⟩
  simp only [categories, strClaim, List.forall_mem_cons, List.not_mem_nil, false_implies,
    implies_true, and_true]
  exact ⟨hashable_lit _, suggested.hashable⟩

theorem hashable_paySent (suggested : Text) : Hashable (.obj (paySent suggested)) := by
  refine hashable_obj_iff.mpr ⟨fun k hk => @isScalar_keys ["execution_id", "tenant_id", "app_id",
    "plugin_id", "user_id", "agent", "source", "action_type", "payload", "llm", "metadata"] k hk,
    ?_⟩
  simp only [paySent, strClaim, List.forall_mem_cons, List.not_mem_nil, false_implies,
    implies_true, and_true]
  have hagent : Hashable (.obj [(lit "id", .str (lit "unknown-agent")),
      (lit "type", .str (lit "agent")), (lit "permissions", .arr [])]) := by
    constructor <;> decide +kernel
  have hllm : Hashable (.obj [(lit "confidence", Interceptor.certain.json)]) := by
    constructor <;> decide +kernel
  have hmetadata : Hashable gatewayFlow.json := by
    constructor <;> decide +kernel
  exact ⟨hashable_lit _, hashable_lit _, hashable_lit _, hashable_lit _, hashable_null, hagent,
    hashable_lit _, hashable_lit _, hashable_categories suggested, hllm, hmetadata⟩

theorem reads_paySent (suggested : Text) :
    readPayment (Json.rejoinObj (paySent suggested)) = some (paid suggested) := by
  have hwf : (Json.obj (paySent suggested)).Wf := rfl
  have hself : Json.rejoinObj (paySent suggested) = paySent suggested :=
    Json.obj.inj (Json.rejoin_of_isText hwf (hashable_paySent suggested).1)
  rw [hself]
  rfl

theorem createDecision_paid (suggested : Text) : ∃ record,
    createDecision plainDeployment (paid suggested) .trustedLocal 0 (.ok payPolicy) []
      plainContext = .ok (paidResponse suggested, record) := by
  have hlog : (paid suggested).Loggable := by
    constructor
    · intro v hv
      cases hv
      rfl
    · intro v hv
      cases hv
  have hdecide : decide (paid suggested) plainInterpreter plainSha pairedKeys .trustedLocal 0
      (.lit "j1") (.ok payPolicy) (.ok .none) = .ok (paidResponse suggested) :=
    decide_eq_ok.mpr (.inr ⟨_, _, [], false, rfl, rfl, rfl, rfl, rfl, hlog⟩)
  obtain ⟨record, hrecord⟩ := (@getExecutionRecord_isOk_iff plainDeployment (paid suggested)
    (paidResponse suggested) plainContext.createdAt plainContext.traceId).mpr
      (hashable_categories suggested)
  refine ⟨record, ?_⟩
  change (decide (paid suggested) plainInterpreter plainSha pairedKeys .trustedLocal 0 (.lit "j1")
    (.ok payPolicy) (.ok .none) >>= _) = _
  rw [hdecide, ok_bind, hrecord]
  rfl

theorem asked_payCall (suggested : Text) : Asked payAxg payEnv plainInterpreter
    (payCall suggested).members [] source [] (paid suggested) (paidResponse suggested) :=
  ⟨⟨_, builds_paySent suggested, reads_paySent suggested⟩, createDecision_paid suggested⟩

/-- The gateway forwards the call with the Passport of the decision. -/
theorem leave_payCall {suggested : Text}
    (hrender : (renderText (.obj ((paidResponse suggested).dump payAxg.compact))).isSome = true)
    (hpassport : (paidResponse suggested).passport.isSome = true) : ∃ token out,
    Leave payAxg (parseOnly token) payEnv plainInterpreter payAxg.exchange (payCall suggested) []
      source [] none (paid suggested) out 0 := by
  obtain ⟨token, htoken⟩ := Option.isSome_iff_exists.mp hpassport
  obtain ⟨bytes, hbytes⟩ := Option.isSome_iff_exists.mp hrender
  have hparts : Parts (payCall suggested).members (payParams suggested) [] := ⟨rfl, rfl⟩
  have hreply : Replies payAxg.exchange decisionsPath (paySent suggested)
      (.obj ((paidResponse suggested).dump payAxg.compact)) := by
    have hdumps : dumpsAscii [0x20] (.obj (paySent suggested)) = .ok _ :=
      if_pos (hasShortInts_of_hasDoubles (hashable_paySent suggested).2)
    have hloads : loads _ = .ok (.obj (Json.rejoinObj (paySent suggested))) :=
      loads_dumpsAscii padSpace hdumps
    obtain ⟨record, hrecord⟩ := createDecision_paid suggested
    have hcreate : createDecision payAxg.deployed (paid suggested) payAxg.caller payAxg.now
        payAxg.loaded [] payAxg.context = .ok (paidResponse suggested, record) := hrecord
    have hread : payAxg.readRequest (Json.rejoinObj (paySent suggested)) = some (paid suggested) :=
      reads_paySent suggested
    have hmay : ¬ (payAxg.caller.mayActFor (paid suggested).appId = false ∨
        payAxg.retryAfter.isSome = true) := by
      rintro (h | h) <;> cases h
    have hbytes' : payAxg.render (.obj ((paidResponse suggested).dump payAxg.compact)) =
        some bytes := hbytes
    refine ⟨_, bytes, hdumps, ?_, renderText_reads_back _ _ hbytes⟩
    rw [Decider.exchange, Decider.decides, hloads]
    simp only [hread, hmay, hcreate, hbytes', ↓reduceIte]
  obtain ⟨record, hrecord⟩ := createDecision_paid suggested
  obtain ⟨plugin, triggered, jti, hallow, -⟩ :=
    decide_passport (createDecision_eq_ok hrecord).1 htoken
  have hallows : Interceptor.allows ((paidResponse suggested).dump payAxg.compact) = true := by
    refine Bool.and_eq_true_iff.mpr ⟨claimIs_iff.mpr ?_, ?_⟩
    · change some (Json.str (paidResponse suggested).decision.value) = _
      rw [hallow]
      rfl
    · change (some (optionalText ((paidResponse suggested).passport.map payAxg.compact))).any
        Json.truthy = true
      rw [htoken]
      rfl
  have hforward : governToolsCall payEnv plainInterpreter payAxg.exchange
      (payCall suggested).members [] source [] none = .ok (.request _) :=
    govern_request_iff.mpr (.inr ⟨payParams suggested, [], paySent suggested, _, _, _,
      ⟨hparts, rfl, builds_paySent suggested, hreply, rfl, hallows⟩, rfl, rfl⟩)
  exact ⟨token, _, .allowed hparts rfl (asked_payCall suggested) htoken
    ⟨List.cons_ne_nil _ _, if_pos rfl⟩ hforward⟩

theorem triggers_paid (suggested : Text) : payAxg.Triggers (paid suggested) [] :=
  ⟨payPolicy, .none, rfl, rfl, rfl⟩

/-- The gateway forwards a call with `rent` for the suggested category, and neither check lets it
pass. -/
theorem category_overwritten : ∃ token out,
    Leave payAxg (parseOnly token) payEnv plainInterpreter payAxg.exchange
        (payCall (.lit "rent")) [] source [] none (paid (.lit "rent")) out 0 ∧
      ¬ PassesBoth payAxg.deployed.sha (parseOnly token) (received out) payEnv.appId
        (paid (.lit "rent")).tenantId payAxg.deployed.keys.publicKey 0 := by
  obtain ⟨token, out, hleave⟩ :=
    @leave_payCall (.lit "rent") (by decide +kernel) (by decide +kernel)
  refine ⟨token, out, hleave, fun hpasses => ?_⟩
  obtain ⟨response, triggered, token', params, metadata, hissued, -, -, hwritten, harrives⟩ :=
    hleave.arrives payAxg_lawful (fun _ => rfl)
  obtain ⟨-, hin⟩ := (harrives.passesBoth_iff hwritten).mp hpasses
  rw [hissued.payload, hissued.triggers.unique (triggers_paid _)] at hin
  -- the payload has the proposed category under the name of the suggested one
  have hsuggested := hin (strClaim "suggested_category" (lit "rent"))
    (List.mem_cons_of_mem _ List.mem_cons_self) (by decide)
  revert hsuggested
  decide +kernel

theorem kept_food (triggered : List PolicyRule)
    (h : payAxg.Triggers (paid (.lit "food")) triggered) : Kept (paid (.lit "food")) triggered := by
  rw [← (triggers_paid (.lit "food")).unique h]
  intro p hp _ w hw
  rcases List.mem_cons.mp hp with rfl | hp
  · cases hw
  · cases List.mem_singleton.mp hp
    cases hw
    decide +kernel

/-- A call whose two categories are one passes. -/
theorem leave_passes_iff_category : ∃ token out,
    Leave payAxg (parseOnly token) payEnv plainInterpreter payAxg.exchange
        (payCall (.lit "food")) [] source [] none (paid (.lit "food")) out 0 ∧
      PassesBoth payAxg.deployed.sha (parseOnly token) (received out) payEnv.appId
        (paid (.lit "food")).tenantId payAxg.deployed.keys.publicKey 0 := by
  obtain ⟨token, out, hleave⟩ :=
    @leave_payCall (.lit "food") (by decide +kernel) (by decide +kernel)
  exact ⟨token, out, hleave, (leave_passes_iff payAxg payAxg_lawful payAxg.exchange (fun _ => rfl)
    (parseOnly token) payEnv plainInterpreter (payCall (.lit "food")) [] source [] none
    (paid (.lit "food")) out 0 0 hleave (le_refl _) (by decide)).mpr
      ⟨kept_food, isScalar_lit _, by decide, rfl⟩⟩

end Gateway

end Axg
