/-
# The HTTP API (`axg/api.py`)

Three endpoints share their way in: `resolve_caller` turns the `Authorization` header into a
caller, the endpoint looks at what the caller may do (`entitled`), and only then does the limiter
count the call.  A caller that is authenticated has the key of an entry of `AXG_CLIENTS`
(`identified_of_authenticated`).

Past the limiter each endpoint ends in an answer, and two of them in a record that a background
task is to write.  A response that cannot be rendered is an exception, and its task is dropped
with it (`decisionAnswer_cases`); the response to an approval always can (`approval_renders`).
-/
import Axg.Clients
import Axg.ExecutionRecords
import Axg.Introspection
import Axg.Limits

namespace Axg

open Python

/-! ## 1. Callers -/

/-- `HTTPException`, with its headers, or the 500 of an exception that is not caught. -/
inductive HttpError
  | rejected (statusCode : Nat) (detail : Text) (headers : List (Text × Text))
  | internal

/-- The environment that the API reads. -/
structure Settings where
  clients : Str
  authMode : Option Str
  adminToken : Option Str
  rateLimit : Int

inductive AuthMode
  | required
  | optional

/-- `s.partition(sep)`, without the separator. -/
def partition (sep : CodePoint) (s : Str) : Str × Str :=
  (s.takeWhile (· ≠ sep), (s.dropWhile (· ≠ sep)).tail)

/-- `{"WWW-Authenticate": "Bearer"}` -/
def bearerChallenge : List (Text × Text) := [(.lit "WWW-Authenticate", .lit "Bearer")]

section

variable (py : Interpreter) (sha : Sha256) (settings : Settings)

/-- `auth_mode`; an `AuthConfigError` is a `ValueError`. -/
def authMode : Except PyError AuthMode :=
  let mode := py.lower (strip (settings.authMode.getD (lit "required")))
  if mode = lit "required" then .ok .required
  else if mode = lit "optional" then .ok .optional
  else .error .valueError

/-- `resolve_caller` -/
def resolveCaller (authorization : Option Str) : Except HttpError Caller :=
  let header := authorization.getD []
  if header ≠ [] then
    let (scheme, apiKey) := partition 0x20 header
    let invalid := HttpError.rejected 401 (.lit "Invalid API key") bearerChallenge
    if py.lower scheme = lit "bearer" ∧ strip apiKey ≠ [] then
      match authenticate py sha settings.clients (strip apiKey) with
      | .error _ => .error .internal
      | .ok none => .error invalid
      | .ok (some caller) => .ok caller
    else .error invalid
  else
    match authMode py settings with
    | .error _ => .error .internal
    | .ok .optional => .ok .anonymous
    | .ok .required => .error (.rejected 401 (.lit "API key required") bearerChallenge)

/-- `reload_plugins`, up to `clear_cache`. -/
def reloadPlugins (authorization : Option Str) : Except HttpError Unit :=
  let expectedToken := settings.adminToken.getD []
  if expectedToken = [] then
    .error (.rejected 401 (.lit "AXG_ADMIN_TOKEN is not configured") [])
  else
    let header := authorization.getD []
    let unauthorized := HttpError.rejected 401 (.lit "Unauthorized") []
    if header = [] then .error unauthorized
    else
      match compareDigest header (lit "Bearer " ++ expectedToken) with
      | .error _ => .error .internal
      | .ok false => .error unauthorized
      | .ok true => .ok ()

end

/-! ## 2. The way in -/

/-- The body of a call that needs a caller. -/
inductive ApiRequest
  | decision (request : DecisionRequest)
  | approval (request : ApprovalRequest)
  | introspection (request : IntrospectionRequest)

/-- What an endpoint asks of the caller before the limiter. -/
def ApiRequest.permitted (request : ApiRequest) (caller : Caller) : Except HttpError Unit :=
  match request with
  | decision request =>
    if caller.mayActFor request.appId then .ok ()
    else .error (.rejected 403
      (.lit "Caller is not allowed to request decisions for this app") [])
  | approval _ => .ok ()
  | introspection _ =>
    if caller.authenticated then .ok ()
    else .error (.rejected 401 (.lit "Introspection requires an authenticated caller")
      bearerChallenge)

/-- `rate_limiter.check(caller.client_id)`, and the 429 of it. -/
def limited (limit : Int) (windows : Windows) (caller : Caller) (now : ℚ) :
    Except HttpError Unit × Windows :=
  match check limit windows caller.clientId.str now with
  | (none, windows) => (.ok (), windows)
  | (some retryAfter, windows) =>
    (.error (.rejected 429 (.lit "Rate limit exceeded")
      [(.lit "Retry-After", .lit (toString retryAfter))]), windows)

section

variable (py : Interpreter) (sha : Sha256) (settings : Settings)

/-- The three endpoints, up to the limiter. -/
def entitled (authorization : Option Str) (request : ApiRequest) : Except HttpError Caller := do
  let caller ← resolveCaller py sha settings authorization
  request.permitted caller
  return caller

end

/-! ## 3. The answers -/

inductive Reply
  | decision (response : DecisionResponse)
  | approval (response : ApprovalResponse)
  | introspection (response : IntrospectionResponse)

section

variable (compact : Token → Text)

/-- `response.model_dump(mode="json")` -/
def ApprovalResponse.dump (r : ApprovalResponse) : Dict Json :=
  [strClaim "schema_version" (lit "axg.approval_response.v1"),
    strClaim "execution_id" r.executionId, strClaim "outcome" r.outcome.recorded,
    (lit "passport", optionalText (r.passport.map compact)),
    (lit "passport_id", optionalText r.passportId),
    (lit "actionable_payload", r.actionablePayload.json)]

def Reply.dump : Reply → Dict Json
  | decision response => response.dump compact
  | approval response => response.dump compact
  | introspection response => response.dump

/-- `JSONResponse(content)`: a body that cannot be rendered is an exception, and a background task
is run for a response that was sent. -/
def send (reply : Reply) (record : Option (Dict Json)) :
    Except HttpError Reply × Option (Dict Json) :=
  match renderResponse (.obj (reply.dump compact)) with
  | .error _ => (.error .internal, none)
  | .ok _ => (.ok reply, record)

/-- The exception of `submit`, as an answer. -/
def SubmitError.toHttp : SubmitError → HttpError
  | rejected statusCode detail => .rejected statusCode detail []
  | raised _ => .internal

/-- The exception of `introspect`, as an answer. -/
def IntrospectionError.toHttp : IntrospectionError → HttpError
  | rejected statusCode detail => .rejected statusCode detail []
  | keyError => .internal
  | raised _ => .internal

/-- `create_decision`, past the limiter: the answer, and the record for the background task. -/
def decisionAnswer (deployed : Deployment) (request : DecisionRequest) (caller : Caller)
    (now : Clock) (loaded : Except Text Plugin) (tokens : List Presented)
    (context : CallContext) : Except HttpError Reply × Option (Dict Json) :=
  match createDecision deployed request caller now loaded tokens context with
  | .error _ => (.error .internal, none)
  | .ok (response, record) => send compact (.decision response) (some record.dump)

/-- `submit_approval`, past the limiter. -/
def approvalAnswer (deployed : Deployment) (request : ApprovalRequest) (caller : Caller)
    (loaded : Option Plugin) (now later : Clock) (context : CallContext) :
    Except HttpError Reply × Option (Dict Json) :=
  match submit deployed.sha deployed.keys request caller loaded now later context with
  | .error e => (.error e.toHttp, none)
  | .ok (response, record) => send compact (.approval response) (some record.dump)

/-- `introspect`, past the limiter. -/
def introspectionAnswer (deployed : Deployment) (request : IntrospectionRequest) (caller : Caller)
    (now : Clock) : Except HttpError Reply × Option (Dict Json) :=
  match introspect deployed.sha deployed.keys now caller none request with
  | .error e => (.error e.toHttp, none)
  | .ok response => send compact (.introspection response) none

end

/-! ## 4. Who a caller is -/

section

variable {py : Interpreter} {sha : Sha256} {settings : Settings}

variable (py sha) in
/-- The digest of the entry is the digest of the key. -/
def Opens (client : Dict Json) (apiKey : Str) : Prop :=
  ∃ digest, pyStr py ((client.lookup (lit "key_sha256")).getD .null) = .ok digest ∧
    py.lower digest = sha.hexdigest apiKey

variable (py sha settings) in
/-- The header carries the key of an entry of `AXG_CLIENTS`, and the caller is read from it. -/
structure Identified (authorization : Option Str) (caller : Caller) (client : Dict Json) :
    Prop where
  bearer : ∃ header, authorization = some header ∧
    py.lower (partition 0x20 header).1 = lit "bearer" ∧
    Opens py sha client (strip (partition 0x20 header).2)
  listed : ∃ clients, loadClients settings.clients = .ok clients ∧ client ∈ clients
  caller : callerOf py client = .ok caller

theorem compareDigest_eq_true {s t : Str} (h : compareDigest s t = .ok true) : s = t := by
  unfold compareDigest at h
  split at h
  · simpa using h
  · cases h

theorem matchClient_eq_some {presented : Str} {client : Dict Json} (clients : List (Dict Json)) :
    ∀ found, matchClient py presented clients found = .ok (some client) →
      found = some client ∨ client ∈ clients ∧
        ∃ digest, pyStr py ((client.lookup (lit "key_sha256")).getD .null) = .ok digest ∧
          py.lower digest = presented := by
  induction clients with
  | nil =>
    intro found h
    cases h
    exact .inl rfl
  | cons first clients ih =>
    intro found h
    obtain ⟨digest, hdigest, h⟩ := bind_eq_ok h
    obtain ⟨equal, hequal, h⟩ := bind_eq_ok h
    rcases ih _ h with hfound | ⟨hmem, hopens⟩
    · cases equal with
      | false => exact .inl hfound
      | true =>
        -- the last entry that matches so far
        cases hfound
        exact .inr ⟨List.mem_cons_self, digest, hdigest, (compareDigest_eq_true hequal).symm⟩
    · exact .inr ⟨List.mem_cons_of_mem _ hmem, hopens⟩

/-- Whoever is authenticated has the key of an entry. -/
theorem authenticate_eq_some {raw apiKey : Str} {caller : Caller}
    (h : authenticate py sha raw apiKey = .ok (some caller)) :
    ∃ clients client, loadClients raw = .ok clients ∧ client ∈ clients ∧
      Opens py sha client apiKey ∧ callerOf py client = .ok caller := by
  obtain ⟨found, hfound, h⟩ := bind_eq_ok h
  cases found with
  | none => cases h
  | some client =>
    obtain ⟨found, hcaller, h⟩ := bind_eq_ok h
    cases h
    obtain ⟨key, hkey, hmatch⟩ := bind_eq_ok hfound
    obtain ⟨clients, hclients, hmatch⟩ := bind_eq_ok hmatch
    rcases matchClient_eq_some clients none hmatch with hnone | ⟨hmem, hopens⟩
    · cases hnone
    · rw [(encodeUtf8_eq_ok hkey).2] at hopens
      exact ⟨clients, client, hclients, hmem, hopens, hcaller⟩

/-- A caller is an entry of `AXG_CLIENTS`, or anonymous where that is allowed. -/
theorem resolveCaller_eq_ok {authorization : Option Str} {caller : Caller}
    (h : resolveCaller py sha settings authorization = .ok caller) :
    (∃ client, Identified py sha settings authorization caller client) ∨
      caller = .anonymous ∧ authorization.getD [] = [] ∧
        authMode py settings = .ok .optional := by
  unfold resolveCaller at h
  dsimp only at h
  split at h
  · rename_i hheader
    split at h
    · rename_i hbearer
      split at h
      · cases h
      · cases h
      · rename_i found hfound
        cases h
        cases authorization with
        | none => exact absurd rfl hheader
        | some header =>
          obtain ⟨clients, client, hclients, hmem, hopens, hcaller⟩ :=
            authenticate_eq_some hfound
          exact .inl ⟨client, ⟨header, rfl, hbearer.1, hopens⟩, ⟨clients, hclients, hmem⟩, hcaller⟩
    · cases h
  · rename_i hheader
    split at h
    · cases h
    · rename_i hmode
      cases h
      exact .inr ⟨rfl, not_not.mp hheader, hmode⟩
    · cases h

/-- An authenticated caller is one of the entries. -/
theorem identified_of_authenticated {authorization : Option Str} {caller : Caller}
    (h : resolveCaller py sha settings authorization = .ok caller)
    (hauth : caller.authenticated = true) :
    ∃ client, Identified py sha settings authorization caller client := by
  rcases resolveCaller_eq_ok h with hid | ⟨rfl, -, -⟩
  · exact hid
  · cases hauth

/-! ## 5. What an admission takes -/

variable {windows : Windows} {authorization : Option Str} {request : ApiRequest} {now : ℚ}
  {caller : Caller}

theorem limited_eq (limit : Int) (caller : Caller) :
    limited limit windows caller now =
      (match (check limit windows caller.clientId.str now).1 with
        | none => .ok ()
        | some retryAfter => .error (.rejected 429 (.lit "Rate limit exceeded")
            [(.lit "Retry-After", .lit (toString retryAfter))]),
        (check limit windows caller.clientId.str now).2) := by
  unfold limited
  rcases check limit windows caller.clientId.str now with ⟨answer, after⟩
  cases answer <;> rfl

theorem entitled_eq_ok (h : entitled py sha settings authorization request = .ok caller) :
    resolveCaller py sha settings authorization = .ok caller ∧
      request.permitted caller = .ok () := by
  obtain ⟨found, hfound, h⟩ := bind_eq_ok h
  obtain ⟨u, hpermitted, h⟩ := bind_eq_ok h
  cases h
  exact ⟨hfound, hpermitted⟩

/-- The caller of an admitted request, whatever the endpoint. -/
theorem permitted_eq_ok (h : request.permitted caller = .ok ()) :
    (∀ r, request = .decision r → caller.mayActFor r.appId = true) ∧
      ∀ r, request = .introspection r → caller.authenticated = true := by
  constructor
  · rintro r rfl
    by_contra hnot
    simp [ApiRequest.permitted, hnot] at h
  · rintro r rfl
    by_contra hnot
    simp [ApiRequest.permitted, hnot] at h

end

/-! ## 6. What is sent -/

section

variable {compact : Token → Text} {deployed : Deployment} {caller : Caller} {now later : Clock}
  {context : CallContext}

theorem send_cases (reply : Reply) (record : Option (Dict Json)) :
    (∃ body, renderResponse (.obj (reply.dump compact)) = .ok body ∧
        send compact reply record = (.ok reply, record)) ∨
      send compact reply record = (.error .internal, none) := by
  unfold send
  cases h : renderResponse (.obj (reply.dump compact)) with
  | error e => exact .inr rfl
  | ok body => exact .inl ⟨body, rfl, rfl⟩

theorem send_of_renders {reply : Reply} (record : Option (Dict Json))
    (h : ∃ body, renderResponse (.obj (reply.dump compact)) = .ok body) :
    send compact reply record = (.ok reply, record) := by
  obtain ⟨body, hbody⟩ := h
  rw [send, hbody]

theorem decisionAnswer_of_made {request : DecisionRequest} {loaded : Except Text Plugin}
    {tokens : List Presented} {response : DecisionResponse} {record : ExecutionRecord}
    (hmade : createDecision deployed request caller now loaded tokens context =
      .ok (response, record))
    (hrenders : ∃ body, renderResponse (.obj (response.dump compact)) = .ok body) :
    decisionAnswer compact deployed request caller now loaded tokens context =
      (.ok (.decision response), some record.dump) := by
  have hsend : send compact (.decision response) (some record.dump) =
      (.ok (.decision response), some record.dump) := send_of_renders _ hrenders
  simp only [decisionAnswer, hmade, hsend]

/-- A request for a decision is answered with the decision, and recorded, or with a 500 and
nothing. -/
theorem decisionAnswer_cases (request : DecisionRequest) (loaded : Except Text Plugin)
    (tokens : List Presented) :
    (∃ response record body,
        createDecision deployed request caller now loaded tokens context =
          .ok (response, record) ∧
        renderResponse (.obj (response.dump compact)) = .ok body ∧
        decisionAnswer compact deployed request caller now loaded tokens context =
          (.ok (.decision response), some record.dump)) ∨
      decisionAnswer compact deployed request caller now loaded tokens context =
        (.error .internal, none) := by
  unfold decisionAnswer
  cases h : createDecision deployed request caller now loaded tokens context with
  | error e => exact .inr rfl
  | ok made =>
    obtain ⟨response, record⟩ := made
    rcases @send_cases compact (.decision response) (some record.dump) with
      ⟨body, hbody, hsend⟩ | hsend
    · exact .inl ⟨response, record, body, rfl, hbody, hsend⟩
    · exact .inr hsend

/-- The field names of an answer to a submission. -/
def ApprovalResponse.fields : List String :=
  ["schema_version", "execution_id", "outcome", "passport", "passport_id", "actionable_payload"]

/-- The field names of a response. -/
def DecisionResponse.fields : List String :=
  ["schema_version", "execution_id", "plugin_version", "decision", "passport", "passport_id",
    "scores", "actionable_payload", "reason", "audit_id", "audit_flags", "rules_triggered",
    "shadow_mode", "metadata", "approval", "verified_context"]

theorem DecisionResponse.keys_dump (compact : Token → Text) (r : DecisionResponse) :
    Dict.keys (r.dump compact) = DecisionResponse.fields.map lit := rfl

theorem DecisionResponse.nodup_dump (compact : Token → Text) (r : DecisionResponse) :
    (Dict.keys (r.dump compact)).Nodup := by
  rw [r.keys_dump]
  decide

theorem DecisionResponse.wf_dump (compact : Token → Text) (r : DecisionResponse) :
    (Json.obj (r.dump compact)).Wf := by
  have htexts : ∀ ts : List Text, (textList ts).Wf := by
    intro ts
    refine Json.wf_arr.mpr fun v hv => ?_
    obtain ⟨t, -, rfl⟩ := List.mem_map.mp hv
    rfl
  have hrules : (Json.arr (r.rulesTriggered.map TriggeredRule.dump)).Wf := by
    refine Json.wf_arr.mpr fun v hv => ?_
    obtain ⟨rule, -, rfl⟩ := List.mem_map.mp hv
    rfl
  refine Json.wf_obj.mpr ⟨r.nodup_dump compact, ?_⟩
  simp only [DecisionResponse.dump, strClaim, List.forall_mem_cons, List.not_mem_nil,
    false_implies, implies_true, and_true]
  refine ⟨rfl, rfl, rfl, rfl, ?_, ?_, rfl, r.actionablePayload.wf, rfl, rfl, htexts _, hrules, rfl,
    r.metadata.wf, ?_, htexts _⟩
  · cases r.passport <;> rfl
  · cases r.passportId <;> rfl
  · cases r.approval <;> rfl

/-- What an approval is answered with has a hash, as its payload has. -/
theorem approval_hashable {request : ApprovalRequest} {loaded : Option Plugin}
    {response : ApprovalResponse} {record : ApprovalRecord}
    (h : submit deployed.sha deployed.keys request caller loaded now later context =
      .ok (response, record)) :
    Hashable (.obj (response.dump compact)) := by
  obtain ⟨ticket, hadmit, hx⟩ := bind_eq_ok h
  obtain ⟨plugin, passport, -, -, -, hr, -⟩ := exchange_eq_ok hx
  have hpayload : Hashable response.actionablePayload.json := by
    rw [hr, approvalResponse]
    split
    · exact canonicalHash_isOk_iff.mp ⟨_, (admitRequest_eq_ok hadmit).payload⟩
    · exact ⟨rfl, rfl⟩
  have hkeys : Dict.keys (response.dump compact) = ApprovalResponse.fields.map lit := rfl
  rw [hashable_obj_iff, hkeys]
  refine ⟨fun k hk => isScalar_keys hk, ?_⟩
  simp only [ApprovalResponse.dump, strClaim, List.forall_mem_cons, List.not_mem_nil,
    false_implies, implies_true, and_true]
  exact ⟨hashable_lit _, response.executionId.hashable, Text.hashable _, hashable_optionalText _,
    hashable_optionalText _, hpayload⟩

/-- What an approval is answered with has a body. -/
theorem approval_renders {request : ApprovalRequest} {loaded : Option Plugin}
    {response : ApprovalResponse} {record : ApprovalRecord}
    (h : submit deployed.sha deployed.keys request caller loaded now later context =
      .ok (response, record)) :
    ∃ body, renderResponse (.obj (response.dump compact)) = .ok body := by
  obtain ⟨htext, hdoubles⟩ := @approval_hashable compact _ _ _ _ _ _ _ _ _ h
  exact renderResponse_isOk_iff.mpr ⟨hasShortInts_of_hasDoubles hdoubles, htext⟩

/-- A submission that is accepted is answered and recorded. -/
theorem approvalAnswer_cases (request : ApprovalRequest) (loaded : Option Plugin) :
    (∃ response record,
        submit deployed.sha deployed.keys request caller loaded now later context =
          .ok (response, record) ∧
        approvalAnswer compact deployed request caller loaded now later context =
          (.ok (.approval response), some record.dump)) ∨
      ∃ e, submit deployed.sha deployed.keys request caller loaded now later context = .error e ∧
        approvalAnswer compact deployed request caller loaded now later context =
          (.error e.toHttp, none) := by
  unfold approvalAnswer
  cases h : submit deployed.sha deployed.keys request caller loaded now later context with
  | error e => exact .inr ⟨e, rfl, rfl⟩
  | ok accepted =>
    obtain ⟨response, record⟩ := accepted
    have hsend : send compact (.approval response) (some record.dump) =
        (.ok (.approval response), some record.dump) := send_of_renders _ (approval_renders h)
    exact .inl ⟨response, record, rfl, hsend⟩

/-- An introspection schedules nothing. -/
theorem introspectionAnswer_cases (request : IntrospectionRequest) :
    (∃ response, introspectionAnswer compact deployed request caller now =
        (.ok (.introspection response), none)) ∨
      ∃ e, introspectionAnswer compact deployed request caller now = (.error e, none) := by
  unfold introspectionAnswer
  cases introspect deployed.sha deployed.keys now caller none request with
  | error e => exact .inr ⟨_, rfl⟩
  | ok response =>
    rcases @send_cases compact (.introspection response) none with ⟨body, -, hsend⟩ | hsend
    · exact .inl ⟨response, hsend⟩
    · exact .inr ⟨_, hsend⟩

end

/-! ## 7. A client and its key -/

/-- One client, with the key `k`. -/
def keySettings : Settings := ⟨starClients, none, none, 600⟩

/-- The client sends its key. -/
theorem resolveCaller_star {sha : Sha256} (hdigest : sha.hexdigest (lit "k") = keyDigest) :
    resolveCaller plainInterpreter sha keySettings (some (lit "bearer k")) = .ok starCaller := by
  have hmatched : matchedClient plainInterpreter sha starClients (lit "k") =
      .ok (some starClient) := by
    have hne : strip starClients ≠ [] := by decide +kernel
    have hload : loadClients starClients = .ok [starClient] := by
      rw [loadClients, if_neg hne, loads_starClients]
      rfl
    have hkey : encodeUtf8 (lit "k") = .ok (lit "k") := rfl
    rw [matchedClient, hkey, ok_bind, hload, ok_bind, hdigest]
    rfl
  have hauth : authenticate plainInterpreter sha keySettings.clients (lit "k") =
      .ok (some starCaller) := by
    change authenticate plainInterpreter sha starClients (lit "k") = _
    rw [authenticate, hmatched]
    rfl
  have hparts : partition 0x20 (lit "bearer k") = (lit "bearer", lit "k") := by decide +kernel
  have hkey : strip (lit "k") = lit "k" := by decide +kernel
  have hne : lit "bearer k" ≠ [] := by decide
  have hnekey : lit "k" ≠ [] := by decide
  have hlower : plainInterpreter.lower (lit "bearer") = lit "bearer" := rfl
  simp only [resolveCaller, Option.getD_some, hparts, hkey, hlower, hauth, hne, hnekey, ne_eq,
    not_false_eq_true, and_self, ↓reduceIte]

theorem entitled_star {sha : Sha256} (hdigest : sha.hexdigest (lit "k") = keyDigest)
    {request : ApiRequest} (hpermitted : request.permitted starCaller = .ok ()) :
    entitled plainInterpreter sha keySettings (some (lit "bearer k")) request = .ok starCaller := by
  rw [entitled, resolveCaller_star hdigest, ok_bind, hpermitted]
  rfl

end Axg
