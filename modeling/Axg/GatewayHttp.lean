/-
# The gateway's endpoint (`integrations/mcp_gateway/axg_mcp_gateway.py`)

`create_app` reads how callers are identified: by a token that PyJWT verifies, or as one agent that
is named in the environment.  A request of a caller that is not identified is answered 401.  Any
other one is forwarded, except a POST whose body is not let through (`Gateway.mcp`).

Two results.  Whatever the server behind the gateway is sent is a request of an identified caller:
no header that describes the client's hop or carries its credentials, the body unread or as AXG
allows it for that caller's claims (`sent_upstream`).  And where one agent is named, nothing that a
client sends changes whom AXG decides for (`static_caller`).

The library verifies tokens as a function of key, token, audience and issuer.  The body of a GET or
a DELETE is not looked at.
-/
import Axg.AgentCore
import Axg.Gateway
import Axg.Keys

namespace Axg

open Python

namespace Gateway

open Interceptor (buildDecisionRequest)

/-! ## 1. Settings -/

/-- The variables that `create_app` reads. -/
structure Settings where
  upstreamUrl : Option Str
  axgUrl : Option Str
  apiKey : Option Str
  appId : Option Str
  auth : Option Str
  issuer : Option Str
  audience : Option Str
  publicKey : Option Str
  jwksUrl : Option Str
  agentId : Option Str
  tenantId : Option Str
  permissions : Option Str
  userId : Option Str
  upstreamAuthorization : Option Str

/-- `GatewayConfigError`, with its text. -/
structure ConfigError where
  message : Str

/-- How tokens are verified: with a PEM key, or with the key that a key set has for them. -/
inductive KeySource
  | publicKey (pem : Str)
  | jwks (url : Str)

inductive CallerIdentity
  | jwt (issuer audience : Str) (source : KeySource)
  | static (claims : Dict Json)

/-- `_required` -/
def required (name : String) (value : Option Str) : Except ConfigError Str :=
  let value := strip (value.getD [])
  if value = [] then .error ⟨lit name ++ lit " is required"⟩ else .ok value

/-- `[p.strip() for p in permissions.split(",") if p.strip()]` -/
def listedPermissions (permissions : Option Str) : List Str :=
  (((permissions.getD []).splitOn 0x2C).map strip).filter (fun p => p ≠ [])

section Config

variable (py : Interpreter) (settings : Settings)

/-- `CallerIdentity.__init__` -/
def callerIdentity : Except ConfigError CallerIdentity :=
  let mode := py.lower (strip (settings.auth.getD []))
  if mode = lit "jwt" then do
    let issuer ← required "AXG_GATEWAY_ISSUER" settings.issuer
    let audience ← required "AXG_GATEWAY_AUDIENCE" settings.audience
    let publicKey := unescapeNewlines (settings.publicKey.getD [])
    let jwksUrl := strip (settings.jwksUrl.getD [])
    if publicKey ≠ [] then return .jwt issuer audience (.publicKey publicKey)
    else if jwksUrl ≠ [] then return .jwt issuer audience (.jwks jwksUrl)
    else .error ⟨lit
      "AXG_GATEWAY_JWKS_URL or AXG_GATEWAY_JWT_PUBLIC_KEY is required for jwt auth"⟩
  else if mode = lit "static" then do
    let agentId ← required "AXG_GATEWAY_AGENT_ID" settings.agentId
    let tenantId ← required "AXG_GATEWAY_TENANT_ID" settings.tenantId
    let claims := [strClaim "client_id" agentId, strClaim "tenant_id" tenantId,
      (lit "scope", .arr ((listedPermissions settings.permissions).map Json.str))]
    return .static (claims ++
      ((setValue settings.userId).map (fun userId => strClaim "sub" userId)).toList)
  else .error ⟨lit "AXG_GATEWAY_AUTH must be 'jwt' or 'static'"⟩

/-- The start of `create_app`: the endpoint upstream, and how callers are identified. -/
def createApp : Except ConfigError (Str × CallerIdentity) := do
  let upstreamUrl ← required "MCP_UPSTREAM_URL" settings.upstreamUrl
  let _ ← required "AXG_URL" settings.axgUrl
  let _ ← required "AXG_API_KEY" settings.apiKey
  let _ ← required "AXG_APP_ID" settings.appId
  let identity ← callerIdentity py settings
  return (upstreamUrl, identity)

end Config

/-! ## 2. Callers -/

/-- The methods of the route; Starlette adds `HEAD` to `GET`. -/
inductive Method
  | get
  | head
  | post
  | delete
deriving DecidableEq

/-- A request, with its headers in order.  The server has put their names in lower case. -/
structure Request where
  method : Method
  query : Str
  headers : List (Str × Str)
  body : Bytes

/-- `request.headers.get(name)` -/
def Request.header (request : Request) (name : String) : Option Str :=
  (request.headers.find? (fun p => p.1 = lit name)).map Prod.snd

/-- What PyJWT raises. -/
inductive JwtFault
  | pyJwtError
  | other

/-- PyJWT, as far as the gateway uses it. -/
structure JwtLibrary where
  /-- The key of a PEM text, or the one of `get_signing_key_from_jwt`. -/
  key : KeySource → Str → Except JwtFault Kid
  /-- `jwt.decode` -/
  decode : Str → Kid → Str → Str → Except JwtFault (Dict Json)

/-- `Unauthorized`, or an exception that is not handled. -/
inductive ClaimsFault
  | unauthorized (message : Str)
  | raised

/-- `CallerIdentity.claims` -/
def CallerIdentity.claims (py : Interpreter) (library : JwtLibrary) (identity : CallerIdentity)
    (request : Request) : Except ClaimsFault (Dict Json) :=
  match identity with
  | .static claims => .ok claims
  | .jwt issuer audience source =>
    let auth := (request.header "authorization").getD []
    if (lit "bearer ").isPrefixOf (py.lower auth) then
      let token := strip (auth.drop 7)
      match library.key source token >>= fun key => library.decode token key audience issuer with
      | .ok claims => .ok claims
      | .error .pyJwtError => .error (.unauthorized (lit "Invalid token"))
      | .error .other => .error .raised
    else .error (.unauthorized (lit "Bearer token required"))

/-! ## 3. The endpoint -/

/-- `DROPPED_REQUEST_HEADERS` -/
def droppedRequestHeaders : List Str :=
  [lit "host", lit "content-length", lit "connection", lit "keep-alive", lit "transfer-encoding",
    lit "authorization"]

/-- `FORWARDED_RESPONSE_HEADERS` -/
def forwardedResponseHeaders : List Str :=
  [lit "content-type", lit "mcp-session-id", lit "mcp-protocol-version", lit "cache-control"]

structure UpstreamRequest where
  method : Method
  url : Str
  params : Str
  headers : Dict Str
  content : Bytes

structure UpstreamResponse where
  statusCode : Nat
  headers : List (Str × Str)
  body : Bytes

/-- What the client gets. -/
inductive Response
  | json (statusCode : Nat) (headers : Dict Str) (body : Json)
  | streamed (statusCode : Nat) (headers : Dict Str) (body : Bytes)
  /-- The 500 of an exception that is not handled. -/
  | internal

/-- What is answered, and what was sent upstream before. -/
structure Served where
  response : Response
  sent : Option UpstreamRequest

section Endpoint

variable (py : Interpreter) (settings : Settings)

/-- `_upstream_headers`; of two headers of one name the value of the second is kept. -/
def upstreamHeaders (headers : List (Str × Str)) : Dict Str :=
  let kept := Dict.ofPairs (headers.filter (fun p => py.lower p.1 ∉ droppedRequestHeaders))
  match setValue settings.upstreamAuthorization with
  | some authorization => kept.set (lit "authorization") authorization
  | none => kept

/-- The headers of a response that is streamed. -/
def responseHeaders (headers : List (Str × Str)) : Dict Str :=
  Dict.ofPairs (headers.filter (fun p => py.lower p.1 ∈ forwardedResponseHeaders))

variable (upstream : UpstreamRequest → Option UpstreamResponse) (upstreamUrl : Str)

/-- `forward`; the upstream answers nothing if there is an `httpx.HTTPError`. -/
def forward (request : Request) (content : Bytes) : Served :=
  let sent := ⟨request.method, upstreamUrl, request.query,
    upstreamHeaders py settings request.headers, content⟩
  match upstream sent with
  | none =>
    ⟨.json 502 [] (.obj [strClaim "jsonrpc" (lit "2.0"), (lit "id", .null), (lit "error",
      .obj [(lit "code", .int (-32603)), strClaim "message"
        (lit "The MCP server is unavailable")])]), some sent⟩
  | some response =>
    ⟨.streamed response.statusCode (responseHeaders py response.headers) response.body, some sent⟩

variable (library : JwtLibrary) (identity : CallerIdentity) (env : Interceptor.Env)
  (exchange : UrlOpen) (uuid : Str)

/-- `mcp` -/
def serve (request : Request) : Served :=
  match identity.claims py library request with
  | .error (.unauthorized message) =>
    ⟨.json 401 [(lit "WWW-Authenticate", lit "Bearer")] (.obj [strClaim "error"
      (lit "unauthorized"), strClaim "message" message]), none⟩
  | .error .raised => ⟨.internal, none⟩
  | .ok claims =>
    if request.method = .post then
      match mcp env py exchange claims uuid (request.header "mcp-protocol-version") request.body
      with
      | .forwarded bytes => forward py settings upstream upstreamUrl request bytes
      | .answered statusCode body => ⟨.json statusCode [] body, none⟩
      | .raised _ => ⟨.internal, none⟩
    else forward py settings upstream upstreamUrl request request.body

end Endpoint

/-! ## 4. What is sent upstream -/

/-- The body is one that may be sent for these claims: of a POST, JSON without a call as it is, or a
call as AXG allows it. -/
inductive MaySend (env : Interceptor.Env) (py : Interpreter) (exchange : UrlOpen) (uuid : Str)
    (claims : Dict Json) (request : Request) : Bytes → Prop
  | unread (h : request.method ≠ .post) : MaySend env py exchange uuid claims request request.body
  | other {v : Json} (hpost : request.method = .post) (hread : loadsBytes request.body = .ok v)
      (hcall : containsCall v = false) : MaySend env py exchange uuid claims request request.body
  | call {body out : Dict Json} {bytes : Bytes} (hpost : request.method = .post)
      (hread : loadsBytes request.body = .ok (.obj body))
      (hcall : claimIs body "method" (lit "tools/call") = true)
      (hforwards : AgentCore.Forwards env py exchange source uuid body claims out)
      (hsent : loadsBytes bytes = .ok (.obj (Json.rejoinObj out))) :
      MaySend env py exchange uuid claims request bytes

/-- A header that is sent is the gateway's own, or one of the client's that is not dropped. -/
def HeaderOf (py : Interpreter) (settings : Settings) (request : Request) (p : Str × Str) : Prop :=
  (p.1 = lit "authorization" ∧ setValue settings.upstreamAuthorization = some p.2) ∨
    (p ∈ request.headers ∧ py.lower p.1 ∉ droppedRequestHeaders)

/-- What is sent for a caller with these claims. -/
structure SentFor (env : Interceptor.Env) (py : Interpreter) (settings : Settings)
    (exchange : UrlOpen) (uuid upstreamUrl : Str) (request : Request) (claims : Dict Json)
    (sent : UpstreamRequest) : Prop where
  target : sent.method = request.method ∧ sent.url = upstreamUrl ∧ sent.params = request.query
  headers : ∀ p ∈ sent.headers, HeaderOf py settings request p
  content : MaySend env py exchange uuid claims request sent.content

section Specs

variable {py : Interpreter} {settings : Settings} {env : Interceptor.Env} {exchange : UrlOpen}
  {uuid upstreamUrl : Str} {request : Request} {claims : Dict Json}
  {upstream : UpstreamRequest → Option UpstreamResponse}

theorem headerOf_upstreamHeaders {p : Str × Str}
    (h : p ∈ upstreamHeaders py settings request.headers) : HeaderOf py settings request p := by
  have hkept : ∀ p ∈ Dict.ofPairs (request.headers.filter
      (fun p => py.lower p.1 ∉ droppedRequestHeaders)), HeaderOf py settings request p := by
    intro p hp
    obtain ⟨hmem, hlower⟩ := List.mem_filter.mp (Dict.mem_ofPairs hp)
    exact .inr ⟨hmem, of_decide_eq_true hlower⟩
  unfold upstreamHeaders at h
  split at h
  · rename_i authorization hauthorization
    rcases Dict.mem_set h with rfl | h
    · exact .inl ⟨rfl, hauthorization⟩
    · exact hkept p h
  · exact hkept p h

theorem forward_sent {content : Bytes} {sent : UpstreamRequest}
    (h : (forward py settings upstream upstreamUrl request content).sent = some sent) :
    sent = ⟨request.method, upstreamUrl, request.query,
      upstreamHeaders py settings request.headers, content⟩ := by
  simp only [forward] at h
  split at h <;> exact (Option.some.inj h).symm

/-- What the server behind the gateway gets of a POST. -/
theorem maySend_of_forwarded {bytes : Bytes} (hpost : request.method = .post)
    (h : mcp env py exchange claims uuid (request.header "mcp-protocol-version") request.body =
      .forwarded bytes) : MaySend env py exchange uuid claims request bytes := by
  cases hread : loadsBytes request.body with
  | error e =>
    simp only [mcp, hread, jsonrpcError] at h
    cases h
  | ok v =>
    cases hcall : containsCall v with
    | false =>
      cases (mcp_other hread hcall).symm.trans h
      exact .other hpost hread hcall
    | true =>
      obtain ⟨body, out, rfl, hmethod, hgoverned, hsent⟩ := mcp_forwarded hread hcall h
      exact .call hpost hread hmethod (AgentCore.govern_forwards_iff.mp hgoverned) hsent

end Specs

/-- Whatever is sent upstream is sent for a caller that is identified, with a body that may be
sent for its claims, to the configured endpoint, and with none of the client's headers that are
dropped.  Methods other than `POST` carry no call, and are identified all the same. -/
theorem sent_upstream (py : Interpreter) (settings : Settings)
    (upstream : UpstreamRequest → Option UpstreamResponse) (upstreamUrl : Str)
    (library : JwtLibrary) (identity : CallerIdentity) (env : Interceptor.Env)
    (exchange : UrlOpen) (uuid : Str) (request : Request) {sent : UpstreamRequest}
    (h : (serve py settings upstream upstreamUrl library identity env exchange uuid request).sent =
      some sent) :
    ∃ claims, identity.claims py library request = .ok claims ∧
      SentFor env py settings exchange uuid upstreamUrl request claims sent := by
  have hsentFor : ∀ claims content,
      (forward py settings upstream upstreamUrl request content).sent = some sent →
      MaySend env py exchange uuid claims request content →
      SentFor env py settings exchange uuid upstreamUrl request claims sent := by
    intro claims content hsent hcontent
    cases forward_sent hsent
    exact ⟨⟨rfl, rfl, rfl⟩, fun p => headerOf_upstreamHeaders, hcontent⟩
  unfold serve at h
  split at h
  · cases h
  · cases h
  · rename_i claims hclaims
    refine ⟨claims, hclaims, ?_⟩
    split at h
    · rename_i hpost
      split at h
      · rename_i bytes hbytes
        exact hsentFor claims bytes h (maySend_of_forwarded hpost hbytes)
      · cases h
      · cases h
    · rename_i hpost
      exact hsentFor claims _ h (.unread hpost)

/-! ## 5. One agent behind the gateway -/

/-- The caller that a request for a decision names. -/
structure NamesCaller (asked : Dict Json) (agentId tenantId : Str) (permissions : List Str)
    (userId : Option Str) : Prop where
  tenant : asked.lookup (lit "tenant_id") = some (.str tenantId)
  agent : asked.lookup (lit "agent") = some (.obj [strClaim "id" agentId,
    strClaim "type" (lit "agent"), (lit "permissions", .arr (permissions.map Json.str))])
  user : asked.lookup (lit "user_id") = some ((userId.map Json.str).getD .null)

theorem required_eq_ok {name : String} {value : Option Str} {text : Str}
    (h : required name value = .ok text) : text = strip (value.getD []) ∧ text ≠ [] := by
  simp only [required] at h
  split at h
  · cases h
  · rename_i hne
    cases h
    exact ⟨rfl, hne⟩

/-- The claims of the one agent. -/
theorem callerIdentity_static {py : Interpreter} {settings : Settings} {claims : Dict Json}
    (h : callerIdentity py settings = .ok (.static claims)) :
    ∃ agentId tenantId, agentId ≠ [] ∧ tenantId ≠ [] ∧
      agentId = strip (settings.agentId.getD []) ∧ tenantId = strip (settings.tenantId.getD []) ∧
      claims = [strClaim "client_id" agentId, strClaim "tenant_id" tenantId,
          (lit "scope", .arr ((listedPermissions settings.permissions).map Json.str))] ++
        ((setValue settings.userId).map (fun userId => strClaim "sub" userId)).toList := by
  simp only [callerIdentity] at h
  split at h
  · obtain ⟨issuer, -, h⟩ := bind_eq_ok h
    obtain ⟨audience, -, h⟩ := bind_eq_ok h
    split at h
    · cases h
    · split at h <;> cases h
  · split at h
    · obtain ⟨agentId, hagent, h⟩ := bind_eq_ok h
      obtain ⟨tenantId, htenant, h⟩ := bind_eq_ok h
      cases h
      obtain ⟨hagent, hagentne⟩ := required_eq_ok hagent
      obtain ⟨htenant, htenantne⟩ := required_eq_ok htenant
      exact ⟨agentId, tenantId, hagentne, htenantne, hagent, htenant, rfl⟩
    · cases h

/-- What AXG is asked for claims that name an agent and a tenant as text. -/
theorem namesCaller_of_builds {env : Interceptor.Env} {py : Interpreter}
    {body claims asked : Dict Json} {source uuid agentId tenantId : Str} {permissions : List Str}
    {userId : Option Str} (hagentClaim : env.agentClaim = none)
    (htenantClaim : env.tenantClaim = none) (hagentne : agentId ≠ []) (htenantne : tenantId ≠ [])
    (hagent : claims.lookup (lit "client_id") = some (.str agentId))
    (htenant : claims.lookup (lit "tenant_id") = some (.str tenantId))
    (hscope : claims.lookup (lit "scope") = some (.arr (permissions.map Json.str)))
    (huser : claims.lookup (lit "sub") = userId.map Json.str)
    (h : buildDecisionRequest env py body claims source uuid = .ok asked) :
    NamesCaller asked agentId tenantId permissions userId := by
  have htruthy : ∀ {s : Str}, s ≠ [] → (Json.str s).truthy = true := by
    intro s hs
    simpa [Json.truthy] using hs
  unfold buildDecisionRequest at h
  obtain ⟨params, -, h⟩ := bind_eq_ok h
  obtain ⟨listed, hlisted, h⟩ := bind_eq_ok h
  obtain ⟨id, -, h⟩ := bind_eq_ok h
  obtain ⟨tenant, htenant', h⟩ := bind_eq_ok h
  obtain ⟨agent, hagent', h⟩ := bind_eq_ok h
  rw [hscope, Interceptor.permissions] at hlisted
  rw [htenantClaim, Option.getD_none, htenant, orDefault, if_pos (htruthy htenantne), pyStr]
    at htenant'
  rw [hagentClaim, Option.getD_none, hagent, Option.filter_some, if_pos (htruthy hagentne),
    Option.some_or, Option.getD_some, pyStr] at hagent'
  cases hlisted
  cases htenant'
  cases hagent'
  cases h
  exact ⟨rfl, rfl, by rw [← huser]; rfl⟩

/-- Where the mode says so, the identity is one of fixed claims. -/
theorem callerIdentity_of_static {py : Interpreter} {settings : Settings}
    {identity : CallerIdentity} (hidentity : callerIdentity py settings = .ok identity)
    (hstatic : py.lower (strip (settings.auth.getD [])) = lit "static") :
    ∃ claims, identity = .static claims := by
  have hne : lit "static" ≠ lit "jwt" := by decide
  simp only [callerIdentity, hstatic, hne, ↓reduceIte] at hidentity
  obtain ⟨agentId, -, hidentity⟩ := bind_eq_ok hidentity
  obtain ⟨tenantId, -, hidentity⟩ := bind_eq_ok hidentity
  cases hidentity
  exact ⟨_, rfl⟩

/-- Behind a gateway of one agent AXG decides for this agent, its tenant and its permissions,
whatever the client sends.  The claims are made of the settings when the gateway starts; another
name for the agent or the tenant claim would look for them where they are not. -/
theorem static_caller {py : Interpreter} {settings : Settings} {identity : CallerIdentity}
    {upstreamUrl : Str} (library : JwtLibrary) {env : Interceptor.Env}
    (happ : createApp py settings = .ok (upstreamUrl, identity))
    (hstatic : py.lower (strip (settings.auth.getD [])) = lit "static")
    (hagentClaim : env.agentClaim = none) (htenantClaim : env.tenantClaim = none) :
    ∃ agentId tenantId, agentId ≠ [] ∧ tenantId ≠ [] ∧
      agentId = strip (settings.agentId.getD []) ∧ tenantId = strip (settings.tenantId.getD []) ∧
      ∀ request, ∃ claims, identity.claims py library request = .ok claims ∧
        ∀ body uuid asked, buildDecisionRequest env py body claims source uuid = .ok asked →
          NamesCaller asked agentId tenantId (listedPermissions settings.permissions)
            (setValue settings.userId) := by
  obtain ⟨_, -, happ⟩ := bind_eq_ok happ
  obtain ⟨_, -, happ⟩ := bind_eq_ok happ
  obtain ⟨_, -, happ⟩ := bind_eq_ok happ
  obtain ⟨_, -, happ⟩ := bind_eq_ok happ
  obtain ⟨identity', hidentity, happ⟩ := bind_eq_ok happ
  cases happ
  obtain ⟨claims, rfl⟩ := callerIdentity_of_static hidentity hstatic
  obtain ⟨agentId, tenantId, hagentne, htenantne, hagent, htenant, hclaims⟩ :=
    callerIdentity_static hidentity
  refine ⟨agentId, tenantId, hagentne, htenantne, hagent, htenant, fun request => ⟨claims, rfl, ?_⟩⟩
  intro body uuid asked h
  refine namesCaller_of_builds hagentClaim htenantClaim hagentne htenantne ?_ ?_ ?_ ?_ h
  · rw [hclaims]
    rfl
  · rw [hclaims]
    rfl
  · rw [hclaims]
    rfl
  · rw [hclaims]
    cases setValue settings.userId <;> rfl

/-! ## 6. A call by one agent -/

def staticSettings : Settings where
  upstreamUrl := some (lit "http://mcp-server:3000/mcp")
  axgUrl := some (lit "https://axg.internal:8090")
  apiKey := some (lit "k")
  appId := some (lit "app")
  auth := some (lit "static")
  issuer := none
  audience := none
  publicKey := none
  jwksUrl := none
  agentId := some (lit "agent-1")
  tenantId := some (lit "acme")
  permissions := some (lit "pay")
  userId := none
  upstreamAuthorization := some (lit "Bearer upstream")

theorem createApp_staticSettings : createApp plainInterpreter staticSettings =
    .ok (lit "http://mcp-server:3000/mcp", .static Interceptor.agentClaims) := by
  have hpermissions : listedPermissions staticSettings.permissions = [lit "pay"] := by
    decide +kernel
  have hmode : strip (staticSettings.auth.getD []) = lit "static" := by decide +kernel
  have hrequired : ∀ {name value : String}, strip (lit value) = lit value → lit value ≠ [] →
      required name (some (lit value)) = .ok (lit value) := by
    intro name value hstrip hne
    simp only [required, Option.getD_some, hstrip, hne, ↓reduceIte]
  have hne : lit "static" ≠ lit "jwt" := by decide
  have hagent : required "AXG_GATEWAY_AGENT_ID" staticSettings.agentId = .ok (lit "agent-1") :=
    hrequired (by decide +kernel) (by decide)
  have htenant : required "AXG_GATEWAY_TENANT_ID" staticSettings.tenantId = .ok (lit "acme") :=
    hrequired (by decide +kernel) (by decide)
  have hidentity : callerIdentity plainInterpreter staticSettings =
      .ok (.static Interceptor.agentClaims) := by
    rw [callerIdentity, hmode]
    simp only [plainInterpreter, id, hne, ↓reduceIte, hagent, htenant, hpermissions, ok_bind]
    rfl
  have hurl : required "MCP_UPSTREAM_URL" staticSettings.upstreamUrl =
      .ok (lit "http://mcp-server:3000/mcp") := hrequired (by decide +kernel) (by decide)
  have haxg : required "AXG_URL" staticSettings.axgUrl = .ok (lit "https://axg.internal:8090") :=
    hrequired (by decide +kernel) (by decide)
  have hkey : required "AXG_API_KEY" staticSettings.apiKey = .ok (lit "k") :=
    hrequired (by decide +kernel) (by decide)
  have happ : required "AXG_APP_ID" staticSettings.appId = .ok (lit "app") :=
    hrequired (by decide +kernel) (by decide)
  rw [createApp, hurl, ok_bind, haxg, ok_bind, hkey, ok_bind, happ, ok_bind, hidentity, ok_bind]
  rfl

/-- A library that is not asked. -/
def noLibrary : JwtLibrary := ⟨fun _ _ => .error .other, fun _ _ _ _ => .error .other⟩

theorem static_caller_staticSettings :
    ∃ agentId tenantId, agentId ≠ [] ∧ tenantId ≠ [] ∧
      agentId = strip (staticSettings.agentId.getD []) ∧
      tenantId = strip (staticSettings.tenantId.getD []) ∧
      ∀ request, ∃ claims, (CallerIdentity.static Interceptor.agentClaims).claims plainInterpreter
          noLibrary request = .ok claims ∧
        ∀ body uuid asked, buildDecisionRequest Interceptor.cedarEnv plainInterpreter body claims
          source uuid = .ok asked →
          NamesCaller asked agentId tenantId (listedPermissions staticSettings.permissions)
            (setValue staticSettings.userId) := by
  have hmode : plainInterpreter.lower (strip (staticSettings.auth.getD [])) = lit "static" := by
    decide +kernel
  exact static_caller noLibrary createApp_staticSettings hmode rfl rfl

/-- The call that the agent makes. -/
def agentPost : Request where
  method := .post
  query := []
  headers := [(lit "authorization", lit "Bearer client"), (lit "accept", lit "application/json")]
  body := asciiBytes ((Json.obj Interceptor.payMessage).doc.render .ascii [0x20])

theorem sent_agentPost : ∃ sent, (serve plainInterpreter staticSettings (fun _ => none)
    (lit "http://mcp-server:3000/mcp") noLibrary (.static Interceptor.agentClaims)
    Interceptor.cedarEnv (Interceptor.replying (.obj Interceptor.allowReply)) (lit "u")
    agentPost).sent = some sent := by
  have hread : loadsBytes agentPost.body = .ok (.obj Interceptor.payMessage) := by
    have hdumps : dumpsAscii [0x20] (.obj Interceptor.payMessage) =
        .ok ((Json.obj Interceptor.payMessage).doc.render .ascii [0x20]) := if_pos (by rfl)
    rw [agentPost, loadsBytes_dumpsAscii hdumps, Json.rejoin_of_isText (by decide +kernel)
      (by decide +kernel)]
  obtain ⟨out, hout, hshort⟩ : ∃ out, AgentCore.Forwards Interceptor.cedarEnv plainInterpreter
      (Interceptor.replying (.obj Interceptor.allowReply)) source (lit "u") Interceptor.payMessage
      Interceptor.agentClaims out ∧ (Json.obj out).hasShortInts = true :=
    ⟨_, .decided (Interceptor.decided_payMessage _ _) rfl, by decide +kernel⟩
  have hmcp := @mcp_call Interceptor.cedarEnv plainInterpreter
    (Interceptor.replying (.obj Interceptor.allowReply)) Interceptor.agentClaims (lit "u")
    (agentPost.header "mcp-protocol-version") _ _ hread rfl
  rw [AgentCore.govern_forwards_iff.mpr hout, relay, dumpsAscii, if_pos hshort] at hmcp
  simp only [serve, CallerIdentity.claims, hmcp]
  exact ⟨_, rfl⟩

/-- What the server gets is the call that AXG allowed. -/
theorem sent_upstream_agentPost : ∃ sent claims, SentFor Interceptor.cedarEnv plainInterpreter
    staticSettings (Interceptor.replying (.obj Interceptor.allowReply)) (lit "u")
    (lit "http://mcp-server:3000/mcp") agentPost claims sent := by
  obtain ⟨sent, hsent⟩ := sent_agentPost
  obtain ⟨claims, -, hfor⟩ := sent_upstream plainInterpreter staticSettings (fun _ => none)
    (lit "http://mcp-server:3000/mcp") noLibrary (.static Interceptor.agentClaims)
    Interceptor.cedarEnv (Interceptor.replying (.obj Interceptor.allowReply)) (lit "u") agentPost
    hsent
  exact ⟨sent, claims, hfor⟩

end Gateway

end Axg
