/-
# The AgentCore interceptor (`integrations/agentcore/axg_interceptor.py`, `handler`)

The Lambda gets the request that the gateway received, with its headers, and governs it if it is a
`tools/call`.  The gateway has checked the caller's token, so `_jwt_claims` only reads it: the
second part of the bearer token, decoded from base64url and as JSON, with `{}` for a token that
cannot be read.

`handler_forwards_iff` says what is forwarded of a request with a token: anything that is no call as
it is, and a call as AXG allows it for the claims that the token has.  Claims that are no object
stop a call at the first `get`, which is made only if the call has to be decided.
-/
import Axg.Interceptor
import Axg.Python.Base64

namespace Axg

open Python

namespace AgentCore

open Interceptor (Env Raised Output Approved Decided orEmpty asDict raising raising_eq_ok
  asDict_eq_ok governToolsCall approvedCall govern_request_iff forwardedParams buildDecisionRequest
  agentClaims payMessage allowReply decided_payMessage)

/-! ## 1. The token -/

/-- `mcp.gatewayRequest` of the event.  Names and values of headers are text. -/
structure GatewayRequest where
  body : Option Json
  headers : Option (Dict Str)

section Token

variable (py : Interpreter)

/-- `next((v for k, v in headers.items() if k.lower() == name), None)` -/
def header (headers : Dict Str) (name : String) : Option Str :=
  (headers.find? (fun p => py.lower p.1 = lit name)).map Prod.snd

/-- `auth[7:] if auth.lower().startswith("bearer ") else ""` -/
def bearerToken (auth : Str) : Str :=
  if (lit "bearer ").isPrefixOf (py.lower auth) then auth.drop 7 else []

/-- `_jwt_claims` -/
def jwtClaims (headers : Dict Str) : Except PyError Json :=
  match (bearerToken py ((header py headers "authorization").getD [])).splitOnP (· = 0x2E) with
  | _ :: payload :: _ =>
    match urlsafeB64decode (withPadding payload) >>= loadsBytes with
    | .ok claims => .ok claims
    | .error e => if e.isValueError then .ok (.obj []) else .error e
  | _ => .ok (.obj [])

/-- The headers carry a bearer token of three parts, and these are its claims. -/
def Bears (headers : Dict Str) (claims : Json) : Prop :=
  ∃ auth scheme head bytes signature, header py headers "authorization" = some auth ∧
    (lit "bearer ").isPrefixOf (py.lower auth) = true ∧ scheme.length = 7 ∧
    auth = scheme ++ (head ++ 0x2E :: (base64url bytes ++ 0x2E :: signature)) ∧
    0x2E ∉ head ∧ loadsBytes bytes = .ok claims

end Token

theorem encodeSextet_ne_dot {n : Nat} (h : n < 64) : encodeSextet n ≠ 0x2E := by
  have hall : ∀ n < 64, encodeSextet n ≠ 0x2E := by decide +kernel
  exact hall n h

theorem dot_not_mem_base64url (bytes : Bytes) : 0x2E ∉ base64url bytes := by
  rw [base64url_eq]
  intro hdot
  obtain ⟨n, hn, hc⟩ := List.mem_map.mp hdot
  exact encodeSextet_ne_dot (sextets_lt bytes n hn) hc

theorem splitOnP_dot {head : Str} (h : 0x2E ∉ head) (rest : Str) :
    (head ++ 0x2E :: rest).splitOnP (· = 0x2E) = head :: rest.splitOnP (· = 0x2E) := by
  refine List.splitOnP_append_cons_of_forall_mem (fun c hc => ?_) _ (by simp) _
  have hne : c ≠ 0x2E := fun heq => h (heq ▸ hc)
  simpa using hne

/-- The claims that are read are those that were written. -/
theorem jwtClaims_of_bears {py : Interpreter} {headers : Dict Str} {claims : Json}
    (h : Bears py headers claims) : jwtClaims py headers = .ok claims := by
  obtain ⟨auth, scheme, head, bytes, signature, hauth, hbearer, hscheme, hparts, hhead, hloads⟩ := h
  have htoken : bearerToken py auth =
      head ++ 0x2E :: (base64url bytes ++ 0x2E :: signature) := by
    rw [bearerToken, if_pos hbearer, hparts, ← hscheme, List.drop_left]
  have hsplit : (bearerToken py ((header py headers "authorization").getD [])).splitOnP (· = 0x2E) =
      head :: base64url bytes :: signature.splitOnP (· = 0x2E) := by
    rw [hauth, Option.getD_some, htoken, splitOnP_dot hhead,
      splitOnP_dot (dot_not_mem_base64url bytes)]
  simp only [jwtClaims, hsplit, urlsafeB64decode_padded, ok_bind, hloads]

/-! ## 2. The handler -/

section Handler

variable (env : Env) (py : Interpreter) (exchange : UrlOpen) (uuid : Str)

/-- The default of `source`. -/
def source : Str := lit "agentcore"

/-- `govern_tools_call`, of claims of any shape: the first `claims.get` raises if they are no
object. -/
def governAny (body : Dict Json) (claims : Json) (protocolVersion : Option Str) :
    Except Raised Output :=
  match claims with
  | .obj claims => governToolsCall env py exchange body claims source uuid protocolVersion
  | _ => do
    let params ← raising (asDict (orEmpty (body.lookup (lit "params"))))
    let metadata ← raising (asDict (orEmpty (params.lookup (lit "_meta"))))
    if (metadata.lookup passportMetaKey).any Json.truthy then
      approvedCall py exchange body params metadata protocolVersion
    else throw (.python .attributeError)

/-- `handler` -/
def handler (event : Option GatewayRequest) : Except Raised Output := do
  let request := event.getD ⟨none, none⟩
  let body ← raising (asDict (orEmpty request.body))
  if claimIs body "method" (lit "tools/call") then
    let headers := request.headers.getD []
    let claims ← raising (jwtClaims py headers)
    governAny env py exchange uuid body claims (header py headers "mcp-protocol-version")
  else return .request body

end Handler

/-- The call is one that AXG allows for these claims, and this is forwarded of it: the call as it
came where a Passport lets it through, and the call with AXG's verdict after a decision. -/
inductive Forwards (env : Env) (py : Interpreter) (exchange : UrlOpen) (source uuid : Str)
    (body claims : Dict Json) : Dict Json → Prop
  | approved {params metadata authorized arguments : Dict Json} {passport : Json}
      (h : Approved exchange body params metadata passport authorized arguments) :
      Forwards env py exchange source uuid body claims body
  | decided {params metadata request decision scores params' : Dict Json}
      (h : Decided env py exchange body claims source uuid params metadata request decision scores)
      (hparams : forwardedParams env py params metadata decision scores = .ok params') :
      Forwards env py exchange source uuid body claims (body.set (lit "params") (.obj params'))

theorem govern_forwards_iff {env : Env} {py : Interpreter} {exchange : UrlOpen} {source uuid : Str}
    {body claims : Dict Json} {protocolVersion : Option Str} {out : Dict Json} :
    governToolsCall env py exchange body claims source uuid protocolVersion = .ok (.request out) ↔
      Forwards env py exchange source uuid body claims out := by
  rw [govern_request_iff]
  constructor
  · rintro (⟨params, metadata, passport, authorized, arguments, h, rfl⟩ |
      ⟨params, metadata, request, decision, scores, params', h, hparams, rfl⟩)
    · exact .approved h
    · exact .decided h hparams
  · rintro (h | ⟨h, hparams⟩)
    · exact .inl ⟨_, _, _, _, _, h, rfl⟩
    · exact .inr ⟨_, _, _, _, _, _, h, hparams, rfl⟩

section Specs

variable {env : Env} {py : Interpreter} {exchange : UrlOpen} {uuid : Str}
  {request : GatewayRequest} {body : Dict Json}

/-- A call is governed for the claims that are read. -/
theorem handler_call {claims : Json} (hbody : orEmpty request.body = .obj body)
    (hcall : claimIs body "method" (lit "tools/call") = true)
    (hclaims : jwtClaims py (request.headers.getD []) = .ok claims) :
    handler env py exchange uuid (some request) = governAny env py exchange uuid body claims
      (header py (request.headers.getD []) "mcp-protocol-version") := by
  rw [handler, Option.getD_some, raising_eq_ok.mpr (asDict_eq_ok.mpr hbody), ok_bind,
    if_pos hcall]
  simp only [raising_eq_ok.mpr hclaims, ok_bind]

/-- What is no call is passed through. -/
theorem handler_other (hbody : orEmpty request.body = .obj body)
    (hcall : claimIs body "method" (lit "tools/call") = false) :
    handler env py exchange uuid (some request) = .ok (.request body) := by
  rw [handler, Option.getD_some, raising_eq_ok.mpr (asDict_eq_ok.mpr hbody), ok_bind,
    if_neg (Bool.eq_false_iff.mp hcall)]
  rfl

end Specs

/-- Of a request with a token, what is no call is forwarded as it is, and a call as AXG allows it
for the claims of the token.  A body that is no object stops the handler at its first `get`. -/
theorem handler_forwards_iff (env : Env) (py : Interpreter) (exchange : UrlOpen) (uuid : Str)
    {request : GatewayRequest} {claims : Dict Json}
    (hbears : Bears py (request.headers.getD []) (.obj claims)) (out : Dict Json) :
    handler env py exchange uuid (some request) = .ok (.request out) ↔
      ∃ body, orEmpty request.body = .obj body ∧
        ((claimIs body "method" (lit "tools/call") = false ∧ out = body) ∨
          (claimIs body "method" (lit "tools/call") = true ∧
            Forwards env py exchange source uuid body claims out)) := by
  constructor
  · intro h
    obtain ⟨body, hbody, -⟩ := bind_eq_ok h
    rw [Option.getD_some, raising_eq_ok, asDict_eq_ok] at hbody
    refine ⟨body, hbody, ?_⟩
    cases hcall : claimIs body "method" (lit "tools/call") with
    | true =>
      rw [handler_call hbody hcall (jwtClaims_of_bears hbears), governAny, govern_forwards_iff] at h
      exact .inr ⟨rfl, h⟩
    | false =>
      rw [handler_other hbody hcall] at h
      cases h
      exact .inl ⟨rfl, rfl⟩
  · rintro ⟨body, hbody, ⟨hcall, rfl⟩ | ⟨hcall, hforwards⟩⟩
    · exact handler_other hbody hcall
    · rw [handler_call hbody hcall (jwtClaims_of_bears hbears), governAny, govern_forwards_iff]
      exact hforwards

/-! ## 3. A call with a token -/

/-- `lower`, of ASCII text. -/
def asciiInterpreter : Interpreter :=
  { plainInterpreter with
    lower := List.map (fun c => if 0x41 ≤ c.val ∧ c.val ≤ 0x5A then point (c.val + 0x20) else c) }

/-- The claims as they are encoded. -/
def agentPayload : Bytes := asciiBytes ((Json.obj agentClaims).doc.render .ascii [0x20])

def agentAuthorization : Str :=
  lit "Bearer " ++ (lit "e30" ++ 0x2E :: (base64url agentPayload ++ 0x2E :: lit "c2ln"))

def agentRequest : GatewayRequest :=
  ⟨some (.obj payMessage), some [(lit "Authorization", agentAuthorization)]⟩

theorem bears_agentRequest :
    Bears asciiInterpreter (agentRequest.headers.getD []) (.obj agentClaims) := by
  have hname : asciiInterpreter.lower (lit "Authorization") = lit "authorization" := by
    decide +kernel
  have hheader : header asciiInterpreter (agentRequest.headers.getD []) "authorization" =
      some agentAuthorization := by
    simp only [header, agentRequest, Option.getD_some, List.find?_cons, hname, decide_true,
      Option.map_some]
  have hbearer : (lit "bearer ").isPrefixOf (asciiInterpreter.lower agentAuthorization) = true := by
    decide +kernel
  have hloads : loadsBytes agentPayload = .ok (.obj agentClaims) := by
    have hdumps : dumpsAscii [0x20] (.obj agentClaims) =
        .ok ((Json.obj agentClaims).doc.render .ascii [0x20]) := if_pos (by rfl)
    rw [agentPayload, loadsBytes_dumpsAscii hdumps, Json.rejoin_of_isText (by decide +kernel)
      (by decide +kernel)]
  have hhead : 0x2E ∉ lit "e30" := by decide +kernel
  exact ⟨agentAuthorization, lit "Bearer ", lit "e30", agentPayload, lit "c2ln", hheader, hbearer,
    rfl, rfl, hhead, hloads⟩

/-- A call with a token is forwarded with its Passport. -/
theorem handler_forwards_agentRequest :
    ∃ out, handler Interceptor.cedarEnv asciiInterpreter (Interceptor.replying (.obj allowReply))
        (lit "u") (some agentRequest) = .ok (.request out) :=
  ⟨_, (handler_forwards_iff Interceptor.cedarEnv asciiInterpreter
    (Interceptor.replying (.obj allowReply)) (lit "u") bears_agentRequest _).mpr
      ⟨payMessage, rfl, .inr ⟨rfl, .decided (decided_payMessage _ _) rfl⟩⟩⟩

end AgentCore

end Axg
