/-
# The gateway (`integrations/mcp_gateway/axg_mcp_gateway.py`)

The proxy reads the body of a POST as JSON.  A list with a `tools/call` is refused, a single
`tools/call` goes to `govern_tools_call`, and everything else is forwarded as it came.

What is forwarded of a call is written by `json.dumps` and read by the server behind the gateway.
Between the two surrogate pairs are joined, in the message as in what is sent to AXG, so the message
that the server reads is `Json.rejoin` of the one that was checked.

Every call that reaches the server was allowed by AXG, on either path (`mediated_iff`).  On the path
of the Passport the arguments are compared with the payload in Python and before they are sent, so
the server may read an argument that is not the payload's: a boolean where the payload has 0 or 1,
or the value of a name that becomes one with another on the way.
-/
import Axg.Interceptor
import Axg.Python.JsonApart

namespace Axg

open Python

namespace Gateway

open Interceptor (Raised Output Parts Approved Decided Replies orEmpty toolName
  introspection introspectPath decisionsPath governToolsCall buildDecisionRequest forwardedParams
  govern_request_iff cedarOn)

/-! ## 1. The proxy -/

/-- `SOURCE` -/
def source : Str := lit "mcp_gateway"

/-- What becomes of a POST by a caller that is identified. -/
inductive Handling
  /-- The server behind the gateway gets these bytes. -/
  | forwarded (body : Bytes)
  | answered (status : Nat) (body : Json)
  | raised (e : Raised)

/-- `_jsonrpc_error` -/
def jsonrpcError (requestId : Json) (code : Int) (message : Str) (status : Nat) : Handling :=
  .answered status (.obj [strClaim "jsonrpc" (lit "2.0"), (lit "id", requestId),
    (lit "error", .obj [(lit "code", .int code), strClaim "message" message])])

/-- `isinstance(m, dict) and m.get("method") == "tools/call"` -/
def isToolsCall : Json → Bool
  | .obj members => claimIs members "method" (lit "tools/call")
  | _ => false

/-- What becomes of the interceptor's output. -/
def relay : Except Raised Output → Handling
  | .error e => .raised e
  | .ok (.response body) => .answered 200 (.obj body)
  | .ok (.request body) =>
    match dumpsAscii [0x20] (.obj body) with
    | .ok text => .forwarded (asciiBytes text)
    | .error e => .raised (.python e)

section Mcp

variable (env : Interceptor.Env) (py : Interpreter) (exchange : UrlOpen) (claims : Dict Json)
  (uuid : Str) (protocolVersion : Option Str)

/-- `mcp`, of the body of a POST -/
def mcp (raw : Bytes) : Handling :=
  match loadsBytes raw with
  | .error _ => jsonrpcError .null (-32700) (lit "Parse error") 400
  | .ok (.arr items) =>
    if items.any isToolsCall then jsonrpcError .null (-32600)
      (lit "Batched tools/call is not supported through the AXG gateway") 400
    else .forwarded raw
  | .ok message =>
    match message with
    | .obj body =>
      if claimIs body "method" (lit "tools/call") then
        relay (governToolsCall env py exchange body claims source uuid protocolVersion)
      else .forwarded raw
    | _ => .forwarded raw

end Mcp

/-! ## 2. What mediation means -/

/-- A call, or a list with a call. -/
def containsCall : Json → Bool
  | .arr items => items.any isToolsCall
  | v => isToolsCall v

/-- The same members, apart from what Cedar reads. -/
def KeepsArguments (v w : Json) : Prop :=
  v = w ∨ ∃ p q, v = .obj p ∧ w = .obj q ∧ ∀ k, k ≠ axgArgument → p.lookup k = q.lookup k

/-- What AXG reads of a request that is sent. -/
def Reads (request read : Dict Json) : Prop :=
  ∃ text, dumpsAscii [0x20] (.obj request) = .ok text ∧ loads text = .ok (.obj read)

/-- Every argument is the same JSON data in the payload.  This is what the docstring of
`_arguments_authorized` asks, said of the values that the server and AXG read. -/
def Unchanged (arguments authorized : Dict Json) : Prop :=
  ∀ p ∈ arguments, p.1 ≠ axgArgument →
    ∃ v, authorized.lookup p.1 = some v ∧ Json.sameData v p.2 = true

/-- What the server finds under an argument's name it finds in the payload too: in the member of
the same name, of which the comparison is right, or in one whose name is joined to the same. -/
def ReadAlike (arguments authorized : Dict Json) : Prop :=
  ∀ k p q, k ≠ axgArgument → Json.lastJoined k arguments = some p →
    Json.lastJoined k authorized = some q →
      if p.1 = q.1 then ¬ Json.ReadApart q.2 p.2
      else Json.sameData q.2.rejoin p.2.rejoin = true

/-- The message carries a Passport and a payload with its arguments, and AXG calls exactly this
Passport active for this tool and payload. -/
structure Carried (exchange : UrlOpen) (message : Dict Json) (params metadata : Dict Json)
    (passport : Json) (authorized arguments : Dict Json) : Prop where
  parts : Parts message params metadata
  carries : metadata.lookup passportMetaKey = some passport
  truthy : passport.truthy = true
  payload : metadata.lookup payloadMetaKey = some (.obj authorized)
  readsArguments : orEmpty (params.lookup (lit "arguments")) = .obj arguments
  unchanged : Unchanged arguments authorized
  active : ∃ request result, Reads request (introspection passport (toolName params) authorized) ∧
    Replies exchange introspectPath request (.obj result) ∧
    (result.lookup (lit "active")).any Json.truthy = true

/-- A message that AXG allows: it decided a request of the message's name and arguments, or it was
asked about the message's Passport. -/
inductive Authorized (env : Interceptor.Env) (py : Interpreter) (exchange : UrlOpen)
    (claims : Dict Json) (uuid : Str) (body message : Dict Json) : Prop
  | decided {params metadata request decision scores read sent : Dict Json} {payload : Json}
      (hdecided : Decided env py exchange body claims source uuid params metadata request decision
        scores)
      (hread : Reads request read)
      (hsent : message.lookup (lit "params") = some (.obj sent))
      (hname : read.lookup (lit "action_type") = some ((sent.lookup (lit "name")).getD (.str [])))
      (hpayload : read.lookup (lit "payload") = some payload)
      (harguments : KeepsArguments payload (orEmpty (sent.lookup (lit "arguments"))))
  | carried {params metadata authorized arguments : Dict Json} {passport : Json}
      (hcarried : Carried exchange message params metadata passport authorized arguments)

/-- Every call that the server reads is a single message that AXG allows, of a call nothing else is
forwarded, and every other message is forwarded as it is. -/
structure Mediated (env : Interceptor.Env) (py : Interpreter) (exchange : UrlOpen)
    (claims : Dict Json) (uuid : Str) (protocolVersion : Option Str) (raw : Bytes) : Prop where
  calls : ∀ bytes message, mcp env py exchange claims uuid protocolVersion raw = .forwarded bytes →
    loadsBytes bytes = .ok message → containsCall message = true →
      ∃ body members, loadsBytes raw = .ok (.obj body) ∧ message = .obj members ∧
        Authorized env py exchange claims uuid body members
  derived : ∀ v bytes, loadsBytes raw = .ok v → containsCall v = true →
    mcp env py exchange claims uuid protocolVersion raw = .forwarded bytes →
      ∃ body members, v = .obj body ∧ loadsBytes bytes = .ok (.obj members) ∧
        Authorized env py exchange claims uuid body members
  others : ∀ v, loadsBytes raw = .ok v → containsCall v = false →
    mcp env py exchange claims uuid protocolVersion raw = .forwarded raw

/-! ## 3. A message that is sent -/

theorem orEmpty_rejoin (v : Option Json) : orEmpty (v.map Json.rejoin) = (orEmpty v).rejoin := by
  cases v with
  | none => rfl
  | some v =>
    unfold orEmpty
    rw [Option.map_some, Option.filter_some, Option.filter_some, Json.truthy_rejoin]
    split <;> rfl

theorem orDefault_rejoin (v : Option Json) {default : Text} (h : IsPlain default.str) :
    orDefault (v.map Json.rejoin) default = (orDefault v default).rejoin := by
  have hdefault : (Json.str default.str).rejoin = .str default.str :=
    congrArg Json.str (joinSurrogates_of_plain h)
  cases v with
  | none => exact hdefault.symm
  | some v =>
    simp only [orDefault, Option.map_some, Json.truthy_rejoin]
    split
    · rfl
    · exact hdefault.symm

theorem wf_orEmpty {members inner : Dict Json} (hwf : (Json.obj members).Wf) {k : Str}
    (h : orEmpty (members.lookup k) = .obj inner) : (Json.obj inner).Wf := by
  unfold orEmpty at h
  cases hv : (members.lookup k).filter Json.truthy with
  | none =>
    rw [hv] at h
    cases h
    rfl
  | some v =>
    rw [hv, Option.getD_some] at h
    subst h
    exact (Json.wf_obj.mp hwf).2 _ (Dict.lookup_mem (Option.filter_eq_some_iff.mp hv).1)

/-- A member that is read as an object. -/
theorem orEmpty_lookup_rejoin {members inner : Dict Json} (hwf : (Json.obj members).Wf) {k : Str}
    (hk : IsPlain k) (h : orEmpty (members.lookup k) = .obj inner) :
    orEmpty ((Json.rejoinObj members).lookup k) = .obj (Json.rejoinObj inner) := by
  rw [Json.lookup_rejoin hk (Json.wf_obj.mp hwf).1, orEmpty_rejoin, h, Json.rejoin_obj]

section Sent

variable {exchange : UrlOpen} {body params metadata authorized arguments : Dict Json}
  {passport : Json}

theorem parts_rejoin (hwf : (Json.obj body).Wf) (h : Parts body params metadata) :
    Parts (Json.rejoinObj body) (Json.rejoinObj params) (Json.rejoinObj metadata) :=
  ⟨orEmpty_lookup_rejoin hwf (by decide) h.readsParams,
    orEmpty_lookup_rejoin (wf_orEmpty hwf h.readsParams) (by decide) h.readsMetadata⟩

theorem toolName_rejoin (hwf : (Json.obj params).Wf) :
    toolName (Json.rejoinObj params) = (toolName params).rejoin := by
  rw [toolName, Json.lookup_rejoin (by decide) (Json.wf_obj.mp hwf).1,
    orDefault_rejoin _ (by decide), toolName]

theorem reads_rejoin {request : Dict Json} {text : Str}
    (h : dumpsAscii [0x20] (.obj request) = .ok text) : Reads request (Json.rejoinObj request) :=
  ⟨text, h, loads_dumpsAscii padSpace h⟩

/-- The arguments and the payload of a call that was read are dictionaries. -/
theorem wf_approved (hwf : (Json.obj body).Wf)
    (h : Approved exchange body params metadata passport authorized arguments) :
    (Json.obj arguments).Wf ∧ (Json.obj authorized).Wf := by
  have hparams := wf_orEmpty hwf h.parts.readsParams
  have hmetadata := wf_orEmpty hparams h.parts.readsMetadata
  exact ⟨wf_orEmpty hparams h.readsArguments,
    (Json.wf_obj.mp hmetadata).2 _ (Dict.lookup_mem h.payload)⟩

/-- Arguments that were compared with a payload are read unchanged unless the two are read apart. -/
theorem unchanged_rejoin_iff (harguments : (Json.obj arguments).Wf)
    (hauthorized : (Json.obj authorized).Wf)
    (h : Interceptor.argumentsAuthorized arguments authorized = true) :
    Unchanged (Json.rejoinObj arguments) (Json.rejoinObj authorized) ↔
      ReadAlike arguments authorized := by
  obtain ⟨hnodup, hvs⟩ := Json.wf_obj.mp harguments
  obtain ⟨hnodup', hws⟩ := Json.wf_obj.mp hauthorized
  have haxg : joinSurrogates axgArgument = axgArgument := joinSurrogates_of_plain (by decide)
  -- an argument that is compared has a member of its name that is ==
  have hcompared : ∀ p ∈ arguments, p.1 ≠ axgArgument →
      ∃ v, (p.1, v) ∈ authorized ∧ v.pyEq p.2 = true := by
    intro p hp hne
    have hp := (List.all_eq_true.mp h) p hp
    rw [Bool.or_eq_true, decide_eq_true_eq, Option.any_eq_true] at hp
    obtain ⟨v, hv, heq⟩ := hp.resolve_left hne
    exact ⟨v, Dict.lookup_mem hv, heq⟩
  have hmember : ∀ {name v w}, (name, v) ∈ arguments → name ≠ axgArgument →
      (name, w) ∈ authorized →
        (Json.sameData w.rejoin v.rejoin = true ↔ ¬ Json.ReadApart w v) := by
    intro name v w hv hne hw
    obtain ⟨w', hw', heq⟩ := hcompared _ hv hne
    have hsame : w = w' := Option.some.inj (((Dict.lookup_eq_some_iff hnodup').mpr hw).symm.trans
      ((Dict.lookup_eq_some_iff hnodup').mpr hw'))
    exact Json.sameData_rejoin_iff (hws _ hw) (hvs _ hv) (hsame ▸ heq)
  have hname : ∀ {k p}, k ≠ axgArgument → Json.lastJoined k arguments = some p →
      p.1 ≠ axgArgument := by
    rintro k p hne hp heq
    obtain ⟨-, rfl⟩ := Json.lastJoined_eq_some hp
    exact hne (heq ▸ haxg)
  constructor
  · intro hunchanged k p q hne hp hq
    obtain ⟨v, hv, hsame⟩ := hunchanged (k, p.2.rejoin)
      (Json.mem_rejoinObj_iff.mpr ⟨p, hp, rfl⟩) hne
    rw [Json.lookup_rejoinObj, hq] at hv
    cases hv
    split
    · rename_i hpq
      obtain ⟨name, v⟩ := p
      obtain ⟨name', w⟩ := q
      obtain rfl : name = name' := hpq
      exact (hmember (Json.lastJoined_eq_some hp).1 (hname hne hp)
        (Json.lastJoined_eq_some hq).1).mp hsame
    · exact hsame
  · intro halike
    rintro ⟨k, u⟩ hmem hne
    obtain ⟨p, hp, rfl⟩ := Json.mem_rejoinObj_iff.mp hmem
    obtain ⟨hpm, hk⟩ := Json.lastJoined_eq_some hp
    obtain ⟨w, hw, -⟩ := hcompared p hpm (hname hne hp)
    obtain ⟨q, hq⟩ := Option.isSome_iff_exists.mp (hk ▸ Json.lastJoined_isSome hw)
    refine ⟨q.2.rejoin, by rw [Json.lookup_rejoinObj, hq, Option.map_some], ?_⟩
    have hread := halike k p q hne hp hq
    split at hread
    · rename_i hpq
      obtain ⟨name, v⟩ := p
      obtain ⟨name', w'⟩ := q
      obtain rfl : name = name' := hpq
      exact (hmember hpm (hname hne hp) (Json.lastJoined_eq_some hq).1).mpr hread
    · exact hread

/-- A call that is let through with its Passport, as the server reads it. -/
theorem Carried.of_approved (hwf : (Json.obj body).Wf)
    (h : Approved exchange body params metadata passport authorized arguments)
    (hsame : Unchanged (Json.rejoinObj arguments) (Json.rejoinObj authorized)) :
    Carried exchange (Json.rejoinObj body) (Json.rejoinObj params) (Json.rejoinObj metadata)
      passport.rejoin (Json.rejoinObj authorized) (Json.rejoinObj arguments) := by
  have hparams := wf_orEmpty hwf h.parts.readsParams
  have hmetadata := wf_orEmpty hparams h.parts.readsMetadata
  have hnodup := (Json.wf_obj.mp hmetadata).1
  refine ⟨parts_rejoin hwf h.parts, ?_, ?_, ?_, ?_, hsame, ?_⟩
  · rw [Json.lookup_rejoin (by decide) hnodup, h.carries, Option.map_some]
  · rw [Json.truthy_rejoin, h.truthy]
  · rw [Json.lookup_rejoin (by decide) hnodup, h.payload, Option.map_some, Json.rejoin_obj]
  · exact orEmpty_lookup_rejoin hparams (by decide) h.readsArguments
  · obtain ⟨result, claims, hreply, hactive, -⟩ := h.active
    obtain ⟨text, bytes, htext, -⟩ := id hreply
    have hreads := reads_rejoin htext
    rw [toolName_rejoin hparams]
    exact ⟨_, result, hreads, hreply, hactive⟩

/-- The parts of a message are read one way. -/
theorem Carried.unchanged_of_approved (hwf : (Json.obj body).Wf)
    (h : Approved exchange body params metadata passport authorized arguments)
    {params' metadata' authorized' arguments' : Dict Json} {passport' : Json}
    (hc : Carried exchange (Json.rejoinObj body) params' metadata' passport' authorized'
      arguments') : Unchanged (Json.rejoinObj arguments) (Json.rejoinObj authorized) := by
  have hparams := wf_orEmpty hwf h.parts.readsParams
  have hmetadata := wf_orEmpty hparams h.parts.readsMetadata
  obtain ⟨rfl, rfl⟩ := (parts_rejoin hwf h.parts).unique hc.parts
  have hpayload := hc.payload
  rw [Json.lookup_rejoin (by decide) (Json.wf_obj.mp hmetadata).1, h.payload, Option.map_some,
    Json.rejoin_obj] at hpayload
  have harguments := hc.readsArguments
  rw [orEmpty_lookup_rejoin hparams (by decide) h.readsArguments] at harguments
  cases hpayload
  cases harguments
  exact hc.unchanged

end Sent

/-! ## 4. A message that is decided -/

section Decided

variable {env : Interceptor.Env} {py : Interpreter} {exchange : UrlOpen} {claims : Dict Json}
  {uuid : Str} {protocolVersion : Option Str}
  {body params metadata request decision scores : Dict Json}

/-- The request names the app and the tool, and has the arguments. -/
theorem buildDecisionRequest_reads {source : Str}
    (h : buildDecisionRequest env py body claims source uuid = .ok request)
    (hparams : orEmpty (body.lookup (lit "params")) = .obj params) :
    (Dict.keys request).Nodup ∧
      request.lookup (lit "app_id") = some (.str env.appId) ∧
      request.lookup (lit "action_type") = some ((params.lookup (lit "name")).getD (.str [])) ∧
      request.lookup (lit "payload") = some (orEmpty (params.lookup (lit "arguments"))) := by
  obtain ⟨params', hparams', h⟩ := bind_eq_ok h
  rw [hparams, Interceptor.asDict_eq_ok] at hparams'
  cases hparams'
  obtain ⟨permissions, -, h⟩ := bind_eq_ok h
  obtain ⟨id, -, h⟩ := bind_eq_ok h
  obtain ⟨tenant, -, h⟩ := bind_eq_ok h
  obtain ⟨agent, -, h⟩ := bind_eq_ok h
  cases h
  have hkeys : ([lit "execution_id", lit "tenant_id", lit "app_id", lit "plugin_id", lit "user_id",
      lit "agent", lit "source", lit "action_type", lit "payload", lit "llm",
      lit "metadata"] : List Str).Nodup := by decide
  exact ⟨hkeys, rfl, rfl, rfl⟩

/-- The arguments of the call are sent, perhaps with a verdict. -/
def SendsArguments (params sent : Dict Json) : Prop :=
  sent.lookup (lit "arguments") = params.lookup (lit "arguments") ∨
    ∃ (arguments : Dict Json) (verdict : Json),
      orEmpty (params.lookup (lit "arguments")) = .obj arguments ∧
      sent.lookup (lit "arguments") = some (.obj (arguments.set axgArgument verdict))

/-- What is forwarded has the name and the arguments of the call. -/
theorem forwardedParams_reads (hwf : (Json.obj params).Wf) {sent : Dict Json}
    (h : forwardedParams env py params metadata decision scores = .ok sent) :
    (Dict.keys sent).Nodup ∧ sent.lookup (lit "name") = params.lookup (lit "name") ∧
      SendsArguments params sent := by
  have hnodup := (Json.wf_obj.mp hwf).1
  unfold forwardedParams at h
  split at h
  · obtain ⟨arguments, harguments, h⟩ := bind_eq_ok h
    rw [Interceptor.asMapping_eq_ok, Dict.lookup_set, if_neg (by decide)] at harguments
    cases h
    refine ⟨Dict.nodup_set _ _ (Dict.nodup_set _ _ hnodup), ?_, .inr ⟨arguments,
      Interceptor.cedarVerdict decision scores, harguments, ?_⟩⟩
    · rw [Dict.lookup_set, if_neg (by decide), Dict.lookup_set, if_neg (by decide)]
    · rw [Dict.lookup_set, if_pos rfl]
  · cases h
    refine ⟨Dict.nodup_set _ _ hnodup, ?_, .inl ?_⟩
    · rw [Dict.lookup_set, if_neg (by decide)]
    · rw [Dict.lookup_set, if_neg (by decide)]

/-- Sending keeps the arguments, apart from what Cedar reads. -/
theorem keepsArguments_rejoin {params sent : Dict Json} (hsent : (Dict.keys sent).Nodup)
    (h : SendsArguments params sent) :
    KeepsArguments (orEmpty (params.lookup (lit "arguments"))).rejoin
      (orEmpty ((Json.rejoinObj sent).lookup (lit "arguments"))) := by
  rw [Json.lookup_rejoin (by decide) hsent, orEmpty_rejoin]
  rcases h with h | ⟨arguments, verdict, harguments, hset⟩
  · exact .inl (by rw [h])
  · have hne : arguments.set axgArgument verdict ≠ [] := by
      intro hnil
      have hlookup := Dict.lookup_set arguments axgArgument axgArgument verdict
      rw [hnil, if_pos rfl] at hlookup
      cases hlookup
    have htruthy : (Json.obj (arguments.set axgArgument verdict)).truthy = true := by
      cases hs : arguments.set axgArgument verdict with
      | nil => exact absurd hs hne
      | cons p rest => rfl
    have horEmpty : orEmpty (some (Json.obj (arguments.set axgArgument verdict))) =
        .obj (arguments.set axgArgument verdict) := by
      rw [orEmpty, Option.filter_some, if_pos htruthy, Option.getD_some]
    rw [harguments, hset, horEmpty, Json.rejoin_obj, Json.rejoin_obj]
    refine .inr ⟨_, _, rfl, rfl, fun k hk => (Json.lookup_rejoin_set ?_ _ _).symm⟩
    rw [joinSurrogates_of_plain (by decide)]
    exact hk

/-- A call that AXG decides, as the server reads it. -/
theorem authorized_of_decided (hwf : (Json.obj body).Wf)
    (h : Decided env py exchange body claims source uuid params metadata request decision scores)
    {sent : Dict Json} (hsent : forwardedParams env py params metadata decision scores = .ok sent) :
    Authorized env py exchange claims uuid body
      (Json.rejoinObj (body.set (lit "params") (.obj sent))) := by
  have hparams := wf_orEmpty hwf h.parts.readsParams
  obtain ⟨hkeys, -, haction, hpayload⟩ :=
    buildDecisionRequest_reads h.builds h.parts.readsParams
  obtain ⟨hnodup, hname, harguments⟩ := forwardedParams_reads hparams hsent
  obtain ⟨text, -, htext, -, -⟩ := h.reply
  refine .decided h (reads_rejoin htext) ?_ ?_ ?_ (keepsArguments_rejoin hnodup harguments)
  · rw [Json.lookup_rejoin (by decide) (Dict.nodup_set _ _ (Json.wf_obj.mp hwf).1),
      Dict.lookup_set, if_pos rfl, Option.map_some, Json.rejoin_obj]
  · rw [Json.lookup_rejoin (by decide) hkeys, haction, Json.lookup_rejoin (by decide) hnodup, hname]
    cases params.lookup (lit "name") <;> rfl
  · rw [Json.lookup_rejoin (by decide) hkeys, hpayload, Option.map_some]

end Decided

/-! ## 5. Every call is mediated -/

section Mediation

variable {env : Interceptor.Env} {py : Interpreter} {exchange : UrlOpen} {claims : Dict Json}
  {uuid : Str} {protocolVersion : Option Str} {raw : Bytes}

theorem relay_forwarded {result : Except Raised Output} {bytes : Bytes}
    (h : relay result = .forwarded bytes) :
    ∃ out, result = .ok (.request out) ∧ loadsBytes bytes = .ok (.obj (Json.rejoinObj out)) := by
  unfold relay at h
  split at h
  · cases h
  · cases h
  · rename_i out
    split at h
    · rename_i text htext
      cases h
      exact ⟨out, rfl, loadsBytes_dumpsAscii htext⟩
    · cases h

/-- A call that is forwarded is one that the interceptor lets through. -/
theorem mcp_call {body : Dict Json} (hraw : loadsBytes raw = .ok (.obj body))
    (hcall : claimIs body "method" (lit "tools/call") = true) :
    mcp env py exchange claims uuid protocolVersion raw =
      relay (governToolsCall env py exchange body claims source uuid protocolVersion) := by
  rw [mcp, hraw]
  exact if_pos hcall

/-- What is no call is forwarded as it is. -/
theorem mcp_other {v : Json} (hraw : loadsBytes raw = .ok v) (hcall : containsCall v = false) :
    mcp env py exchange claims uuid protocolVersion raw = .forwarded raw := by
  rw [mcp, hraw]
  cases v with
  | arr items => exact if_neg (by simpa [containsCall] using hcall)
  | obj body => exact if_neg (by simpa [containsCall, isToolsCall] using hcall)
  | _ => rfl

/-- Of a call nothing is forwarded but what the interceptor makes of it. -/
theorem mcp_forwarded {v : Json} {bytes : Bytes} (hraw : loadsBytes raw = .ok v)
    (hcall : containsCall v = true)
    (h : mcp env py exchange claims uuid protocolVersion raw = .forwarded bytes) :
    ∃ body out, v = .obj body ∧ claimIs body "method" (lit "tools/call") = true ∧
      governToolsCall env py exchange body claims source uuid protocolVersion = .ok (.request out) ∧
      loadsBytes bytes = .ok (.obj (Json.rejoinObj out)) := by
  cases v with
  | obj body =>
    rw [mcp_call hraw hcall] at h
    obtain ⟨out, hout, hbytes⟩ := relay_forwarded h
    exact ⟨body, out, rfl, hcall, hout, hbytes⟩
  | arr items =>
    have hcall : items.any isToolsCall = true := hcall
    rw [mcp, hraw] at h
    simp only [hcall, ↓reduceIte, jsonrpcError] at h
    cases h
  | _ => cases hcall

end Mediation

/-- Every call is mediated exactly when no call that its Passport lets through has an argument that
the server reads apart from the payload's.

What AXG decides itself is forwarded with the arguments that it was asked about, so the condition is
about the other path only: there the arguments and the payload come with the call, and `==` between
them passes `true` for 1, and names that are told apart by the two halves of a surrogate pair. -/
theorem mediated_iff (env : Interceptor.Env) (py : Interpreter) (exchange : UrlOpen)
    (claims : Dict Json) (uuid : Str) (protocolVersion : Option Str) (raw : Bytes) :
    Mediated env py exchange claims uuid protocolVersion raw ↔
      ∀ body, loadsBytes raw = .ok (.obj body) →
        claimIs body "method" (lit "tools/call") = true →
        ∀ params metadata passport authorized arguments,
          Approved exchange body params metadata passport authorized arguments →
          ReadAlike arguments authorized := by
  have hwf : ∀ {v}, loadsBytes raw = .ok v → v.Wf := by
    intro v hv
    obtain ⟨text, htext⟩ := loadsBytes_eq_ok hv
    exact loads_wf htext
  constructor
  · intro h body hraw hcall params metadata passport authorized arguments ha
    have hgovern := (@govern_request_iff env py exchange body claims source uuid protocolVersion
      body).mpr (.inl ⟨params, metadata, passport, authorized, arguments, ha, rfl⟩)
    obtain ⟨text, hloaded⟩ := loadsBytes_eq_ok hraw
    have hbytes : mcp env py exchange claims uuid protocolVersion raw =
        .forwarded (asciiBytes ((Json.obj body).doc.render .ascii [0x20])) := by
      rw [mcp_call hraw hcall, hgovern, relay, dumpsAscii, if_pos (loads_hasShortInts hloaded)]
    obtain ⟨body', members, hsame, hmembers, hauthorized⟩ := h.derived _ _ hraw hcall hbytes
    cases hsame
    rw [loadsBytes_dumpsAscii (if_pos (loads_hasShortInts hloaded)), Json.rejoin_obj] at hmembers
    cases hmembers
    -- a call with a Passport is not decided, so the server's message can only be the one carried
    cases hauthorized with
    | decided hd _ _ _ _ _ =>
      obtain ⟨rfl, rfl⟩ := ha.parts.unique hd.parts
      have hno := hd.noPassport
      rw [ha.carries, Option.any_some, ha.truthy] at hno
      cases hno
    | carried hc =>
      obtain ⟨harguments, hauthorized⟩ := wf_approved (hwf hraw) ha
      exact (unchanged_rejoin_iff harguments hauthorized ha.matching).mp
        (Carried.unchanged_of_approved (hwf hraw) ha hc)
  · intro h
    have hderived : ∀ v bytes, loadsBytes raw = .ok v → containsCall v = true →
        mcp env py exchange claims uuid protocolVersion raw = .forwarded bytes →
          ∃ body members, v = .obj body ∧ loadsBytes bytes = .ok (.obj members) ∧
            Authorized env py exchange claims uuid body members := by
      intro v bytes hraw hcall hbytes
      obtain ⟨body, out, rfl, hmethod, hout, hloads⟩ := mcp_forwarded hraw hcall hbytes
      refine ⟨body, _, rfl, hloads, ?_⟩
      rcases govern_request_iff.mp hout with ⟨params, metadata, passport, authorized, arguments, ha,
        rfl⟩ | ⟨params, metadata, request, decision, scores, sent, hd, hsent, rfl⟩
      · obtain ⟨harguments, hauthorized⟩ := wf_approved (hwf hraw) ha
        exact .carried (Carried.of_approved (hwf hraw) ha
          ((unchanged_rejoin_iff harguments hauthorized ha.matching).mpr
            (h out hraw hmethod params metadata passport authorized arguments ha)))
      · exact authorized_of_decided (hwf hraw) hd hsent
    refine ⟨?_, hderived, fun v => mcp_other⟩
    intro bytes message hbytes hmessage hcall
    cases hraw : loadsBytes raw with
    | error e =>
      simp only [mcp, hraw, jsonrpcError] at hbytes
      cases hbytes
    | ok v =>
      cases hv : containsCall v with
      | true =>
        obtain ⟨body, members, rfl, hmembers, hauthorized⟩ := hderived v bytes hraw hv hbytes
        exact ⟨body, members, rfl, Except.ok.inj (hmessage.symm.trans hmembers), hauthorized⟩
      -- no call, forwarded byte for byte: the server reads what the gateway has read
      | false =>
        cases (mcp_other hraw hv).symm.trans hbytes
        cases hraw.symm.trans hmessage
        rw [hv] at hcall
        cases hcall

/-! ## 6. A call that is changed -/

/-- A call whose argument is `true` where its payload has 1. -/
def trueCall : Dict Json :=
  [strClaim "method" (lit "tools/call"), (lit "params", .obj [strClaim "name" (lit "pay"),
    (lit "arguments", .obj [(lit "amount", .bool true)]),
    (lit "_meta", .obj [(passportMetaKey, .str passportText),
      (payloadMetaKey, .obj [(lit "amount", .int 1)])])])]

def trueCallBytes : Bytes := asciiBytes ((Json.obj trueCall).doc.render .ascii [0x20])

def plainEnv : Interceptor.Env := ⟨lit "app", none, none, none, none⟩

theorem approved_trueCall : Approved (Interceptor.replying (.obj Interceptor.activeResult)) trueCall
    [strClaim "name" (lit "pay"), (lit "arguments", .obj [(lit "amount", .bool true)]),
      (lit "_meta", .obj [(passportMetaKey, .str passportText),
        (payloadMetaKey, .obj [(lit "amount", .int 1)])])]
    [(passportMetaKey, .str passportText), (payloadMetaKey, .obj [(lit "amount", .int 1)])]
    (.str passportText) [(lit "amount", .int 1)] [(lit "amount", .bool true)] where
  parts := ⟨rfl, rfl⟩
  carries := rfl
  truthy := rfl
  payload := rfl
  readsArguments := rfl
  matching := by decide +kernel
  active := ⟨Interceptor.activeResult, [], Interceptor.replies_replying rfl rfl _, rfl, rfl⟩

/-- The server reads `true` where the Passport authorizes 1. -/
theorem true_forwarded_for_one :
    loadsBytes trueCallBytes = .ok (.obj trueCall) ∧
      mcp plainEnv plainInterpreter
        (Interceptor.replying (.obj Interceptor.activeResult)) [] [] none
        trueCallBytes = .forwarded trueCallBytes ∧
      ¬ Mediated plainEnv plainInterpreter
        (Interceptor.replying (.obj Interceptor.activeResult)) [] [] none trueCallBytes := by
  have hdumps : dumpsAscii [0x20] (.obj trueCall) =
      .ok ((Json.obj trueCall).doc.render .ascii [0x20]) := if_pos rfl
  have hloads : loadsBytes trueCallBytes = .ok (.obj trueCall) := loadsBytes_dumpsAscii hdumps
  have hforward : mcp plainEnv plainInterpreter
      (Interceptor.replying (.obj Interceptor.activeResult)) [] [] none trueCallBytes =
      .forwarded trueCallBytes := by
    rw [mcp_call hloads rfl, govern_request_iff.mpr (.inl ⟨_, _, _, _, _, approved_trueCall, rfl⟩),
      relay, hdumps]
    rfl
  refine ⟨hloads, hforward, fun h => ?_⟩
  obtain ⟨body, members, hbody, hmembers, hauthorized⟩ := h.derived _ _ hloads rfl hforward
  cases hbody
  cases hmembers.symm.trans hloads
  cases hauthorized with
  | decided hd _ _ _ _ _ =>
    obtain ⟨-, rfl⟩ := approved_trueCall.parts.unique hd.parts
    cases hd.noPassport
  | carried hc =>
    have hchanged := @Carried.unchanged_of_approved _ trueCall _ _ _ _ _ rfl approved_trueCall
      _ _ _ _ _ hc
    obtain ⟨v, hv, hsame⟩ := hchanged _ List.mem_cons_self (by decide)
    cases hv
    have hdiffers : Json.sameData (.int 1) (.bool true) = false := by decide +kernel
    cases hdiffers.symm.trans hsame

end Gateway

end Axg
