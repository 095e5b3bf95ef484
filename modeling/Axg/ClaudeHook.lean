/-
# The hook of Claude Code (`integrations/claude_code/axg_pretooluse.py`)

`main` reads an event, asks AXG about it, and writes a permission decision or nothing.  A hook that
ends in an exception lets the tool run, so each way out counts.

The hook handles the exceptions of the exchange that are a `URLError`, a `TimeoutError`, a
`ValueError` or a `KeyError`.  It reads the event and AXG's reply as objects, and of what
`json.loads` raises for the event it handles a `JSONDecodeError` only.  `failsClosed_iff` says that
these are the places where it fails open, and that there are no others.

The text of the exception that is handled is a parameter: it goes into the reason, and nothing
depends on it.
-/
import Axg.Interceptor

namespace Axg

open Python

namespace ClaudeHook

open Interceptor (Raised raising asDict orEmpty certain Replies decisionsPath
  raising_eq_ok asDict_eq_ok pyStr_of_short short_lookup loadsReply_short)

/-! ## 1. The hook -/

/-- The environment variables. -/
structure Env where
  appId : Option Str
  pluginId : Option Str
  tenantId : Option Str
  user : Option Str
  username : Option Str
  autoAllow : Option Str
  failMode : Option Str

/-- How asking AXG fails. -/
inductive AskError
  /-- One of the exceptions that `decide` handles. -/
  | handled
  | raised (e : Raised)

/-- `except (..., ValueError, ...)` around Python's own exceptions. -/
def catching (e : PyError) : AskError := if e.isValueError then .handled else .raised (.python e)

/-- The event on `stdin`. -/
def readEvent (stdin : Str) : Except PyError Json :=
  match loads (if stdin = [] then lit "\x7b\x7d" else stdin) with
  | .error .jsonDecodeError => .ok (.obj [])
  | result => result

/-- `_output` -/
def output (decision reason : Str) : Json :=
  .obj [(lit "hookSpecificOutput", .obj [strClaim "hookEventName" (lit "PreToolUse"),
    strClaim "permissionDecision" decision, strClaim "permissionDecisionReason" reason])]

/-- `ask_axg` -/
def askAxg (exchange : UrlOpen) (request : Dict Json) : Except AskError Json :=
  match dumpsAscii [0x20] (.obj request) with
  | .error e => .error (catching e)
  | .ok body =>
    match exchange decisionsPath body with
    | .unmade => .error .handled
    | .failed => .error .handled
    | .raised => .error (.raised .connection)
    | .read bytes =>
      match loadsReply bytes with
      | .ok reply => .ok reply
      | .error _ => .error .handled

section Hook

variable (env : Env) (py : Interpreter) (exchange : UrlOpen) (uuid : Text) (excText : Str)

/-- `decision_request` -/
def decisionRequest (event : Json) : Except PyError (Dict Json) := do
  let event ← asDict event
  let executionId ← pyStr py (orDefault (event.lookup (lit "tool_use_id")) uuid)
  let agent ← pyStr py (orDefault (event.lookup (lit "agent_type")) (.lit "main"))
  return [strClaim "execution_id" (lit "claude-code-" ++ executionId),
    strClaim "tenant_id" (env.tenantId.getD (lit "local")),
    strClaim "app_id" (env.appId.getD (lit "claude-code")),
    strClaim "plugin_id" (env.pluginId.getD (lit "claude-code")),
    (lit "user_id",
      (((env.user.filter (fun s => s ≠ [])).or env.username).map Json.str).getD .null),
    (lit "agent", .obj [strClaim "id" (lit "claude-code:" ++ agent), strClaim "type" (lit "agent"),
      (lit "permissions", .arr [])]),
    strClaim "source" (lit "claude-code"),
    (lit "action_type", (event.lookup (lit "tool_name")).getD (.str [])),
    (lit "payload", orEmpty (event.lookup (lit "tool_input"))),
    (lit "llm", .obj [(lit "confidence", certain.json)]),
    (lit "metadata", .obj [strClaim "flow" (lit "claude-code:pre_tool_use"),
      (lit "session_id", (event.lookup (lit "session_id")).getD .null),
      (lit "cwd", (event.lookup (lit "cwd")).getD .null),
      (lit "permission_mode", (event.lookup (lit "permission_mode")).getD .null)])]

/-- What the `try` of `decide` comes to. -/
def asked (event : Json) : Except AskError Json :=
  match decisionRequest env py uuid event with
  | .error e => .error (catching e)
  | .ok request => askAxg exchange request

/-- Does a failure deny? -/
def denies : Bool := py.lower (env.failMode.getD (lit "ask")) = lit "deny"

/-- Does ALLOW skip the user's prompt? -/
def autoAllows : Bool := py.lower (env.autoAllow.getD []) = lit "true"

/-- The output for AXG's decision. -/
def onDecision (axg : Dict Json) : Except PyError (Option Json) := do
  let verdict ← pyStr py ((axg.lookup (lit "decision")).getD .null)
  let why ← pyStr py (orDefault (axg.lookup (lit "reason")) (.lit "no reason given"))
  let reason := lit "AXG " ++ verdict ++ lit ": " ++ why
  if claimIs axg "decision" (lit "BLOCK") then return some (output (lit "deny") reason)
  else if claimIs axg "decision" (lit "ALLOW") then
    return if autoAllows env py then some (output (lit "allow") reason) else none
  else return some (output (lit "ask") reason)

/-- `decide` -/
def decide (event : Json) : Except Raised (Option Json) :=
  match asked env py exchange uuid event with
  | .error .handled => .ok (some (output (if denies env py then lit "deny" else lit "ask")
      (lit "AXG could not evaluate this action (" ++ excText ++ lit "); a human must decide.")))
  | .error (.raised e) => .error e
  | .ok reply => do
    let axg ← raising (asDict reply)
    raising (onDecision env py axg)

/-- `main`: what it writes to `stdout`. -/
def main (stdin : Str) : Except Raised Str := do
  let event ← raising (readEvent stdin)
  match ← decide env py exchange uuid excText event with
  | none => return []
  | some result => raising (dumpsAscii [0x20] result)

end Hook

/-! ## 2. What it means to fail closed -/

/-- A text with a permission decision. -/
def Writes (text decision : Str) : Prop :=
  ∃ answer specific, loads text = .ok (.obj answer) ∧
    answer.lookup (lit "hookSpecificOutput") = some (.obj specific) ∧
    specific.lookup (lit "permissionDecision") = some (.str decision)

/-- AXG's reply to the event on `stdin` is an object. -/
def ReplyIs (env : Env) (py : Interpreter) (exchange : UrlOpen) (uuid : Text) (stdin : Str)
    (axg : Dict Json) : Prop :=
  ∃ event request, readEvent stdin = .ok event ∧ decisionRequest env py uuid event = .ok request ∧
    Replies exchange decisionsPath request (.obj axg)

/-- `main` ends, and writes a decision to ask or to deny unless AXG allows the tool.  Without a
reply it denies if that is the mode. -/
def FailsClosed (env : Env) (py : Interpreter) (exchange : UrlOpen) (uuid : Text)
    (excText stdin : Str) :
    Prop :=
  ∃ text, main env py exchange uuid excText stdin = .ok text ∧
    ((∃ axg, ReplyIs env py exchange uuid stdin axg ∧
        axg.lookup (lit "decision") = some (.str (lit "ALLOW"))) ∨
      ∃ decision, Writes text decision ∧ (decision = lit "ask" ∨ decision = lit "deny") ∧
        (denies env py = true → (∀ axg, ¬ ReplyIs env py exchange uuid stdin axg) →
          decision = lit "deny"))

/-- The exchange does not end in an exception that is not handled, and a reply is an object.
Bytes that are no JSON text are handled, so they end well; a JSON text of another kind is not. -/
def Ends (exchange : UrlOpen) (request : Dict Json) : Prop :=
  ∀ body, dumpsAscii [0x20] (.obj request) = .ok body → exchange decisionsPath body ≠ .raised ∧
    ∀ bytes, exchange decisionsPath body = .read bytes →
      ∀ reply, loadsReply bytes = .ok reply → ∃ axg, reply = .obj axg

section Specs

variable {env : Env} {py : Interpreter} {exchange : UrlOpen} {uuid : Text} {excText stdin : Str}

/-! ## 3. The steps -/

theorem writes_output {decision reason text : Str} (hplain : IsPlain decision)
    (h : dumpsAscii [0x20] (output decision reason) = .ok text) : Writes text decision := by
  have hloads := loads_dumpsAscii padSpace h
  have hjoin := joinSurrogates_of_plain hplain
  refine ⟨_, _, hloads, rfl, ?_⟩
  exact congrArg (fun s => some (Json.str s)) hjoin

theorem dumpsAscii_output (decision reason : Str) :
    ∃ text, dumpsAscii [0x20] (output decision reason) = .ok text :=
  ⟨_, if_pos rfl⟩

theorem readEvent_short {event : Json} (h : readEvent stdin = .ok event) :
    event.hasShortInts = true := by
  unfold readEvent at h
  split at h
  · cases h
    rfl
  · exact loads_hasShortInts h

theorem decisionRequest_isOk_iff {event : Json} (hshort : event.hasShortInts = true) :
    (∃ request, decisionRequest env py uuid event = .ok request) ↔
      ∃ members, event = .obj members := by
  constructor
  · rintro ⟨request, h⟩
    obtain ⟨members, hmembers, -⟩ := bind_eq_ok h
    exact ⟨members, asDict_eq_ok.mp hmembers⟩
  · rintro ⟨members, rfl⟩
    obtain ⟨executionId, hid⟩ := @pyStr_of_short py _
      ((@hasShortInts_orDefault _ uuid).mpr (short_lookup hshort (lit "tool_use_id")))
    obtain ⟨agent, hagent⟩ := @pyStr_of_short py _
      ((@hasShortInts_orDefault _ (.lit "main")).mpr (short_lookup hshort (lit "agent_type")))
    unfold decisionRequest
    rw [asDict_eq_ok.mpr rfl, ok_bind, hid, ok_bind, hagent, ok_bind]
    exact ⟨_, rfl⟩

theorem askAxg_eq_ok {request : Dict Json} {reply : Json} :
    askAxg exchange request = .ok reply ↔ Replies exchange decisionsPath request reply := by
  unfold askAxg Replies
  cases dumpsAscii [0x20] (.obj request) with
  | error e => simp
  | ok text =>
    simp only [Except.ok.injEq, exists_eq_left', exists_and_left]
    cases exchange decisionsPath text with
    | read bytes =>
      simp only [UrlExchange.read.injEq, exists_eq_left']
      cases loadsReply bytes <;> simp
    | _ => simp

/-- Asking does not raise, exactly when the exchange ends in a way that is handled. -/
theorem askAxg_ends_iff {request : Dict Json} :
    ((∀ e, askAxg exchange request ≠ .error (.raised e)) ∧
        ∀ reply, askAxg exchange request = .ok reply → ∃ axg, reply = .obj axg) ↔
      Ends exchange request := by
  unfold askAxg Ends
  cases hbody : dumpsAscii [0x20] (.obj request) with
  | error e =>
    have he : e.isValueError = true := by
      unfold dumpsAscii at hbody
      split at hbody
      · cases hbody
      · cases hbody
        rfl
    simp [catching, he]
  | ok body =>
    simp only [Except.ok.injEq, forall_eq']
    cases exchange decisionsPath body with
    | unmade => simp
    | failed => simp
    | raised => simp
    | read bytes =>
      simp only [ne_eq, reduceCtorEq, not_false_eq_true, UrlExchange.read.injEq, true_and,
        forall_eq']
      cases loadsReply bytes <;> simp

/-- Nothing but ALLOW is passed over in silence, or told as anything but a refusal. -/
theorem onDecision_ok {axg : Dict Json} (hshort : (Json.obj axg).hasShortInts = true) :
    ∃ result, onDecision env py axg = .ok result ∧
      ((result = none ∧ axg.lookup (lit "decision") = some (.str (lit "ALLOW"))) ∨
        ∃ decision reason, result = some (output decision reason) ∧
          (axg.lookup (lit "decision") = some (.str (lit "ALLOW")) ∨
            decision = lit "ask" ∨ decision = lit "deny")) := by
  have hverdict : ((axg.lookup (lit "decision")).getD .null).hasShortInts = true := by
    cases hv : axg.lookup (lit "decision") with
    | none => rfl
    | some v => exact short_lookup hshort _ v hv
  obtain ⟨verdict, hverdict⟩ := @pyStr_of_short py _ hverdict
  obtain ⟨why, hwhy⟩ := @pyStr_of_short py _
    ((@hasShortInts_orDefault _ (.lit "no reason given")).mpr (short_lookup hshort (lit "reason")))
  unfold onDecision
  rw [hverdict, ok_bind, hwhy, ok_bind]
  by_cases hblock : claimIs axg "decision" (lit "BLOCK") = true
  · rw [if_pos hblock]
    exact ⟨_, rfl, .inr ⟨_, _, rfl, .inr (.inr rfl)⟩⟩
  · rw [if_neg hblock]
    by_cases hallow : claimIs axg "decision" (lit "ALLOW") = true
    · rw [if_pos hallow]
      have hallow := claimIs_iff.mp hallow
      by_cases hauto : autoAllows env py = true
      · rw [if_pos hauto]
        exact ⟨_, rfl, .inr ⟨_, _, rfl, .inl hallow⟩⟩
      · rw [if_neg hauto]
        exact ⟨_, rfl, .inl ⟨rfl, hallow⟩⟩
    · rw [if_neg hallow]
      exact ⟨_, rfl, .inr ⟨_, _, rfl, .inr (.inl rfl)⟩⟩

/-- `asked`, of an object. -/
theorem asked_eq {event : Json} {request : Dict Json}
    (h : decisionRequest env py uuid event = .ok request) :
    asked env py exchange uuid event = askAxg exchange request := by
  rw [asked, h]

theorem decide_of_reply {event : Json} {axg : Dict Json} {result : Option Json}
    (h : asked env py exchange uuid event = .ok (.obj axg))
    (hresult : onDecision env py axg = .ok result) :
    decide env py exchange uuid excText event = .ok result := by
  unfold decide
  rw [h]
  exact raising_eq_ok.mpr hresult

theorem main_of_decide {event : Json} (hevent : readEvent stdin = .ok event) :
    main env py exchange uuid excText stdin =
      (decide env py exchange uuid excText event >>= fun result =>
        match result with
        | none => .ok []
        | some result => raising (dumpsAscii [0x20] result)) := by
  rw [main, raising_eq_ok.mpr hevent, ok_bind]
  rfl

/-! ## 4. When the hook fails closed -/

/-- The hook fails closed exactly when the event is an object, the exchange raises nothing that
is not handled, and a reply is an object.  Four exceptions are handled around the exchange and
one around the reading of the event; whatever else is raised leaves the hook before it has
written an answer. -/
theorem failsClosed_iff (env : Env) (py : Interpreter) (exchange : UrlOpen) (uuid : Text)
    (excText stdin : Str) :
    FailsClosed env py exchange uuid excText stdin ↔
      ∃ event, readEvent stdin = .ok (.obj event) ∧
        ∀ request, decisionRequest env py uuid (.obj event) = .ok request →
          Ends exchange request := by
  constructor
  · rintro ⟨text, h, -⟩
    obtain ⟨event, hevent, h⟩ := bind_eq_ok h
    obtain ⟨result, hresult, -⟩ := bind_eq_ok h
    rw [raising_eq_ok] at hevent
    have hshort := readEvent_short hevent
    by_cases hobj : ∃ members, event = .obj members
    · obtain ⟨members, rfl⟩ := hobj
      refine ⟨members, hevent, fun request hrequest => askAxg_ends_iff.mp ⟨?_, ?_⟩⟩
      · intro e he
        rw [decide, asked_eq hrequest, he] at hresult
        cases hresult
      · intro reply hreply
        rw [decide, asked_eq hrequest, hreply] at hresult
        obtain ⟨axg, haxg, -⟩ := bind_eq_ok hresult
        exact ⟨axg, asDict_eq_ok.mp (raising_eq_ok.mp haxg)⟩
    · have hraises : asked env py exchange uuid event =
          .error (.raised (.python .attributeError)) := by
        cases event with
        | obj members => exact absurd ⟨members, rfl⟩ hobj
        | _ => rfl
      rw [decide, hraises] at hresult
      cases hresult
  · rintro ⟨event, hevent, hends⟩
    obtain ⟨request, hrequest⟩ :=
      (@decisionRequest_isOk_iff env py uuid _ (readEvent_short hevent)).mpr ⟨event, rfl⟩
    obtain ⟨hraise, hobject⟩ := askAxg_ends_iff.mpr (hends request hrequest)
    have hreplies : ∀ axg, ReplyIs env py exchange uuid stdin axg ↔
        askAxg exchange request = .ok (.obj axg) := by
      intro axg
      constructor
      · rintro ⟨event', request', hevent', hrequest', hreply⟩
        cases hevent.symm.trans hevent'
        cases hrequest.symm.trans hrequest'
        exact askAxg_eq_ok.mpr hreply
      · exact fun h => ⟨_, request, hevent, hrequest, askAxg_eq_ok.mp h⟩
    unfold FailsClosed
    simp only [hreplies]
    rw [main_of_decide hevent]
    cases hasked : askAxg exchange request with
    | error e =>
      cases e with
      | raised e => exact absurd hasked (hraise e)
      -- the answer of `except`: ask, or deny where the mode says so
      | handled =>
        obtain ⟨text, htext⟩ := dumpsAscii_output
          (if denies env py = true then lit "deny" else lit "ask")
          (lit "AXG could not evaluate this action (" ++ excText ++ lit "); a human must decide.")
        rw [decide, asked_eq hrequest, hasked]
        refine ⟨text, raising_eq_ok.mpr htext, .inr ⟨_, writes_output ?_ htext, ?_, ?_⟩⟩
        · split <;> decide
        · split
          · exact .inr rfl
          · exact .inl rfl
        · exact fun hdeny _ => if_pos hdeny
    | ok reply =>
      obtain ⟨axg, rfl⟩ := hobject reply hasked
      obtain ⟨-, bytes, -, -, hbytes⟩ := askAxg_eq_ok.mp hasked
      obtain ⟨result, hresult, hverdict⟩ := @onDecision_ok env py axg (loadsReply_short hbytes)
      rw [decide_of_reply ((asked_eq hrequest).trans hasked) hresult, ok_bind]
      rcases hverdict with ⟨rfl, hallow⟩ | ⟨decision, reason, rfl, hdecision⟩
      · exact ⟨[], rfl, .inl ⟨axg, rfl, hallow⟩⟩
      · obtain ⟨text, htext⟩ := dumpsAscii_output decision reason
        refine ⟨text, raising_eq_ok.mpr htext, ?_⟩
        rcases hdecision with hallow | hdecision
        · exact .inl ⟨axg, rfl, hallow⟩
        · refine .inr ⟨decision, writes_output ?_ htext, hdecision, ?_⟩
          · rcases hdecision with rfl | rfl <;> decide
          · exact fun _ hno => absurd rfl (hno axg)

end Specs

/-! ## 5. Two runs -/

/-- Nothing is configured but to deny. -/
def denyEnv : Env := ⟨none, none, none, none, none, none, some (lit "deny")⟩

/-- A connection that AXG closes without an answer, and an event in a list: the hook ends in an
exception, and writes nothing. -/
theorem hook_fails_open :
    main denyEnv plainInterpreter (fun _ _ => .raised) (.lit "u") [] [] = .error .connection ∧
      main denyEnv plainInterpreter (fun _ _ => .failed) (.lit "u") [] (lit "[]") =
        .error (.python .attributeError) ∧
      ¬ FailsClosed denyEnv plainInterpreter (fun _ _ => .raised) (.lit "u") [] [] ∧
      ¬ FailsClosed denyEnv plainInterpreter (fun _ _ => .failed) (.lit "u") [] (lit "[]") := by
  have hclosed : main denyEnv plainInterpreter (fun _ _ => .raised) (.lit "u") [] [] =
      .error .connection := rfl
  have hlist : main denyEnv plainInterpreter (fun _ _ => .failed) (.lit "u") [] (lit "[]") =
      .error (.python .attributeError) := rfl
  refine ⟨hclosed, hlist, ?_, ?_⟩
  · rintro ⟨text, h, -⟩
    cases hclosed.symm.trans h
  · rintro ⟨text, h, -⟩
    cases hlist.symm.trans h

end ClaudeHook

end Axg
