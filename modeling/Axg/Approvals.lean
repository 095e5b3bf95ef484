/-
# Approvals (`axg/approvals.py`)

`ApprovalService.submit` checks a ticket, the caller, the approver and the policy, and exchanges
the ticket for a Passport whose `jti` is the ticket id.  It keeps no state.  Loading the policy can
suspend the call, so the checks before it (`admitRequest`) and the exchange after it (`exchange`)
read the clock apart.
-/
import Axg.Passports

namespace Axg

open Python

/-! ## 1. Requests and answers -/

structure ApproverIdentity where
  id : Text
  role : Text
  id_ne : id.str ≠ []
  role_ne : role.str ≠ []

inductive Outcome
  | approve
  | deny
deriving DecidableEq

structure ApprovalRequest where
  ticket : Token
  actionablePayload : JsonObject
  approver : ApproverIdentity
  outcome : Outcome

structure ApprovalResponse where
  executionId : Text
  outcome : Outcome
  passport : Option Token
  passportId : Option Text
  actionablePayload : JsonObject

structure ApprovalRecord where
  executionId : Text
  tenantId : Text
  appId : Text
  actionType : Text
  policy : Text
  ticketId : Text
  payloadHash : Str
  approverId : Text
  approverRole : Text
  outcome : Outcome
  clientId : Text
  passportId : Option Text
  createdAt : Text
  traceId : Option Text

/-- `ApprovalRejected`, with its status code and detail, or an exception that is not caught. -/
inductive SubmitError
  | rejected (statusCode : Nat) (detail : Text)
  | raised (e : PyError)

/-- `str(ApprovalTicketError)` -/
def TicketError.text : TicketError → Text
  | notATicket => .lit "Not an approval ticket"
  | unknownKey => .lit "Unknown signing key"
  | invalidOrExpired => .lit "Invalid or expired approval ticket"

/-! ## 2. `submit` -/

/-- `APPROVE_PERMISSION` -/
def approvePermission : Text := .lit "approvals:approve"

/-- `END_USER_ROLE` -/
def endUserRole : Text := .lit "end_user"

/-- `_verified_ticket` -/
def verifiedTicket (verificationKey : KeyLookup) (now : Clock) (token : Token) :
    Except SubmitError TicketClaims :=
  match verifyTicketWith verificationKey now token with
  | .ok ticket => .ok ticket
  | .error e => .error (.rejected 400 e.text)

/-- `_check_caller` -/
def checkCaller (ticket : TicketClaims) (caller : Caller) : Except SubmitError Unit :=
  if caller.mayActFor ticket.aud = false then
    .error (.rejected 403 (.lit "The caller may not submit approvals for this app"))
  else if approvePermission ∉ caller.effectivePermissions [approvePermission] then
    .error (.rejected 403
      (.lit "The caller needs the '" ++ approvePermission ++ .lit "' permission"))
  else .ok ()

/-- Is the approver the agent of the ticket? -/
def TicketClaims.isAgent (ticket : TicketClaims) (id : Text) : Bool :=
  ticket.agentId.any (fun agent => agent.str ≠ [] ∧ id = agent)

/-- Is the action another user's? -/
def TicketClaims.isAnotherUser (ticket : TicketClaims) (id : Text) : Bool :=
  ticket.requiredRole = endUserRole && ticket.userId.any (fun user => user.str ≠ [] ∧ id ≠ user)

/-- `_check_approver` -/
def checkApprover (sha : Sha256) (ticket : TicketClaims) (request : ApprovalRequest) :
    Except SubmitError Unit :=
  match hashPayload sha request.actionablePayload with
  | .error e => .error (.raised e)
  | .ok hash =>
    if hash ≠ ticket.payloadHash then
      .error (.rejected 409 (.lit "The payload differs from the one that was decided"))
    else if request.approver.role ≠ ticket.requiredRole then
      .error (.rejected 403 (.lit "This action must be approved by the role '" ++
        ticket.requiredRole ++ .lit "'"))
    else if ticket.isAgent request.approver.id then
      .error (.rejected 403 (.lit "An agent cannot approve its own action"))
    else if ticket.isAnotherUser request.approver.id then
      .error (.rejected 403
        (.lit "Only the user the action was proposed for can approve it"))
    else .ok ()

/-- `submit`, up to the policy. -/
def admitRequestWith (sha : Sha256) (verificationKey : KeyLookup) (request : ApprovalRequest)
    (caller : Caller) (now : Clock) : Except SubmitError TicketClaims :=
  if caller.authenticated = false then
    .error (.rejected 401 (.lit "Approvals require an authenticated caller"))
  else do
    let ticket ← verifiedTicket verificationKey now request.ticket
    checkCaller ticket caller
    checkApprover sha ticket request
    return ticket

/-- The same with the keys of a key manager. -/
def admitRequest (sha : Sha256) (keys : KeyManager) (request : ApprovalRequest) (caller : Caller)
    (now : Clock) : Except SubmitError TicketClaims :=
  admitRequestWith sha keys.lookup request caller now

/-- `_check_policy`, on what the loader returned. -/
def checkPolicy (ticket : TicketClaims) (loaded : Option Plugin) : Except SubmitError Unit :=
  match loaded with
  | none => .error (.rejected 409 (.lit "The policy that decided is no longer available"))
  | some plugin =>
    if plugin.versionLabel ≠ ticket.policy then
      .error (.rejected 409
        (.lit "The policy changed since the decision. Request a new decision."))
    else .ok ()

/-- The arguments of `sign_decision` for an approved ticket. -/
def approvalGrant (ticket : TicketClaims) (request : ApprovalRequest) (caller : Caller) :
    DecisionGrant where
  executionId := ticket.sub
  appId := ticket.aud
  tenantId := ticket.tenantId
  decision := .allow
  actionType := ticket.actionType
  actionablePayload := request.actionablePayload
  clientId := caller.clientId
  policy := ticket.policy
  jti := some ticket.jti
  approval := some ⟨ticket.jti, request.approver.id, request.approver.role⟩

/-- What the interpreter adds to a call: `str(uuid.uuid4())`, `datetime.now().isoformat()` and
`current_trace_id()`. -/
structure CallContext where
  uuid : Text
  createdAt : Text
  traceId : Option Text

/-- The Passport of an approval. -/
def approvalPassport (sha : Sha256) (keys : KeyManager) (ticket : TicketClaims)
    (request : ApprovalRequest) (caller : Caller) (now : Clock) (uuid : Text) :
    Except SubmitError (Option (Token × Text)) :=
  match request.outcome with
  | .deny => .ok none
  | .approve =>
    match signDecision sha keys now uuid (approvalGrant ticket request caller) with
    | .ok passport => .ok (some passport)
    | .error e =>
      if e.isValueError then
        .error (.rejected 503 (.lit "AXG could not issue a Passport. Retry the approval."))
      else .error (.raised e)

def approvalResponse (ticket : TicketClaims) (request : ApprovalRequest)
    (passport : Option (Token × Text)) : ApprovalResponse where
  executionId := ticket.sub
  outcome := request.outcome
  passport := passport.map Prod.fst
  passportId := passport.map Prod.snd
  actionablePayload := if passport.isSome then request.actionablePayload else .empty

def approvalRecord (ticket : TicketClaims) (request : ApprovalRequest) (caller : Caller)
    (passport : Option (Token × Text)) (context : CallContext) : ApprovalRecord where
  executionId := ticket.sub
  tenantId := ticket.tenantId
  appId := ticket.aud
  actionType := ticket.actionType
  policy := ticket.policy
  ticketId := ticket.jti
  payloadHash := ticket.payloadHash
  approverId := request.approver.id
  approverRole := request.approver.role
  outcome := request.outcome
  clientId := caller.clientId
  passportId := passport.map Prod.snd
  createdAt := context.createdAt
  traceId := context.traceId

/-- `submit`, from the policy on. -/
def exchange (sha : Sha256) (keys : KeyManager) (ticket : TicketClaims)
    (request : ApprovalRequest) (caller : Caller) (loaded : Option Plugin) (now : Clock)
    (context : CallContext) : Except SubmitError (ApprovalResponse × ApprovalRecord) := do
  checkPolicy ticket loaded
  let passport ← approvalPassport sha keys ticket request caller now context.uuid
  return (approvalResponse ticket request passport,
    approvalRecord ticket request caller passport context)

/-- `ApprovalService.submit`: the clock reads `now` before the policy is loaded, `later` after. -/
def submit (sha : Sha256) (keys : KeyManager) (request : ApprovalRequest) (caller : Caller)
    (loaded : Option Plugin) (now later : Clock) (context : CallContext) :
    Except SubmitError (ApprovalResponse × ApprovalRecord) := do
  let ticket ← admitRequest sha keys request caller now
  exchange sha keys ticket request caller loaded later context

/-! ## 3. What an approval has checked -/

/-- Everything `submit` checks before it loads the policy.  Each field is a check that can
refuse. -/
structure AdmittedWith (sha : Sha256) (verificationKey : KeyLookup) (request : ApprovalRequest)
    (caller : Caller) (now : Clock) (ticket : TicketClaims) : Prop where
  authenticated : caller.authenticated = true
  verified : verifyTicketWith verificationKey now request.ticket = .ok ticket
  mayAct : caller.mayActFor ticket.aud = true
  mayApprove : approvePermission ∈ caller.effectivePermissions [approvePermission]
  payload : hashPayload sha request.actionablePayload = .ok ticket.payloadHash
  role : request.approver.role = ticket.requiredRole
  notAgent : ticket.isAgent request.approver.id = false
  notAnotherUser : ticket.isAnotherUser request.approver.id = false

/-- The same with the keys of a key manager. -/
abbrev Admitted (sha : Sha256) (keys : KeyManager) (request : ApprovalRequest) (caller : Caller)
    (now : Clock) (ticket : TicketClaims) : Prop :=
  AdmittedWith sha keys.lookup request caller now ticket

section

variable {sha : Sha256} {verificationKey : KeyLookup} {keys : KeyManager} {ticket : TicketClaims}
  {request : ApprovalRequest} {caller : Caller} {now : Clock}

theorem verifiedTicket_eq_ok {token : Token}
    (h : verifiedTicket verificationKey now token = .ok ticket) :
    verifyTicketWith verificationKey now token = .ok ticket := by
  unfold verifiedTicket at h
  split at h
  · rename_i t ht
    cases h
    exact ht
  · cases h

theorem checkCaller_eq_ok (h : checkCaller ticket caller = .ok ()) :
    caller.mayActFor ticket.aud = true ∧
      approvePermission ∈ caller.effectivePermissions [approvePermission] := by
  unfold checkCaller at h
  split at h
  · cases h
  rename_i hact
  split at h
  · cases h
  rename_i hperm
  exact ⟨by simpa using hact, not_not.mp hperm⟩

theorem checkApprover_eq_ok (h : checkApprover sha ticket request = .ok ()) :
    hashPayload sha request.actionablePayload = .ok ticket.payloadHash ∧
      request.approver.role = ticket.requiredRole ∧
      ticket.isAgent request.approver.id = false ∧
      ticket.isAnotherUser request.approver.id = false := by
  unfold checkApprover at h
  split at h
  · cases h
  rename_i hash hhash
  split at h
  · cases h
  rename_i heq
  split at h
  · cases h
  rename_i hrole
  split at h
  · cases h
  rename_i hagent
  split at h
  · cases h
  rename_i huser
  exact ⟨by rw [hhash, not_not.mp heq], not_not.mp hrole, by simpa using hagent,
    by simpa using huser⟩

theorem admitRequestWith_eq_ok
    (h : admitRequestWith sha verificationKey request caller now = .ok ticket) :
    AdmittedWith sha verificationKey request caller now ticket := by
  unfold admitRequestWith at h
  split at h
  · cases h
  rename_i hauth
  obtain ⟨t, ht, h⟩ := bind_eq_ok h
  obtain ⟨u, hcaller, h⟩ := bind_eq_ok h
  obtain ⟨u, happrover, h⟩ := bind_eq_ok h
  cases h
  obtain ⟨hact, hperm⟩ := checkCaller_eq_ok hcaller
  obtain ⟨hhash, hrole, hagent, huser⟩ := checkApprover_eq_ok happrover
  exact ⟨by simpa using hauth, verifiedTicket_eq_ok ht, hact, hperm, hhash, hrole, hagent, huser⟩

theorem admitRequest_eq_ok (h : admitRequest sha keys request caller now = .ok ticket) :
    Admitted sha keys request caller now ticket := admitRequestWith_eq_ok h

/-- Everything the rest of `submit` does when it returns. -/
theorem exchange_eq_ok {loaded : Option Plugin} {context : CallContext}
    {response : ApprovalResponse} {record : ApprovalRecord}
    (h : exchange sha keys ticket request caller loaded now context = .ok (response, record)) :
    ∃ plugin passport, loaded = some plugin ∧ plugin.versionLabel = ticket.policy ∧
      approvalPassport sha keys ticket request caller now context.uuid = .ok passport ∧
      response = approvalResponse ticket request passport ∧
      record = approvalRecord ticket request caller passport context := by
  obtain ⟨u, hpolicy, h⟩ := bind_eq_ok h
  obtain ⟨passport, hpassport, h⟩ := bind_eq_ok h
  cases h
  unfold checkPolicy at hpolicy
  split at hpolicy
  · cases hpolicy
  rename_i plugin
  split at hpolicy
  · cases hpolicy
  rename_i hlabel
  exact ⟨plugin, passport, rfl, not_not.mp hlabel, hpassport, rfl, rfl⟩

/-- A Passport is given for an approval only, and is what `sign_decision` issues for it. -/
theorem approvalPassport_eq_some {uuid : Text} {token : Token} {jti : Text}
    (h : approvalPassport sha keys ticket request caller now uuid = .ok (some (token, jti))) :
    request.outcome = .approve ∧
      signDecision sha keys now uuid (approvalGrant ticket request caller) =
        .ok (token, jti) := by
  unfold approvalPassport at h
  cases ho : request.outcome with
  | deny => rw [ho] at h; cases h
  | approve =>
    rw [ho] at h
    simp only at h
    split at h
    · rename_i passport hp
      cases h
      exact ⟨rfl, hp⟩
    · split at h <;> cases h

/-! ## 4. What an approval is refused with -/

/-- The refusals whose text is fixed, with their status. -/
def refusals : List (Nat × Text) :=
  [(401, .lit "Approvals require an authenticated caller"), (400, TicketError.notATicket.text),
    (400, TicketError.unknownKey.text), (400, TicketError.invalidOrExpired.text),
    (403, .lit "The caller may not submit approvals for this app"),
    (403, .lit "The caller needs the '" ++ approvePermission ++ .lit "' permission"),
    (409, .lit "The payload differs from the one that was decided"),
    (403, .lit "An agent cannot approve its own action"),
    (403, .lit "Only the user the action was proposed for can approve it"),
    (409, .lit "The policy that decided is no longer available"),
    (409, .lit "The policy changed since the decision. Request a new decision."),
    (503, .lit "AXG could not issue a Passport. Retry the approval.")]

/-- The refusal of another role names the role that the ticket asks for. -/
def roleRefusal (ticket : TicketClaims) : Text :=
  .lit "This action must be approved by the role '" ++ ticket.requiredRole ++ .lit "'"

variable {status : Nat} {detail : Text}

theorem verifiedTicket_refusal {token : Token}
    (h : verifiedTicket verificationKey now token = .error (.rejected status detail)) :
    (status, detail) ∈ refusals := by
  unfold verifiedTicket at h
  split at h
  · cases h
  · rename_i e _
    cases h
    cases e <;> simp [refusals]

theorem checkCaller_refusal (h : checkCaller ticket caller = .error (.rejected status detail)) :
    (status, detail) ∈ refusals := by
  unfold checkCaller at h
  split at h
  · cases h
    simp [refusals]
  split at h
  · cases h
    simp [refusals]
  · cases h

theorem checkApprover_refusal
    (h : checkApprover sha ticket request = .error (.rejected status detail)) :
    (status, detail) ∈ refusals ∨ (status, detail) = (403, roleRefusal ticket) := by
  unfold checkApprover at h
  split at h
  · cases h
  split at h
  · cases h
    exact Or.inl (by simp [refusals])
  split at h
  · cases h
    exact Or.inr rfl
  split at h
  · cases h
    exact Or.inl (by simp [refusals])
  split at h
  · cases h
    exact Or.inl (by simp [refusals])
  · cases h

theorem exchange_refusal {loaded : Option Plugin} {context : CallContext}
    (h : exchange sha keys ticket request caller loaded now context =
      .error (.rejected status detail)) : (status, detail) ∈ refusals := by
  obtain hpolicy | ⟨u, -, h⟩ := bind_eq_error h
  · unfold checkPolicy at hpolicy
    split at hpolicy
    · cases hpolicy
      simp [refusals]
    split at hpolicy
    · cases hpolicy
      simp [refusals]
    · cases hpolicy
  obtain hpassport | ⟨passport, -, h⟩ := bind_eq_error h
  · unfold approvalPassport at hpassport
    split at hpassport
    · cases hpassport
    split at hpassport
    · cases hpassport
    split at hpassport
    · cases hpassport
      simp [refusals]
    · cases hpassport
  · cases h

/-- The table is complete: what `submit` refuses with is in it, or names the role of a ticket
that was verified. -/
theorem submit_refusal {loaded : Option Plugin} {later : Clock} {context : CallContext}
    (h : submit sha keys request caller loaded now later context =
      .error (.rejected status detail)) :
    (status, detail) ∈ refusals ∨ ∃ ticket,
      verifyApprovalTicket keys now request.ticket = .ok ticket ∧
        (status, detail) = (403, roleRefusal ticket) := by
  obtain hadmit | ⟨ticket, -, hexchange⟩ := bind_eq_error h
  · unfold admitRequest admitRequestWith at hadmit
    split at hadmit
    · cases hadmit
      exact Or.inl (by simp [refusals])
    obtain hticket | ⟨ticket, hticket, hadmit⟩ := bind_eq_error hadmit
    · exact Or.inl (verifiedTicket_refusal hticket)
    obtain hcaller | ⟨u, -, hadmit⟩ := bind_eq_error hadmit
    · exact Or.inl (checkCaller_refusal hcaller)
    obtain happrover | ⟨u, -, hadmit⟩ := bind_eq_error hadmit
    · exact (checkApprover_refusal happrover).imp id fun hrole =>
        ⟨ticket, verifiedTicket_eq_ok hticket, hrole⟩
    · cases hadmit
  · exact Or.inl (exchange_refusal hexchange)

end

end Axg
