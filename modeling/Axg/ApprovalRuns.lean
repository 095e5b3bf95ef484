/-
# One approval, many Passports

A ticket can be submitted again and again while it lasts, and each approval of it yields a new
Passport with the ticket's id as `jti` (`OfTicket`).  Only the replay cache makes them one use, and
it forgets the id once the first Passport that it saw has expired: five minutes after that Passport
was signed, while the ticket may last for a week.  What makes it forget is a reading of the clock
that any call brings to the cache, also a call about another ticket.  `approved_once_iff` is the
exact condition.

The runs interleave the two halves of `submit` calls on one ticket, the three steps of
`verify_passport` calls, and any calls on tokens with another `jti`.
-/
import Axg.Approvals
import Axg.Replay

namespace Axg

open Python General

/-! ## 1. Runs -/

/-- A `submit` call between its two halves. -/
structure Submission where
  ticket : TicketClaims
  request : ApprovalRequest
  caller : Caller

/-- `passports` are the tokens that the approvals so far have returned. -/
structure TicketRun where
  replay : ReplayState
  submissions : List Submission
  passports : List Token

/-- No call yet. -/
def TicketRun.Init (s : TicketRun) : Prop :=
  s.replay.Init ∧ s.submissions = [] ∧ s.passports = []

/-- A Passport of the ticket, or a token with another `jti`. -/
def TicketRun.Presents (s : TicketRun) (ticketId : Text) (call : VerifyCall) : Prop :=
  call.token ∈ s.passports ∨ call.token.claims.lookup (lit "jti") ≠ some (.str ticketId)

/-- One step of the calls on a ticket. -/
inductive TicketStep (sha : Sha256) (keys : KeyManager) (ticket : ApprovalChallenge) :
    TicketRun → TicketRun → Prop
  | replay (s : TicketRun) (r : ReplayState)
      (h : ReplayStep sha (s.Presents ticket.ticketId) s.replay r) :
    TicketStep sha keys ticket s { s with replay := r }
  | admitRequest (s : TicketRun) (request : ApprovalRequest) (caller : Caller)
      (claims : TicketClaims)
      (hrequest : request.ticket = ticket.ticket)
      (h : admitRequest sha keys request caller s.replay.now = .ok claims) :
    TicketStep sha keys ticket s
      { s with submissions := s.submissions ++ [⟨claims, request, caller⟩] }
  | exchange (s : TicketRun) (before after : List Submission) (submission : Submission)
      (loaded : Option Plugin) (context : CallContext) (response : ApprovalResponse)
      (record : ApprovalRecord) (hs : s.submissions = before ++ submission :: after)
      (h : exchange sha keys submission.ticket submission.request submission.caller loaded
        s.replay.now context = .ok (response, record)) :
    TicketStep sha keys ticket s
      { s with
        submissions := before ++ after
        passports := s.passports ++ response.passport.toList }

/-! ## 2. The Passports of a ticket -/

/-- A token that an approval of the ticket can have returned. -/
def OfTicket (ticketId : Text) (token : Token) : Prop :=
  ∃ header signer c, c.nbf = c.iat ∧ c.jti = ticketId ∧
    token = .jws header (PassportClaims.dump c) (some signer)

theorem OfTicket.jti {ticketId : Text} {token : Token} (h : OfTicket ticketId token) :
    token.claims.lookup (lit "jti") = some (.str ticketId) := by
  obtain ⟨header, signer, c, -, rfl, rfl⟩ := h
  rfl

/-- Claims of a Passport of the ticket, or of a token with another `jti`.  The cache knows tokens
by their `jti` alone, so this is all that a call on another ticket has to do with this one. -/
def TicketRun.Covers (ticketId : Text) (s : TicketRun) (claims : Dict Json) : Prop :=
  (∃ token ∈ s.passports, claims = token.claims) ∨
    claims.lookup (lit "jti") ≠ some (.str ticketId)

/-- A call that has asked the cache under the key of such claims. -/
def TicketRun.Asked (ticketId : Text) (s : TicketRun) (call : CacheCall) : Prop :=
  s.Covers ticketId call.claims ∧ replayKey call.claims = .ok (call.jti, call.expiresAt)

/-- What a run keeps: the cache is sound, each submission is on the ticket, each Passport is the
ticket's, and the claims that calls hold are a Passport's or have another `jti`. -/
structure TicketRun.Inv (ticketId : Text) (s : TicketRun) : Prop where
  replay : s.replay.Inv
  submissions : ∀ submission ∈ s.submissions, submission.ticket.jti = ticketId
  passports : ∀ token ∈ s.passports, OfTicket ticketId token
  pending : ∀ claims ∈ s.replay.pending, s.Covers ticketId claims
  waiting : ∀ call ∈ s.replay.waiting, s.Asked ticketId call
  finished : ∀ f ∈ s.replay.finished, s.Asked ticketId f.toCacheCall

section

variable {sha : Sha256} {keys : KeyManager} {issuedAt : Clock} {uuid : Text} {grant : TicketGrant}
  {challenge : ApprovalChallenge}

/-- The claims that a ticket reads back to have its id as `jti`. -/
theorem jti_of_verified (hsign : signApprovalTicket sha keys issuedAt uuid grant = .ok challenge)
    {now : Clock} {ticket : TicketClaims}
    (h : verifyApprovalTicket keys now challenge.ticket = .ok ticket) :
    ticket.jti = challenge.ticketId := by
  obtain ⟨hash, key, hd, hhash, -, rfl⟩ := signApprovalTicket_eq_ok hsign
  rw [((verifyApprovalTicket_dump (isScalar_hashPayload hhash) rfl).mp h).1]
  rfl

/-- An approval returns a Passport of its ticket. -/
theorem ofTicket_of_exchange {ticket : TicketClaims} {request : ApprovalRequest}
    {caller : Caller} {loaded : Option Plugin} {now : Clock} {context : CallContext}
    {response : ApprovalResponse} {record : ApprovalRecord} (hjti : ticket.jti.str ≠ [])
    (h : exchange sha keys ticket request caller loaded now context = .ok (response, record))
    {token : Token} (htoken : token ∈ response.passport) : OfTicket ticket.jti token := by
  obtain ⟨plugin, passport, -, -, hp, rfl, -⟩ := exchange_eq_ok h
  obtain ⟨⟨token', jti⟩, rfl, rfl⟩ := Option.map_eq_some_iff.mp htoken
  obtain ⟨-, hsign⟩ := approvalPassport_eq_some hp
  obtain ⟨hash, key, -, -, -, rfl, rfl⟩ := signDecision_eq_ok hsign
  refine ⟨_, _, _, rfl, ?_, rfl⟩
  exact if_neg hjti

theorem TicketRun.Inv.init {ticketId : Text} {s : TicketRun} (h : s.Init) : s.Inv ticketId := by
  obtain ⟨hr, hs, hp⟩ := h
  refine ⟨.init hr, by simp [hs], by simp [hp], ?_, ?_, ?_⟩
  · simp [hr.2.1]
  · simp [hr.2.2.1]
  · simp [hr.2.2.2]

/-- The steps of a `verify_passport` call. -/
theorem TicketRun.Inv.replayStep {ticketId : Text} {s : TicketRun} {r : ReplayState}
    (h : s.Inv ticketId) (hr : ReplayStep sha (s.Presents ticketId) s.replay r) :
    TicketRun.Inv ticketId { s with replay := r } := by
  have hreplay := h.replay.step hr
  cases hr with
  | tick t ht => exact ⟨hreplay, h.submissions, h.passports, h.pending, h.waiting, h.finished⟩
  | decode call cs hcall hok =>
    refine ⟨hreplay, h.submissions, h.passports, fun claims hclaims => ?_, h.waiting, h.finished⟩
    rcases List.mem_append.mp hclaims with hclaims | hclaims
    · exact h.pending claims hclaims
    obtain ⟨key, -, hjwt, -⟩ := decodeStep_eq_ok_iff.mp hok
    rw [List.mem_singleton.mp hclaims, ← (jwtDecode_eq_ok hjwt).2.1]
    exact hcall.imp (fun hc => ⟨_, hc, rfl⟩) id
  | refuse before after cs code hp hkey =>
    refine ⟨hreplay, h.submissions, h.passports, fun claims hclaims => ?_, h.waiting, h.finished⟩
    exact h.pending claims (hp ▸ mem_of_mem_rest hclaims)
  | readClock before after cs jti exp hp hkey =>
    refine ⟨hreplay, h.submissions, h.passports, fun claims hclaims => ?_, fun call hcall => ?_,
      h.finished⟩
    · exact h.pending claims (hp ▸ mem_of_mem_rest hclaims)
    · rcases List.mem_append.mp hcall with hcall | hcall
      · exact h.waiting call hcall
      · rw [List.mem_singleton.mp hcall]
        exact ⟨h.pending cs (by simp [hp]), hkey⟩
  | store before after call hw =>
    refine ⟨hreplay, h.submissions, h.passports, h.pending, fun c hc => ?_, fun f hf => ?_⟩
    · exact h.waiting c (hw ▸ mem_of_mem_rest hc)
    · rcases List.mem_append.mp hf with hf | hf
      · exact h.finished f hf
      · rw [List.mem_singleton.mp hf]
        exact h.waiting call (by simp [hw])

theorem TicketRun.Inv.step
    (hsign : signApprovalTicket sha keys issuedAt uuid grant = .ok challenge)
    (hid : challenge.ticketId.str ≠ []) {s t : TicketRun} (h : s.Inv challenge.ticketId)
    (hstep : TicketStep sha keys challenge s t) : t.Inv challenge.ticketId := by
  cases hstep with
  | replay r hr => exact h.replayStep hr
  | admitRequest request caller claims hrequest hok =>
    refine ⟨h.replay, ?_, h.passports, h.pending, h.waiting, h.finished⟩
    intro submission hsub
    rcases List.mem_append.mp hsub with hsub | hsub
    · exact h.submissions submission hsub
    · rw [List.mem_singleton.mp hsub]
      exact jti_of_verified hsign (hrequest ▸ (admitRequest_eq_ok hok).verified)
  | exchange before after submission loaded context response record hs hok =>
    have hjti : submission.ticket.jti = challenge.ticketId :=
      h.submissions submission (by simp [hs])
    let t : TicketRun :=
      { s with
        submissions := before ++ after
        passports := s.passports ++ response.passport.toList }
    -- an approval adds a Passport, and what was covered before stays covered
    have hmono : ∀ claims, s.Covers challenge.ticketId claims →
        t.Covers challenge.ticketId claims := by
      rintro claims (⟨token, htoken, hclaims⟩ | hne)
      · exact .inl ⟨token, List.mem_append_left _ htoken, hclaims⟩
      · exact .inr hne
    refine ⟨h.replay, fun sub hsub => h.submissions sub (hs ▸ mem_of_mem_rest hsub), ?_,
      fun claims hc => hmono claims (h.pending claims hc),
      fun call hc => (h.waiting call hc).imp_left (hmono _),
      fun f hf => (h.finished f hf).imp_left (hmono _)⟩
    intro token htoken
    rcases List.mem_append.mp htoken with htoken | htoken
    · exact h.passports token htoken
    · rw [← hjti]
      exact ofTicket_of_exchange (hjti ▸ hid) hok (Option.mem_toList.mp htoken)

theorem TicketRun.inv_of_reachable
    (hsign : signApprovalTicket sha keys issuedAt uuid grant = .ok challenge)
    (hid : challenge.ticketId.str ≠ []) {s : TicketRun}
    (h : Reachable TicketRun.Init (TicketStep sha keys challenge) s) :
    s.Inv challenge.ticketId :=
  h.invariant (I := Inv challenge.ticketId) (fun _ => .init)
    (fun _ _ _ hs hstep => hs.step hsign hid hstep)

end

/-! ## 3. One approval, one execution -/

/-- The calls that ask the cache under the ticket's id are the calls on its Passports, and at most
one of them returns exactly when the cache still has the id each time that one of them asks: from
the first of them to the last, every call that takes the lock, about whatever ticket, read the
clock before the Passport of the first expires.  The lifetime of the ticket does not enter: what
makes the code accept a second Passport is that five minutes have passed for the cache. -/
theorem approved_once_iff {sha : Sha256} {keys : KeyManager} {issuedAt : Clock} {uuid : Text}
    {grant : TicketGrant} {challenge : ApprovalChallenge}
    (hsign : signApprovalTicket sha keys issuedAt uuid grant = .ok challenge)
    (hid : challenge.ticketId.str ≠ []) {s : TicketRun}
    (h : Reachable TicketRun.Init (TicketStep sha keys challenge) s) :
    (∀ f ∈ s.replay.finished, f.jti = challenge.ticketId.str ↔
        ∃ token ∈ s.passports, f.claims = token.claims) ∧
      ((s.replay.finished.filter
          (fun f => f.accepted && f.jti = challenge.ticketId.str)).length ≤ 1 ↔
        ∀ before first after, s.replay.finished = before ++ first :: after →
          first.jti = challenge.ticketId.str →
          (∀ f ∈ before, f.jti ≠ challenge.ticketId.str) →
          ∀ l f r, after = l ++ f :: r →
            (∃ g ∈ f :: r, g.jti = challenge.ticketId.str) →
            Clock.seconds f.now < first.expiresAt) := by
  have hinv := TicketRun.inv_of_reachable hsign hid h
  refine ⟨fun f hf => ⟨fun hjti => ?_, ?_⟩,
    (hinv.replay.accepted_once_iff _).trans ReplayState.kept_uses_iff⟩
  · refine (hinv.finished f hf).1.resolve_right (fun hne => hne ?_)
    rw [lookup_jti_of_replayKey (hinv.finished f hf).2, hjti]
  · rintro ⟨token, htoken, hclaims⟩
    obtain ⟨header, signer, c, -, hjti, rfl⟩ := hinv.passports token htoken
    have hkey := (hinv.finished f hf).2
    rw [hclaims, show (Token.jws header c.dump (some signer)).claims = c.dump from rfl,
      c.replayKey_dump (hjti ▸ hid)] at hkey
    rw [← (Prod.mk.inj (Except.ok.inj hkey)).1, hjti]

/-- A ticket for the amount of `amountGrant`, good for an hour. -/
def amountTicket : TicketGrant where
  executionId := .lit "e1"
  appId := .lit "app"
  tenantId := .lit "tenant"
  pluginId := .lit "p"
  policy := .lit "p@1"
  decision := .confirm
  actionType := .lit "pay"
  actionablePayload := amount 9007199254740992
  clientId := .lit "local"
  requiredRole := .lit "manager"
  userId := none
  agentId := none
  ttlSeconds := 3600

def amountTicketClaims : TicketClaims :=
  ticketClaims 0 amountTicket (.lit "t1") amountHash (.inl rfl)

def amountChallenge : ApprovalChallenge where
  ticket := .jws ⟨some approvalTicketTyp, some pairedKeys.publicKey⟩ amountTicketClaims.dump
    (some (lit "thumbprint"))
  ticketId := .lit "t1"
  requiredRole := .lit "manager"
  expiresAt := 3600

theorem signApprovalTicket_amount :
    signApprovalTicket (.ofTable amountDigests) pairedKeys 0 (.lit "t1") amountTicket =
      .ok amountChallenge := by
  rw [signApprovalTicket, show amountTicket.actionablePayload = amount 9007199254740992 from rfl,
    hashPayload_amount canonicalJson_amount.1]
  rfl

theorem approverId_ne : (Text.lit "ana").str ≠ [] := by decide

theorem approverRole_ne : (Text.lit "manager").str ≠ [] := by decide

/-- The manager approves. -/
def amountApproval : ApprovalRequest where
  ticket := amountChallenge.ticket
  actionablePayload := amount 9007199254740992
  approver := ⟨.lit "ana", .lit "manager", approverId_ne, approverRole_ne⟩
  outcome := .approve

/-- The Passport of the approval, signed at some time. -/
def approvedClaims (now : Clock) : PassportClaims :=
  passportClaims now (approvalGrant amountTicketClaims amountApproval .trustedLocal) (.lit "t1")
    amountHash

def approvedToken (now : Clock) : Token :=
  .jws ⟨some defaultTyp, some pairedKeys.publicKey⟩ (approvedClaims now).dump
    (some (lit "thumbprint"))

def approvedCall (now : Clock) : VerifyCall :=
  ⟨approvedToken now, amount 9007199254740992, lit "app", some (lit "tenant"), some [lit "pay"],
    .publicKey (lit "thumbprint")⟩

def amountSubmission : Submission := ⟨amountTicketClaims, amountApproval, .trustedLocal⟩

theorem admit_amount {now : Clock} (h : Clock.reached now 3600 = false) :
    admitRequest (.ofTable amountDigests) pairedKeys amountApproval .trustedLocal now =
      .ok amountTicketClaims := by
  have hverified : verifyApprovalTicket pairedKeys now amountChallenge.ticket =
      .ok amountTicketClaims :=
    (verifyApprovalTicket_dump (by decide) rfl).mpr
      ⟨rfl, rfl, decide_eq_true (Int.natCast_nonneg now), h⟩
  have hpayload := hashPayload_amount canonicalJson_amount.1
  simp only [verifyApprovalTicket] at hverified
  simp only [admitRequest, admitRequestWith, verifiedTicket,
    show amountApproval.ticket = amountChallenge.ticket from rfl, hverified, checkApprover,
    show amountApproval.actionablePayload = amount 9007199254740992 from rfl, hpayload]
  rfl

theorem exchange_amount (now : Clock) (context : CallContext) :
    ∃ response record, exchange (.ofTable amountDigests) pairedKeys amountTicketClaims
      amountApproval .trustedLocal (some (.default (.lit "p") (.lit "1"))) now context =
        .ok (response, record) ∧ response.passport = some (approvedToken now) := by
  have hsign : signDecision (.ofTable amountDigests) pairedKeys now context.uuid
      (approvalGrant amountTicketClaims amountApproval .trustedLocal) =
        .ok (approvedToken now, .lit "t1") :=
    signDecision_of_hash (hashPayload_amount canonicalJson_amount.1) rfl rfl
  have hpassport : approvalPassport (.ofTable amountDigests) pairedKeys amountTicketClaims
      amountApproval .trustedLocal now context.uuid =
        .ok (some (approvedToken now, .lit "t1")) := by
    rw [approvalPassport, hsign]
    rfl
  have hpolicy : checkPolicy amountTicketClaims (some (.default (.lit "p") (.lit "1"))) =
      .ok () := by
    rw [checkPolicy, if_neg (not_not.mpr (by decide))]
  exact ⟨_, _, by rw [exchange, hpolicy, ok_bind, hpassport]; rfl, rfl⟩

theorem decodeStep_approved {issuedAt now : Clock} (hb : issuedAt ≤ now)
    (he : Clock.seconds now < Clock.seconds issuedAt + 300) :
    decodeStep (.ofTable amountDigests) (approvedCall issuedAt) now =
      .ok (approvedClaims issuedAt).dump := by
  obtain ⟨hiat, hexp⟩ := Clock.reached_of_fresh hb he
  have haud : amountTicketClaims.aud.str ≠ [] := by decide
  refine (decodeStep_issued rfl rfl).mpr ⟨rfl, rfl, hiat, hexp, haud, rfl, ?_, ?_,
    hashPayload_amount canonicalJson_amount.1⟩
  · rintro t ⟨⟩ -; rfl
  · rintro as ⟨⟩ -; exact List.mem_singleton.mpr rfl

/-- The Passport of an approval, used at once. -/
def approvedCacheCall (now : Clock) : CacheCall :=
  ⟨(approvedClaims now).dump, lit "t1", Clock.seconds (now + passportLifetime), now⟩

/-- The ticket approved at once, and its Passport used. -/
def approvedOnce : TicketRun where
  replay := (⟨0, [], [], [], []⟩ : ReplayState).store (approvedCacheCall 0) []
  submissions := []
  passports := [approvedToken 0]

/-- The same ticket approved again five minutes later, and the second Passport used. -/
def approvedTwice : TicketRun where
  replay :=
    { approvedOnce.replay with now := 300000000 }.store (approvedCacheCall 300000000) []
  submissions := []
  passports := [approvedToken 0, approvedToken 300000000]

/-- Approve the ticket and use the Passport, at one instant. -/
theorem reachable_approve {s : TicketRun}
    (h : Reachable TicketRun.Init
      (TicketStep (.ofTable amountDigests) pairedKeys amountChallenge) s)
    (hs : s.submissions = []) (hp : s.replay.pending = []) (hw : s.replay.waiting = [])
    (hlast : Clock.reached s.replay.now 3600 = false) :
    Reachable TicketRun.Init (TicketStep (.ofTable amountDigests) pairedKeys amountChallenge)
      { replay := s.replay.store (approvedCacheCall s.replay.now) []
        submissions := []
        passports := s.passports ++ [approvedToken s.replay.now] } := by
  obtain ⟨replay, submissions, passports⟩ := s
  obtain ⟨now, cache, pending, waiting, finished⟩ := replay
  cases hs
  cases hp
  cases hw
  have h1 := h.tail (.admitRequest _ amountApproval .trustedLocal _ rfl (admit_amount hlast))
  obtain ⟨response, record, hok, hpassport⟩ := exchange_amount now ⟨.lit "u", .lit "now", none⟩
  have h2 := h1.tail (.exchange _ [] [] amountSubmission _ _ _ _ rfl hok)
  rw [hpassport] at h2
  have hdecode : decodeStep (.ofTable amountDigests) (approvedCall now) now =
      .ok (approvedClaims now).dump :=
    decodeStep_approved (Nat.le_refl _) (by omega)
  have h3 := h2.tail (.replay _ _ (.decode _ (approvedCall now) _
    (.inl (List.mem_append_right _ (List.mem_singleton.mpr rfl))) hdecode))
  have h4 := h3.tail (.replay _ _ (.readClock _ [] [] _ (lit "t1") _ rfl rfl))
  exact h4.tail (.replay _ _ (.store _ [] [] (approvedCacheCall now) rfl))

theorem reachable_approvedOnce : Reachable TicketRun.Init
    (TicketStep (.ofTable amountDigests) pairedKeys amountChallenge) approvedOnce :=
  reachable_approve (s := ⟨⟨0, [], [], [], []⟩, [], []⟩)
    (.of_init ⟨⟨rfl, rfl, rfl, rfl⟩, rfl, rfl⟩) rfl rfl rfl (by decide)

theorem reachable_approvedTwice : Reachable TicketRun.Init
    (TicketStep (.ofTable amountDigests) pairedKeys amountChallenge) approvedTwice :=
  reachable_approve
    (s := { approvedOnce with replay := { approvedOnce.replay with now := 300000000 } })
    (reachable_approvedOnce.tail (.replay _ _ (.tick _ 300000000 (by decide)))) rfl rfl rfl
    (by decide)

/-- The ticket of one approval, after one use. -/
theorem approved_once_iff_approvedOnce :
    (∀ f ∈ approvedOnce.replay.finished, f.jti = lit "t1" ↔
        ∃ token ∈ approvedOnce.passports, f.claims = token.claims) ∧
      ((approvedOnce.replay.finished.filter
          (fun f => f.accepted && f.jti = lit "t1")).length ≤ 1 ↔
        ∀ before first after, approvedOnce.replay.finished = before ++ first :: after →
          first.jti = lit "t1" → (∀ f ∈ before, f.jti ≠ lit "t1") →
          ∀ l f r, after = l ++ f :: r → (∃ g ∈ f :: r, g.jti = lit "t1") →
            Clock.seconds f.now < first.expiresAt) :=
  approved_once_iff signApprovalTicket_amount (by decide) reachable_approvedOnce

/-- One ticket, two calls that return. -/
theorem approved_twice :
    signApprovalTicket (.ofTable amountDigests) pairedKeys 0 (.lit "t1") amountTicket =
        .ok amountChallenge ∧
      Reachable TicketRun.Init
        (TicketStep (.ofTable amountDigests) pairedKeys amountChallenge) approvedTwice ∧
      (approvedTwice.replay.finished.filter
        (fun f => f.accepted && f.jti = lit "t1")).length = 2 :=
  ⟨signApprovalTicket_amount, reachable_approvedTwice, by decide +kernel⟩

end Axg
