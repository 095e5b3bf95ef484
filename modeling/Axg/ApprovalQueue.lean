/-
# A queue of approvals (`examples/approvals/sqlite_approval_queue.py`)

The queue of the example keeps tickets in a table with the payload as JSON text, shows the rows that
are pending and not expired, and hands out a ticket with its payload.  `take` leaves the row as it
is, so a ticket can be taken twice before it is closed; each time with the payload that was decided.

`queue_shows` is about the table alone: in every run the rows that are shown are decisions that
were added, with their payloads as JSON transport leaves them, and none is lost before it is
closed.  When AXG made the decision, the payload that is shown is the one that was hashed, and a
submission of what is shown is not refused for its payload (`shown_can_be_approved`).
-/
import Axg.Challenges
import Axg.ExecutionRecords
import Axg.Python.JsonBytes
import Axg.General.Run

namespace Axg

open Python General

/-! ## 1. The table -/

/-- A row of `approvals`. -/
structure ApprovalRow where
  ticketId : Text
  ticket : Text
  payload : Str
  requiredRole : Text
  expiresAt : Int
  status : Str

abbrev ApprovalQueue := List ApprovalRow

/-- What the methods raise. -/
inductive QueueError
  | attributeError
  | valueError
  | integrityError
  | typeError

namespace ApprovalQueue

def pendingStatus : Str := lit "pending"

/-- The row that `add` inserts for a ticket and a payload. -/
def row (compact : Token → Text) (approval : ApprovalChallenge) (payload : Str) : ApprovalRow where
  ticketId := approval.ticketId
  ticket := compact approval.ticket
  payload := payload
  requiredRole := approval.requiredRole
  expiresAt := approval.expiresAt
  status := pendingStatus

/-- `add`; the ticket id is the primary key. -/
def add (compact : Token → Text) (queue : ApprovalQueue) (decision : DecisionResponse) :
    Except QueueError ApprovalQueue :=
  match decision.approval with
  | none => .error .attributeError
  | some approval =>
    match dumpsAscii [0x20] decision.actionablePayload.json with
    | .error _ => .error .valueError
    | .ok payload =>
      if approval.ticketId ∈ queue.map ApprovalRow.ticketId then .error .integrityError
      else .ok (queue ++ [row compact approval payload])

/-- An entry of `pending`: the ticket id, the payload and the role. -/
abbrev Entry := Text × Json × Text

def entry (r : ApprovalRow) : Except QueueError Entry :=
  match loads r.payload with
  | .ok payload => .ok (r.ticketId, payload, r.requiredRole)
  | .error _ => .error .valueError

/-- Is the row one that `pending` selects? -/
def isPending (now : Clock) (r : ApprovalRow) : Bool :=
  r.status = pendingStatus && Clock.seconds now < r.expiresAt

/-- `pending` -/
def pending (queue : ApprovalQueue) (now : Clock) : Except QueueError (List Entry) :=
  (queue.filter (isPending now)).mapM entry

/-- `take`; no row unpacks to nothing. -/
def take (queue : ApprovalQueue) (ticketId : Text) : Except QueueError (Text × Json) :=
  match queue.find? (fun r => r.ticketId = ticketId ∧ r.status = pendingStatus) with
  | none => .error .typeError
  | some r =>
    match loads r.payload with
    | .ok payload => .ok (r.ticket, payload)
    | .error _ => .error .valueError

/-- `close` -/
def close (queue : ApprovalQueue) (ticketId : Text) (status : Str) : ApprovalQueue :=
  queue.map (fun r => if r.ticketId = ticketId then { r with status := status } else r)

end ApprovalQueue

/-! ## 2. Runs -/

/-- A decision that was added, with its ticket. -/
structure Added where
  decision : DecisionResponse
  approval : ApprovalChallenge
  carried : decision.approval = some approval

/-- The table, with the decisions that were added and the tickets that were closed. -/
structure QueueRun where
  queue : ApprovalQueue
  added : List Added
  closed : List Text

def QueueRun.Init (s : QueueRun) : Prop := s.queue = [] ∧ s.added = [] ∧ s.closed = []

/-- Whoever has the queue adds and closes; `pending` and `take` only read. -/
inductive QueueStep (compact : Token → Text) : QueueRun → QueueRun → Prop
  | add (s : QueueRun) (a : Added) (queue : ApprovalQueue)
      (h : ApprovalQueue.add compact s.queue a.decision = .ok queue) :
    QueueStep compact s { s with queue := queue, added := s.added ++ [a] }
  | close (s : QueueRun) (ticketId : Text) (status : Str) :
    QueueStep compact s
      { s with queue := s.queue.close ticketId status, closed := s.closed ++ [ticketId] }

/-- The row holds the ticket and the payload. -/
structure Added.In (compact : Token → Text) (a : Added) (r : ApprovalRow) : Prop where
  ticketId : r.ticketId = a.approval.ticketId
  ticket : r.ticket = compact a.approval.ticket
  payload : dumpsAscii [0x20] a.decision.actionablePayload.json = .ok r.payload
  requiredRole : r.requiredRole = a.approval.requiredRole
  expiresAt : r.expiresAt = a.approval.expiresAt

/-- What is shown of a row whose payload is JSON. -/
def ApprovalRow.shown (r : ApprovalRow) : ApprovalQueue.Entry :=
  (r.ticketId, (loads r.payload).toOption.getD .null, r.requiredRole)

/-- What is shown of a decision: its payload as JSON transport leaves it. -/
def Added.shown (a : Added) : ApprovalQueue.Entry :=
  (a.approval.ticketId, a.decision.actionablePayload.json.rejoin, a.approval.requiredRole)

/-- Each row is a decision's, and each decision has a row, pending until its ticket is closed.
The ticket's id is the primary key: what is there already cannot be added again. -/
structure QueueInv (compact : Token → Text) (s : QueueRun) : Prop where
  nodup : (s.queue.map ApprovalRow.ticketId).Nodup
  rows : ∀ r ∈ s.queue, ∃ a ∈ s.added, a.In compact r
  kept : ∀ a ∈ s.added, ∃ r ∈ s.queue, a.In compact r ∧
    (a.approval.ticketId ∉ s.closed → r.status = ApprovalQueue.pendingStatus)

section

variable {compact : Token → Text} {s t : QueueRun}

theorem add_eq_ok {queue queue' : ApprovalQueue} {a : Added}
    (h : ApprovalQueue.add compact queue a.decision = .ok queue') :
    ∃ r, queue' = queue ++ [r] ∧ a.In compact r ∧ r.status = ApprovalQueue.pendingStatus ∧
      r.ticketId ∉ queue.map ApprovalRow.ticketId := by
  unfold ApprovalQueue.add at h
  rw [a.carried] at h
  simp only at h
  split at h
  · cases h
  · rename_i payload hpayload
    split at h
    · cases h
    · rename_i hnew
      cases h
      exact ⟨_, rfl, ⟨rfl, rfl, hpayload, rfl, rfl⟩, rfl, hnew⟩

theorem ticketId_close (queue : ApprovalQueue) (ticketId : Text) (status : Str) :
    (queue.close ticketId status).map ApprovalRow.ticketId = queue.map ApprovalRow.ticketId := by
  rw [ApprovalQueue.close, List.map_map]
  refine List.map_congr_left (fun r _ => ?_)
  simp only [Function.comp_apply]
  split <;> rfl

/-- Closing leaves all of a row but its status. -/
theorem Added.In.close {a : Added} {r : ApprovalRow} (h : a.In compact r) (ticketId : Text)
    (status : Str) :
    a.In compact (if r.ticketId = ticketId then { r with status := status } else r) := by
  split
  · exact ⟨h.ticketId, h.ticket, h.payload, h.requiredRole, h.expiresAt⟩
  · exact h

theorem QueueInv.step (h : QueueInv compact s) (hst : QueueStep compact s t) :
    QueueInv compact t := by
  cases hst with
  | add a queue hadd =>
    obtain ⟨r, rfl, hin, hstatus, hnew⟩ := add_eq_ok hadd
    refine ⟨?_, ?_, ?_⟩
    · change ((s.queue ++ [r]).map ApprovalRow.ticketId).Nodup
      rw [List.map_append, List.map_singleton]
      exact List.nodup_append.mpr ⟨h.nodup, List.nodup_singleton _, by
        rintro x hx y hy rfl
        rw [List.mem_singleton.mp hy] at hx
        exact hnew hx⟩
    · intro q hq
      rcases List.mem_append.mp hq with hq | hq
      · obtain ⟨b, hb, hin⟩ := h.rows q hq
        exact ⟨b, List.mem_append_left _ hb, hin⟩
      · rw [List.mem_singleton.mp hq]
        exact ⟨a, List.mem_append_right _ (List.mem_singleton.mpr rfl), hin⟩
    · intro b hb
      rcases List.mem_append.mp hb with hb | hb
      · obtain ⟨q, hq, hin, hpending⟩ := h.kept b hb
        exact ⟨q, List.mem_append_left _ hq, hin, hpending⟩
      · rw [List.mem_singleton.mp hb]
        exact ⟨r, List.mem_append_right _ (List.mem_singleton.mpr rfl), hin, fun _ => hstatus⟩
  | close ticketId status =>
    refine ⟨?_, ?_, ?_⟩
    · change ((s.queue.close ticketId status).map ApprovalRow.ticketId).Nodup
      rw [ticketId_close]
      exact h.nodup
    · intro q hq
      obtain ⟨r, hr, rfl⟩ := List.mem_map.mp hq
      obtain ⟨a, ha, hin⟩ := h.rows r hr
      exact ⟨a, ha, hin.close ticketId status⟩
    · intro a ha
      obtain ⟨r, hr, hin, hpending⟩ := h.kept a ha
      refine ⟨_, List.mem_map_of_mem hr, hin.close ticketId status, fun hopen => ?_⟩
      -- a row that is closed changes its status, but then its ticket is closed too
      have hne : a.approval.ticketId ≠ ticketId := by
        rintro rfl
        exact hopen (List.mem_append_right _ (List.mem_singleton.mpr rfl))
      rw [if_neg (hin.ticketId ▸ hne)]
      exact hpending (fun hmem => hopen (List.mem_append_left _ hmem))

theorem queueInv_of_reachable (h : Reachable QueueRun.Init (QueueStep compact) s) :
    QueueInv compact s := by
  refine h.invariant ?_ (fun _ _ _ hinv hst => hinv.step hst)
  rintro s ⟨hqueue, hadded, -⟩
  refine ⟨by rw [hqueue]; exact List.nodup_nil, ?_, ?_⟩
  · intro r hr
    rw [hqueue] at hr
    cases hr
  · intro a ha
    rw [hadded] at ha
    cases ha

/-! ## 3. What is shown -/

theorem Added.In.shown {a : Added} {r : ApprovalRow} (h : a.In compact r) : r.shown = a.shown := by
  rw [ApprovalRow.shown, loads_dumpsAscii padSpace h.payload, h.ticketId, h.requiredRole]
  rfl

theorem Added.In.entry {a : Added} {r : ApprovalRow} (h : a.In compact r) :
    ApprovalQueue.entry r = .ok r.shown := by
  rw [ApprovalQueue.entry, ApprovalRow.shown, loads_dumpsAscii padSpace h.payload]
  rfl

/-- A pending row is the one that `take` finds. -/
theorem take_eq_ok (hinv : QueueInv compact s) {a : Added} {r : ApprovalRow} (hr : r ∈ s.queue)
    (hin : a.In compact r) (hpending : r.status = ApprovalQueue.pendingStatus) :
    s.queue.take a.approval.ticketId =
      .ok (compact a.approval.ticket, a.decision.actionablePayload.json.rejoin) := by
  have hfind : s.queue.find? (fun q => q.ticketId = a.approval.ticketId ∧
      q.status = ApprovalQueue.pendingStatus) = some r := by
    obtain ⟨q, hq⟩ : ∃ q, s.queue.find? (fun q => q.ticketId = a.approval.ticketId ∧
        q.status = ApprovalQueue.pendingStatus) = some q := by
      rw [← Option.isSome_iff_exists, List.find?_isSome]
      exact ⟨r, hr, by simp [hin.ticketId, hpending]⟩
    have hfound : q.ticketId = a.approval.ticketId ∧ q.status = ApprovalQueue.pendingStatus := by
      simpa using List.find?_some hq
    rw [hq, List.inj_on_of_nodup_map hinv.nodup (List.mem_of_find?_eq_some hq) hr
      (hfound.1.trans hin.ticketId.symm)]
  rw [ApprovalQueue.take, hfind]
  simp only [loads_dumpsAscii padSpace hin.payload, hin.ticket]

theorem isPending_iff {now : Clock} {r : ApprovalRow} : ApprovalQueue.isPending now r = true ↔
    r.status = ApprovalQueue.pendingStatus ∧ Clock.seconds now < r.expiresAt := by
  simp [ApprovalQueue.isPending]

/-- In every run `pending` shows decisions that were added, and all of them that are neither closed
nor expired; `take` hands out their tickets, with the payloads that are shown. -/
theorem queue_shows (h : Reachable QueueRun.Init (QueueStep compact) s) (now : Clock) :
    ∃ shown, s.queue.pending now = .ok shown ∧
      (∀ e ∈ shown, ∃ a ∈ s.added, e = a.shown ∧ Clock.seconds now < a.approval.expiresAt ∧
        s.queue.take e.1 = .ok (compact a.approval.ticket, e.2.1)) ∧
      ∀ a ∈ s.added, a.approval.ticketId ∉ s.closed → Clock.seconds now < a.approval.expiresAt →
        a.shown ∈ shown := by
  have hinv : QueueInv compact s := queueInv_of_reachable h
  have hentry : ∀ r ∈ s.queue.filter (ApprovalQueue.isPending now),
      ApprovalQueue.entry r = .ok r.shown := by
    intro r hr
    obtain ⟨a, -, hin⟩ := hinv.rows r (List.mem_of_mem_filter hr)
    exact hin.entry
  refine ⟨_, mapM_ok hentry, ?_, ?_⟩
  · intro e he
    obtain ⟨r, hr, rfl⟩ := List.mem_map.mp he
    obtain ⟨hmem, hpending⟩ := List.mem_filter.mp hr
    obtain ⟨hstatus, hlast⟩ := isPending_iff.mp hpending
    obtain ⟨a, ha, hin⟩ := hinv.rows r hmem
    rw [hin.shown]
    exact ⟨a, ha, rfl, hin.expiresAt ▸ hlast, take_eq_ok hinv hmem hin hstatus⟩
  · intro a ha hopen hlast
    obtain ⟨r, hr, hin, hpending⟩ := hinv.kept a ha
    have hmem : r ∈ s.queue.filter (ApprovalQueue.isPending now) :=
      List.mem_filter.mpr ⟨hr, isPending_iff.mpr ⟨hpending hopen, hin.expiresAt ▸ hlast⟩⟩
    exact List.mem_map.mpr ⟨r, hmem, hin.shown⟩

/-! ## 4. What can be approved -/

/-- In every run the queue shows each decision that was added until it is closed or expires, and
whatever it shows of a decision that AXG made can be approved as it is shown, by anyone with the
role who is neither the agent nor, for the end user's own role, another user. -/
theorem shown_can_be_approved (h : Reachable QueueRun.Init (QueueStep compact) s) (now : Clock) :
    ∃ shown, s.queue.pending now = .ok shown ∧
      (∀ a ∈ s.added, a.approval.ticketId ∉ s.closed → Clock.seconds now < a.approval.expiresAt →
        a.shown ∈ shown) ∧
      ∀ e ∈ shown, ∃ a ∈ s.added, s.queue.take e.1 = .ok (compact a.approval.ticket, e.2.1) ∧
        ∀ (request : DecisionRequest) (py : Interpreter) (sha : Sha256) (keys : KeyManager)
          (caller : Caller) (issued : Clock) (uuid : Text) (plugin : Plugin)
          (verified : VerifiedContext) (triggered : List PolicyRule) (gated : Bool),
          Evaluated request py sha keys caller issued uuid plugin verified triggered gated
            a.decision → keys.privateKey = some keys.publicKey → issued ≤ now →
          e.2.1 = a.decision.actionablePayload.json ∧
          ∀ (approver : ApproverIdentity) (submitter : Caller) (later : Clock)
            (context : CallContext), approver.role = e.2.2 →
            request.agent.map AgentIdentity.id ≠ some approver.id →
            (e.2.2 = endUserRole → ∀ user ∈ request.userId, user.str ≠ [] → approver.id = user) →
            submitter.authenticated = true → submitter.mayActFor request.appId = true →
            approvePermission ∈ submitter.effectivePermissions [approvePermission] →
            ∃ answer record, submit sha keys
                ⟨a.approval.ticket, a.decision.actionablePayload, approver, .approve⟩ submitter
                (some plugin) now later context = .ok (answer, record) ∧
              answer.outcome = .approve ∧ answer.passport.isSome = true := by
  obtain ⟨shown, hshown, hall, hkept⟩ := queue_shows h now
  refine ⟨shown, hshown, hkept, fun e he => ?_⟩
  obtain ⟨a, ha, rfl, hlast, htake⟩ := hall e he
  refine ⟨a, ha, htake, ?_⟩
  intro request py sha keys caller issued uuid plugin verified triggered gated hev hpair hissued
  have hsign := hev.signed_ticket a.carried
  obtain ⟨hash, key, hd, hhash, hkey, hchallenge⟩ := signApprovalTicket_eq_ok hsign
  have hpayload : a.decision.actionablePayload = actionablePayload request triggered := by
    rw [hev.eq]
    rfl
  have htext : a.decision.actionablePayload.json.isText = true := by
    rw [hpayload]
    exact (canonicalHash_isOk_iff.mp ⟨hash, hhash⟩).1
  -- a payload with a ticket has been hashed, so it has no halves of pairs and is shown as it is
  refine ⟨Json.rejoin_of_isText a.decision.actionablePayload.wf htext, ?_⟩
  intro approver submitter later context hrole hagent huser hauth hact hperm
  have hrole' : a.approval.requiredRole = approverRole plugin request triggered := by
    rw [hchallenge]
    rfl
  have hnotAgent : (request.agent.map AgentIdentity.id).any
      (fun agent => agent.str ≠ [] ∧ approver.id = agent) = false := by
    by_contra hno
    simp only [Bool.not_eq_false, decide_eq_true_eq, Option.any_eq_true] at hno
    obtain ⟨id, hid, -, rfl⟩ := hno
    exact hagent hid
  have hnotAnother : (approverRole plugin request triggered = endUserRole &&
      request.userId.any (fun user => user.str ≠ [] ∧ approver.id ≠ user)) = false := by
    by_contra hno
    simp only [Bool.not_eq_false, Bool.and_eq_true, decide_eq_true_eq, Option.any_eq_true] at hno
    obtain ⟨hend, user, huser', hne, hid⟩ := hno
    exact hid (huser (hrole'.trans hend) user huser' hne)
  obtain ⟨⟨answer, record⟩, hok⟩ : ∃ x, submit sha keys
      ⟨a.approval.ticket, a.decision.actionablePayload, approver, .approve⟩ submitter
      (some plugin) now later context = .ok x :=
    (submit_challenge_iff hsign rfl rfl).mpr ⟨hauth, hact, hperm, by rw [hpayload]; rfl,
      hrole.trans hrole', hnotAgent, hnotAnother, hpair,
      (Clock.reached_iff _ _).mpr (Clock.seconds_mono hissued),
      by rw [← Bool.not_eq_true, Clock.reached_iff]; exact not_le.mpr hlast, plugin, rfl, rfl⟩
  obtain ⟨ho, -, token, -, hpassport, -, -⟩ := submit_passport rfl hok
  exact ⟨answer, record, hok, ho, by rw [hpassport]; rfl⟩

end

/-! ## 5. One row -/

/-- A payment that the user has to confirm. -/
def confirmedResponse : DecisionResponse :=
  respond barePolicy payRequest .trustedLocal plainSha pairedKeys 0 (.lit "j1") .none [] false

theorem evaluated_confirmed : Evaluated payRequest plainInterpreter plainSha pairedKeys
    .trustedLocal 0 (.lit "j1") barePolicy .none [] false confirmedResponse :=
  ⟨rfl, rfl, rfl, .of_empty rfl⟩

theorem reachable_confirmedRow : ∃ s a, Reachable QueueRun.Init (QueueStep shortToken) s ∧
    s.added = [a] ∧ s.closed = [] ∧ a.decision = confirmedResponse := by
  have hsome : confirmedResponse.approval.isSome = true := by decide +kernel
  obtain ⟨approval, happroval⟩ := Option.isSome_iff_exists.mp hsome
  obtain ⟨payload, hpayload⟩ : ∃ payload,
      dumpsAscii [0x20] confirmedResponse.actionablePayload.json = .ok payload := ⟨_, if_pos rfl⟩
  have hadd : ApprovalQueue.add shortToken [] confirmedResponse =
      .ok [ApprovalQueue.row shortToken approval payload] := by
    simp only [ApprovalQueue.add, happroval, hpayload]
    rfl
  have hempty : Reachable QueueRun.Init (QueueStep shortToken) ⟨[], [], []⟩ :=
    .of_init ⟨rfl, rfl, rfl⟩
  exact ⟨_, _, hempty.tail (.add _ ⟨confirmedResponse, approval, happroval⟩ _ hadd), rfl, rfl, rfl⟩

theorem ana_ne : (Text.lit "ana").str ≠ [] := by decide

theorem endUserRole_ne : endUserRole.str ≠ [] := by decide

theorem shown_can_be_approved_confirmed : ∃ approval answer record,
    confirmedResponse.approval = some approval ∧
      submit plainSha pairedKeys ⟨approval.ticket, confirmedResponse.actionablePayload,
          ⟨.lit "ana", endUserRole, ana_ne, endUserRole_ne⟩, .approve⟩ .trustedLocal
        (some barePolicy) 0 0 plainContext = .ok (answer, record) ∧
      answer.outcome = .approve ∧ answer.passport.isSome = true := by
  obtain ⟨s, a, hrun, hadded, hclosed, hdecision⟩ := reachable_confirmedRow
  obtain ⟨shown, -, hkept, hall⟩ := shown_can_be_approved hrun 0
  have hmem : a ∈ s.added := by
    rw [hadded]
    exact List.mem_singleton.mpr rfl
  have hlast : Clock.seconds 0 < a.approval.expiresAt := by
    have hfresh := (hdecision ▸ evaluated_confirmed).ticket_fresh a.carried
    rw [← Bool.not_eq_true, Clock.reached_iff] at hfresh
    exact not_le.mp hfresh
  obtain ⟨b, hb, -, happroved⟩ := hall a.shown (hkept a hmem (by simp [hclosed]) hlast)
  rw [hadded] at hb
  cases List.mem_singleton.mp hb
  obtain ⟨-, happrove⟩ := happroved _ _ _ _ _ _ _ _ _ _ _ (hdecision ▸ evaluated_confirmed) rfl
    le_rfl
  have hrole : a.approval.requiredRole = endUserRole := by
    have hroles : confirmedResponse.approval.map ApprovalChallenge.requiredRole =
        some endUserRole := rfl
    rw [← hdecision, a.carried] at hroles
    exact Option.some.inj hroles
  obtain ⟨answer, record, hok⟩ := happrove ⟨.lit "ana", endUserRole, ana_ne, endUserRole_ne⟩
    .trustedLocal 0 plainContext hrole.symm (by rintro ⟨⟩) (by rintro - user ⟨⟩) rfl rfl (by decide)
  rw [hdecision] at hok
  exact ⟨a.approval, answer, record, hdecision ▸ a.carried, hok⟩

end Axg
