/-
# Every answer has its record

A decision or an approval that the server answers leaves a background task, and the task a line in
the audit log.  Tasks run in any order, wait for each other at the lock of the sink, and are still
there when later requests are answered.

None is lost and none is written twice (`recorded_once`): the record of an answer is with a task
that has not begun, with a call of the sink that has not ended, or a line of the file, and there
is one other place for it, the log of errors, where a record without a canonical hash ends.  An
`OSError` would end there too, and is no step of `Server`: each open and each write of the file
succeeds here.  Nothing else fails in the sink of one process, which writes its first record into
a file that is not there and from then on knows its last hash.

A record says what its Passport says (`Accounts`), so an execution that a gateway lets through
can be looked up (`execution_accounted`).
-/
import Axg.Server

namespace Axg

open Python General

section

variable {validate : Json → Option Plugin} {deployed : Deployment} {settings : Settings}
  {compact : Token → Text} {s t : Server} {w : World} {sha : Sha256}

/-! ## 1. The sink of one process -/

/-- A record that raises leaves the sink a valid one. -/
theorem AuditInv.afterRaise {a : AuditState} (h : AuditInv sha a) : AuditInv sha a.afterRaise :=
  { h with
    lastHash := by
      intro v hv
      cases hl : a.lastHash with
      | some prev =>
        rw [AuditState.afterRaise, hl, Option.some_or] at hv
        exact h.lastHash v (hl.trans hv)
      | none =>
        rw [AuditState.afterRaise, hl, Option.none_or] at hv
        cases hr : readLastHash a.file with
        | error e =>
          rw [hr] at hv
          cases hv
        | ok prev =>
          rw [hr] at hv
          cases hv
          exact h.readLastHash_eq hr }

variable (sha) in
/-- The sink has written what it was called with, and knows its last hash if it has a file.  In
one process it stays so: the sink goes on from what it has written itself, and looks into the
file only while there is none. -/
structure AuditState.Healthy (a : AuditState) : Prop where
  inv : AuditInv sha a
  known : a.lastHash = none → a.file = none
  noneFailed : a.failed = 0

theorem AuditState.Healthy.afterRaise {a : AuditState} (h : a.Healthy sha) :
    a.afterRaise.Healthy sha where
  inv := h.inv.afterRaise
  known hnone := h.known (Option.or_eq_none_iff.mp hnone).1
  noneFailed := h.noneFailed

/-- Reading the last hash does not fail: there is no file, or the hash is known. -/
theorem AuditState.Healthy.readHash {a : AuditState} (h : a.Healthy sha) {log : AuditRecord}
    (hh : a.holder = some (.entered log)) : (a.readHash log).Healthy sha := by
  refine ⟨h.inv.readHash hh, ?_, ?_⟩
  · unfold AuditState.readHash
    cases hl : a.lastHash with
    | some prev =>
      intro hnone
      cases hnone
    | none =>
      rw [h.known hl]
      intro hnone
      cases hnone
  · unfold AuditState.readHash
    cases hl : a.lastHash with
    | some prev => exact h.noneFailed
    | none =>
      rw [h.known hl]
      exact h.noneFailed

/-- A step of a sink that is not replaced. -/
theorem AuditState.Healthy.step {a b : AuditState} (h : a.Healthy sha) (hstep : AuditStep sha a b)
    (hsink : b.lastHash = none → a.lastHash = none) : b.Healthy sha := by
  have hinv := h.inv.step hstep
  cases hstep with
  | call log => exact ⟨hinv, h.known, h.noneFailed⟩
  | acquire before log after hw hfree => exact ⟨hinv, h.known, h.noneFailed⟩
  | readHash log hh => exact h.readHash hh
  | prepare log prev time hh =>
    obtain ⟨e, -, -, heq⟩ := h.inv.prepare_eq time hh
    rw [heq] at hinv ⊢
    exact ⟨hinv, h.known, h.noneFailed⟩
  | append log time e line hh => exact ⟨hinv, fun hnone => (nomatch hnone), h.noneFailed⟩
  | restart hfree hidle => exact ⟨hinv, fun _ => h.known (hsink rfl), h.noneFailed⟩

/-! ## 2. Records in a run -/

/-- The records that were scheduled, in the order of the answers. -/
def Server.scheduled (s : Server) : List (Dict Json) := s.answers.filterMap Answer.record

variable (sha) in
/-- A record is with a task, refused by the sink, or a call of it.  The equation is between lists
up to order, so that no record is lost and none has two places. -/
structure Server.Recorded (s : Server) : Prop where
  sink : s.audit.Healthy sha
  once : s.scheduled.Perm
    (s.tasks ++ s.unwritten ++ s.audit.started.map AuditRecord.members)
  unwritten : ∀ r ∈ s.unwritten, ¬ Hashable (.obj r)

theorem Server.Recorded.init (h : s.Init) : s.Recorded sha := by
  refine ⟨⟨?_, ?_, ?_⟩, ?_, ?_⟩
  · rw [h.audit]
    exact AuditInv.init
  · rw [h.audit]
    exact fun _ => rfl
  · rw [h.audit]
    rfl
  · rw [Server.scheduled, h.answers, h.tasks, h.unwritten, h.audit]
    exact .nil
  · rw [h.unwritten]
    exact fun r hr => nomatch hr

theorem Server.Recorded.settle (h : s.Recorded sha) (before after : List Flight)
    (flight : Flight) (answer : Except HttpError Reply × Option (Dict Json)) :
    Server.Recorded sha (Server.settle { s with world := w } before after flight answer) where
  sink := h.sink
  once := by
    have hscheduled : (Server.settle { s with world := w } before after flight answer).scheduled =
        s.scheduled ++ answer.2.toList := by
      cases hr : answer.2 <;> simp [Server.scheduled, Server.settle, hr]
    rw [hscheduled]
    refine (h.once.append_right _).trans ?_
    simp only [Server.settle, List.append_assoc]
    refine List.Perm.append_left _ ?_
    simp only [← List.append_assoc]
    rw [List.append_assoc answer.2.toList]
    exact List.perm_append_comm
  unwritten := h.unwritten

theorem Server.Recorded.enter (h : s.Recorded sha) (limit : Int) (authorization : Option Str)
    (request : ApiRequest) (caller : Caller) (now : ℚ) :
    (s.enter limit authorization request caller now).Recorded sha := by
  unfold Server.enter
  dsimp only
  split
  · exact ⟨h.sink, h.once, h.unwritten⟩
  · exact ⟨h.sink, h.once, h.unwritten⟩

/-- A task that leaves the queue, and the end it comes to. -/
theorem perm_taken {before after unwritten started : List (Dict Json)} (task : Dict Json) :
    (before ++ task :: after ++ unwritten ++ started).Perm
      (before ++ after ++ unwritten ++ (started ++ [task])) := by
  simp only [List.append_assoc, List.cons_append]
  refine List.Perm.append_left _ ?_
  simp only [← List.append_assoc]
  exact (List.perm_append_singleton _ _).symm

theorem Server.Recorded.step (h : s.Recorded deployed.sha)
    (hstep : ServerStep validate deployed settings compact s t) : t.Recorded deployed.sha := by
  cases hstep with
  | load l hl hkeep => exact ⟨h.sink, h.once, h.unwritten⟩
  | reload authorization l hadmin hl hclear => exact ⟨h.sink, h.once, h.unwritten⟩
  | refuse authorization request e he => exact ⟨h.sink, h.once, h.unwritten⟩
  | enter authorization request caller now hentitled hclock => exact h.enter _ _ _ _ _
  | decide before after flight request now loaded tokens context hflights hrequest hloaded =>
    exact h.settle _ _ _ _
  | approve before after flight request now later loaded context hflights hrequest hticket
      hloaded => exact h.settle _ _ _ _
  | introspect before after flight request now hflights hrequest => exact h.settle _ _ _ _
  -- the task hands its record to the sink: it moves from the first list to the last
  | record before after log htasks =>
    refine ⟨h.sink.step (.call s.audit log) id, ?_, h.unwritten⟩
    refine h.once.trans ?_
    rw [htasks, List.map_append, List.map_singleton]
    exact perm_taken log.members
  -- `record` logs the exception and returns: the record has its place among the refused
  | raise before after task htasks hhash hfree =>
    refine ⟨h.sink.afterRaise, ?_, ?_⟩
    · refine h.once.trans ?_
      rw [htasks]
      refine (perm_taken task).trans ?_
      have hstarted : s.audit.afterRaise.started = s.audit.started := rfl
      simp only [hstarted, List.append_assoc]
      exact List.Perm.append_left _ (List.Perm.append_left _
        (List.Perm.append_left _ List.perm_append_comm))
    · intro r hr
      rcases List.mem_append.mp hr with hr | hr
      · exact h.unwritten r hr
      · rwa [List.mem_singleton.mp hr]
  | audit a ha hcalls hsink =>
    refine ⟨h.sink.step ha hsink, ?_, h.unwritten⟩
    rw [hcalls]
    exact h.once

theorem Server.recorded_of_reachable
    (h : Reachable Server.Init (ServerStep validate deployed settings compact) s) :
    s.Recorded deployed.sha :=
  h.invariant (I := Server.Recorded deployed.sha) (fun _ => .init)
    (fun _ _ _ hs hstep => hs.step hstep)

/-! ## 3. No record is lost, and none is written twice -/

/-- An answer has a record when it is a decision or an approval. -/
def Answer.Records (a : Answer) : Prop :=
  (∃ response, a.reply = .ok (.decision response)) ∨
    ∃ response, a.reply = .ok (.approval response)

theorem Answer.Explained.record_iff {a : Answer} (h : a.Explained deployed compact w) :
    a.record.isSome = true ↔ a.Records := by
  cases h with
  | decision flight request now loaded tokens context response record body hrequest hmade hbody
      hmem => exact iff_of_true rfl (.inl ⟨response, rfl⟩)
  | approval flight request now later plugin context response record hrequest hmade hmem =>
    exact iff_of_true rfl (.inr ⟨response, rfl⟩)
  | introspection flight response =>
    refine iff_of_false Bool.false_ne_true ?_
    rintro (⟨r, hr⟩ | ⟨r, hr⟩) <;> cases hr
  | failed flight e =>
    refine iff_of_false Bool.false_ne_true ?_
    rintro (⟨r, hr⟩ | ⟨r, hr⟩) <;> cases hr

variable (sha) in
/-- Each record of an answer is in one of four places, once.  The lines of the file are the
records of the calls that have ended, each with its timestamp and its two hashes, in a chain from
the genesis hash; and the file verifies if no record holds a raw line boundary. -/
structure Server.Complete (s : Server) : Prop where
  records : ∀ a ∈ s.answers, a.record.isSome = true ↔ a.Records
  once : s.scheduled.Perm (s.tasks ++ s.unwritten ++
    (s.audit.pending.map AuditRecord.members ++
      s.audit.finished.map (fun call => call.1.members)))
  unwritten : ∀ r ∈ s.unwritten, ¬ Hashable (.obj r)
  extended : List.Forall₂ Extends s.audit.finished s.audit.entries
  linked : Linked prevHash recordHash (.str genesisHash) s.audit.entries
  text : s.audit.text = linesText s.audit.entries
  verifies : (∀ call ∈ s.audit.finished, HasNoRawBreaks call.1) →
    verifyAuditChain sha s.audit.text = .ok (true, none) ∧
      fileRecords s.audit.text = .ok (s.audit.entries.map inKeyOrder)

/-- A file of one line an entry verifies. -/
theorem AuditInv.verifies {a : AuditState} (h : AuditInv sha a)
    (hbreaks : ∀ call ∈ a.finished, HasNoRawBreaks call.1) :
    verifyAuditChain sha a.text = .ok (true, none) ∧
      fileRecords a.text = .ok (a.entries.map inKeyOrder) := by
  have hparse := fileRecords_linesText h.hasShortInts h.wf (h.oneLine_iff.mpr hbreaks)
  rw [h.text_eq, verifyAuditChain_true_iff]
  refine ⟨⟨_, hparse, (linked_inKeyOrder_iff h.wf h.authentic
    (Linked.prevHash_str h.linked h.authentic)).mpr h.linked, ?_⟩, hparse⟩
  intro e he
  obtain ⟨e, hmem, rfl⟩ := List.mem_map.mp he
  exact (h.authentic e hmem).inKeyOrder (h.wf e hmem)

/-- In every reachable state of the server, each record of an answer is in one place: with a
task, in a call of the sink, in the file, or among those that the sink refused.  The count is of
occurrences, so two answers with equal records have two places.  The sink refuses a record only
for want of a canonical hash, which is why the file itself verifies but for raw line boundaries. -/
theorem recorded_once
    (h : Reachable Server.Init (ServerStep validate deployed settings compact) s) :
    s.Complete deployed.sha := by
  have hrecorded := Server.recorded_of_reachable h
  have htraced := Server.traced_of_reachable h
  obtain ⟨hinv, -, hfailed⟩ := hrecorded.sink
  refine ⟨fun a ha => (htraced.answers a ha).2.record_iff, ?_, hrecorded.unwritten,
    hinv.written.imp (fun c e ⟨prev, hash, _, _, he⟩ => ⟨prev, hash, he⟩), hinv.linked,
    hinv.text_eq, hinv.verifies⟩
  have hstarted := (hinv.accounted hfailed).map AuditRecord.members
  rw [List.map_append, List.map_map] at hstarted
  exact hrecorded.once.trans (List.Perm.append_left _ (hstarted.trans List.perm_append_comm))

/-! ## 4. What a record says of a Passport -/

/-- The fields of a record that repeat a claim of its Passport. -/
def accountedFields : List (String × String) :=
  [("passport_id", "jti"), ("execution_id", "sub"), ("app_id", "aud"),
    ("tenant_id", "tenant_id"), ("action_type", "action_type"), ("policy", "policy")]

/-- The record is about the execution that the claims authorize. -/
def Accounts (record claims : Dict Json) : Prop :=
  ∀ p ∈ accountedFields, ∃ v, record.lookup (lit p.1) = some v ∧ claims.lookup (lit p.2) = some v

/-- The Passport is in the body of the answer. -/
def Answer.Carries (a : Answer) (token : Token) : Prop :=
  (∃ response, a.reply = .ok (.decision response) ∧ response.passport = some token) ∨
    ∃ response, a.reply = .ok (.approval response) ∧ response.passport = some token

/-- The claims that a record repeats. -/
theorem lookup_passportClaims (c : PassportClaims) :
    c.dump.lookup (lit "jti") = some (.str c.jti.str) ∧
      c.dump.lookup (lit "sub") = some (.str c.sub.str) ∧
      c.dump.lookup (lit "aud") = some (.str c.aud.str) ∧
      c.dump.lookup (lit "tenant_id") = some (.str c.tenantId.str) ∧
      c.dump.lookup (lit "action_type") = some (.str c.actionType.str) ∧
      c.dump.lookup (lit "policy") = some (.str c.policy.str) ∧
      c.dump.lookup (lit "azp") = some (.str c.azp.str) :=
  ⟨rfl, rfl, rfl, rfl, rfl, rfl, rfl⟩

/-- A record with the fields of the claims. -/
theorem accounts_dump {record : Dict Json} {c : PassportClaims}
    (hid : record.lookup (lit "passport_id") = some (.str c.jti.str))
    (hsub : record.lookup (lit "execution_id") = some (.str c.sub.str))
    (haud : record.lookup (lit "app_id") = some (.str c.aud.str))
    (htenant : record.lookup (lit "tenant_id") = some (.str c.tenantId.str))
    (haction : record.lookup (lit "action_type") = some (.str c.actionType.str))
    (hpolicy : record.lookup (lit "policy") = some (.str c.policy.str)) :
    Accounts record c.dump := by
  obtain ⟨ljti, lsub, laud, ltenant, laction, lpolicy, -⟩ := lookup_passportClaims c
  simp only [Accounts, accountedFields, List.forall_mem_cons, List.not_mem_nil, false_implies,
    implies_true, and_true]
  exact ⟨⟨_, hid, ljti⟩, ⟨_, hsub, lsub⟩, ⟨_, haud, laud⟩, ⟨_, htenant, ltenant⟩,
    ⟨_, haction, laction⟩, ⟨_, hpolicy, lpolicy⟩⟩

/-- The Passport of a response and its id are signed together. -/
theorem Evaluated.passport_id {request : DecisionRequest} {py : Interpreter} {keys : KeyManager}
    {caller : Caller} {now : Clock} {uuid : Text} {plugin : Plugin} {verified : VerifiedContext}
    {triggered : List PolicyRule} {gated : Bool} {response : DecisionResponse} {token : Token}
    (h : Evaluated request py sha keys caller now uuid plugin verified triggered gated response)
    (hp : response.passport = some token) :
    ∃ jti, response.passportId = some jti ∧ response.pluginVersion = plugin.versionLabel ∧
      signDecision sha keys now uuid (passportGrant plugin request caller triggered) =
        .ok (token, jti) := by
  rw [h.eq] at hp ⊢
  simp only [respond] at hp ⊢
  obtain ⟨passport, hsigned, rfl⟩ := Option.map_eq_some_iff.mp hp
  refine ⟨passport.2, by rw [hsigned]; rfl, trivial, ?_⟩
  unfold signPassport at hsigned
  split at hsigned
  · split at hsigned
    · rename_i signed hsign
      cases hsigned
      exact hsign
    · cases hsigned
  · cases hsigned

/-- A Passport in an answer: who got it, what was signed, and the record of it.  Both ways to a
Passport, a decision and an approval, come to this, and what follows is said of it once. -/
structure Answer.Granted (a : Answer) (sha : Sha256) (keys : KeyManager) (token : Token)
    (grant : DecisionGrant) (signedAt : Clock) (uuid jti : Text) : Prop where
  signed : signDecision sha keys signedAt uuid grant = .ok (token, jti)
  authenticated : a.flight.caller.authenticated = true
  client : grant.clientId = a.flight.caller.clientId
  mayAct : a.flight.caller.mayActFor grant.appId = true
  record : ∃ record, a.record = some record ∧ Accounts record token.claims

theorem Answer.Explained.granted {a : Answer} (h : a.Explained deployed compact w)
    (hentitled : a.flight.Entitled deployed settings) {token : Token}
    (hcarries : a.Carries token) :
    ∃ grant signedAt uuid jti,
      a.Granted deployed.sha deployed.keys token grant signedAt uuid jti := by
  cases h with
  | decision flight request now loaded tokens context response record body hrequest hmade hbody
      hmem =>
    -- the fail-safe response carries none, so a policy was loaded and what it signed is at hand
    rcases hcarries with ⟨r, hr, hpassport⟩ | ⟨r, hr, -⟩
    swap
    · cases hr
    cases hr
    obtain ⟨hdecide, hrecord⟩ := createDecision_eq_ok hmade
    obtain ⟨message, -, hfail, -⟩ | ⟨plugin, verified, triggered, gated, -, -, he⟩ :=
      decide_eq_ok.mp hdecide
    · rw [hfail] at hpassport
      cases hpassport
    obtain ⟨jti, hid, hpolicy, hsign⟩ := he.passport_id hpassport
    obtain ⟨-, -, -, -, hauth, -⟩ := decide_passport hdecide hpassport
    obtain ⟨hash, key, -, -, -, -, htoken⟩ := signDecision_eq_ok hsign
    refine ⟨_, now, context.uuid, jti, hsign, hauth, rfl, ?_, _, rfl, ?_⟩
    · have hpermitted := (entitled_eq_ok hentitled).2
      exact (permitted_eq_ok hpermitted).1 request hrequest
    · obtain ⟨hash, -, hrec⟩ := bind_eq_ok hrecord
      cases hrec
      rw [htoken]
      refine accounts_dump ?_ rfl rfl rfl rfl ?_
      · simp only [ExecutionRecord.dump, hid]
        rfl
      · simp only [ExecutionRecord.dump, hpolicy]
        rfl
  | approval flight request now later plugin context response record hrequest hmade hmem =>
    rcases hcarries with ⟨r, hr, -⟩ | ⟨r, hr, hpassport⟩
    · cases hr
    cases hr
    obtain ⟨ticket, hadmit, hx⟩ := bind_eq_ok hmade
    obtain ⟨p, passport, -, -, hpass, hr, hrecord⟩ := exchange_eq_ok hx
    rw [hr] at hpassport
    obtain ⟨⟨token', jti⟩, rfl, rfl⟩ := Option.map_eq_some_iff.mp hpassport
    obtain ⟨-, hsign⟩ := approvalPassport_eq_some hpass
    have hadmitted := admitRequest_eq_ok hadmit
    obtain ⟨hash, key, -, -, -, -, htoken⟩ := signDecision_eq_ok hsign
    refine ⟨_, later, context.uuid, jti, hsign, hadmitted.authenticated, rfl, hadmitted.mayAct, _,
      rfl, ?_⟩
    rw [hrecord, htoken]
    exact accounts_dump rfl rfl rfl rfl rfl rfl
  | introspection flight response =>
    rcases hcarries with ⟨r, hr, -⟩ | ⟨r, hr, -⟩ <;> cases hr
  | failed flight e =>
    rcases hcarries with ⟨r, hr, -⟩ | ⟨r, hr, -⟩ <;> cases hr

/-- The record of an answer has no hash only where the caller has put an integer into the metadata
that no double holds. -/
theorem Answer.Explained.unhashable {a : Answer} (h : a.Explained deployed compact w)
    {record : Dict Json} (hrecord : a.record = some record) (hhash : ¬ Hashable (.obj record)) :
    ∃ request, a.flight.request = .decision request ∧
      request.metadata.json.hasDoubles = false := by
  cases h with
  | decision flight request now loaded tokens context response r body hrequest hmade hbody
      hmem =>
    cases hrecord
    obtain ⟨hdecide, hrec⟩ := createDecision_eq_ok hmade
    obtain ⟨hinput, hmeta⟩ := getExecutionRecord_eq_ok hrec
    have htext : r.metadata.json.isText = true := by
      rw [hmeta]
      exact DecisionResponse.isText_metadata (renderResponse_isOk_iff.mp ⟨body, hbody⟩).2
    rw [ExecutionRecord.hashable_dump_iff (isScalar_hashPayload hinput)] at hhash
    refine ⟨request, hrequest, ?_⟩
    rw [← metadata_of_decide hdecide, ← hmeta]
    exact Bool.eq_false_iff.mpr (fun hdoubles => hhash ⟨htext, hdoubles⟩)
  | approval flight request now later plugin context response r hrequest hmade hmem =>
    cases hrecord
    exact absurd (ApprovalRecord.hashable_dump (isScalar_payloadHash hmade)) hhash
  | introspection flight response => cases hrecord
  | failed flight e => cases hrecord

theorem Extends.lookup {call : AuditRecord × Timestamp} {entry : Dict Json} (h : Extends call entry)
    {k : Str} (hk : k ≠ recordHashKey ∧ k ≠ prevHashKey ∧ k ≠ timestampKey) :
    entry.lookup k = call.1.members.lookup k := by
  obtain ⟨prev, hash, rfl⟩ := h
  rw [extendedEntry, stamped, Dict.lookup_set, if_neg hk.1, Dict.lookup_set, if_neg hk.2.1,
    Dict.lookup_set, if_neg hk.2.2]

/-- An entry says what its record says. -/
theorem Extends.accounts {call : AuditRecord × Timestamp} {entry claims : Dict Json}
    (h : Extends call entry) (ha : Accounts call.1.members claims) : Accounts entry claims := by
  intro p hp
  obtain ⟨v, hrecord, hclaim⟩ := ha p hp
  refine ⟨v, ?_, hclaim⟩
  have hkeys : ∀ q ∈ accountedFields,
      lit q.1 ≠ recordHashKey ∧ lit q.1 ≠ prevHashKey ∧ lit q.1 ≠ timestampKey := by
    decide +kernel
  exact (h.lookup (hkeys p hp)).trans hrecord

/-! ## 5. What a gateway lets through -/

/-- A token that a gateway takes for a Passport of AXG was in the body of an answer. -/
theorem accepted_answer
    (h : Reachable Server.Init (ServerStep validate deployed settings compact) s)
    {call : VerifyCall} {cache : Option ReplayCache} {now later : Clock} {claims : Dict Json}
    (htoken : s.Presents deployed.keys call.token)
    (hkey : call.keySource.signingKey call.token = some deployed.keys.publicKey)
    (hv : (verifyPassport deployed.sha call cache now later).1 = .ok claims) :
    ∃ a ∈ s.answers, a.Carries call.token ∧ a.flight.Entitled deployed settings ∧
      a.Explained deployed compact s.world ∧ call.token.claims = claims ∧
      decodeStep deployed.sha call now = .ok claims := by
  have htraced := Server.traced_of_reachable h
  have hinv := World.inv_of_reachable htraced.world
  have hd := decodeStep_of_verifyPassport hv
  obtain ⟨key, hk, hjwt, -⟩ := decodeStep_eq_ok_iff.mp hd
  obtain ⟨hsigner, hclaims, -⟩ := jwtDecode_eq_ok hjwt
  rw [← hk, hkey] at hsigner
  obtain ⟨a, ha, hshows⟩ := htoken _ hsigner (.inl rfl)
  obtain ⟨hentitled, hexplained⟩ := htraced.answers a ha
  refine ⟨a, ha, ?_, hentitled, hexplained, hclaims, hd⟩
  rcases hshows with ⟨response, hreply, hpassport | ⟨challenge, hchallenge, htick⟩⟩ |
    ⟨response, hreply, hpassport⟩
  · exact .inl ⟨response, hreply, hpassport⟩
  · -- a ticket of the answer
    cases hexplained with
    | decision flight request decidedAt loaded tokens context r record body hrequest hmade hbody
        hmem =>
      cases hreply
      obtain ⟨plugin, triggered, signedAt, uuid, -, -, -, hsign⟩ :=
        (hinv.decided _ hmem).ticket hchallenge
      exact absurd hd (not_decoded_ticket hsign htick)
    | approval flight request t t' plugin context r record hrequest hmade hmem => cases hreply
    | introspection flight r => cases hreply
    | failed flight e => cases hreply
  · exact .inr ⟨response, hreply, hpassport⟩

/-- Whoever executes under a Passport of AXG has it from a client that may act for the app: the
request that was answered with it carried the key of an entry of `AXG_CLIENTS`.  A Passport
cannot be made without AXG's private key, and what AXG signs leaves the server in an answer only,
so the answer is found from the signature. -/
theorem served_authorization
    (h : Reachable Server.Init (ServerStep validate deployed settings compact) s)
    {call : VerifyCall} {cache : Option ReplayCache} {now later : Clock} {claims : Dict Json}
    (htoken : s.Presents deployed.keys call.token)
    (hkey : call.keySource.signingKey call.token = some deployed.keys.publicKey)
    (hv : (verifyPassport deployed.sha call cache now later).1 = .ok claims) :
    ∃ a ∈ s.answers, a.Carries call.token ∧
      (∃ client, Identified deployed.py deployed.sha settings a.flight.authorization
        a.flight.caller client) ∧
      (∃ app : Text, app.str = call.appId ∧ a.flight.caller.mayActFor app = true) ∧
      claims.lookup (lit "azp") = some (.str a.flight.caller.clientId.str) := by
  obtain ⟨a, ha, hcarries, hentitled, hexplained, hclaims, hd⟩ := accepted_answer h htoken hkey hv
  obtain ⟨grant, signedAt, uuid, jti, hgranted⟩ := hexplained.granted hentitled hcarries
  refine ⟨a, ha, hcarries, identified_of_authenticated (entitled_eq_ok hentitled).1
    hgranted.authenticated, ⟨grant.appId, (accepted_grant hgranted.signed hd).1,
      hgranted.mayAct⟩, ?_⟩
  obtain ⟨hash, key, -, -, -, -, htok⟩ := signDecision_eq_ok hgranted.signed
  rw [← hclaims, htok, ← hgranted.client]
  exact (lookup_passportClaims _).2.2.2.2.2.2

/-- What is executed under a Passport of AXG is in the audit log, or its record is still on the
way there.  The one way around the log is metadata with an integer that no double holds. -/
theorem execution_accounted
    (h : Reachable Server.Init (ServerStep validate deployed settings compact) s)
    {call : VerifyCall} {cache : Option ReplayCache} {now later : Clock} {claims : Dict Json}
    (htoken : s.Presents deployed.keys call.token)
    (hkey : call.keySource.signingKey call.token = some deployed.keys.publicKey)
    (hv : (verifyPassport deployed.sha call cache now later).1 = .ok claims) :
    ∃ a ∈ s.answers, a.Carries call.token ∧ ∃ record, a.record = some record ∧
      Accounts record claims ∧
      (record ∈ s.tasks ∨ (∃ log ∈ s.audit.pending, log.members = record) ∨
        (∃ entry ∈ s.audit.entries, Accounts entry claims) ∨
        record ∈ s.unwritten ∧ ∃ request, a.flight.request = .decision request ∧
          request.metadata.json.hasDoubles = false) := by
  obtain ⟨a, ha, hcarries, hentitled, hexplained, rfl, -⟩ := accepted_answer h htoken hkey hv
  obtain ⟨grant, signedAt, uuid, jti, hgranted⟩ := hexplained.granted hentitled hcarries
  obtain ⟨record, hrecord, haccounts⟩ := hgranted.record
  refine ⟨a, ha, hcarries, record, hrecord, haccounts, ?_⟩
  have hrecorded := Server.recorded_of_reachable h
  have hscheduled : record ∈ s.scheduled := List.mem_filterMap.mpr ⟨a, ha, hrecord⟩
  rw [hrecorded.once.mem_iff, List.mem_append, List.mem_append] at hscheduled
  -- the three lists of `Recorded.once`; a call of the sink has ended or is still pending
  rcases hscheduled with (htask | hunwritten) | hstarted
  · exact .inl htask
  · exact .inr (.inr (.inr ⟨hunwritten,
      hexplained.unhashable hrecord (hrecorded.unwritten record hunwritten)⟩))
  obtain ⟨log, hlog, rfl⟩ := List.mem_map.mp hstarted
  have haccounted := hrecorded.sink.inv.accounted hrecorded.sink.noneFailed
  rw [haccounted.mem_iff, List.mem_append] at hlog
  rcases hlog with hfinished | hpending
  · obtain ⟨c, hc, rfl⟩ := List.mem_map.mp hfinished
    obtain ⟨entry, hentry, prev, hash, -, -, hextends⟩ := hrecorded.sink.inv.exists_entry hc
    have hext : Extends c entry := ⟨prev, hash, hextends⟩
    exact .inr (.inr (.inl ⟨entry, hentry, hext.accounts haccounts⟩))
  · exact .inr (.inl ⟨log, hpending, rfl⟩)

end

/-! ## 6. The payment of the run -/

/-- The call of a gateway that executes the payment. -/
def servedCall (token : Token) : VerifyCall where
  token := token
  payload := servedResponse.actionablePayload
  appId := lit "app"
  tenantId := some (lit "tenant")
  allowedActionTypes := some [lit "pay"]
  keySource := .publicKey pairedKeys.publicKey

/-- The gateway accepts the Passport of the answer. -/
theorem servedCall_accepted : ∃ token claims, servedResponse.passport = some token ∧
    (verifyPassport servedSha (servedCall token) none 0 0).1 = .ok claims := by
  have hsome : servedResponse.passport.isSome = true := by decide +kernel
  obtain ⟨token, htoken⟩ := Option.isSome_iff_exists.mp hsome
  have he : Evaluated payRequest plainInterpreter servedSha pairedKeys starCaller 0 (.lit "j1")
      payPolicy .none [] false servedResponse := ⟨rfl, rfl, rfl, .of_empty rfl⟩
  obtain ⟨jti, -, -, hsign⟩ := he.passport_id htoken
  obtain ⟨claims, hdecode⟩ : ∃ claims, decodeStep servedSha (servedCall token) 0 = .ok claims := by
    refine decodeStep_fresh hsign rfl rfl (by decide : lit "app" ≠ []) ?_ ?_ rfl (le_refl _)
      (by decide)
    · intro t ht hne
      rw [← Option.some.inj ht]; rfl
    · intro actions ha hne
      rw [← Option.some.inj ha]
      exact List.mem_singleton.mpr rfl
  exact ⟨token, claims, htoken, by rw [verifyPassport, hdecode]⟩

/-- The token of an answer is presented. -/
theorem Server.presents_of_carries {a : Answer} {token : Token} {s : Server} {keys : KeyManager}
    (ha : a ∈ s.answers) (hcarries : a.Carries token) : s.Presents keys token := by
  intro key hsigner hown
  refine ⟨a, ha, ?_⟩
  rcases hcarries with ⟨response, hreply, htoken⟩ | ⟨response, hreply, htoken⟩
  · exact .inl ⟨response, hreply, .inl htoken⟩
  · exact .inr ⟨response, hreply, htoken⟩

theorem recorded_once_pay : ∃ s : Server, s.answers ≠ [] ∧ s.Complete servedSha := by
  obtain ⟨s, h, a, ha, -⟩ := reachable_served
  exact ⟨s, List.ne_nil_of_mem ha, recorded_once h⟩

theorem served_authorization_pay : ∃ (s : Server) (token : Token) (claims : Dict Json),
    (verifyPassport servedSha (servedCall token) none 0 0).1 = .ok claims ∧
      ∃ a ∈ s.answers, a.Carries token ∧
        (∃ client, Identified plainInterpreter servedSha keySettings a.flight.authorization
          a.flight.caller client) ∧
        (∃ app : Text, app.str = lit "app" ∧ a.flight.caller.mayActFor app = true) ∧
        claims.lookup (lit "azp") = some (.str a.flight.caller.clientId.str) := by
  obtain ⟨s, h, a, ha, hreply⟩ := reachable_served
  obtain ⟨token, claims, htoken, hv⟩ := servedCall_accepted
  exact ⟨s, token, claims, hv, served_authorization h
    (Server.presents_of_carries ha (.inl ⟨_, hreply, htoken⟩)) rfl hv⟩

theorem execution_accounted_pay : ∃ (s : Server) (token : Token) (claims : Dict Json),
    (verifyPassport servedSha (servedCall token) none 0 0).1 = .ok claims ∧
      ∃ a ∈ s.answers, a.Carries token ∧ ∃ record, a.record = some record ∧
        Accounts record claims := by
  obtain ⟨s, h, a, ha, hreply⟩ := reachable_served
  obtain ⟨token, claims, htoken, hv⟩ := servedCall_accepted
  obtain ⟨b, hb, hcarries, record, hrecord, haccounts, -⟩ := execution_accounted h
    (Server.presents_of_carries ha (.inl ⟨_, hreply, htoken⟩)) rfl hv
  exact ⟨s, token, claims, hv, b, hb, hcarries, record, hrecord, haccounts⟩

end Axg
