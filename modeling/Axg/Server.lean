/-
# The server in one run

The API as a system: requests arrive, pass the checks of `axg/api.py`, wait for a policy, and are
answered in any order; background tasks write the records of those that were answered, each in
its own time; and `reload_plugins` calls and edits of policies come between.  Signatures are ideal,
as in `World`, but what is known outside is only what was in an answer (`Server.Presents`).

The decisions and approvals that were answered are those of a run of `World`
(`Server.world_reachable`).  So what `World` says of a Passport holds of one that the server sent,
and the server adds who got it: a client whose key was in the header of the request
(`served_authorization`).  The limiter is one for the three endpoints, and counts what has been
admitted whether or not it has been answered (`admitted_within_limit`).
-/
import Axg.Api
import Axg.World

namespace Axg

open Python General

/-! ## 1. Runs -/

/-- A request past the limiter, without an answer yet. -/
structure Flight where
  authorization : Option Str
  request : ApiRequest
  caller : Caller
  admitted : Call ℚ

/-- What an admitted request was answered with, and the record that was scheduled with it. -/
structure Answer where
  flight : Flight
  reply : Except HttpError Reply
  record : Option (Dict Json)

/-- A request that was not admitted.  `checked` is the call of the limiter, if it came so far. -/
structure Refused where
  authorization : Option Str
  request : ApiRequest
  error : HttpError
  checked : Option (Call ℚ)

/-- `checks` are the calls of the limiter with their answers, `tasks` the background tasks that
have not begun, and `unwritten` the records that the sink raised on. -/
structure Server where
  world : World
  windows : Windows
  checks : List (Call ℚ × Option Int)
  flights : List Flight
  answers : List Answer
  refused : List Refused
  tasks : List (Dict Json)
  unwritten : List (Dict Json)
  audit : AuditState

/-- The token is in the body of the answer, as a Passport or as a ticket. -/
def Answer.Shows (a : Answer) (token : Token) : Prop :=
  (∃ response, a.reply = .ok (.decision response) ∧
      (token ∈ response.passport ∨ ∃ challenge ∈ response.approval, token = challenge.ticket)) ∨
    ∃ response, a.reply = .ok (.approval response) ∧ token ∈ response.passport

namespace Server

/-- A new process, with a sink over a path where no file is. -/
structure Init (s : Server) : Prop where
  world : s.world.Init
  windows : s.windows = []
  checks : s.checks = []
  flights : s.flights = []
  answers : s.answers = []
  refused : s.refused = []
  tasks : s.tasks = []
  unwritten : s.unwritten = []
  audit : s.audit = AuditState.initial

/-- Whoever presents a token has made it up or has got it in an answer, and nobody else signs with
AXG's keys. -/
def Presents (s : Server) (keys : KeyManager) (token : Token) : Prop :=
  ∀ key, token.signer = some key → keys.own key → ∃ a ∈ s.answers, a.Shows token

/-- A call of the limiter, for a request that is entitled to one. -/
def enter (limit : Int) (s : Server) (authorization : Option Str) (request : ApiRequest)
    (caller : Caller) (now : ℚ) : Server :=
  let call : Call ℚ := ⟨caller.clientId.str, now⟩
  let checks := s.checks ++ [(call, (check limit s.windows caller.clientId.str now).1)]
  match limited limit s.windows caller now with
  | (.ok (), windows) =>
    { s with
      windows, checks, flights := s.flights ++ [⟨authorization, request, caller, call⟩] }
  | (.error e, windows) =>
    { s with
      windows, checks, refused := s.refused ++ [⟨authorization, request, e, some call⟩] }

/-- The flight ends: it has an answer, and perhaps a task. -/
def settle (s : Server) (before after : List Flight) (flight : Flight)
    (answer : Except HttpError Reply × Option (Dict Json)) : Server :=
  { s with
    flights := before ++ after
    answers := s.answers ++ [⟨flight, answer.1, answer.2⟩]
    tasks := s.tasks ++ answer.2.toList }

end Server

/-- A decision that was answered is one of the world. -/
def World.afterDecision (w : World) (request : DecisionRequest) (caller : Caller)
    (loaded : Except Text Plugin) : Except HttpError Reply → World
  | .ok (.decision response) =>
    { w with decided := w.decided ++ [⟨request, caller, loaded, response⟩] }
  | _ => w

/-- A submission that was answered is one of the world. -/
def World.afterApproval (w : World) (request : ApprovalRequest) (caller : Caller) :
    Option Plugin → Except HttpError Reply → World
  | some plugin, .ok (.approval response) =>
    { w with submitted := w.submitted ++ [⟨request, caller, plugin, response⟩] }
  | _, _ => w

/-- The sink has raised on a record: if it had no last hash, it may have read one. -/
def AuditState.afterRaise (s : AuditState) : AuditState :=
  { s with lastHash := s.lastHash.or (readLastHash s.file).toOption }

section

variable (validate : Json → Option Plugin) (deployed : Deployment) (settings : Settings)
  (compact : Token → Text)

/-- One step of the server.  A record is appended as a whole line: the opens and writes of the audit
file succeed. -/
inductive ServerStep : Server → Server → Prop
  | load (s : Server) (l : LoaderState) (h : LoaderStep validate anyStore s.world.loader l)
      (hkeep : l.clears = s.world.loader.clears) :
    ServerStep s { s with world := { s.world with loader := l } }
  | reload (s : Server) (authorization : Option Str) (l : LoaderState)
      (hadmin : reloadPlugins settings authorization = .ok ())
      (h : LoaderStep validate anyStore s.world.loader l)
      (hclear : l.clears = s.world.loader.clears + 1) :
    ServerStep s { s with world := { s.world with loader := l } }
  | refuse (s : Server) (authorization : Option Str) (request : ApiRequest) (e : HttpError)
      (h : entitled deployed.py deployed.sha settings authorization request = .error e) :
    ServerStep s { s with refused := s.refused ++ [⟨authorization, request, e, none⟩] }
  | enter (s : Server) (authorization : Option Str) (request : ApiRequest) (caller : Caller)
      (now : ℚ)
      (h : entitled deployed.py deployed.sha settings authorization request = .ok caller)
      (hclock : ∀ p ∈ s.checks, p.1.now ≤ now) :
    ServerStep s (s.enter settings.rateLimit authorization request caller now)
  | decide (s : Server) (before after : List Flight) (flight : Flight) (request : DecisionRequest)
      (now : Clock) (loaded : Except Text Plugin) (tokens : List Presented)
      (context : CallContext) (hflights : s.flights = before ++ flight :: after)
      (hrequest : flight.request = .decision request)
      (hloaded : ∀ plugin, loaded = .ok plugin → s.world.HasLoaded request.pluginId plugin) :
    ServerStep s (Server.settle
      { s with
        world := s.world.afterDecision request flight.caller loaded (decisionAnswer compact
          deployed request flight.caller now loaded tokens context).1 }
      before after flight
      (decisionAnswer compact deployed request flight.caller now loaded tokens context))
  | approve (s : Server) (before after : List Flight) (flight : Flight)
      (request : ApprovalRequest) (now later : Clock) (loaded : Option Plugin)
      (context : CallContext) (hflights : s.flights = before ++ flight :: after)
      (hrequest : flight.request = .approval request)
      (hticket : s.Presents deployed.keys request.ticket)
      (hloaded : ∀ plugin, loaded = some plugin → ∀ ticket,
        verifyApprovalTicket deployed.keys now request.ticket = .ok ticket →
          s.world.HasLoaded ticket.pluginId plugin) :
    ServerStep s (Server.settle
      { s with
        world := s.world.afterApproval request flight.caller loaded (approvalAnswer compact
          deployed request flight.caller loaded now later context).1 }
      before after flight
      (approvalAnswer compact deployed request flight.caller loaded now later context))
  | introspect (s : Server) (before after : List Flight) (flight : Flight)
      (request : IntrospectionRequest) (now : Clock)
      (hflights : s.flights = before ++ flight :: after)
      (hrequest : flight.request = .introspection request) :
    ServerStep s (s.settle before after flight
      (introspectionAnswer compact deployed request flight.caller now))
  | record (s : Server) (before after : List (Dict Json)) (log : AuditRecord)
      (htasks : s.tasks = before ++ log.members :: after) :
    ServerStep s
      { s with
        tasks := before ++ after
        audit := { s.audit with
          waiting := s.audit.waiting ++ [log], started := s.audit.started ++ [log] } }
  | raise (s : Server) (before after : List (Dict Json)) (task : Dict Json)
      (htasks : s.tasks = before ++ task :: after) (hhash : ¬ Hashable (.obj task))
      (hfree : s.audit.holder = none) :
    ServerStep s
      { s with
        tasks := before ++ after
        unwritten := s.unwritten ++ [task]
        audit := s.audit.afterRaise }
  -- the calls of the sink are those of the tasks, and the process has one sink
  | audit (s : Server) (a : AuditState) (h : AuditStep deployed.sha s.audit a)
      (hcalls : a.started = s.audit.started)
      (hsink : a.lastHash = none → s.audit.lastHash = none) :
    ServerStep s { s with audit := a }

end

/-! ## 2. What an answer comes from -/

section

variable {validate : Json → Option Plugin} {deployed : Deployment} {settings : Settings}
  {compact : Token → Text} {s t : Server} {v w : World}

variable (deployed settings) in
/-- The request has passed the checks of its endpoint. -/
def Flight.Entitled (f : Flight) : Prop :=
  entitled deployed.py deployed.sha settings f.authorization f.request = .ok f.caller

variable (deployed compact) in
/-- A decision or an approval that is sent is one of the world, and its record is scheduled.
Nothing else is. -/
inductive Answer.Explained (w : World) : Answer → Prop
  | decision (flight : Flight) (request : DecisionRequest) (now : Clock)
      (loaded : Except Text Plugin) (tokens : List Presented) (context : CallContext)
      (response : DecisionResponse) (record : ExecutionRecord) (body : Str)
      (hrequest : flight.request = .decision request)
      (hmade : createDecision deployed request flight.caller now loaded tokens context =
        .ok (response, record))
      (hbody : renderResponse (.obj (response.dump compact)) = .ok body)
      (hmem : ⟨request, flight.caller, loaded, response⟩ ∈ w.decided) :
    Explained w ⟨flight, .ok (.decision response), some record.dump⟩
  | approval (flight : Flight) (request : ApprovalRequest) (now later : Clock) (plugin : Plugin)
      (context : CallContext) (response : ApprovalResponse) (record : ApprovalRecord)
      (hrequest : flight.request = .approval request)
      (hmade : submit deployed.sha deployed.keys request flight.caller (some plugin) now later
        context = .ok (response, record))
      (hmem : ⟨request, flight.caller, plugin, response⟩ ∈ w.submitted) :
    Explained w ⟨flight, .ok (.approval response), some record.dump⟩
  | introspection (flight : Flight) (response : IntrospectionResponse) :
    Explained w ⟨flight, .ok (.introspection response), none⟩
  | failed (flight : Flight) (e : HttpError) : Explained w ⟨flight, .error e, none⟩

/-- The answer is the one to the decision. -/
structure Answer.Tells (a : Answer) (d : Decided) : Prop where
  request : a.flight.request = .decision d.request
  caller : a.flight.caller = d.caller
  reply : a.reply = .ok (.decision d.response)

/-- The answer is the one to the submission. -/
structure Answer.Accepts (a : Answer) (x : Submitted) : Prop where
  request : a.flight.request = .approval x.request
  caller : a.flight.caller = x.caller
  reply : a.reply = .ok (.approval x.response)

theorem Answer.Explained.mono {a : Answer} (h : a.Explained deployed compact w)
    (hdecided : w.decided ⊆ v.decided) (hsubmitted : w.submitted ⊆ v.submitted) :
    a.Explained deployed compact v := by
  cases h with
  | decision flight request now loaded tokens context response record body hrequest hmade hbody
      hmem =>
    exact .decision flight request now loaded tokens context response record body hrequest hmade
      hbody (hdecided hmem)
  | approval flight request now later plugin context response record hrequest hmade hmem =>
    exact .approval flight request now later plugin context response record hrequest hmade
      (hsubmitted hmem)
  | introspection flight response => exact .introspection flight response
  | failed flight e => exact .failed flight e

/-- A token that an answer shows is one that the world has issued. -/
theorem Answer.Explained.issued {a : Answer} (h : a.Explained deployed compact w) {token : Token}
    (hshows : a.Shows token) : w.Issued token := by
  cases h with
  | decision flight request now loaded tokens context response record body hrequest hmade hbody
      hmem =>
    rcases hshows with ⟨r, hr, htoken⟩ | ⟨r, hr, -⟩
    · cases hr
      exact .inl ⟨_, hmem, htoken⟩
    · cases hr
  | approval flight request now later plugin context response record hrequest hmade hmem =>
    rcases hshows with ⟨r, hr, -⟩ | ⟨r, hr, htoken⟩
    · cases hr
    · cases hr
      exact .inr ⟨_, hmem, htoken⟩
  | introspection flight response =>
    rcases hshows with ⟨r, hr, -⟩ | ⟨r, hr, -⟩ <;> cases hr
  | failed flight e =>
    rcases hshows with ⟨r, hr, -⟩ | ⟨r, hr, -⟩ <;> cases hr

variable (validate deployed settings compact) in
/-- What every reachable state keeps: the world is in a run of its own, and its decisions and
submissions are those that were answered. -/
structure Server.Traced (s : Server) : Prop where
  world : Reachable World.Init (WorldStep validate deployed.py deployed.sha deployed.keys) s.world
  flights : ∀ f ∈ s.flights, f.Entitled deployed settings
  answers : ∀ a ∈ s.answers, a.flight.Entitled deployed settings ∧
    a.Explained deployed compact s.world
  decided : ∀ d ∈ s.world.decided, ∃ a ∈ s.answers, a.Tells d
  submitted : ∀ x ∈ s.world.submitted, ∃ a ∈ s.answers, a.Accepts x

theorem Server.Traced.init (h : s.Init) : s.Traced validate deployed settings compact where
  world := .of_init h.world
  flights f hf := by simp [h.flights] at hf
  answers a ha := by simp [h.answers] at ha
  decided d hd := by simp [h.world.2.1] at hd
  submitted x hx := by simp [h.world.2.2] at hx

theorem Server.Traced.presents (h : s.Traced validate deployed settings compact)
    {keys : KeyManager} {token : Token} (hp : s.Presents keys token) :
    s.world.Presents keys token := by
  intro key hsigner hown
  obtain ⟨a, ha, hshows⟩ := hp key hsigner hown
  exact (h.answers a ha).2.issued hshows

/-- A step of the loader. -/
theorem Server.Traced.load (h : s.Traced validate deployed settings compact) {l : LoaderState}
    (hl : LoaderStep validate anyStore s.world.loader l) :
    Server.Traced validate deployed settings compact
      { s with world := { s.world with loader := l } } where
  world := h.world.tail (.loader _ l hl)
  flights := h.flights
  answers a ha := ⟨(h.answers a ha).1,
    (h.answers a ha).2.mono (List.Subset.refl _) (List.Subset.refl _)⟩
  decided := h.decided
  submitted := h.submitted

/-- The end of a flight, with a world that has made a step or is as it was. -/
theorem Server.Traced.settle (h : s.Traced validate deployed settings compact)
    {before after : List Flight} {flight : Flight}
    (hflights : s.flights = before ++ flight :: after)
    {answer : Except HttpError Reply × Option (Dict Json)}
    (hworld : Reachable World.Init (WorldStep validate deployed.py deployed.sha deployed.keys) w)
    (hdecided : s.world.decided ⊆ w.decided) (hsubmitted : s.world.submitted ⊆ w.submitted)
    (hexplained : Answer.Explained deployed compact w ⟨flight, answer.1, answer.2⟩)
    (hnewDecided : ∀ d ∈ w.decided, d ∈ s.world.decided ∨
      Answer.Tells ⟨flight, answer.1, answer.2⟩ d)
    (hnewSubmitted : ∀ x ∈ w.submitted, x ∈ s.world.submitted ∨
      Answer.Accepts ⟨flight, answer.1, answer.2⟩ x) :
    Server.Traced validate deployed settings compact
      (Server.settle { s with world := w } before after flight answer) where
  world := hworld
  flights f hf := by
    refine h.flights f ?_
    rw [hflights]
    rcases List.mem_append.mp hf with hf | hf
    · exact List.mem_append_left _ hf
    · exact List.mem_append_right _ (List.mem_cons_of_mem _ hf)
  answers a ha := by
    rcases List.mem_append.mp ha with ha | ha
    · exact ⟨(h.answers a ha).1, (h.answers a ha).2.mono hdecided hsubmitted⟩
    · rw [List.mem_singleton.mp ha]
      exact ⟨h.flights flight (by simp [hflights]), hexplained⟩
  decided d hd := by
    rcases hnewDecided d hd with hd | hd
    · obtain ⟨a, ha, htells⟩ := h.decided d hd
      exact ⟨a, List.mem_append_left _ ha, htells⟩
    · exact ⟨_, List.mem_append_right _ (List.mem_singleton.mpr rfl), hd⟩
  submitted x hx := by
    rcases hnewSubmitted x hx with hx | hx
    · obtain ⟨a, ha, haccepts⟩ := h.submitted x hx
      exact ⟨a, List.mem_append_left _ ha, haccepts⟩
    · exact ⟨_, List.mem_append_right _ (List.mem_singleton.mpr rfl), hx⟩

/-- A flight that ends without a decision or an approval. -/
theorem Server.Traced.settle_same (h : s.Traced validate deployed settings compact)
    {before after : List Flight} {flight : Flight}
    (hflights : s.flights = before ++ flight :: after)
    {answer : Except HttpError Reply × Option (Dict Json)}
    (hexplained : Answer.Explained deployed compact s.world ⟨flight, answer.1, answer.2⟩) :
    Server.Traced validate deployed settings compact (s.settle before after flight answer) :=
  h.settle hflights h.world (List.Subset.refl _) (List.Subset.refl _) hexplained
    (fun _ hd => .inl hd) (fun _ hx => .inl hx)

/-- A call of the limiter. -/
theorem Server.Traced.enter (h : s.Traced validate deployed settings compact)
    {authorization : Option Str} {request : ApiRequest} {caller : Caller} {now : ℚ}
    (hentitled : entitled deployed.py deployed.sha settings authorization request = .ok caller) :
    Server.Traced validate deployed settings compact
      (s.enter settings.rateLimit authorization request caller now) := by
  unfold Server.enter
  dsimp only
  split
  · refine ⟨h.world, ?_, h.answers, h.decided, h.submitted⟩
    intro f hf
    rcases List.mem_append.mp hf with hf | hf
    · exact h.flights f hf
    · rw [List.mem_singleton.mp hf]
      exact hentitled
  · exact ⟨h.world, h.flights, h.answers, h.decided, h.submitted⟩

theorem Server.Traced.step (h : s.Traced validate deployed settings compact)
    (hstep : ServerStep validate deployed settings compact s t) :
    t.Traced validate deployed settings compact := by
  cases hstep with
  | load l hl hkeep => exact h.load hl
  | reload authorization l hadmin hl hclear => exact h.load hl
  | refuse authorization request e he =>
    exact ⟨h.world, h.flights, h.answers, h.decided, h.submitted⟩
  | enter authorization request caller now hentitled hclock => exact h.enter hentitled
  | decide before after flight request now loaded tokens context hflights hrequest hloaded =>
    rcases @decisionAnswer_cases compact deployed flight.caller now context request loaded
      tokens with ⟨response, record, body, hmade, hbody, hanswer⟩ | hanswer
    · rw [hanswer]
      refine h.settle hflights (h.world.tail (.decide _ request flight.caller now context.uuid
        loaded _ response hloaded (createDecision_eq_ok hmade).1))
        (List.subset_append_left _ _) (List.Subset.refl _)
        (.decision flight request now loaded tokens context response record body hrequest hmade
          hbody (List.mem_append_right _ (List.mem_singleton.mpr rfl))) ?_ (fun _ hx => .inl hx)
      intro d hd
      rcases List.mem_append.mp hd with hd | hd
      · exact .inl hd
      · rw [List.mem_singleton.mp hd]
        exact .inr ⟨hrequest, rfl, rfl⟩
    · rw [hanswer]
      exact h.settle_same hflights (.failed flight _)
  | approve before after flight request now later loaded context hflights hrequest hticket
      hloaded =>
    rcases @approvalAnswer_cases compact deployed flight.caller now later context request
      loaded with ⟨response, record, hmade, hanswer⟩ | ⟨e, -, hanswer⟩
    · rw [hanswer]
      obtain ⟨ticket, -, hx⟩ := bind_eq_ok hmade
      obtain ⟨plugin, passport, rfl, -⟩ := exchange_eq_ok hx
      refine h.settle hflights (h.world.tail (.submit _ request flight.caller now later context
        plugin response record (h.presents hticket) (hloaded plugin rfl) hmade))
        (List.Subset.refl _) (List.subset_append_left _ _)
        (.approval flight request now later plugin context response record hrequest hmade
          (List.mem_append_right _ (List.mem_singleton.mpr rfl))) (fun _ hd => .inl hd) ?_
      intro x hx
      rcases List.mem_append.mp hx with hx | hx
      · exact .inl hx
      · rw [List.mem_singleton.mp hx]
        exact .inr ⟨hrequest, rfl, rfl⟩
    · rw [hanswer]
      have hsame : s.world.afterApproval request flight.caller loaded (.error e.toHttp) =
          s.world := by
        cases loaded <;> rfl
      rw [hsame]
      exact h.settle_same hflights (.failed flight _)
  | introspect before after flight request now hflights hrequest =>
    refine h.settle_same hflights ?_
    rcases introspectionAnswer_cases request with ⟨response, hanswer⟩ | ⟨e, hanswer⟩
    · rw [hanswer]
      exact .introspection flight response
    · rw [hanswer]
      exact .failed flight e
  | record before after log htasks =>
    exact ⟨h.world, h.flights, h.answers, h.decided, h.submitted⟩
  | raise before after task htasks hhash hfree =>
    exact ⟨h.world, h.flights, h.answers, h.decided, h.submitted⟩
  | audit a ha hcalls hsink => exact ⟨h.world, h.flights, h.answers, h.decided, h.submitted⟩

theorem Server.traced_of_reachable
    (h : Reachable Server.Init (ServerStep validate deployed settings compact) s) :
    s.Traced validate deployed settings compact :=
  h.invariant (I := Server.Traced validate deployed settings compact) (fun _ => .init)
    (fun _ _ _ hs hstep => hs.step hstep)

/-- The server runs the world. -/
theorem Server.world_reachable
    (h : Reachable Server.Init (ServerStep validate deployed settings compact) s) :
    Reachable World.Init (WorldStep validate deployed.py deployed.sha deployed.keys) s.world :=
  (traced_of_reachable h).world

/-! ## 3. One limit for three endpoints -/

/-- The calls of the limiter that let a request in. -/
def Server.admissions (s : Server) : List (Call ℚ) :=
  s.flights.map Flight.admitted ++ s.answers.map (fun a => a.flight.admitted)

variable (settings) in
/-- The limiter has had one run, and everything that it let in is in flight or answered.  So the
calls of the limiter are the calls of the three endpoints, in the order of their arrival. -/
structure Server.Limited (s : Server) : Prop where
  sorted : (s.checks.map (fun p => p.1.now)).Pairwise (· ≤ ·)
  run : Axg.checks settings.rateLimit [] (s.checks.map Prod.fst) = (s.checks, s.windows)
  admitted : s.admissions.Perm ((s.checks.filter (fun p => p.2 = none)).map Prod.fst)
  refused : ∀ r ∈ s.refused, ∀ call ∈ r.checked, ∃ wait, (call, some wait) ∈ s.checks
  own : ∀ f ∈ s.flights, f.admitted.callerId = f.caller.clientId.str
  ownAnswer : ∀ a ∈ s.answers, a.flight.admitted.callerId = a.flight.caller.clientId.str

theorem Server.Limited.init (h : s.Init) : s.Limited settings := by
  refine ⟨?_, ?_, ?_, ?_, ?_, ?_⟩
  · simp [h.checks]
  · rw [h.checks, h.windows]
    rfl
  · simp [Server.admissions, h.flights, h.answers, h.checks]
  · simp [h.refused]
  · simp [h.flights]
  · simp [h.answers]

/-- The end of a flight lets nobody in. -/
theorem Server.Limited.settle (h : s.Limited settings) {before after : List Flight}
    {flight : Flight} (hflights : s.flights = before ++ flight :: after)
    (answer : Except HttpError Reply × Option (Dict Json)) :
    Server.Limited settings (Server.settle { s with world := w } before after flight answer) where
  sorted := h.sorted
  run := h.run
  admitted := by
    refine List.Perm.trans ?_ h.admitted
    simp only [Server.admissions, Server.settle, hflights, List.map_append, List.map_cons,
      List.map_nil, List.append_assoc]
    refine List.Perm.append_left _ ?_
    rw [← List.append_assoc]
    exact List.perm_append_singleton _ _
  refused := h.refused
  own f hf := by
    refine h.own f ?_
    rw [hflights]
    rcases List.mem_append.mp hf with hf | hf
    · exact List.mem_append_left _ hf
    · exact List.mem_append_right _ (List.mem_cons_of_mem _ hf)
  ownAnswer a ha := by
    rcases List.mem_append.mp ha with ha | ha
    · exact h.ownAnswer a ha
    · rw [List.mem_singleton.mp ha]
      exact h.own flight (by simp [hflights])

theorem Server.Limited.enter (h : s.Limited settings) {authorization : Option Str}
    {request : ApiRequest} {caller : Caller} {now : ℚ}
    (hclock : ∀ p ∈ s.checks, p.1.now ≤ now) :
    Server.Limited settings
      (s.enter settings.rateLimit authorization request caller now) := by
  have hrun : Axg.checks settings.rateLimit []
      (s.checks.map Prod.fst ++ [⟨caller.clientId.str, now⟩]) =
        (s.checks ++ [(⟨caller.clientId.str, now⟩,
            (check settings.rateLimit s.windows caller.clientId.str now).1)],
          (check settings.rateLimit s.windows caller.clientId.str now).2) := by
    rw [checks_concat, h.run]
  have hsorted : ∀ answer : Option Int, ((s.checks ++
      [((⟨caller.clientId.str, now⟩ : Call ℚ), answer)]).map (fun p => p.1.now)).Pairwise
        (· ≤ ·) := by
    intro answer
    rw [List.map_append, List.pairwise_append]
    refine ⟨h.sorted, List.pairwise_singleton _ _, ?_⟩
    intro x hx y hy
    obtain ⟨p, hp, rfl⟩ := List.mem_map.mp hx
    rw [List.map_singleton, List.mem_singleton] at hy
    rw [hy]
    exact hclock p hp
  unfold Server.enter
  simp only [limited_eq]
  cases hanswer : (check settings.rateLimit s.windows caller.clientId.str now).1 with
  | none =>
    refine ⟨hsorted none, ?_, ?_, ?_, ?_, h.ownAnswer⟩
    · rw [hanswer] at hrun
      simpa using hrun
    · simp only [Server.admissions, List.filter_append, List.map_append, List.map_singleton,
        List.filter_cons_of_pos, List.filter_nil, decide_true]
      rw [List.append_assoc]
      refine List.Perm.trans (List.Perm.append_left _ List.perm_append_comm) ?_
      rw [← List.append_assoc]
      exact h.admitted.append_right _
    · intro r hr call hcall
      obtain ⟨wait, hwait⟩ := h.refused r hr call hcall
      exact ⟨wait, List.mem_append_left _ hwait⟩
    · intro f hf
      rcases List.mem_append.mp hf with hf | hf
      · exact h.own f hf
      · rw [List.mem_singleton.mp hf]
  | some wait =>
    refine ⟨hsorted (some wait), ?_, ?_, ?_, h.own, h.ownAnswer⟩
    · rw [hanswer] at hrun
      simpa using hrun
    · rw [List.filter_append, List.filter_cons_of_neg (by simp), List.filter_nil,
        List.append_nil]
      exact h.admitted
    · intro r hr call hcall
      rcases List.mem_append.mp hr with hr | hr
      · obtain ⟨wait', hwait⟩ := h.refused r hr call hcall
        exact ⟨wait', List.mem_append_left _ hwait⟩
      · rw [List.mem_singleton.mp hr, Option.mem_some] at hcall
        rw [← hcall]
        exact ⟨wait, List.mem_append_right _ (List.mem_singleton.mpr rfl)⟩

theorem Server.Limited.step (h : s.Limited settings)
    (hstep : ServerStep validate deployed settings compact s t) : t.Limited settings := by
  cases hstep with
  | load l hl hkeep =>
    exact ⟨h.sorted, h.run, h.admitted, h.refused, h.own, h.ownAnswer⟩
  | reload authorization l hadmin hl hclear =>
    exact ⟨h.sorted, h.run, h.admitted, h.refused, h.own, h.ownAnswer⟩
  | refuse authorization request e he =>
    refine ⟨h.sorted, h.run, h.admitted, ?_, h.own, h.ownAnswer⟩
    intro r hr call hcall
    rcases List.mem_append.mp hr with hr | hr
    · exact h.refused r hr call hcall
    · rw [List.mem_singleton.mp hr] at hcall
      cases hcall
  | enter authorization request caller now hentitled hclock => exact h.enter hclock
  | decide before after flight request now loaded tokens context hflights hrequest hloaded =>
    exact h.settle hflights _
  | approve before after flight request now later loaded context hflights hrequest hticket
      hloaded => exact h.settle hflights _
  | introspect before after flight request now hflights hrequest => exact h.settle hflights _
  | record before after log htasks =>
    exact ⟨h.sorted, h.run, h.admitted, h.refused, h.own, h.ownAnswer⟩
  | raise before after task htasks hhash hfree =>
    exact ⟨h.sorted, h.run, h.admitted, h.refused, h.own, h.ownAnswer⟩
  | audit a ha hcalls hsink =>
    exact ⟨h.sorted, h.run, h.admitted, h.refused, h.own, h.ownAnswer⟩

theorem Server.limited_of_reachable
    (h : Reachable Server.Init (ServerStep validate deployed settings compact) s) :
    s.Limited settings :=
  h.invariant (I := Server.Limited settings) (fun _ => .init)
    (fun _ _ _ hs hstep => hs.step hstep)

/-- What a client has been let in with in a minute. -/
def Server.admittedIn (s : Server) (clientId : Text) (m : Int) : List (Call ℚ) :=
  callsIn clientId.str m s.admissions

theorem count_allowedIn (callerId : Str) (m : Int) (answers : List (Call ℚ × Option Int)) :
    (allowedIn callerId m answers).count true =
      (callsIn callerId m ((answers.filter (fun p => p.2 = none)).map Prod.fst)).length := by
  induction answers with
  | nil => rfl
  | cons p answers ih =>
    obtain ⟨call, answer⟩ := p
    by_cases hcall : call.callerId = callerId ∧ minute call.now = m
    · cases answer with
      | none => simpa [allowedIn, callsIn, hcall] using ih
      | some wait => simpa [allowedIn, callsIn, hcall] using ih
    · cases answer with
      | none => simpa [allowedIn, callsIn, hcall] using ih
      | some wait => simpa [allowedIn, callsIn, hcall] using ih

/-- Over the three endpoints together, and in any order of arrivals and answers, a client is let
in at most as often in a minute as the limit says, and is turned away by the limiter only in a
minute in which it has been let in so often.  A request counts when it is let in, whether or not
it has been answered since, so the bound does not wait for the answers. -/
theorem admitted_within_limit (hlimit : 0 < settings.rateLimit)
    (h : Reachable Server.Init (ServerStep validate deployed settings compact) s)
    (clientId : Text) (m : Int) :
    ((s.admittedIn clientId m).length : Int) ≤ settings.rateLimit ∧
      ∀ r ∈ s.refused, ∀ call ∈ r.checked, call.callerId = clientId.str → minute call.now = m →
        ((s.admittedIn clientId m).length : Int) = settings.rateLimit := by
  have hinv := Server.limited_of_reachable h
  have hsorted : ((s.checks.map Prod.fst).map Call.now).Pairwise (· ≤ ·) := by
    simpa [Function.comp_def] using hinv.sorted
  have hallowed := allowedIn_run hlimit clientId.str m hsorted
  rw [hinv.run] at hallowed
  have hcount : (s.admittedIn clientId m).length =
      min settings.rateLimit.toNat (callsIn clientId.str m (s.checks.map Prod.fst)).length := by
    have hperm := hinv.admitted.filter
      (fun call => Decidable.decide (call.callerId = clientId.str ∧ minute call.now = m))
    have hlength := hperm.length_eq
    have htrue := count_allowedIn clientId.str m s.checks
    simp only [hallowed, List.count_append, List.count_replicate_self] at htrue
    rw [List.count_replicate] at htrue
    simp only [Bool.false_beq, Bool.not_true, Bool.false_eq_true, ↓reduceIte, add_zero] at htrue
    exact hlength.trans htrue.symm
  refine ⟨by omega, ?_⟩
  intro r hr call hcall hid hmin
  obtain ⟨wait, hwait⟩ := hinv.refused r hr call hcall
  -- an answer of this minute is a refusal
  have hfalse : false ∈ allowedIn clientId.str m s.checks :=
    List.mem_map.mpr ⟨_, List.mem_filter.mpr ⟨hwait, by simp [hid, hmin]⟩, rfl⟩
  rw [hallowed, List.mem_append, List.mem_replicate, List.mem_replicate] at hfalse
  rcases hfalse with ⟨-, hno⟩ | ⟨hpos, -⟩
  · cases hno
  · omega

end

/-! ## 4. A payment -/

/-- SHA-256 of the client's key and of an empty payload. -/
def servedDigests : DigestTable where
  rows := [(lit "k", keyDigest),
    (lit "\x7b\x7d", lit "44136fa355b3678a1146ad16f7e8649e94fb4fc21fe77e8310c060f61caaff8a")]
  isDigest := by decide +kernel
  nodup := by decide +kernel

/-- Any other text has no digest of its own. -/
def noDigest : Str := List.replicate 64 0x30

def servedSha : Sha256 where
  hexdigest s := (servedDigests.rows.lookup s).getD noDigest
  isHex s := by
    cases h : servedDigests.rows.lookup s with
    | none => exact fun c hc => by rw [List.eq_of_mem_replicate hc]; decide
    | some d => exact (servedDigests.mem_rows h).2.1

/-- The engine of a client whose key is hashed. -/
def keyDeployment : Deployment := { plainDeployment with sha := servedSha }

theorem servedSha_key : servedSha.hexdigest (lit "k") = keyDigest := rfl

/-- Every document is the payment policy. -/
def validatePay (_ : Json) : Option Plugin := some payPolicy

/-- A new process, with a document for every policy. -/
def newServer : Server where
  world := ⟨freshLoader (fun _ => some (lit "null")), [], []⟩
  windows := []
  checks := []
  flights := []
  answers := []
  refused := []
  tasks := []
  unwritten := []
  audit := AuditState.initial

theorem init_newServer : newServer.Init :=
  ⟨⟨⟨rfl, rfl, rfl, rfl, rfl⟩, rfl, rfl⟩, rfl, rfl, rfl, rfl, rfl, rfl, rfl, rfl⟩

def servedResponse : DecisionResponse :=
  respond payPolicy payRequest starCaller servedSha pairedKeys 0 (.lit "j1") .none [] false

/-- The payment is answered, and a record scheduled. -/
theorem decisionAnswer_pay : ∃ record : ExecutionRecord,
    decisionAnswer shortToken keyDeployment payRequest starCaller 0 (.ok payPolicy) []
      plainContext = (.ok (.decision servedResponse), some record.dump) := by
  have hdecide : decide payRequest plainInterpreter servedSha pairedKeys starCaller 0 (.lit "j1")
      (.ok payPolicy) (.ok .none) = .ok servedResponse :=
    decide_eq_ok.mpr (.inr ⟨_, _, [], false, rfl, rfl, rfl, rfl, rfl, .of_empty rfl⟩)
  obtain ⟨record, hrecord⟩ := (@getExecutionRecord_isOk_iff keyDeployment payRequest
    servedResponse plainContext.createdAt plainContext.traceId).mpr ⟨rfl, rfl⟩
  have hmade : createDecision keyDeployment payRequest starCaller 0 (.ok payPolicy) []
      plainContext = .ok (servedResponse, record) := by
    have hverify : verifiedContext keyDeployment payRequest [] = .ok .none := rfl
    rw [createDecision, hverify]
    change (decide payRequest plainInterpreter servedSha pairedKeys starCaller 0 (.lit "j1")
      (.ok payPolicy) (.ok .none) >>= _) = _
    rw [hdecide, ok_bind, hrecord]
    rfl
  exact ⟨record, decisionAnswer_of_made hmade
    (renderResponse_isOk_iff.mpr ⟨by decide +kernel, by decide +kernel⟩)⟩

/-- A request that the limiter lets in. -/
theorem enter_of_allowed {limit : Int} {s : Server} (authorization : Option Str)
    (request : ApiRequest) {caller : Caller} {now : ℚ}
    (h : (check limit s.windows caller.clientId.str now).1 = none) :
    s.enter limit authorization request caller now =
      { s with
        windows := (check limit s.windows caller.clientId.str now).2
        checks := s.checks ++ [(⟨caller.clientId.str, now⟩, none)]
        flights := s.flights ++
          [⟨authorization, request, caller, ⟨caller.clientId.str, now⟩⟩] } := by
  simp only [Server.enter, limited_eq, h]

/-- A flight that is answered with a decision. -/
theorem Server.served_of_flight {validate : Json → Option Plugin} {deployed : Deployment}
    {settings : Settings} {compact : Token → Text} {s : Server}
    (h : Reachable Server.Init (ServerStep validate deployed settings compact) s)
    {before after : List Flight} {flight : Flight}
      (hflights : s.flights = before ++ flight :: after)
    {request : DecisionRequest} (hrequest : flight.request = .decision request) {now : Clock}
    {loaded : Except Text Plugin} {tokens : List Presented} {context : CallContext}
    (hloaded : ∀ plugin, loaded = .ok plugin → s.world.HasLoaded request.pluginId plugin)
    {reply : Reply} {task : Option (Dict Json)}
    (hanswer : decisionAnswer compact deployed request flight.caller now loaded tokens context =
      (.ok reply, task)) :
    ∃ t, Reachable Server.Init (ServerStep validate deployed settings compact) t ∧
      ∃ a ∈ t.answers, a.reply = .ok reply := by
  have hstep := h.tail (.decide _ before after flight request now loaded tokens context hflights
    hrequest hloaded)
  refine ⟨_, hstep, ⟨flight, _, _⟩, List.mem_append_right _ (List.mem_singleton.mpr rfl), ?_⟩
  rw [hanswer]

/-- A client asks for a decision, the policy is loaded, and the payment is allowed. -/
theorem reachable_served : ∃ s,
    Reachable Server.Init (ServerStep validatePay keyDeployment keySettings shortToken) s ∧
      ∃ a ∈ s.answers, a.reply = .ok (.decision servedResponse) := by
  obtain ⟨record, hanswer⟩ := decisionAnswer_pay
  have hread : readPlugin validatePay (some (lit "null")) = some payPolicy := rfl
  have h0 : Reachable Server.Init
      (ServerStep validatePay keyDeployment keySettings shortToken) newServer :=
    .of_init init_newServer
  have h1 := h0.tail (.enter _ (some (lit "bearer k")) (.decision payRequest) starCaller 0
    (entitled_star servedSha_key rfl) (by simp [newServer]))
  have hallowed : (check keySettings.rateLimit newServer.windows starCaller.clientId.str
      (0 : ℚ)).1 = none :=
    (check_allowed_iff (by decide) _ _).mpr (fun count hcount => nomatch hcount)
  rw [enter_of_allowed _ _ hallowed] at h1
  have h2 := h1.tail (.load _ _ (.start _ (.lit "p") rfl) rfl)
  have h3 := h2.tail (.load _ _ (.read _ [] [] _ rfl) rfl)
  have h4 := h3.tail (.load _ _ (.finish _ [] [] _ _ _ rfl rfl hread trivial) rfl)
  refine Server.served_of_flight h4 (List.nil_append _).symm rfl ?_ hanswer
  rintro plugin hp
  have hp : payPolicy = plugin := Except.ok.inj hp
  exact ⟨⟨.lit "p", 0, payPolicy⟩, List.mem_append_right _ (List.mem_singleton.mpr rfl), rfl, hp⟩

/-- The client of the run is within its limit. -/
theorem admitted_within_limit_once : ∃ s : Server, s.answers ≠ [] ∧
    ((s.admittedIn (.lit "c") 0).length : Int) ≤ 600 := by
  obtain ⟨s, h, a, ha, -⟩ := reachable_served
  exact ⟨s, List.ne_nil_of_mem ha,
    (admitted_within_limit (by decide : (0 : Int) < keySettings.rateLimit) h (.lit "c") 0).1⟩

end Axg
