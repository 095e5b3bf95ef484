/-
# Decisions, approvals and verifications in one run

The system as a whole: one loader, `decide` calls with the policies that it loaded, `submit` calls
and `verify_passport` calls, in any order.  Signatures are ideal: a token that one of AXG's keys
verifies was issued in the run (`World.Presents`).  Everything else about a token is up to
whoever presents it.

An accepted Passport then leads back to the decision that allowed the action or to the approval
of a ticket that a decision carried (`authorization_provenance`).  And an approval leads back to
the policy that decided, as far as the label of a policy tells policies apart
(`approved_under_deciding_policy`).
-/
import Axg.Challenges
import Axg.Loader

namespace Axg

open Python General

/-! ## 1. Runs -/

/-- A `decide` call that returned. -/
structure Decided where
  request : DecisionRequest
  caller : Caller
  loaded : Except Text Plugin
  response : DecisionResponse

/-- A `submit` call that returned, with the policy that it loaded. -/
structure Submitted where
  request : ApprovalRequest
  caller : Caller
  plugin : Plugin
  response : ApprovalResponse

structure World where
  loader : LoaderState
  decided : List Decided
  submitted : List Submitted

namespace World

/-- Nothing is loaded, decided or approved. -/
def Init (w : World) : Prop := w.loader.Init ∧ w.decided = [] ∧ w.submitted = []

/-- A Passport or a ticket that a decision returned, or a Passport that an approval did. -/
def Issued (w : World) (token : Token) : Prop :=
  (∃ d ∈ w.decided, token ∈ d.response.passport ∨
      ∃ challenge ∈ d.response.approval, token = challenge.ticket) ∨
    ∃ s ∈ w.submitted, token ∈ s.response.passport

/-- Whoever presents a token has made it up or has got it from AXG, and nobody else signs with
AXG's keys. -/
def Presents (w : World) (keys : KeyManager) (token : Token) : Prop :=
  ∀ key, token.signer = some key → keys.own key → w.Issued token

/-- The loader has returned the policy for the id. -/
def HasLoaded (w : World) (pluginId : Text) (plugin : Plugin) : Prop :=
  ∃ l ∈ w.loader.loaded, l.pluginId = pluginId ∧ l.plugin = plugin

end World

section

variable (validate : Json → Option Plugin) (py : Interpreter) (sha : Sha256) (keys : KeyManager)

/-- One step: of the loader, a decision, or an approval or denial. -/
inductive WorldStep : World → World → Prop
  | loader (w : World) (l : LoaderState) (h : LoaderStep validate anyStore w.loader l) :
    WorldStep w { w with loader := l }
  | decide (w : World) (request : DecisionRequest) (caller : Caller) (now : Clock) (uuid : Text)
      (loaded : Except Text Plugin) (context : Except PyError VerifiedContext)
      (response : DecisionResponse)
      (hloaded : ∀ plugin, loaded = .ok plugin → w.HasLoaded request.pluginId plugin)
      (h : decide request py sha keys caller now uuid loaded context = .ok response) :
    WorldStep w { w with decided := w.decided ++ [⟨request, caller, loaded, response⟩] }
  | submit (w : World) (request : ApprovalRequest) (caller : Caller) (now later : Clock)
      (context : CallContext) (plugin : Plugin) (response : ApprovalResponse)
      (record : ApprovalRecord) (hticket : w.Presents keys request.ticket)
      (hloaded : ∀ ticket, verifyApprovalTicket keys now request.ticket = .ok ticket →
        w.HasLoaded ticket.pluginId plugin)
      (h : submit sha keys request caller (some plugin) now later context =
        .ok (response, record)) :
    WorldStep w { w with submitted := w.submitted ++ [⟨request, caller, plugin, response⟩] }

/-! ## 2. What a run keeps -/

/-- A decision that was made, with a policy that was loaded for it. -/
def Decided.Made (w : World) (d : Decided) : Prop :=
  (∃ now uuid context, Axg.decide d.request py sha keys d.caller now uuid d.loaded context =
    .ok d.response) ∧
  ∀ plugin, d.loaded = .ok plugin → w.HasLoaded d.request.pluginId plugin

/-- A submission that was accepted, on the ticket of an earlier decision. -/
def Submitted.Made (w : World) (s : Submitted) : Prop :=
  (∃ now later context record, Axg.submit sha keys s.request s.caller (some s.plugin) now later
      context = .ok (s.response, record) ∧
    ∀ ticket, verifyApprovalTicket keys now s.request.ticket = .ok ticket →
      w.HasLoaded ticket.pluginId s.plugin) ∧
  ∃ d ∈ w.decided, ∃ challenge ∈ d.response.approval, s.request.ticket = challenge.ticket

structure World.Inv (w : World) : Prop where
  decided : ∀ d ∈ w.decided, d.Made py sha keys w
  submitted : ∀ s ∈ w.submitted, s.Made sha keys w

end

section

variable {validate : Json → Option Plugin} {py : Interpreter} {sha : Sha256} {keys : KeyManager}
  {w : World}

/-- The plugin that decided, the rules that triggered and the grant behind a ticket. -/
theorem Decided.Made.ticket {d : Decided} {challenge : ApprovalChallenge}
    (h : d.Made py sha keys w) (hc : d.response.approval = some challenge) :
    ∃ plugin triggered now uuid, d.loaded = .ok plugin ∧
      (d.response.decision = .confirm ∨ d.response.decision = .suggest) ∧
      d.response.actionablePayload = actionablePayload d.request triggered ∧
      signApprovalTicket sha keys now uuid
        (challengeGrant plugin d.request d.caller triggered d.response.decision) =
          .ok challenge := by
  obtain ⟨⟨now, uuid, context, hd⟩, -⟩ := h
  obtain ⟨message, -, hr, -⟩ | ⟨plugin, verified, triggered, gated, hl, -, he⟩ :=
    decide_eq_ok.mp hd
  · rw [hr] at hc
    cases hc
  · have hissued : d.response.decision = .confirm ∨ d.response.decision = .suggest := by
      rw [he.eq] at hc ⊢
      exact (approvalChallenge_isSome (Option.isSome_iff_exists.mpr ⟨_, hc⟩)).1
    exact ⟨plugin, triggered, now, uuid, hl, hissued, by rw [he.eq]; rfl, he.signed_ticket hc⟩

/-- The grant behind a Passport of a decision. -/
theorem Decided.Made.passport {d : Decided} {token : Token} (h : d.Made py sha keys w)
    (hp : d.response.passport = some token) :
    ∃ plugin triggered now uuid jti, d.response.decision = .allow ∧
      d.caller.authenticated = true ∧ d.request.shadowMode = false ∧
      d.response.actionablePayload = actionablePayload d.request triggered ∧
      signDecision sha keys now uuid (passportGrant plugin d.request d.caller triggered) =
        .ok (token, jti) := by
  obtain ⟨⟨now, uuid, context, hd⟩, -⟩ := h
  obtain ⟨plugin, triggered, jti, hallow, hauth, hshadow, hpayload, hsign⟩ := decide_passport hd hp
  exact ⟨plugin, triggered, now, uuid, jti, hallow, hauth, hshadow, hpayload, hsign⟩

/-- What verifies as a ticket was signed with one of AXG's keys, and is no Passport. -/
theorem verifyApprovalTicket_eq_ok {now : Clock} {token : Token} {ticket : TicketClaims}
    (h : verifyApprovalTicket keys now token = .ok ticket) :
    ∃ header key, token.header = some header ∧ header.typ = some approvalTicketTyp ∧
      token.signer = some key ∧ keys.own key := by
  unfold verifyApprovalTicket verifyTicketWith KeyManager.lookup at h
  split at h
  · cases h
  rename_i header hheader
  split at h
  · cases h
  rename_i htyp
  split at h
  · cases h
  · cases h
  rename_i key hkey
  replace hkey := Except.ok.inj hkey
  split at h
  · cases h
  rename_i claims hjwt
  exact ⟨header, key, hheader, not_not.mp htyp, (jwtDecode_eq_ok hjwt).1,
    (KeyManager.verificationKey_eq_some hkey).2⟩

theorem signDecision_header {now : Clock} {uuid : Text} {grant : DecisionGrant} {token : Token}
    {jti : Text} (h : signDecision sha keys now uuid grant = .ok (token, jti)) :
    token.header = some ⟨some defaultTyp, some keys.publicKey⟩ := by
  obtain ⟨hash, key, -, -, -, -, rfl⟩ := signDecision_eq_ok h
  rfl

/-- The Passport of an approval is signed for the ticket that was approved. -/
theorem Submitted.Made.passport {s : Submitted} {token : Token} (h : s.Made sha keys w)
    (hp : s.response.passport = some token) :
    ∃ ticket now later uuid jti, s.request.outcome = .approve ∧
      Admitted sha keys s.request s.caller now ticket ∧
      signDecision sha keys later uuid (approvalGrant ticket s.request s.caller) =
        .ok (token, jti) := by
  obtain ⟨⟨now, later, context, record, hs, -⟩, -⟩ := h
  obtain ⟨ticket, hadmit, hx⟩ := bind_eq_ok hs
  obtain ⟨plugin, passport, -, -, hpass, hr, -⟩ := exchange_eq_ok hx
  rw [hr] at hp
  obtain ⟨⟨token', jti⟩, rfl, rfl⟩ := Option.map_eq_some_iff.mp hp
  obtain ⟨ho, hsign⟩ := approvalPassport_eq_some hpass
  exact ⟨ticket, now, later, context.uuid, jti, ho, admitRequest_eq_ok hadmit, hsign⟩

/-- A ticket that is approved is the ticket of a decision. -/
theorem World.Inv.ticket_of_presented (h : w.Inv py sha keys) {token : Token}
    (hp : w.Presents keys token) {now : Clock} {ticket : TicketClaims}
    (hv : verifyApprovalTicket keys now token = .ok ticket) :
    ∃ d ∈ w.decided, ∃ challenge ∈ d.response.approval, token = challenge.ticket := by
  obtain ⟨header, key, hheader, htyp, hsigner, hown⟩ := verifyApprovalTicket_eq_ok hv
  -- a Passport has another type in its header
  have hnot : ∀ {now uuid grant jti}, signDecision sha keys now uuid grant ≠ .ok (token, jti) := by
    intro now uuid grant jti hsign
    rw [signDecision_header hsign, Option.some.injEq] at hheader
    rw [← hheader] at htyp
    exact absurd (Option.some.inj htyp) (show defaultTyp ≠ approvalTicketTyp by decide)
  rcases hp key hsigner hown with ⟨d, hd, htoken | ⟨challenge, hc, rfl⟩⟩ | ⟨s, hs, htoken⟩
  · obtain ⟨p, triggered, t, uuid, jti, -, -, -, -, hsign⟩ := (h.decided d hd).passport htoken
    exact absurd hsign hnot
  · exact ⟨d, hd, challenge, hc, rfl⟩
  · obtain ⟨t, before, later, uuid, jti, -, -, hsign⟩ := (h.submitted s hs).passport htoken
    exact absurd hsign hnot

theorem World.Inv.init (h : w.Init) : w.Inv py sha keys := by
  obtain ⟨-, hd, hs⟩ := h
  refine ⟨?_, ?_⟩
  · simp [hd]
  · simp [hs]

theorem World.Inv.step {v : World} (h : w.Inv py sha keys)
    (hstep : WorldStep validate py sha keys w v) : v.Inv py sha keys := by
  -- the world only grows: what was made under a loaded policy still is
  have hdecided : ∀ {d : Decided}, d ∈ w.decided →
      (∀ id plugin, w.HasLoaded id plugin → v.HasLoaded id plugin) → d.Made py sha keys v := by
    intro d hd hloaded
    obtain ⟨hmade, hplugin⟩ := h.decided d hd
    exact ⟨hmade, fun plugin hp => hloaded _ _ (hplugin plugin hp)⟩
  have hsubmitted : ∀ {s : Submitted}, s ∈ w.submitted → (∀ d ∈ w.decided, d ∈ v.decided) →
      (∀ id plugin, w.HasLoaded id plugin → v.HasLoaded id plugin) → s.Made sha keys v := by
    intro s hs hd hloaded
    obtain ⟨⟨now, later, context, record, hsub, hl⟩, d, hdmem, hticket⟩ := h.submitted s hs
    exact ⟨⟨now, later, context, record, hsub, fun t ht => hloaded _ _ (hl t ht)⟩,
      d, hd d hdmem, hticket⟩
  cases hstep with
  | loader l hl =>
    have hloaded : ∀ id plugin, w.HasLoaded id plugin →
        World.HasLoaded { w with loader := l } id plugin := by
      rintro id plugin ⟨x, hx, rfl, rfl⟩
      exact ⟨x, hl.loaded_subset hx, rfl, rfl⟩
    exact ⟨fun d hd => hdecided hd hloaded, fun s hs => hsubmitted hs (fun d hd => hd) hloaded⟩
  | decide request caller now uuid loaded context response hloaded hd =>
    refine ⟨fun d hmem => ?_, fun s hs => hsubmitted hs (fun d hd => List.mem_append_left _ hd)
      (fun _ _ hl => hl)⟩
    rcases List.mem_append.mp hmem with hmem | hmem
    · exact hdecided hmem (fun _ _ hl => hl)
    · rw [List.mem_singleton.mp hmem]
      exact ⟨⟨now, uuid, context, hd⟩, hloaded⟩
  | submit request caller now later context plugin response record hticket hloaded hs =>
    refine ⟨fun d hd => hdecided hd (fun _ _ hl => hl), fun s hmem => ?_⟩
    rcases List.mem_append.mp hmem with hmem | hmem
    · exact hsubmitted hmem (fun d hd => hd) (fun _ _ hl => hl)
    rw [List.mem_singleton.mp hmem]
    obtain ⟨ticket, hadmit, -⟩ := bind_eq_ok hs
    exact ⟨⟨now, later, context, record, hs, hloaded⟩,
      h.ticket_of_presented hticket (admitRequest_eq_ok hadmit).verified⟩

/-- The loader of a run is in a run of its own. -/
theorem World.loader_reachable (h : Reachable World.Init (WorldStep validate py sha keys) w) :
    Reachable LoaderState.Init (LoaderStep validate anyStore) w.loader := by
  refine h.invariant (I := fun w => Reachable LoaderState.Init (LoaderStep validate anyStore)
    w.loader) (fun _ hw => .of_init hw.1) ?_
  intro v u hv hl hstep
  cases hstep with
  | loader l hstep => exact hl.tail hstep
  | decide request caller now uuid loaded context response hloaded hd => exact hl
  | submit request caller now later context plugin response record ht hloaded hs => exact hl

theorem World.inv_of_reachable
    (h : Reachable World.Init (WorldStep validate py sha keys) w) : w.Inv py sha keys :=
  h.invariant (I := World.Inv py sha keys) (fun _ => .init) (fun _ _ _ hs hstep => hs.step hstep)

/-! ## 3. Where an authorization comes from -/

/-- The two payloads have one canonical text. -/
def SameCanonical (p q : JsonObject) : Prop :=
  ∃ s, canonicalJson p.json = .ok s ∧ canonicalJson q.json = .ok s

/-- What a decision is about is what a `verify_passport` call asks for: the app, the tenant, the
action and the payload, with the payload compared by its canonical text. -/
structure Decided.IsAbout (d : Decided) (call : VerifyCall) : Prop where
  app : d.request.appId.str = call.appId
  tenant : call.tenantId = some d.request.tenantId.str
  action : call.allowedActionTypes = some [d.request.actionType.str]
  payload : SameCanonical d.response.actionablePayload call.payload

/-- The decision was `ALLOW`, to an authenticated caller and not in shadow mode. -/
structure Decided.Allowed (d : Decided) : Prop where
  decision : d.response.decision = .allow
  authenticated : d.caller.authenticated = true
  live : d.request.shadowMode = false

/-- The submission approved the ticket of the decision, by a caller that may and an approver
who may. -/
structure Submitted.Approves (s : Submitted) (d : Decided) : Prop where
  outcome : s.request.outcome = .approve
  authenticated : s.caller.authenticated = true
  mayAct : s.caller.mayActFor d.request.appId = true
  mayApprove : approvePermission ∈ s.caller.effectivePermissions [approvePermission]
  decision : d.response.decision = .confirm ∨ d.response.decision = .suggest
  ticket : ∃ challenge ∈ d.response.approval, s.request.ticket = challenge.ticket ∧
    s.request.approver.role = challenge.requiredRole
  notAgent : ∀ agent ∈ d.request.agent, agent.id.str ≠ [] → s.request.approver.id ≠ agent.id
  endUser : s.request.approver.role = endUserRole →
    ∀ user ∈ d.request.userId, user.str ≠ [] → s.request.approver.id = user

/-- The claims of a Passport that a call accepts are what the call asks for. -/
theorem accepted_grant {grant : DecisionGrant} {now signedAt : Clock} {uuid jti : Text}
    {call : VerifyCall} {claims : Dict Json}
    (hsign : signDecision sha keys signedAt uuid grant = .ok (call.token, jti))
    (hd : decodeStep sha call now = .ok claims) :
    grant.appId.str = call.appId ∧ (∀ t ∈ call.tenantId, t ≠ [] → grant.tenantId.str = t) ∧
      (∀ as ∈ call.allowedActionTypes, as ≠ [] → grant.actionType.str ∈ as) ∧
      ∃ hash, hashPayload sha grant.actionablePayload = .ok hash ∧
        hashPayload sha call.payload = .ok hash := by
  obtain ⟨hash, key, hhash, -, -, -, htoken⟩ := signDecision_eq_ok hsign
  obtain ⟨-, -, -, -, -, happ, htenant, haction, hpayload⟩ :=
    (decodeStep_issued rfl htoken).mp hd
  exact ⟨happ, htenant, haction, hash, hhash, hpayload⟩

/-- A call that asks for a tenant and for one action is about the decision whose tenant and
action it accepts. -/
theorem Decided.IsAbout.of_accepted {d : Decided} {call : VerifyCall} {tenant action hash : Str}
    (hsha : CollisionFree sha) (htenant : call.tenantId = some tenant) (hne : tenant ≠ [])
    (haction : call.allowedActionTypes = some [action])
    (happ : d.request.appId.str = call.appId)
    (ht : ∀ t ∈ call.tenantId, t ≠ [] → d.request.tenantId.str = t)
    (ha : ∀ as ∈ call.allowedActionTypes, as ≠ [] → d.request.actionType.str ∈ as)
    (hp : hashPayload sha d.response.actionablePayload = .ok hash)
    (hq : hashPayload sha call.payload = .ok hash) : d.IsAbout call := by
  refine ⟨happ, ?_, ?_, canonicalJson_of_hashPayload hsha hp hq⟩
  · rw [htenant, ht tenant htenant hne]
  · rw [haction, List.mem_singleton.mp (ha [action] haction (List.cons_ne_nil _ _))]

/-- A ticket is no Passport: its decision is another. -/
theorem not_decoded_ticket {grant : TicketGrant} {signedAt now : Clock} {uuid : Text}
    {challenge : ApprovalChallenge} {call : VerifyCall} {claims : Dict Json}
    (hsign : signApprovalTicket sha keys signedAt uuid grant = .ok challenge)
    (htoken : call.token = challenge.ticket) : decodeStep sha call now ≠ .ok claims := by
  intro hd
  obtain ⟨hash, key, hcs, -, -, rfl⟩ := signApprovalTicket_eq_ok hsign
  obtain ⟨key', -, hjwt, hchecked⟩ := decodeStep_eq_ok_iff.mp hd
  have hclaims := (jwtDecode_eq_ok hjwt).2.1
  rw [htoken] at hclaims
  have hdecision := hchecked.decision
  rw [← hclaims, Token.claims, claimIs_of_lookup (s := grant.decision.value) rfl,
    decide_eq_true_iff] at hdecision
  rcases hcs with h | h <;> rw [h] at hdecision <;> exact absurd hdecision (by decide)

/-- Whenever a Passport is accepted with AXG's key, for a tenant and an action, a decision of the
run allowed what is executed, or carried a ticket for it that was approved.  Whoever presents a
token has it from the run, as signatures cannot be made; and a ticket does not pass for a
Passport, because its decision is another. -/
theorem authorization_provenance (hsha : CollisionFree sha)
    (h : Reachable World.Init (WorldStep validate py sha keys) w) {call : VerifyCall}
    {tenant action : Str} {cache : Option ReplayCache} {now later : Clock} {claims : Dict Json}
    (htoken : w.Presents keys call.token)
    (hkey : call.keySource.signingKey call.token = some keys.publicKey)
    (htenant : call.tenantId = some tenant) (hne : tenant ≠ [])
    (haction : call.allowedActionTypes = some [action])
    (hv : (verifyPassport sha call cache now later).1 = .ok claims) :
    (∃ d ∈ w.decided, d.IsAbout call ∧ d.Allowed) ∨
      ∃ s ∈ w.submitted, ∃ d ∈ w.decided, d.IsAbout call ∧ s.Approves d := by
  have hinv := World.inv_of_reachable h
  have hd := decodeStep_of_verifyPassport hv
  obtain ⟨key, hk, hjwt, -⟩ := decodeStep_eq_ok_iff.mp hd
  have hsigner : call.token.signer = some keys.publicKey := by
    rw [(jwtDecode_eq_ok hjwt).1, ← hk, hkey]
  rcases htoken _ hsigner (.inl rfl) with ⟨d, hmem, hp | ⟨challenge, hc, ht⟩⟩ | ⟨s, hmem, hp⟩
  · -- a Passport of a decision
    obtain ⟨plugin, triggered, signedAt, uuid, jti, hallow, hauth, hlive, hpayload, hsign⟩ :=
      (hinv.decided d hmem).passport hp
    obtain ⟨happ, ht, ha, hash, hhash, hcall⟩ := accepted_grant hsign hd
    exact .inl ⟨d, hmem, .of_accepted hsha htenant hne haction happ ht ha (hpayload ▸ hhash) hcall,
      hallow, hauth, hlive⟩
  · -- a ticket
    obtain ⟨plugin, triggered, signedAt, uuid, -, -, -, hsign⟩ := (hinv.decided d hmem).ticket hc
    exact absurd hd (not_decoded_ticket hsign ht)
  · -- a Passport of an approval
    obtain ⟨ticket, before, after, uuid, jti, ho, hadmitted, hsign⟩ :=
      (hinv.submitted s hmem).passport hp
    obtain ⟨happ, ht, ha, hash, hhash, hcall⟩ := accepted_grant hsign hd
    obtain ⟨-, d, hdmem, challenge, hc, hticket⟩ := hinv.submitted s hmem
    obtain ⟨plugin, triggered, signedAt, uuid', -, hdecision, hpayload, hissue⟩ :=
      (hinv.decided d hdmem).ticket hc
    obtain ⟨hash', key', hcs, hhash', -, rfl⟩ := signApprovalTicket_eq_ok hissue
    have hclaims := ((verifyApprovalTicket_dump (isScalar_hashPayload hhash') rfl).mp
      (hticket ▸ hadmitted.verified)).1
    have hsame : hash = hash' := by
      have hpay := hadmitted.payload
      rw [hclaims] at hpay
      exact Except.ok.inj (hhash.symm.trans hpay)
    rw [hclaims] at happ ht ha
    refine .inr ⟨s, hmem, d, hdmem,
      .of_accepted hsha htenant hne haction happ ht ha (hpayload ▸ hhash') (hsame ▸ hcall), ?_⟩
    have hact := hadmitted.mayAct
    have hrole := hadmitted.role
    have hagent := hadmitted.notAgent
    have huser := hadmitted.notAnotherUser
    rw [hclaims] at hact hrole hagent huser
    refine ⟨ho, hadmitted.authenticated, hact, hadmitted.mayApprove, hdecision,
      ⟨_, hc, hticket, hrole⟩, ?_, ?_⟩
    · intro agent hagentmem hid heq
      rw [Option.mem_def] at hagentmem
      simp [TicketClaims.isAgent, ticketClaims, challengeGrant, hagentmem, hid, heq] at hagent
    · intro hend user husermem hid
      rw [Option.mem_def] at husermem
      rw [hrole] at hend
      simp only [TicketClaims.isAnotherUser, hend, decide_true, Bool.true_and] at huser
      simpa [ticketClaims, challengeGrant, husermem, hid] using huser

/-! ## 4. The policy that decided -/

/-- The parts of a policy that decide.  Names and versions are not among them, so that a label
can stand for them. -/
structure Plugin.SameSections (p q : Plugin) : Prop where
  thresholds : p.thresholds = q.thresholds
  actions : p.actions.Perm q.actions
  rules : p.rules = q.rules
  uncertaintyGate : p.uncertaintyGate = q.uncertaintyGate
  approval : p.approval = q.approval

/-- Policies that one id has ever shown are told apart by their labels. -/
def LoaderState.LabelsTell (validate : Json → Option Plugin) (s : LoaderState) : Prop :=
  ∀ x ∈ s.shown, ∀ y ∈ s.shown, ∀ id p q, readPlugin validate (x.2 id) = some p →
    readPlugin validate (y.2 id) = some q → p.versionLabel = q.versionLabel → p.SameSections q

/-- In a run in which labels tell policies apart, a ticket is approved only under the policy that
decided.  The exchange compares `plugin@version` and nothing else of the two policies, so the
condition is the whole assumption: an edit keeps what a decision reads of a policy, or changes
its label. -/
theorem approved_under_deciding_policy
    (h : Reachable World.Init (WorldStep validate py sha keys) w)
    (hlabels : w.loader.LabelsTell validate) :
    ∀ s ∈ w.submitted, s.request.outcome = .approve → ∀ d ∈ w.decided,
      ∀ challenge ∈ d.response.approval, s.request.ticket = challenge.ticket →
        ∃ plugin, d.loaded = .ok plugin ∧ plugin.SameSections s.plugin := by
  intro s hs ho d hd challenge hc ht
  have hinv := World.inv_of_reachable h
  obtain ⟨p, triggered, issuedAt, uuid, hloaded, -, -, hsign⟩ := (hinv.decided d hd).ticket hc
  refine ⟨p, hloaded, ?_⟩
  obtain ⟨⟨now, later, context, record, hsub, hl⟩, -⟩ := hinv.submitted s hs
  obtain ⟨-, -, -, -, -, -, -, -, -, -, q, hq, hlabel⟩ :=
    (submit_challenge_iff hsign ht ho).mp ⟨_, hsub⟩
  cases hq
  -- the ticket names the policy id of the request
  obtain ⟨ticket, hadmit, -⟩ := bind_eq_ok hsub
  have hverified := (admitRequest_eq_ok hadmit).verified
  obtain ⟨hash, key, hcs, hhash, -, rfl⟩ := signApprovalTicket_eq_ok hsign
  have hclaims := ((verifyApprovalTicket_dump (isScalar_hashPayload hhash) rfl).mp
    (ht ▸ hverified)).1
  obtain ⟨l, hlmem, hlid, rfl⟩ := (hinv.decided d hd).2 p hloaded
  obtain ⟨m, hmmem, hmid, hmplugin⟩ := hl ticket hverified
  have hid : ticket.pluginId = d.request.pluginId := by rw [hclaims]; rfl
  have hcurrent := loaded_current (World.loader_reachable h)
  obtain ⟨x, hx, -, hxread⟩ := hcurrent l hlmem
  obtain ⟨y, hy, -, hyread⟩ := hcurrent m hmmem
  rw [hlid] at hxread
  rw [hmid, hid, hmplugin] at hyread
  exact hlabels x hx y hy _ _ _ hxread hyread hlabel.symm

end

/-! ## 5. An approval under two policies with one label -/

/-- The answer to a payment under the policy `p` with a role. -/
def confirmResponse (role : Text) : DecisionResponse :=
  respond (namedPolicy (.lit "p") (.lit "1") role) payRequest .trustedLocal plainSha pairedKeys 0
    (.lit "j1") .none [] false

/-- The decision on a payment. -/
def confirmed : Decided where
  request := payRequest
  caller := .trustedLocal
  loaded := .ok (namedPolicy (.lit "p") (.lit "1") endUserRole)
  response := confirmResponse endUserRole

theorem decide_confirmed :
    decide payRequest plainInterpreter plainSha pairedKeys .trustedLocal 0 (.lit "j1")
      confirmed.loaded (.ok .none) = .ok (confirmResponse endUserRole) :=
  decide_eq_ok.mpr (.inr ⟨_, _, [], false, rfl, rfl, rfl, rfl, rfl, .of_empty rfl⟩)

/-- The end user approves the payment. -/
def approval (ticket : Token) : ApprovalRequest where
  ticket := ticket
  actionablePayload := (confirmResponse endUserRole).actionablePayload
  approver := ⟨.lit "ana", endUserRole, by decide, by decide⟩
  outcome := .approve

/-- The ticket of the decision is approved under any policy with its label. -/
theorem exists_approval (plugin : Plugin) (hlabel : plugin.versionLabel = .lit "p@1") :
    ∃ challenge response record, confirmed.response.approval = some challenge ∧
      submit plainSha pairedKeys (approval challenge.ticket) .trustedLocal (some plugin) 0 0
        ⟨.lit "j2", .lit "1970-01-01T00:00:00+00:00", none⟩ = .ok (response, record) := by
  have hsome : confirmed.response.approval.isSome = true := by decide +kernel
  obtain ⟨challenge, hc⟩ := Option.isSome_iff_exists.mp hsome
  have he : Evaluated payRequest plainInterpreter plainSha pairedKeys .trustedLocal 0
      (.lit "j1") (namedPolicy (.lit "p") (.lit "1") endUserRole) .none [] false
      (confirmResponse endUserRole) := ⟨rfl, rfl, rfl, .of_empty rfl⟩
  have hsign := he.signed_ticket hc
  have hlabel' : plugin.versionLabel =
      (namedPolicy (.lit "p") (.lit "1") endUserRole).versionLabel := hlabel
  obtain ⟨⟨response, record⟩, hs⟩ : ∃ x, submit plainSha pairedKeys (approval challenge.ticket)
      .trustedLocal (some plugin) 0 0 ⟨.lit "j2", .lit "1970-01-01T00:00:00+00:00", none⟩ =
        .ok x :=
    (submit_challenge_iff hsign rfl rfl).mpr ⟨rfl, rfl, by decide, rfl, rfl, rfl, rfl, rfl, rfl,
      he.ticket_fresh hc, plugin, rfl, hlabel'⟩
  exact ⟨challenge, response, record, hc, hs⟩

/-- The world before anything happens, with version 1 of the policy in the file. -/
def freshWorld : World := ⟨freshLoader (filesAt (.lit "1") endUserRole), [], []⟩

/-- The policy is loaded and decides. -/
theorem reachable_confirmed :
    ∃ l, Reachable World.Init (WorldStep validateNamed plainInterpreter plainSha pairedKeys)
        ⟨l, [confirmed], []⟩ ∧ l.shown = [(0, filesAt (.lit "1") endUserRole)] ∧ l.clears = 0 ∧
      World.HasLoaded ⟨l, [confirmed], []⟩ (.lit "p")
        (namedPolicy (.lit "p") (.lit "1") endUserRole) := by
  have h0 : Reachable World.Init
      (WorldStep validateNamed plainInterpreter plainSha pairedKeys) freshWorld :=
    .of_init ⟨⟨rfl, rfl, rfl, rfl, rfl⟩, rfl, rfl⟩
  have h1 := h0.tail (.loader _ _ (.start _ (.lit "p") rfl))
  have h2 := h1.tail (.loader _ _ (.read _ [] [] _ rfl))
  have h3 := h2.tail (.loader _ _ (.finish _ [] [] _ _ _ rfl rfl
    (readPlugin_filesAt (.lit "1") endUserRole) trivial))
  have h4 := h3.tail (.decide _ payRequest .trustedLocal 0 (.lit "j1") confirmed.loaded
    (.ok .none) (confirmResponse endUserRole) ?_ decide_confirmed)
  · exact ⟨_, h4, rfl, rfl, _, List.mem_cons_self, rfl, rfl⟩
  · rintro plugin hp
    have hp : namedPolicy (.lit "p") (.lit "1") endUserRole = plugin := Except.ok.inj hp
    exact ⟨⟨.lit "p", 0, namedPolicy (.lit "p") (.lit "1") endUserRole⟩,
      List.mem_append_right _ (List.mem_singleton.mpr rfl), rfl, hp⟩

/-- The end user approves it, under a policy that has been loaded since. -/
theorem reachable_approved {l : LoaderState}
    (h : Reachable World.Init (WorldStep validateNamed plainInterpreter plainSha pairedKeys)
      ⟨l, [confirmed], []⟩) {plugin : Plugin}
    (hl : World.HasLoaded ⟨l, [confirmed], []⟩ (.lit "p") plugin)
    (hlabel : plugin.versionLabel = .lit "p@1") :
    ∃ challenge response record, confirmed.response.approval = some challenge ∧
      submit plainSha pairedKeys (approval challenge.ticket) .trustedLocal (some plugin) 0 0
        ⟨.lit "j2", .lit "1970-01-01T00:00:00+00:00", none⟩ = .ok (response, record) ∧
      Reachable World.Init (WorldStep validateNamed plainInterpreter plainSha pairedKeys)
        ⟨l, [confirmed], [⟨approval challenge.ticket, .trustedLocal, plugin, response⟩]⟩ := by
  obtain ⟨challenge, response, record, hc, hs⟩ := exists_approval plugin hlabel
  have hpresents : World.Presents ⟨l, [confirmed], []⟩ pairedKeys challenge.ticket := by
    intro key hkey hown
    exact .inl ⟨confirmed, List.mem_singleton.mpr rfl, .inr ⟨challenge, hc, rfl⟩⟩
  refine ⟨challenge, response, record, hc, hs,
    h.tail (.submit _ (approval challenge.ticket) .trustedLocal 0 0 _ plugin response record
      hpresents ?_ hs)⟩
  intro ticket hticket
  obtain ⟨p, triggered, issuedAt, uuid, -, -, -, hsign⟩ :=
    ((World.inv_of_reachable h).decided confirmed (List.mem_singleton.mpr rfl)).ticket hc
  obtain ⟨hash, key, hd, hhash, -, rfl⟩ := signApprovalTicket_eq_ok hsign
  have hclaims := ((verifyApprovalTicket_dump (isScalar_hashPayload hhash) rfl).mp hticket).1
  have hid : ticket.pluginId = .lit "p" := by rw [hclaims]; rfl
  rw [hid]
  exact hl

/-- The file is edited, the cache cleared, and the policy loaded again. -/
theorem reachable_reloaded {l : LoaderState}
    (h : Reachable World.Init (WorldStep validateNamed plainInterpreter plainSha pairedKeys)
      ⟨l, [confirmed], []⟩) (version role : Text) :
    ∃ l', Reachable World.Init (WorldStep validateNamed plainInterpreter plainSha pairedKeys)
        ⟨l', [confirmed], []⟩ ∧
      l'.shown = l.shown ++ [(l.clears, filesAt version role)] ++
        [(l.clears + 1, filesAt version role)] ∧
      World.HasLoaded ⟨l', [confirmed], []⟩ (.lit "p") (namedPolicy (.lit "p") version role) := by
  have h1 := h.tail (.loader _ _ (.edit _ (filesAt version role)))
  have h2 := h1.tail (.loader _ _ (.clearCache _))
  have h3 := h2.tail (.loader _ _ (.start _ (.lit "p") rfl))
  have h4 := h3.tail (.loader _ _ (.read _ l.calls [] _ rfl))
  have h5 := h4.tail (.loader _ _ (.finish _ l.calls [] _ _ _ rfl rfl
    (readPlugin_filesAt version role) trivial))
  exact ⟨_, h5, rfl, ⟨.lit "p", l.clears + 1, namedPolicy (.lit "p") version role⟩,
    List.mem_append_right _ (List.mem_singleton.mpr rfl), rfl, rfl⟩

theorem Plugin.SameSections.refl (p : Plugin) : p.SameSections p :=
  ⟨rfl, List.Perm.refl _, rfl, rfl, rfl⟩

/-- Version 2 asks for a manager and is reloaded, then version 1 is back and is reloaded, and the
end user's approval counts under the policy that decided. -/
theorem approved_under_deciding_policy_once :
    ∃ w, Reachable World.Init (WorldStep validateNamed plainInterpreter plainSha pairedKeys) w ∧
      w.submitted ≠ [] ∧
      (∃ x ∈ w.loader.shown, x.2 = filesAt (.lit "2") (.lit "manager")) ∧
      ∀ s ∈ w.submitted, s.request.outcome = .approve → ∀ d ∈ w.decided,
        ∀ challenge ∈ d.response.approval, s.request.ticket = challenge.ticket →
          ∃ plugin, d.loaded = .ok plugin ∧ plugin.SameSections s.plugin := by
  obtain ⟨l, h, hshown, -, -⟩ := reachable_confirmed
  obtain ⟨l₂, h₂, hshown₂, -⟩ := reachable_reloaded h (.lit "2") (.lit "manager")
  obtain ⟨l₁, h₁, hshown₁, hl⟩ := reachable_reloaded h₂ (.lit "1") endUserRole
  obtain ⟨challenge, response, record, -, -, hreach⟩ := reachable_approved h₁ hl rfl
  have hfiles : ∀ x ∈ l₁.shown, x.2 = filesAt (.lit "1") endUserRole ∨
      x.2 = filesAt (.lit "2") (.lit "manager") := by
    intro x hx
    rw [hshown₁, hshown₂, hshown] at hx
    simp only [List.mem_append, List.mem_singleton] at hx
    rcases hx with (((rfl | rfl) | rfl) | rfl) | rfl <;> simp
  refine ⟨_, hreach, List.cons_ne_nil _ _,
    ⟨(l.clears + 1, filesAt (.lit "2") (.lit "manager")), ?_, rfl⟩,
    approved_under_deciding_policy hreach ?_⟩
  · change _ ∈ l₁.shown
    rw [hshown₁, hshown₂]
    exact List.mem_append_left _ (List.mem_append_left _
      (List.mem_append_right _ (List.mem_singleton.mpr rfl)))
  -- the two files give one policy each, and their labels differ
  have hlabels : (namedPolicy (.lit "p") (.lit "1") endUserRole).versionLabel ≠
      (namedPolicy (.lit "p") (.lit "2") (.lit "manager")).versionLabel := by decide
  intro x hx y hy id p q hp hq hlabel
  rcases hfiles x hx with hx | hx <;> rcases hfiles y hy with hy | hy <;> rw [hx] at hp <;>
    rw [hy] at hq <;> cases eq_of_readPlugin_filesAt hp <;> cases eq_of_readPlugin_filesAt hq
  · exact .refl _
  · exact absurd hlabel hlabels
  · exact absurd hlabel.symm hlabels
  · exact .refl _

/-- The policy comes to ask for a manager, without a new version, and the end user's approval of
the ticket of before still counts. -/
theorem approved_under_changed_policy :
    ∃ w, Reachable World.Init (WorldStep validateNamed plainInterpreter plainSha pairedKeys) w ∧
      ∃ s ∈ w.submitted, s.request.outcome = .approve ∧ ∃ d ∈ w.decided,
        ∃ challenge ∈ d.response.approval, s.request.ticket = challenge.ticket ∧
          ∀ plugin, d.loaded = .ok plugin → ¬ plugin.SameSections s.plugin := by
  obtain ⟨l, h, -, -, -⟩ := reachable_confirmed
  obtain ⟨l', h', -, hl⟩ := reachable_reloaded h (.lit "1") (.lit "manager")
  obtain ⟨challenge, response, record, hc, -, hreach⟩ := reachable_approved h' hl rfl
  refine ⟨_, hreach, _, List.mem_singleton.mpr rfl, rfl, confirmed, List.mem_singleton.mpr rfl,
    challenge, hc, rfl, ?_⟩
  intro plugin hp hsame
  cases hp
  exact absurd (congrArg ApprovalPolicy.defaultRole hsame.approval)
    (show endUserRole ≠ .lit "manager" by decide)

/-- The call that presents a Passport for the payment. -/
def payCall (token : Token) : VerifyCall where
  token := token
  payload := (confirmResponse endUserRole).actionablePayload
  appId := lit "app"
  tenantId := some (lit "tenant")
  allowedActionTypes := some [lit "pay"]
  keySource := .publicKey pairedKeys.publicKey

/-- The Passport of the approval is accepted, and the approval is where it comes from. -/
theorem authorization_provenance_pay :
    ∃ w token claims,
      (verifyPassport plainSha (payCall token) none 0 0).1 = .ok claims ∧
      ((∃ d ∈ World.decided w, d.IsAbout (payCall token) ∧ d.Allowed) ∨
        ∃ s ∈ w.submitted, ∃ d ∈ w.decided, d.IsAbout (payCall token) ∧ s.Approves d) := by
  obtain ⟨l, h, -, -, hl⟩ := reachable_confirmed
  obtain ⟨challenge, response, record, hc, hs, hreach⟩ := reachable_approved h hl rfl
  obtain ⟨-, ticket, token, jti, hp, hadmitted, hsign⟩ := submit_passport rfl hs
  obtain ⟨p, triggered, issuedAt, uuid, -, -, -, hissue⟩ :=
    ((World.inv_of_reachable h).decided confirmed (List.mem_singleton.mpr rfl)).ticket hc
  obtain ⟨hash, key, hd, hhash, -, rfl⟩ := signApprovalTicket_eq_ok hissue
  have hclaims := ((verifyApprovalTicket_dump (isScalar_hashPayload hhash) rfl).mp
    hadmitted.verified).1
  have hdecode : ∃ claims, decodeStep plainSha (payCall token) 0 = .ok claims := by
    have hne : lit "app" ≠ [] := by decide
    refine decodeStep_fresh hsign rfl ?_ hne ?_ ?_ rfl (le_refl _) (by decide)
    · rw [hclaims]; rfl
    · intro t ht hne
      rw [hclaims, ← Option.some.inj ht]; rfl
    · intro actions ha hne
      rw [hclaims, ← Option.some.inj ha]
      exact List.mem_singleton.mpr rfl
  obtain ⟨claims, hdecode⟩ := hdecode
  have hv : (verifyPassport plainSha (payCall token) none 0 0).1 = .ok claims := by
    rw [verifyPassport, hdecode]
  refine ⟨_, token, claims, hv, authorization_provenance
    (.of_injective (Sha256.ofTable_injective _)) hreach ?_ rfl rfl (by decide) rfl hv⟩
  intro key hkey hown
  exact .inr ⟨_, List.mem_singleton.mpr rfl, hp⟩

end Axg
