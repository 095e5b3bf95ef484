/-
# Who can approve a ticket

`submit_challenge_iff` is everything that `submit` asks of an approval of a ticket that a
decision carried.  Two of its checks on the approver can contradict each other: a ticket for the
role `end_user` wants the user of the request, and no ticket takes its agent, while nothing keeps
a request from naming one identity for both.  And a policy may name the empty role, which no
approver can have.  `approvable_iff` says that these are the only tickets that nobody can
approve, with keys that belong together.
-/
import Axg.Approvals
import Axg.Decisions

namespace Axg

open Python

/-! ## 1. What an approval needs -/

section

variable {sha : Sha256} {verificationKey : KeyLookup} {keys : KeyManager} {ticket : TicketClaims}
  {request : ApprovalRequest} {caller : Caller} {now later : Clock}

/-- What `submit` checks is all that it checks. -/
theorem AdmittedWith.admit_eq (h : AdmittedWith sha verificationKey request caller now ticket) :
    admitRequestWith sha verificationKey request caller now = .ok ticket := by
  have hticket : verifiedTicket verificationKey now request.ticket = .ok ticket := by
    rw [verifiedTicket, h.verified]
  have hcaller : checkCaller ticket caller = .ok () := by
    rw [checkCaller, if_neg (by simp [h.mayAct]), if_neg (not_not.mpr h.mayApprove)]
  have happrover : checkApprover sha ticket request = .ok () := by
    rw [checkApprover, h.payload]
    simp only [ne_eq, not_true_eq_false, if_false, h.role, h.notAgent, h.notAnotherUser,
      Bool.false_eq_true]
  rw [admitRequestWith, if_neg (by simp [h.authenticated]), hticket, ok_bind, hcaller, ok_bind,
    happrover, ok_bind]
  rfl

/-- An admitted approval is exchanged when the policy has the ticket's label and a key signs. -/
theorem exchange_isOk_iff {loaded : Option Plugin} {context : CallContext}
    (h : Admitted sha keys request caller now ticket) (ho : request.outcome = .approve) :
    (∃ answer, exchange sha keys ticket request caller loaded later context = .ok answer) ↔
      (∃ plugin, loaded = some plugin ∧ plugin.versionLabel = ticket.policy) ∧
        keys.privateKey.isSome = true := by
  constructor
  · rintro ⟨⟨response, record⟩, hx⟩
    obtain ⟨plugin, passport, hl, hlabel, hp, -, -⟩ := exchange_eq_ok hx
    refine ⟨⟨plugin, hl, hlabel⟩, ?_⟩
    rw [approvalPassport, ho] at hp
    simp only at hp
    split at hp
    · rename_i passport hsign
      obtain ⟨hash, key, -, -, hkey, -⟩ := signDecision_eq_ok hsign
      rw [hkey]; rfl
    · split at hp <;> cases hp
  · rintro ⟨⟨plugin, rfl, hlabel⟩, hkey⟩
    obtain ⟨key, hkey⟩ := Option.isSome_iff_exists.mp hkey
    have hpolicy : checkPolicy ticket (some plugin) = .ok () :=
      if_neg (not_not.mpr hlabel)
    rw [exchange, hpolicy, ok_bind, approvalPassport, ho]
    have hsign := fun uuid => @signDecision_of_hash sha keys later uuid
      (approvalGrant ticket request caller) _ _ h.payload rfl hkey
    simp only [hsign]
    exact ⟨_, rfl⟩

/-- Everything `submit` asks of an approval of a ticket that was signed. -/
theorem submit_challenge_iff {issuedAt : Clock} {uuid : Text} {grant : TicketGrant}
    {challenge : ApprovalChallenge} {loaded : Option Plugin} {context : CallContext}
    (hsign : signApprovalTicket sha keys issuedAt uuid grant = .ok challenge)
    (hticket : request.ticket = challenge.ticket) (ho : request.outcome = .approve) :
    (∃ answer, submit sha keys request caller loaded now later context = .ok answer) ↔
      caller.authenticated = true ∧ caller.mayActFor grant.appId = true ∧
        approvePermission ∈ caller.effectivePermissions [approvePermission] ∧
        hashPayload sha request.actionablePayload = hashPayload sha grant.actionablePayload ∧
        request.approver.role = grant.requiredRole ∧
        grant.agentId.any (fun agent => agent.str ≠ [] ∧ request.approver.id = agent) = false ∧
        (grant.requiredRole = endUserRole && grant.userId.any
          (fun user => user.str ≠ [] ∧ request.approver.id ≠ user)) = false ∧
        keys.privateKey = some keys.publicKey ∧
        Clock.reached now (Clock.seconds issuedAt) = true ∧
        Clock.reached now challenge.expiresAt = false ∧
        ∃ plugin, loaded = some plugin ∧ plugin.versionLabel = grant.policy := by
  obtain ⟨hash, key, hd, hhash, hkey, rfl⟩ := signApprovalTicket_eq_ok hsign
  have hdecode : ∀ t, verifyApprovalTicket keys now request.ticket = .ok t ↔
      t = ticketClaims issuedAt grant uuid hash hd ∧ key = keys.publicKey ∧
        Clock.reached now (Clock.seconds issuedAt) = true ∧
        Clock.reached now (Clock.seconds (issuedAt + grant.ttlSeconds * 1000000)) = false := by
    intro t
    rw [hticket]
    exact verifyApprovalTicket_dump (isScalar_hashPayload hhash) rfl
  constructor
  · rintro ⟨⟨response, record⟩, h⟩
    obtain ⟨t, hadmit, hx⟩ := bind_eq_ok h
    have ha := admitRequest_eq_ok hadmit
    obtain ⟨rfl, rfl, hb, he⟩ := (hdecode t).mp ha.verified
    obtain ⟨hplugin, -⟩ := (exchange_isOk_iff ha ho).mp ⟨_, hx⟩
    exact ⟨ha.authenticated, ha.mayAct, ha.mayApprove, ha.payload.trans hhash.symm, ha.role,
      ha.notAgent, ha.notAnotherUser, hkey, hb, he, hplugin⟩
  · rintro ⟨hauth, hact, hperm, hpayload, hrole, hagent, huser, hpair, hb, he, hplugin⟩
    have hsigner : key = keys.publicKey := Option.some.inj (hkey.symm.trans hpair)
    have ha : Admitted sha keys request caller now (ticketClaims issuedAt grant uuid hash hd) :=
      ⟨hauth, (hdecode _).mpr ⟨rfl, hsigner, hb, he⟩, hact, hperm, hpayload.trans hhash, hrole,
        hagent, huser⟩
    obtain ⟨answer, hx⟩ := (exchange_isOk_iff ha ho).mpr ⟨hplugin, by rw [hkey]; rfl⟩
    refine ⟨answer, ?_⟩
    rw [submit, admitRequest, ha.admit_eq, ok_bind]
    exact hx

/-- An approval that succeeds answers with a Passport for what the ticket grants. -/
theorem submit_passport {loaded : Option Plugin} {context : CallContext}
    {answer : ApprovalResponse} {record : ApprovalRecord} (ho : request.outcome = .approve)
    (h : submit sha keys request caller loaded now later context = .ok (answer, record)) :
    answer.outcome = .approve ∧ ∃ ticket token jti, answer.passport = some token ∧
      Admitted sha keys request caller now ticket ∧
      signDecision sha keys later context.uuid (approvalGrant ticket request caller) =
        .ok (token, jti) := by
  obtain ⟨ticket, hadmit, hx⟩ := bind_eq_ok h
  obtain ⟨plugin, passport, -, -, hp, rfl, -⟩ := exchange_eq_ok hx
  refine ⟨ho, ticket, ?_⟩
  rw [approvalPassport, ho] at hp
  simp only at hp
  split at hp
  · rename_i signed hsign
    cases hp
    exact ⟨signed.1, signed.2, rfl, admitRequest_eq_ok hadmit, hsign⟩
  · split at hp <;> cases hp

end

/-! ## 2. The ticket of a decision -/

section

variable {request : DecisionRequest} {py : Interpreter} {sha : Sha256} {keys : KeyManager}
  {caller : Caller} {now : Clock} {uuid : Text} {plugin : Plugin} {verified : VerifiedContext}
  {response : DecisionResponse} {triggered : List PolicyRule} {challenge : ApprovalChallenge}

/-- A ticket is what `sign_approval_ticket` issues for the decision. -/
theorem Evaluated.signed_ticket {gated : Bool}
    (h : Evaluated request py sha keys caller now uuid plugin verified triggered gated response)
    (hc : response.approval = some challenge) :
    signApprovalTicket sha keys now uuid
      (challengeGrant plugin request caller triggered response.decision) = .ok challenge := by
  rw [h.eq] at hc ⊢
  simp only [respond, approvalChallenge] at hc ⊢
  split at hc
  · generalize signApprovalTicket sha keys now uuid _ = x at hc ⊢
    cases x with
    | ok c => cases hc; rfl
    | error e => cases hc
  · cases hc

/-- A ticket lasts for a minute at least. -/
theorem Evaluated.ticket_fresh {gated : Bool}
    (h : Evaluated request py sha keys caller now uuid plugin verified triggered gated response)
    (hc : response.approval = some challenge) :
    Clock.reached now challenge.expiresAt = false := by
  obtain ⟨hash, key, hd, -, -, hchal⟩ := signApprovalTicket_eq_ok (h.signed_ticket hc)
  have hmin := plugin.approval.minute_le
  rw [hchal, ← Bool.not_eq_true, Clock.reached_iff]
  simp only [Clock.seconds, challengeGrant]
  omega

/-- What JSON transport makes of a payload: the same data, every number read as a double.  An
approver sends back what was shown to it, and between the two are a queue, a browser and their
JSON libraries. -/
def Transported (p q : JsonObject) : Prop :=
  Json.sameData p.json.toBinary64 q.json.toBinary64 = true

/-- An approver whose identity passes the checks on one, unless the ticket is for the end user
and names its agent as that user. -/
theorem exists_approver_iff {role : Text} {user agent : Option Text} :
    (∃ id : Text, id.str ≠ [] ∧
        agent.any (fun agent => agent.str ≠ [] ∧ id = agent) = false ∧
        (role = endUserRole && user.any (fun user => user.str ≠ [] ∧ id ≠ user)) = false) ↔
      ¬ (role = endUserRole ∧ ∃ id, id.str ≠ [] ∧ user = some id ∧ agent = some id) := by
  constructor
  · rintro ⟨id, -, hagent, huser⟩ ⟨hrole, u, hne, rfl, rfl⟩
    have hid : id = u := by simpa [hrole, hne] using huser
    simp [hid, hne] at hagent
  · intro hconflict
    by_cases huser : role = endUserRole ∧ ∃ u, u.str ≠ [] ∧ user = some u
    · -- the user of the request, who is not the agent
      obtain ⟨hrole, u, hne, rfl⟩ := huser
      refine ⟨u, hne, ?_, by simp⟩
      cases agent with
      | none => rfl
      | some a =>
        by_contra hc
        simp only [Option.any_some, Bool.not_eq_false, decide_eq_true_eq] at hc
        exact hconflict ⟨hrole, u, hne, rfl, by rw [hc.2]⟩
    · -- anyone else than the agent
      refine ⟨agent.getD (.lit "") ++ .lit "a", by simp [lit], ?_, ?_⟩
      · cases agent with
        | none => rfl
        | some a => simp [Text.ext_iff, lit]
      · by_contra hc
        simp only [Bool.not_eq_false, Bool.and_eq_true, decide_eq_true_eq,
          Option.any_eq_true] at hc
        obtain ⟨hrole, u, hu, hne, -⟩ := hc
        exact huser ⟨hrole, u, hne, hu⟩

/-- A ticket can be approved by someone exactly when its role is not empty, it does not name its
agent as the end user who has to approve, and the keys belong together.  The approver is looked
for among all of them: the first two are cases in which the checks leave nobody, and the third
one in which nobody's ticket verifies. -/
theorem approvable_iff
    (h : decide request py sha keys caller now uuid (.ok plugin) (.ok verified) = .ok response)
    (hrules : evaluateRules py (ruleData request verified) plugin.rules = .ok triggered)
    (hchallenge : response.approval = some challenge) :
    (∃ approver, ∀ submitter payload t later context, submitter.authenticated = true →
        submitter.mayActFor request.appId = true →
        approvePermission ∈ submitter.effectivePermissions [approvePermission] →
        Transported response.actionablePayload payload → now ≤ t →
        Clock.reached t challenge.expiresAt = false →
        ∃ answer record, submit sha keys ⟨challenge.ticket, payload, approver, .approve⟩ submitter
            (some plugin) t later context = .ok (answer, record) ∧
          answer.outcome = .approve ∧ answer.passport.isSome = true) ↔
      (approverRole plugin request triggered).str ≠ [] ∧
        ¬ (approverRole plugin request triggered = endUserRole ∧
          ∃ id, id.str ≠ [] ∧ request.userId = some id ∧
            request.agent.map AgentIdentity.id = some id) ∧
        keys.privateKey = some keys.publicKey := by
  obtain ⟨message, hl, -⟩ | ⟨p, v, tr, gated, hl, hc, he⟩ := decide_eq_ok.mp h
  · cases hl
  cases hl
  cases hc
  cases hrules.symm.trans he.rules
  have hsign := he.signed_ticket hchallenge
  have hpayload : response.actionablePayload = actionablePayload request triggered := by
    rw [he.eq]; rfl
  obtain ⟨hash, -, -, hhash, -, -⟩ := signApprovalTicket_eq_ok hsign
  constructor
  · rintro ⟨approver, hall⟩
    -- the host application, at once, with the payload as it was returned
    have hsame : Transported response.actionablePayload response.actionablePayload := by
      have hs := canonicalHash_eq_ok (hpayload ▸ hhash :
        hashPayload sha response.actionablePayload = .ok hash)
      obtain ⟨s, hs, -, -⟩ := hs
      have hcanon := isCanonical_of_eq_ok hs
      exact (canonDoc_eq_iff response.actionablePayload.wf response.actionablePayload.wf hcanon
        hcanon).mp rfl
    obtain ⟨answer, record, hok, -⟩ := hall .trustedLocal response.actionablePayload now now
      ⟨uuid, uuid, none⟩ rfl rfl (by decide) hsame le_rfl (he.ticket_fresh hchallenge)
    obtain ⟨-, -, -, -, hrole, hagent, huser, hpair, -⟩ :=
      (submit_challenge_iff hsign rfl rfl).mp ⟨_, hok⟩
    have hrole : approver.role = approverRole plugin request triggered := hrole
    exact ⟨hrole ▸ approver.role_ne,
      exists_approver_iff.mp ⟨approver.id, approver.id_ne, hagent, huser⟩, hpair⟩
  · rintro ⟨hrole, hconflict, hpair⟩
    obtain ⟨id, hne, hagent, huser⟩ := exists_approver_iff.mpr hconflict
    refine ⟨⟨id, approverRole plugin request triggered, hne, hrole⟩, ?_⟩
    intro submitter payload t later context hauth hact hperm hsame ht hexp
    rw [hpayload] at hsame
    have hhash' : hashPayload sha payload = .ok hash := hashPayload_of_sameData hhash hsame
    obtain ⟨⟨answer, record⟩, hok⟩ : ∃ x, submit sha keys ⟨challenge.ticket, payload,
        ⟨id, approverRole plugin request triggered, hne, hrole⟩, .approve⟩ submitter
        (some plugin) t later context = .ok x :=
      (submit_challenge_iff hsign rfl rfl).mpr
        ⟨hauth, hact, hperm, hhash'.trans hhash.symm, rfl, hagent, huser, hpair,
          (Clock.reached_iff _ _).mpr (Clock.seconds_mono ht), hexp, plugin, rfl, rfl⟩
    obtain ⟨ho, ticket, token, jti, hpassport, -, -⟩ := submit_passport rfl hok
    exact ⟨answer, record, hok, ho, by rw [hpassport]; rfl⟩

end

/-! ## 3. A user's agent with the user's identity -/

/-- A request on behalf of `u` by an agent that goes by the same name, as a gateway builds it
from a token that names no client. -/
def selfRequest : DecisionRequest :=
  { payRequest with
    userId := some (.lit "u")
    agent := some ⟨.lit "u", .lit "agent", []⟩ }

/-- A policy that declares nothing: everything is confirmed by the end user. -/
def barePolicy : Plugin := .default (.lit "p") (.lit "1")

def selfResponse : DecisionResponse :=
  respond barePolicy selfRequest .trustedLocal plainSha pairedKeys 0 (.lit "j1") .none [] false

theorem decide_self :
    decide selfRequest plainInterpreter plainSha pairedKeys .trustedLocal 0 (.lit "j1")
      (.ok barePolicy) (.ok .none) = .ok selfResponse :=
  decide_eq_ok.mpr (.inr ⟨_, _, [], false, rfl, rfl, rfl, rfl, rfl, .of_empty rfl⟩)

/-- The action is to be confirmed, and no approver, caller, payload, policy or time approves it. -/
theorem unapprovable :
    decide selfRequest plainInterpreter plainSha pairedKeys .trustedLocal 0 (.lit "j1")
        (.ok barePolicy) (.ok .none) = .ok selfResponse ∧
      ∃ challenge, selfResponse.approval = some challenge ∧
        ∀ approver submitter payload loaded t later context answer,
          submit plainSha pairedKeys ⟨challenge.ticket, payload, approver, .approve⟩ submitter
            loaded t later context ≠ .ok answer := by
  refine ⟨decide_self, ?_⟩
  have hsome : selfResponse.approval.isSome = true := by decide +kernel
  obtain ⟨challenge, hc⟩ := Option.isSome_iff_exists.mp hsome
  refine ⟨challenge, hc, ?_⟩
  intro approver submitter payload loaded t later context answer h
  have he : Evaluated selfRequest plainInterpreter plainSha pairedKeys .trustedLocal 0
      (.lit "j1") barePolicy .none [] false selfResponse :=
    ⟨rfl, rfl, rfl, .of_empty rfl⟩
  obtain ⟨-, -, -, -, -, hagent, huser, -⟩ :=
    (submit_challenge_iff (he.signed_ticket hc) rfl rfl).mp ⟨answer, h⟩
  exact exists_approver_iff.mp ⟨approver.id, approver.id_ne, hagent, huser⟩
    ⟨rfl, .lit "u", by decide, rfl, rfl⟩

theorem approvable_iff_self : ∃ challenge, selfResponse.approval = some challenge ∧
    ((∃ approver, ∀ submitter payload t later context, submitter.authenticated = true →
        submitter.mayActFor selfRequest.appId = true →
        approvePermission ∈ submitter.effectivePermissions [approvePermission] →
        Transported selfResponse.actionablePayload payload → 0 ≤ t →
        Clock.reached t challenge.expiresAt = false →
        ∃ answer record, submit plainSha pairedKeys
            ⟨challenge.ticket, payload, approver, .approve⟩ submitter (some barePolicy) t later
            context = .ok (answer, record) ∧
          answer.outcome = .approve ∧ answer.passport.isSome = true) ↔
      (approverRole barePolicy selfRequest []).str ≠ [] ∧
        ¬ (approverRole barePolicy selfRequest [] = endUserRole ∧
          ∃ id, id.str ≠ [] ∧ selfRequest.userId = some id ∧
            selfRequest.agent.map AgentIdentity.id = some id) ∧
        pairedKeys.privateKey = some pairedKeys.publicKey) := by
  have hsome : selfResponse.approval.isSome = true := by decide +kernel
  obtain ⟨challenge, hc⟩ := Option.isSome_iff_exists.mp hsome
  exact ⟨challenge, hc, approvable_iff decide_self rfl hc⟩

end Axg
