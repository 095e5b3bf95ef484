/-
# How approvals and introspection fail (`axg/approvals.py`, `axg/crypto.py`)

`submit` turns what it refuses into an `ApprovalRejected` with a status that the documentation
lists, and the `ValueError`s of signing into a 503.  Between the two, `_check_approver` hashes the
payload, and `load` may raise something else than its `PluginLoadError`: neither is handled.
`introspect_passport` handles the exceptions of PyJWT only: not those of the encoding before it, of
the retired keys that are parsed to find the key, or of the hash after it.

`submit_documented_iff` and `introspectWith_returns_iff` say which inputs come to one of
these places; `refusals_iff` puts the two together, for the keys of an environment.
-/
import Axg.ApprovalRuns
import Axg.ExecutionRecords
import Axg.Introspection
import Axg.Keys
import Axg.PolicyLoads

namespace Axg

open Python

/-! ## 1. `submit`, and what it signs -/

/-- How a call of `submit` ends, and the Passports that it has signed by then. -/
structure SubmitRun where
  result : Except SubmitError (ApprovalResponse × ApprovalRecord)
  signed : List Token

/-- A call that ends before it signs. -/
def SubmitRun.unsigned (e : SubmitError) : SubmitRun := ⟨.error e, []⟩

section

variable (source : PolicySource) (cache : Dict Plugin) (sha : Sha256)
  (verificationKey : KeyLookup) (keys : KeyManager) (request : ApprovalRequest) (caller : Caller)
  (now later : Clock) (context : CallContext)

/-- `_check_policy`.  Only `PluginLoadError` is handled. -/
def checkLoaded (ticket : TicketClaims) : Except SubmitError Unit :=
  match (source.loadPolicy cache ticket.pluginId.str).1 with
  | .ok plugin => checkPolicy ticket (some plugin)
  | .error .valueError => .error (.raised .valueError)
  | .error _ => checkPolicy ticket none

/-- `submit`, with the load of the policy and the lookup of the ticket's key. -/
def submitLoading : SubmitRun :=
  match admitRequestWith sha verificationKey request caller now with
  | .error e => .unsigned e
  | .ok ticket =>
    match checkLoaded source cache ticket with
    | .error e => .unsigned e
    | .ok () =>
      match approvalPassport sha keys ticket request caller later context.uuid with
      | .error e => .unsigned e
      | .ok passport => ⟨.ok (approvalResponse ticket request passport,
          approvalRecord ticket request caller passport context),
          (passport.map Prod.fst).toList⟩

/-- The statuses of the table in `docs/approvals.md`. -/
def documentedStatuses : List Nat := [400, 401, 403, 409, 503]

/-- An answer, or a documented status and no Passport.  The signed Passport is part of the run
and not of its result, as a submission could sign and raise afterwards. -/
structure SubmitRun.Documented (s : SubmitRun) : Prop where
  ends : (∃ answer, s.result = .ok answer) ∨
    ∃ status detail, s.result = .error (.rejected status detail) ∧ status ∈ documentedStatuses
  unsigned : ∀ e, s.result = .error e → s.signed = []

/-- The load raises nothing but `PluginLoadError`. -/
def LoadEnds (source : PolicySource) (cache : Dict Plugin) (pluginId : Str) : Prop :=
  (∃ plugin, cache.lookup pluginId = some plugin) ∨ ¬ source.Escapes pluginId

/-- The call comes to `_check_approver`, with this ticket: there the payload is hashed, outside
every handler. -/
structure ComesToPayload (ticket : TicketClaims) : Prop where
  authenticated : caller.authenticated = true
  verified : verifyTicketWith verificationKey now request.ticket = .ok ticket
  mayAct : caller.mayActFor ticket.aud = true
  mayApprove : approvePermission ∈ caller.effectivePermissions [approvePermission]

end

/-! ## 2. The ends of `submit` -/

section

variable {source : PolicySource} {cache : Dict Plugin} {sha : Sha256}
  {verificationKey : KeyLookup} {keys : KeyManager} {request : ApprovalRequest} {caller : Caller}
  {now later : Clock} {context : CallContext} {ticket : TicketClaims}

/-- A status that is documented. -/
def SubmitError.Documented (e : SubmitError) : Prop :=
  ∃ status detail, e = .rejected status detail ∧ status ∈ documentedStatuses

theorem SubmitError.Documented.rejected {status : Nat} (detail : Text)
    (h : status ∈ documentedStatuses) : (SubmitError.rejected status detail).Documented :=
  ⟨status, detail, rfl, h⟩

theorem SubmitError.not_documented_raised (e : PyError) : ¬ (SubmitError.raised e).Documented := by
  rintro ⟨status, detail, h, -⟩
  cases h

theorem SubmitRun.documented_unsigned_iff {e : SubmitError} :
    (SubmitRun.unsigned e).Documented ↔ e.Documented := by
  constructor
  · rintro ⟨⟨answer, h⟩ | ⟨status, detail, h, hs⟩, -⟩
    · cases h
    · cases h
      exact ⟨status, detail, rfl, hs⟩
  · rintro ⟨status, detail, rfl, hs⟩
    exact ⟨.inr ⟨status, detail, rfl, hs⟩, fun _ _ => rfl⟩

theorem checkCaller_documented {e : SubmitError} (h : checkCaller ticket caller = .error e) :
    e.Documented := by
  unfold checkCaller at h
  split at h
  · cases h
    exact .rejected _ (by decide)
  split at h
  · cases h
    exact .rejected _ (by decide)
  · cases h

theorem checkCaller_ok_iff : checkCaller ticket caller = .ok () ↔
    caller.mayActFor ticket.aud = true ∧
      approvePermission ∈ caller.effectivePermissions [approvePermission] := by
  constructor
  · exact checkCaller_eq_ok
  · rintro ⟨hact, hperm⟩
    rw [checkCaller, if_neg (by simp [hact]), if_neg (not_not.mpr hperm)]

/-- `_check_approver` raises what the hash raises. -/
theorem checkApprover_documented_iff {e : SubmitError}
    (h : checkApprover sha ticket request = .error e) :
    e.Documented ↔ Hashable request.actionablePayload.json := by
  unfold Hashable
  rw [← @canonicalHash_isOk_iff sha]
  unfold checkApprover at h
  cases hhash : hashPayload sha request.actionablePayload with
  | error raised =>
    rw [hhash] at h
    cases h
    refine iff_of_false (SubmitError.not_documented_raised raised) ?_
    rintro ⟨hash, hok⟩
    cases hhash.symm.trans hok
  | ok hash =>
    rw [hhash] at h
    refine iff_of_true ?_ ⟨hash, hhash⟩
    simp only at h
    repeat' split at h
    all_goals cases h
    all_goals exact .rejected _ (by decide)

/-- Signing raises nothing but `ValueError`s for a payload that has a hash. -/
theorem approvalPassport_documented {uuid : Text} {e : SubmitError} {hash : Str}
    (hhash : hashPayload sha request.actionablePayload = .ok hash)
    (h : approvalPassport sha keys ticket request caller now uuid = .error e) : e.Documented := by
  unfold approvalPassport at h
  cases houtcome : request.outcome with
  | deny =>
    rw [houtcome] at h
    cases h
  | approve =>
    rw [houtcome] at h
    simp only at h
    have hgrant : (approvalGrant ticket request caller).actionablePayload =
        request.actionablePayload := rfl
    cases hkey : keys.privateKey with
    | some key =>
      rw [signDecision_of_hash (hgrant ▸ hhash) rfl hkey] at h
      cases h
    | none =>
      have hsign : signDecision sha keys now uuid (approvalGrant ticket request caller) =
          .error .valueError := by
        rw [signDecision, hgrant, hhash]
        simp only [ok_bind, KeyManager.encode, hkey, Option.map_none]
        rfl
      rw [hsign] at h
      cases h
      exact .rejected _ (by decide)

theorem checkPolicy_documented {loaded : Option Plugin} {e : SubmitError}
    (h : checkPolicy ticket loaded = .error e) : e.Documented := by
  unfold checkPolicy at h
  cases loaded with
  | none =>
    cases h
    exact .rejected _ (by decide)
  | some plugin =>
    simp only at h
    split at h
    · cases h
      exact .rejected _ (by decide)
    · cases h

theorem verifiedTicket_ok_iff :
    verifiedTicket verificationKey now request.ticket = .ok ticket ↔
      verifyTicketWith verificationKey now request.ticket = .ok ticket := by
  unfold verifiedTicket
  cases verifyTicketWith verificationKey now request.ticket with
  | ok t => simp only [Except.ok.injEq]
  | error e => simp

theorem verifiedTicket_documented {e : SubmitError}
    (h : verifiedTicket verificationKey now request.ticket = .error e) : e.Documented := by
  unfold verifiedTicket at h
  split at h
  · cases h
  · cases h
    exact .rejected _ (by decide)

/-- The checks before the policy end as documented, or at a payload without a hash. -/
theorem admitRequest_documented_iff {e : SubmitError}
    (h : admitRequestWith sha verificationKey request caller now = .error e) :
    e.Documented ↔ ∀ ticket, ComesToPayload verificationKey request caller now ticket →
      Hashable request.actionablePayload.json := by
  unfold admitRequestWith at h
  by_cases hauth : caller.authenticated = false
  · rw [if_pos hauth] at h
    cases h
    refine iff_of_true (.rejected _ (by decide)) fun ticket hcomes => ?_
    cases hauth.symm.trans hcomes.authenticated
  · rw [if_neg hauth] at h
    cases hticket : verifiedTicket verificationKey now request.ticket with
    | error raised =>
      rw [hticket, error_bind] at h
      cases h
      refine iff_of_true (verifiedTicket_documented hticket) fun ticket hcomes => ?_
      cases hticket.symm.trans (verifiedTicket_ok_iff.mpr hcomes.verified)
    | ok ticket =>
      rw [hticket, ok_bind] at h
      have hverified := verifiedTicket_ok_iff.mp hticket
      have hunique : ∀ other, ComesToPayload verificationKey request caller now other →
          other = ticket := by
        intro other hcomes
        cases hverified.symm.trans hcomes.verified
        rfl
      cases hcaller : checkCaller ticket caller with
      | error raised =>
        rw [hcaller, error_bind] at h
        cases h
        refine iff_of_true (checkCaller_documented hcaller) fun other hcomes => ?_
        obtain rfl := hunique other hcomes
        cases hcaller.symm.trans (checkCaller_ok_iff.mpr ⟨hcomes.mayAct, hcomes.mayApprove⟩)
      | ok u =>
        rw [hcaller, ok_bind] at h
        obtain ⟨hact, hperm⟩ := checkCaller_ok_iff.mp hcaller
        have hcomes : ComesToPayload verificationKey request caller now ticket :=
          ⟨by simpa using hauth, hverified, hact, hperm⟩
        cases happrover : checkApprover sha ticket request with
        | ok u =>
          rw [happrover, ok_bind] at h
          cases h
        | error raised =>
          rw [happrover, error_bind] at h
          cases h
          rw [checkApprover_documented_iff happrover]
          exact ⟨fun hhash _ _ => hhash, fun hall => hall ticket hcomes⟩

/-- `_check_policy` ends as documented unless the load raises something else. -/
theorem checkLoaded_documented_iff {e : SubmitError}
    (h : checkLoaded source cache ticket = .error e) :
    e.Documented ↔ LoadEnds source cache ticket.pluginId.str := by
  unfold LoadEnds
  unfold checkLoaded at h
  cases hcache : cache.lookup ticket.pluginId.str with
  | some plugin =>
    rw [PolicySource.loadPolicy_hit hcache] at h
    exact iff_of_true (checkPolicy_documented h) (.inl ⟨plugin, rfl⟩)
  | none =>
    rw [PolicySource.loadPolicy_miss hcache] at h
    rw [or_iff_right (by simp), ← PolicySource.loaded_escapes_iff]
    cases hloaded : source.loaded ticket.pluginId.str with
    | ok plugin =>
      rw [hloaded] at h
      exact iff_of_true (checkPolicy_documented h) (by rintro ⟨⟩)
    | error raised =>
      rw [hloaded] at h
      by_cases hraised : raised = .valueError
      · subst hraised
        cases h
        exact iff_of_false (SubmitError.not_documented_raised _) (not_not.mpr rfl)
      · have hpolicy : checkPolicy ticket none = .error e := by
          cases raised with
          | valueError => exact absurd rfl hraised
          | _ => exact h
        exact iff_of_true (checkPolicy_documented hpolicy) (fun he => hraised (Except.error.inj he))

/-- `submit` ends as documented exactly when the payload has a hash where it is hashed, and the
load raises nothing else where the policy is loaded. -/
theorem submit_documented_iff :
    (submitLoading source cache sha verificationKey keys request caller now later
        context).Documented ↔
      ∀ ticket, ComesToPayload verificationKey request caller now ticket →
        Hashable request.actionablePayload.json ∧
          (AdmittedWith sha verificationKey request caller now ticket →
            LoadEnds source cache ticket.pluginId.str) := by
  unfold submitLoading
  cases hadmit : admitRequestWith sha verificationKey request caller now with
  | error e =>
    simp only [SubmitRun.documented_unsigned_iff]
    rw [admitRequest_documented_iff hadmit]
    refine ⟨fun h ticket hcomes => ⟨h ticket hcomes, fun ha => ?_⟩,
      fun h ticket hcomes => (h ticket hcomes).1⟩
    cases hadmit.symm.trans ha.admit_eq
  | ok ticket =>
    have ha := admitRequestWith_eq_ok hadmit
    have hcomes : ComesToPayload verificationKey request caller now ticket :=
      ⟨ha.authenticated, ha.verified, ha.mayAct, ha.mayApprove⟩
    have hhash : Hashable request.actionablePayload.json :=
      canonicalHash_isOk_iff.mp ⟨_, ha.payload⟩
    -- a token verifies to one ticket, so the condition speaks of this one alone
    have hunique : ∀ other, ComesToPayload verificationKey request caller now other →
        other = ticket := by
      intro other hother
      cases ha.verified.symm.trans hother.verified
      rfl
    cases hpolicy : checkLoaded source cache ticket with
    | error e =>
      simp only [hpolicy, SubmitRun.documented_unsigned_iff]
      rw [checkLoaded_documented_iff hpolicy]
      refine ⟨fun h other hother => ?_, fun h => (h ticket hcomes).2 ha⟩
      obtain rfl := hunique other hother
      exact ⟨hhash, fun _ => h⟩
    | ok u =>
      have hends : LoadEnds source cache ticket.pluginId.str := by
        by_contra hno
        obtain ⟨hmiss, hescapes⟩ := not_or.mp hno
        have hnone := Option.eq_none_iff_forall_ne_some.mpr (not_exists.mp hmiss)
        rw [checkLoaded, PolicySource.loadPolicy_miss hnone,
          PolicySource.loaded_escapes_iff.mpr (not_not.mp hescapes)] at hpolicy
        cases hpolicy
      refine iff_of_true ?_ fun other hother => ?_
      · simp only [hpolicy]
        cases hpassport : approvalPassport sha keys ticket request caller later context.uuid with
        | error e =>
          exact SubmitRun.documented_unsigned_iff.mpr
            (approvalPassport_documented ha.payload hpassport)
        | ok passport => exact ⟨.inl ⟨_, rfl⟩, by rintro e ⟨⟩⟩
      · obtain rfl := hunique other hother
        exact ⟨hhash, fun _ => hends⟩

end

/-! ## 3. Introspection -/

/-- `introspect_passport` comes to the payload: the token is a Passport of AXG's, for the action. -/
structure AsksForPayload (verificationKey : KeyLookup) (now : Clock) (token : Token)
    (actionType : Option Text) : Prop where
  decodes : ∃ header key claims, token.header = some header ∧
    header.typ ≠ some approvalTicketTyp ∧ verificationKey header.kid = .ok (some key) ∧
    jwtDecode token key now issuer none ["exp", "nbf", "jti"] = .ok claims ∧
    claimIs claims "decision" (Decision.value .allow) = true ∧
    ∀ a ∈ actionType, claimIs claims "action_type" a = true

section

variable {sha : Sha256} {verificationKey : KeyLookup} {now : Clock} {token : Token}
  {actionType : Option Text} {payload : Option JsonObject}

/-- It returns the claims or a reason exactly when the token can be encoded, the key that its header
names can be looked up, and the payload has a hash where it is hashed. -/
theorem introspectWith_returns_iff :
    (∃ answer, introspectWith sha verificationKey now token actionType payload = .ok answer) ↔
      token.isText = true ∧
        (∀ header ∈ token.header, header.typ ≠ some approvalTicketTyp →
          ∃ found, verificationKey header.kid = .ok found) ∧
        ∀ p ∈ payload, AsksForPayload verificationKey now token actionType →
          Hashable p.json := by
  constructor
  · rintro ⟨answer, h⟩
    unfold introspectWith at h
    refine ⟨?_, ?_, ?_⟩
    · cases token with
      | jws header claims signer => rfl
      | malformed text =>
        cases htext : (Token.malformed text).isText with
        | true => rfl
        | false =>
          simp only [Token.header, htext, Bool.false_eq_true, ↓reduceIte] at h
          cases h
    · intro header hheader htyp
      cases hkey : verificationKey header.kid with
      | ok found => exact ⟨found, rfl⟩
      | error e =>
        simp only [Option.mem_def.mp hheader, if_neg htyp, hkey] at h
        cases h
    · rintro p hp ⟨header, key, claims, hheader, htyp, hkey, hdecode, hallow, haction⟩
      cases hp
      have hmatches : (actionType.bind (fun a => some a.str)).any
          (fun a => !claimIs claims "action_type" a) = false := by
        cases actionType with
        | none => rfl
        | some a => simpa using haction a rfl
      simp only [hheader, if_neg htyp, hkey, hdecode, hallow, Bool.true_eq_false, ↓reduceIte] at h
      rw [if_neg (by simpa using hmatches)] at h
      obtain ⟨hash, hhash, -⟩ := bind_eq_ok h
      exact canonicalHash_isOk_iff.mp ⟨hash, hhash⟩
  · rintro ⟨htext, hkeys, hpayload⟩
    by_cases hasks : AsksForPayload verificationKey now token actionType
    · exact introspectWith_returns htext (fun header hheader => hkeys header hheader)
        fun p hp => canonicalHash_isOk_iff.mpr (hpayload p hp hasks)
    · unfold introspectWith
      rw [if_pos htext]
      cases hheader : token.header with
      | none => exact ⟨_, rfl⟩
      | some header =>
        simp only
        split
        · exact ⟨_, rfl⟩
        rename_i htyp
        obtain ⟨found, hkey⟩ := hkeys header hheader htyp
        cases found with
        | none => exact ⟨_, by simp only [hkey]; rfl⟩
        | some key =>
          simp only [hkey]
          cases hdecode : jwtDecode token key now issuer none ["exp", "nbf", "jti"] with
          | error e => cases e <;> exact ⟨_, rfl⟩
          | ok claims =>
            simp only
            split
            · exact ⟨_, rfl⟩
            rename_i hallow
            split
            · exact ⟨_, rfl⟩
            rename_i hmatches
            -- every check before the payload has passed
            refine absurd ⟨header, key, claims, hheader, htyp, hkey, hdecode, by simpa using hallow,
              fun a ha => ?_⟩ hasks
            cases ha
            simpa using hmatches

end

/-! ## 4. Approvals and introspection -/

/-- Approvals and introspection fail in documented ways exactly when the payload has a hash where it
is hashed, the load of the policy raises nothing but `PluginLoadError`, the token can be encoded,
and the retired keys are read where a key is looked up for a Passport.

A ticket's key is looked up in the same list, inside the `except Exception` of
`verify_approval_ticket`, and a key that cannot sign ends in a 503: so no condition on the keys is
needed for `submit`. -/
theorem refusals_iff (service : KeyService) (env : Environment) (loaded : LoadedKeys)
    (source : PolicySource) (cache : Dict Plugin) (sha : Sha256) (now later : Clock)
    (context : CallContext) :
    (∀ request caller,
      (submitLoading source cache sha (verificationKeyOf service env loaded)
          (loaded.signing service) request caller now later context).Documented ↔
        ∀ ticket,
          ComesToPayload (verificationKeyOf service env loaded) request caller now ticket →
            Hashable request.actionablePayload.json ∧
              (AdmittedWith sha (verificationKeyOf service env loaded) request caller now ticket →
                LoadEnds source cache ticket.pluginId.str)) ∧
      ∀ token actionType payload,
        (∃ answer, introspectWith sha (verificationKeyOf service env loaded) now token actionType
          payload = .ok answer) ↔
          token.isText = true ∧
            (∀ header ∈ token.header, header.typ ≠ some approvalTicketTyp →
              KeysRead service env loaded header.kid) ∧
            ∀ p ∈ payload,
              AsksForPayload (verificationKeyOf service env loaded) now token actionType →
                Hashable p.json := by
  refine ⟨fun _ _ => submit_documented_iff, fun token actionType payload => ?_⟩
  simp only [introspectWith_returns_iff, verificationKeyOf_isOk_iff]

/-- The manager approves with a payload that has no hash. -/
def hugeApproval : ApprovalRequest := { amountApproval with actionablePayload := hugeNumber }

/-- An environment with the key pair of the ticket. -/
def pairedEnvironment : Environment :=
  { derivedOnly with privateKey := some (lit "private:thumbprint") }

/-- The same with a PEM text in place of the list of retired keys. -/
def unlistedEnvironment : Environment :=
  { pairedEnvironment with previousPublicKeys := lit "public:b" }

def pairedLoaded : LoadedKeys := ⟨lit "private:thumbprint", lit "public:thumbprint"⟩

/-- The `OverflowError` leaves `submit` and `introspect_passport`; so does what `json.loads` raises
on a retired key that is no list. -/
theorem overflow_escapes :
    loadKeys pemKeys pairedEnvironment = .ok pairedLoaded ∧
      loadKeys pemKeys unlistedEnvironment = .ok pairedLoaded ∧
      (submitLoading (fileSource ⟨#[]⟩) [] (.ofTable amountDigests)
        (verificationKeyOf pemKeys pairedEnvironment pairedLoaded) (pairedLoaded.signing pemKeys)
        hugeApproval .trustedLocal 0 0 plainContext).result = .error (.raised .overflowError) ∧
      ¬ (submitLoading (fileSource ⟨#[]⟩) [] (.ofTable amountDigests)
        (verificationKeyOf pemKeys pairedEnvironment pairedLoaded) (pairedLoaded.signing pemKeys)
        hugeApproval .trustedLocal 0 0 plainContext).Documented ∧
      introspectWith (.ofTable amountDigests)
        (verificationKeyOf pemKeys pairedEnvironment pairedLoaded) 0 amountToken none
        (some hugeNumber) = .error .overflowError ∧
      introspectWith (.ofTable amountDigests)
        (verificationKeyOf pemKeys unlistedEnvironment pairedLoaded) 0 amountToken none
        none = .error .jsonDecodeError := by
  have hoverflow : hashPayload (.ofTable amountDigests) hugeNumber = .error .overflowError := by
    have hjson : canonicalJson hugeNumber.json = .error .overflowError := by decide +kernel
    rw [hashPayload, canonicalHash, hjson, error_bind]
  have hkey : verificationKeyOf pemKeys pairedEnvironment pairedLoaded
      (some (lit "thumbprint")) = .ok (some (lit "thumbprint")) := rfl
  have hclaims : jwtDecode amountToken (lit "thumbprint") 0 issuer none ["exp", "nbf", "jti"] =
      .ok amountToken.claims := rfl
  have hverified : verifyTicketWith (verificationKeyOf pemKeys pairedEnvironment pairedLoaded) 0
      amountChallenge.ticket = .ok amountTicketClaims := by
    have hpaired : verifyApprovalTicket pairedKeys 0 amountChallenge.ticket =
        .ok amountTicketClaims :=
      (verifyApprovalTicket_dump (by decide) rfl).mpr ⟨rfl, rfl, by decide, by decide⟩
    exact hpaired
  have hadmit : admitRequestWith (.ofTable amountDigests)
      (verificationKeyOf pemKeys pairedEnvironment pairedLoaded) hugeApproval .trustedLocal 0 =
        .error (.raised .overflowError) := by
    simp only [admitRequestWith, verifiedTicket,
      show hugeApproval.ticket = amountChallenge.ticket from rfl, hverified, checkApprover,
      show hugeApproval.actionablePayload = hugeNumber from rfl, hoverflow]
    rfl
  have hend : (submitLoading (fileSource ⟨#[]⟩) [] (.ofTable amountDigests)
      (verificationKeyOf pemKeys pairedEnvironment pairedLoaded) (pairedLoaded.signing pemKeys)
      hugeApproval .trustedLocal 0 0 plainContext).result = .error (.raised .overflowError) := by
    rw [submitLoading, hadmit]
    rfl
  refine ⟨rfl, rfl, hend, ?_, ?_, ?_⟩
  · rintro ⟨⟨answer, h⟩ | ⟨status, detail, h, -⟩, -⟩
    · cases hend.symm.trans h
    · cases hend.symm.trans h
  · simp only [introspectWith, show amountToken.header = some ⟨some defaultTyp,
      some (lit "thumbprint")⟩ from rfl, hkey, hclaims, hoverflow, error_bind]
    rfl
  · rfl

end Axg
