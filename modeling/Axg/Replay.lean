/-
# Concurrent calls on one replay cache

Each `verify_passport` call runs in three steps: it decodes the token, it reads the clock at the
start of `check_and_store`, and it takes the lock and updates the cache with that reading.  The
steps of concurrent calls interleave in any order, the clock advancing by any amount between two
of them, so a call that read the clock early may take the lock late.  The calls that have held the
lock are kept in the order in which they did so (`finished`); a call that raises before it comes
to the cache leaves nothing behind.

The cache is the single-use store of the library, and the calls that return are the uses it
accepts (`ReplayState.Inv`).  It forgets a token once any call brings a reading at or after the
expiry it was stored with, whatever token that call is about.  So a Passport is accepted at most
once exactly when no call that takes the lock after the first one read the clock at or after its
expiry (`passport_accepted_once_iff`); with other tokens in the cache, when no call between the
first and the last one on the Passport did (`Inv.accepted_once_iff`).
-/
import Axg.General.Run
import Axg.Passports

namespace Axg

open Python General

/-! ## 1. Runs -/

/-- A call of `check_and_store` from the reading of the clock on. -/
structure CacheCall where
  claims : Dict Json
  jti : Str
  expiresAt : Int
  now : Clock

/-- A call that has held the lock.  `accepted` is what `check_and_store` returned: with it
`verify_passport` returns the claims, and without it `PASSPORT_REPLAYED` is raised. -/
structure Finished extends CacheCall where
  accepted : Bool

/-- `pending` holds the claims of the calls that have decoded their token, `waiting` the calls
that have read the clock for the cache and not yet taken its lock. -/
structure ReplayState where
  now : Clock
  cache : ReplayCache
  pending : List (Dict Json)
  waiting : List CacheCall
  finished : List Finished

/-- A new cache, and no call yet. -/
def ReplayState.Init (s : ReplayState) : Prop :=
  s.cache = [] ∧ s.pending = [] ∧ s.waiting = [] ∧ s.finished = []

/-- The state after the call has held the lock. -/
def ReplayState.store (s : ReplayState) (call : CacheCall) (waiting : List CacheCall) :
    ReplayState where
  now := s.now
  cache := (s.cache.checkAndStore call.jti call.expiresAt call.now).2
  pending := s.pending
  waiting := waiting
  finished := s.finished ++ [⟨call, (s.cache.checkAndStore call.jti call.expiresAt call.now).1⟩]

/-- One step of calls among those that `presents` allows. -/
inductive ReplayStep (sha : Sha256) (presents : VerifyCall → Prop) :
    ReplayState → ReplayState → Prop
  | tick (s : ReplayState) (t : Clock) (h : s.now ≤ t) :
    ReplayStep sha presents s { s with now := t }
  | decode (s : ReplayState) (call : VerifyCall) (claims : Dict Json) (hcall : presents call)
      (h : decodeStep sha call s.now = .ok claims) :
    ReplayStep sha presents s { s with pending := s.pending ++ [claims] }
  -- without a `jti` or a readable `exp` the call raises before it asks the cache
  | refuse (s : ReplayState) (before after : List (Dict Json)) (claims : Dict Json)
      (code : VerificationCode) (hp : s.pending = before ++ claims :: after)
      (h : replayKey claims = .error code) :
    ReplayStep sha presents s { s with pending := before ++ after }
  | readClock (s : ReplayState) (before after : List (Dict Json)) (claims : Dict Json)
      (jti : Str) (exp : Int) (hp : s.pending = before ++ claims :: after)
      (h : replayKey claims = .ok (jti, exp)) :
    ReplayStep sha presents s
      { s with
        pending := before ++ after
        waiting := s.waiting ++ [⟨claims, jti, exp, s.now⟩] }
  | store (s : ReplayState) (before after : List CacheCall) (call : CacheCall)
      (hw : s.waiting = before ++ call :: after) :
    ReplayStep sha presents s (s.store call (before ++ after))

/-! ## 2. The cache of a run -/

/-- A call of `check_and_store`, as a use of the store. -/
def CacheCall.use (call : CacheCall) : Use Str Int := cacheUse call.jti call.expiresAt call.now

theorem mem_of_mem_rest {α : Type} {x y : α} {before after : List α} (h : x ∈ before ++ after) :
    x ∈ before ++ y :: after := by
  rcases List.mem_append.mp h with h | h
  · exact List.mem_append_left _ h
  · exact List.mem_append_right _ (List.mem_cons_of_mem _ h)

theorem lookup_jti_of_replayKey {claims : Dict Json} {jti : Str} {exp : Int}
    (h : replayKey claims = .ok (jti, exp)) : claims.lookup (lit "jti") = some (.str jti) := by
  unfold replayKey at h
  generalize claims.lookup (lit "jti") = v at h ⊢
  split at h
  · split at h
    · cases h
    split at h
    · cases h; rfl
    · cases h
  · cases h

/-- A store that remembers nothing. -/
def noKeys : Store Str Int := fun _ => none

namespace ReplayState

/-- The uses of the cache so far. -/
def uses (s : ReplayState) : List (Use Str Int) := s.finished.map fun f => f.use

/-- The cache is what the uses so far have left of an empty store, and the calls that returned are
the uses that the store accepted. -/
structure Inv (s : ReplayState) : Prop where
  nodup : (Dict.keys s.cache).Nodup
  cache : s.cache.abs = noKeys.after s.uses
  accepted : (s.finished.filter Finished.accepted).map (fun f => f.use) = noKeys.accepted s.uses

theorem Inv.init {s : ReplayState} (h : s.Init) : s.Inv := by
  obtain ⟨hc, -, -, hf⟩ := h
  have hu : s.uses = [] := by rw [uses, hf]; rfl
  refine ⟨by rw [hc]; exact List.nodup_nil, ?_, ?_⟩
  · rw [hc, hu]; rfl
  · rw [hf, hu]; rfl

/-- Holding the lock keeps the invariant, whenever the call read the clock. -/
theorem Inv.store {s : ReplayState} (h : s.Inv) (call : CacheCall) (waiting : List CacheCall) :
    (s.store call waiting).Inv := by
  obtain ⟨hacc, habs, hnd⟩ :=
    ReplayCache.abs_checkAndStore s.cache h.nodup call.jti call.expiresAt call.now
  let f : Finished := ⟨call, (s.cache.checkAndStore call.jti call.expiresAt call.now).1⟩
  have hfin : (s.store call waiting).finished = s.finished ++ [f] := rfl
  have huses : (s.store call waiting).uses = s.uses ++ [call.use] := by
    rw [uses, hfin, List.map_append]
    rfl
  have hfacc : f.accepted = (noKeys.after s.uses).accepts call.use := by
    rw [← h.cache]
    exact hacc
  refine ⟨hnd, ?_, ?_⟩
  · rw [huses, Store.after_append, ← h.cache]
    exact habs
  · rw [hfin, huses, List.filter_append, List.map_append, h.accepted, Store.accepted_append,
      Store.accepted, ← hfacc]
    cases hf : f.accepted with
    | true => rw [List.filter_cons_of_pos hf]; rfl
    | false => rw [List.filter_cons_of_neg (by simp [hf])]; rfl

/-- The clock advances, or calls come and go: the invariant reads the rest only. -/
theorem Inv.of_same {s t : ReplayState} (h : s.Inv) (hcache : t.cache = s.cache)
    (hfin : t.finished = s.finished) : t.Inv := by
  have hu : t.uses = s.uses := by rw [uses, uses, hfin]
  refine ⟨hcache ▸ h.nodup, ?_, ?_⟩
  · rw [hcache, hu]; exact h.cache
  · rw [hfin, hu]; exact h.accepted

theorem Inv.step {sha : Sha256} {presents : VerifyCall → Prop} {s t : ReplayState} (h : s.Inv)
    (hstep : ReplayStep sha presents s t) : t.Inv := by
  cases hstep with
  | tick t ht => exact h.of_same rfl rfl
  | decode call claims hcall hok => exact h.of_same rfl rfl
  | refuse before after claims code hp hkey => exact h.of_same rfl rfl
  | readClock before after claims jti exp hp hkey => exact h.of_same rfl rfl
  | store before after call hw => exact h.store call _

/-- The condition on the uses, on the calls themselves. -/
theorem kept_uses_iff {s : ReplayState} {jti : Str} :
    Store.Kept jti s.uses ↔
      ∀ before first after, s.finished = before ++ first :: after → first.jti = jti →
        (∀ f ∈ before, f.jti ≠ jti) →
        ∀ l f r, after = l ++ f :: r → (∃ g ∈ f :: r, g.jti = jti) →
          Clock.seconds f.now < first.expiresAt := by
  constructor
  · intro h before first after he hfirst hnone l f r hafter hlast
    refine h (before.map fun f => f.use) first.use (after.map fun f => f.use) ?_ hfirst
      (List.forall_mem_map.mpr hnone) (l.map fun f => f.use) f.use (r.map fun f => f.use) ?_ ?_
    · rw [uses, he, List.map_append, List.map_cons]
    · rw [hafter, List.map_append, List.map_cons]
    · obtain ⟨g, hg, hjti⟩ := hlast
      exact ⟨g.use, List.mem_map_of_mem (f := fun f : Finished => f.use) hg, hjti⟩
  · intro h l first r he hfirst hnone m u n hr hlast
    obtain ⟨before, rest, hsplit, rfl, hrest⟩ := List.map_eq_append_iff.mp he
    obtain ⟨f₀, after, rfl, rfl, rfl⟩ := List.map_eq_cons_iff.mp hrest
    obtain ⟨l', rest', rfl, rfl, hrest'⟩ := List.map_eq_append_iff.mp hr
    obtain ⟨f, r', rfl, rfl, rfl⟩ := List.map_eq_cons_iff.mp hrest'
    refine h before f₀ _ hsplit hfirst (fun g hg => hnone g.use (List.mem_map.mpr ⟨g, hg, rfl⟩))
      l' f r' rfl ?_
    obtain ⟨v, hv, hvk⟩ := hlast
    obtain ⟨g, hg, rfl⟩ := List.mem_map.mp (show v ∈ (f :: r').map fun f => f.use from hv)
    exact ⟨g, hg, hvk⟩

/-- At most one call on a `jti` returns exactly when, from the first call on it to the last, every
call that takes the lock read the clock before the expiry that the first one stored. -/
theorem Inv.accepted_once_iff {s : ReplayState} (h : s.Inv) (jti : Str) :
    (s.finished.filter (fun f => f.accepted && f.jti = jti)).length ≤ 1 ↔
      Store.Kept jti s.uses := by
  have hcount : (s.finished.filter (fun f => f.accepted && f.jti = jti)).length =
      ((noKeys.accepted s.uses).filter (fun u => u.key = jti)).length := by
    rw [← h.accepted, List.filter_map, List.length_map, List.filter_filter]
    simp only [Bool.and_comm, Function.comp_def]
    rfl
  rw [hcount]
  exact Store.length_accepted_le_one_iff rfl

end ReplayState

/-! ## 3. One Passport -/

/-- Claims that calls have decoded. -/
def Decoded (sha : Sha256) (presents : VerifyCall → Prop) (claims : Dict Json) : Prop :=
  ∃ call now, presents call ∧ decodeStep sha call now = .ok claims

/-- A call that has asked the cache under the key of claims that were decoded. -/
def CacheCall.Asks (sha : Sha256) (presents : VerifyCall → Prop) (call : CacheCall) : Prop :=
  Decoded sha presents call.claims ∧ replayKey call.claims = .ok (call.jti, call.expiresAt)

/-- What reaches the cache was decoded from a presented token. -/
theorem asks_of_reachable {sha : Sha256} {presents : VerifyCall → Prop} {s : ReplayState}
    (h : Reachable ReplayState.Init (ReplayStep sha presents) s) :
    (∀ claims ∈ s.pending, Decoded sha presents claims) ∧
      (∀ call ∈ s.waiting, call.Asks sha presents) ∧ ∀ f ∈ s.finished, f.Asks sha presents := by
  refine Reachable.invariant (I := fun s => (∀ claims ∈ s.pending, Decoded sha presents claims) ∧
      (∀ call ∈ s.waiting, call.Asks sha presents) ∧ ∀ f ∈ s.finished, f.Asks sha presents)
    ?_ ?_ h
  · rintro s ⟨-, hp, hw, hf⟩
    simp [hp, hw, hf]
  · rintro s t - ⟨hpending, hwaiting, hfinished⟩ hstep
    cases hstep with
    | tick t ht => exact ⟨hpending, hwaiting, hfinished⟩
    | decode call claims hcall hok =>
      refine ⟨fun cs hcs => ?_, hwaiting, hfinished⟩
      rcases List.mem_append.mp hcs with hcs | hcs
      · exact hpending cs hcs
      · rw [List.mem_singleton.mp hcs]
        exact ⟨call, s.now, hcall, hok⟩
    | refuse before after claims code hp hkey =>
      rw [hp] at hpending
      exact ⟨fun cs hcs => hpending cs (mem_of_mem_rest hcs), hwaiting, hfinished⟩
    | readClock before after claims jti exp hp hkey =>
      rw [hp] at hpending
      refine ⟨fun cs hcs => hpending cs (mem_of_mem_rest hcs), fun call hcall => ?_, hfinished⟩
      rcases List.mem_append.mp hcall with hcall | hcall
      · exact hwaiting call hcall
      · rw [List.mem_singleton.mp hcall]
        exact ⟨hpending claims (by simp), hkey⟩
    -- the call moves with the claims that it decoded, whatever the cache answers
    | store before after call hw =>
      rw [hw] at hwaiting
      refine ⟨hpending, fun c hc => hwaiting c (mem_of_mem_rest hc), fun f hf => ?_⟩
      rcases List.mem_append.mp hf with hf | hf
      · exact hfinished f hf
      · rw [List.mem_singleton.mp hf]
        exact hwaiting call (by simp)

theorem ReplayState.inv_of_reachable {sha : Sha256} {presents : VerifyCall → Prop}
    {s : ReplayState} (h : Reachable ReplayState.Init (ReplayStep sha presents) s) : s.Inv :=
  h.invariant (I := Inv) (fun _ => Inv.init) (fun _ _ _ hs hstep => hs.step hstep)

/-- In a run of calls on one Passport, at most one returns exactly when every call that takes the
lock after the first one had read the clock before the expiry of the Passport.  `jwt.decode` has
judged the same expiry before, on an earlier reading, so the calls that go wrong are those that
decode the token in time and come to the cache too late: it has just dropped the `jti` that would
have refused them. -/
theorem passport_accepted_once_iff {sha : Sha256} {keys : KeyManager} {issuedAt : Clock}
    {uuid : Text} {grant : DecisionGrant} {token : Token} {jti : Text}
    (hsign : signDecision sha keys issuedAt uuid grant = .ok (token, jti)) (hjti : jti.str ≠ [])
    {s : ReplayState}
    (h : Reachable ReplayState.Init (ReplayStep sha (fun call => call.token = token)) s) :
    (s.finished.filter Finished.accepted).length ≤ 1 ↔
      ∀ f ∈ s.finished.tail, Clock.seconds f.now < Clock.seconds issuedAt + 300 := by
  obtain ⟨hash, key, -, -, -, -, rfl⟩ := signDecision_eq_ok hsign
  have hkey : ∀ f ∈ s.finished, f.jti = jti.str ∧ f.expiresAt = Clock.seconds issuedAt + 300 := by
    intro f hf
    obtain ⟨⟨call, now, hcall, hok⟩, hkey⟩ := (asks_of_reachable h).2.2 f hf
    have hclaims := ((decodeStep_issued rfl hcall).mp hok).1
    rw [hclaims, PassportClaims.replayKey_dump _ hjti] at hkey
    obtain ⟨hid, hexp⟩ := Prod.mk.inj (Except.ok.inj hkey)
    exact ⟨hid.symm, hexp.symm.trans (Clock.seconds_passportLifetime issuedAt)⟩
  have hall : s.finished.filter Finished.accepted
      = s.finished.filter (fun f => f.accepted && f.jti = jti.str) := by
    refine List.filter_congr (fun f hf => ?_)
    simp [(hkey f hf).1]
  rw [hall, (ReplayState.inv_of_reachable h).accepted_once_iff, ReplayState.uses]
  revert hkey
  cases s.finished with
  | nil => simp [Store.Kept]
  | cons first rest =>
    intro hkey
    obtain ⟨hfirst, hrest⟩ := List.forall_mem_cons.mp hkey
    rw [List.map_cons, Store.kept_cons_self hfirst.1, Store.beforeLast_iff_of_keys
      (List.forall_mem_map.mpr fun f hf => (hrest f hf).1), List.forall_mem_map]
    simp [CacheCall.use, cacheUse, hfirst.2]

/-- The Passport for 2^53 on its way to the cache. -/
def amountCacheCall (now : Clock) : CacheCall := ⟨amountToken.claims, lit "j1", 300, now⟩

/-- After one call, at once. -/
def usedOnce : ReplayState :=
  (⟨0, [], [], [], []⟩ : ReplayState).store (amountCacheCall 0) []

/-- A second call decodes in the last microsecond before the expiry and asks the cache in the
next one. -/
def usedTwice : ReplayState :=
  { usedOnce with now := 300000000 }.store (amountCacheCall 300000000) []

section

variable (presents : VerifyCall → Prop)
  (hcall : presents (amountCall amountToken 9007199254740992))

include hcall

theorem reachable_usedOnce : Reachable ReplayState.Init
    (ReplayStep (.ofTable amountDigests) presents) usedOnce := by
  have h0 : Reachable ReplayState.Init (ReplayStep (.ofTable amountDigests) presents)
      ⟨0, [], [], [], []⟩ := .of_init ⟨rfl, rfl, rfl, rfl⟩
  have h1 := h0.tail (.decode _ _ _ hcall (decodeStep_amount canonicalJson_amount.1 (by decide)))
  have h2 := h1.tail (.readClock _ [] [] _ (lit "j1") 300 rfl rfl)
  exact h2.tail (.store _ [] [] _ rfl)

theorem reachable_usedTwice : Reachable ReplayState.Init
    (ReplayStep (.ofTable amountDigests) presents) usedTwice := by
  have h2 := (reachable_usedOnce presents hcall).tail (.tick _ 299999999 (by decide))
  have h3 := h2.tail
    (.decode _ _ _ hcall (decodeStep_amount canonicalJson_amount.1 (by decide)))
  have h4 := h3.tail (.tick _ 300000000 (by decide))
  have h5 := h4.tail (.readClock _ [] [] _ (lit "j1") 300 rfl rfl)
  exact h5.tail (.store _ [] [] _ rfl)

end

/-- The Passport for 2^53, after one call on it. -/
theorem passport_accepted_once_iff_usedOnce :
    (usedOnce.finished.filter Finished.accepted).length ≤ 1 ↔
      ∀ f ∈ usedOnce.finished.tail, Clock.seconds f.now < Clock.seconds 0 + 300 :=
  passport_accepted_once_iff signDecision_amount (by decide) (reachable_usedOnce _ rfl)

/-- Two calls on one Passport return. -/
theorem passport_accepted_twice :
    signDecision (.ofTable amountDigests) pairedKeys 0 (.lit "j1")
        (amountGrant 9007199254740992) = .ok (amountToken, .lit "j1") ∧
      Reachable ReplayState.Init
        (ReplayStep (.ofTable amountDigests) (fun call => call.token = amountToken ∧
          call.payload.json = (amountGrant 9007199254740992).actionablePayload.json)) usedTwice ∧
      (usedTwice.finished.filter Finished.accepted).length = 2 :=
  ⟨signDecision_amount, reachable_usedTwice _ ⟨rfl, rfl⟩, by decide +kernel⟩

end Axg
