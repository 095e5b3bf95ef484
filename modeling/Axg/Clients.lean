/-
# API clients (`axg/auth.py`)

`AXG_CLIENTS` is JSON, and its validator looks at `client_id` and `key_sha256` only.  `frozenset`
takes any iterable, so a string in the place of a list is read as its characters and an object as
its keys: such a client has permissions, `"*"` among them, that no array of its entry lists
(`ceiling_iff`).
-/
import Axg.Decisions

namespace Axg

open Python

/-! ## 1. Configuration -/

/-- Is the entry an object with a `client_id` and a `key_sha256`? -/
def isClient (v : Json) : Bool :=
  match v with
  | .obj members =>
    (members.lookup (lit "client_id")).any Json.truthy &&
      (members.lookup (lit "key_sha256")).any Json.truthy
  | _ => false

/-- The members of an entry. -/
def clientMembers (v : Json) : Dict Json :=
  match v with
  | .obj members => members
  | _ => []

/-- `_load_clients`, for the value of `AXG_CLIENTS`; an `AuthConfigError` is a `ValueError`. -/
def loadClients (raw : Str) : Except PyError (List (Dict Json)) :=
  if strip raw = [] then .ok []
  else
    match loads (strip raw) with
    | .error e => .error (if e = .jsonDecodeError then .valueError else e)
    | .ok (.arr clients) =>
      if clients.all isClient then .ok (clients.map clientMembers) else .error .valueError
    | .ok _ => .error .valueError

/-- Can a value be in a set? -/
def isHashable (v : Json) : Bool :=
  match v with
  | .arr _ => false
  | .obj _ => false
  | _ => true

/-- A value as a text, if it can equal a permission or an app. -/
def asText (v : Json) : Option Text :=
  match v with
  | .str s => if h : IsScalar s then some ⟨s, h⟩ else none
  | _ => none

/-- `frozenset(iterable)`, by its texts. -/
def setOf (iterable : Json) : Except PyError (List Text) :=
  match iterable with
  | .arr elements =>
    if elements.all isHashable then .ok (elements.filterMap asText) else .error .typeError
  | .str s => .ok (s.filterMap (fun c => asText (.str [c])))
  | .obj members => .ok (members.filterMap (fun p => asText (.str p.1)))
  | _ => .error .typeError

/-- `frozenset(value or [])` -/
def frozenset (value : Option Json) : Except PyError (List Text) :=
  match value with
  | none => .ok []
  | some value => if value.truthy then setOf value else .ok []

/-! ## 2. `authenticate` -/

section

variable (py : Interpreter) (sha : Sha256)

/-- `hmac.compare_digest`, of strings. -/
def compareDigest (s t : Str) : Except PyError Bool :=
  if s.all (fun c => c.val < 0x80) && t.all (fun c => c.val < 0x80) then .ok (s == t)
  else .error .typeError

/-- The last client that has the key. -/
def matchClient (presented : Str) : List (Dict Json) → Option (Dict Json) →
    Except PyError (Option (Dict Json))
  | [], found => .ok found
  | client :: clients, found => do
    let digest ← pyStr py ((client.lookup (lit "key_sha256")).getD .null)
    let equal ← compareDigest presented (py.lower digest)
    matchClient presented clients (if equal then some client else found)

/-- The caller of a client. -/
def callerOf (client : Dict Json) : Except PyError Caller := do
  let clientId ← pyStr py ((client.lookup (lit "client_id")).getD .null)
  let appIds ← frozenset (client.lookup (lit "app_ids"))
  let permissions ← frozenset (client.lookup (lit "permissions"))
  -- a client whose name is no text cannot be put into a Passport
  if h : IsScalar clientId then return ⟨⟨clientId, h⟩, true, appIds, some permissions⟩
  else throw .unicodeEncodeError

/-- The client that an API key belongs to. -/
def matchedClient (raw apiKey : Str) : Except PyError (Option (Dict Json)) := do
  let key ← encodeUtf8 apiKey
  let clients ← loadClients raw
  matchClient py (sha.hexdigest key) clients none

/-- `authenticate`, for the value of `AXG_CLIENTS`. -/
def authenticate (raw apiKey : Str) : Except PyError (Option Caller) := do
  let found ← matchedClient py sha raw apiKey
  match found with
  | none => return none
  | some client => return some (← callerOf py client)

end

/-! ## 3. What a set is made of -/

theorem asText_eq_some {v : Json} {t : Text} : asText v = some t ↔ v = .str t.str := by
  unfold asText
  cases v with
  | str s =>
    simp only [Json.str.injEq]
    by_cases hs : IsScalar s
    · rw [dif_pos hs, Option.some.injEq, Text.ext_iff]
    · rw [dif_neg hs]
      refine iff_of_false (by simp) ?_
      rintro rfl
      exact hs t.isScalar
  | _ => simp

/-- The setting is an array and has the element: what an operator means by a list of permissions,
whatever else Python can iterate over. -/
def Lists (value : Option Json) (t : Text) : Prop :=
  ∃ elements, value = some (.arr elements) ∧ Json.str t.str ∈ elements

/-- A string or an object that some text is read from is no ceiling. -/
def isCeiling (value : Option Json) : Bool :=
  match value with
  | some (.str s) => s.all isSurrogate
  | some (.obj members) => members.all (fun p => p.1.any isSurrogate)
  | _ => true

theorem setOf_of_lists {value : Json} {texts : List Text} (h : setOf value = .ok texts) {t : Text}
    (ht : Lists (some value) t) : t ∈ texts := by
  obtain ⟨elements, hv, hmem⟩ := ht
  cases Option.some.inj hv
  rw [setOf] at h
  split at h
  · cases h; exact List.mem_filterMap.mpr ⟨_, hmem, asText_eq_some.mpr rfl⟩
  · cases h

theorem setOf_isCeiling_iff {value : Json} {texts : List Text} (h : setOf value = .ok texts) :
    isCeiling (some value) = true ↔ ∀ t ∈ texts, Lists (some value) t := by
  cases value with
  | arr elements =>
    refine iff_of_true rfl (fun t ht => ⟨elements, rfl, ?_⟩)
    rw [setOf] at h
    split at h
    · cases h
      obtain ⟨v, hv, hvt⟩ := List.mem_filterMap.mp ht
      rwa [asText_eq_some.mp hvt] at hv
    · cases h
  -- a string gives its characters, and an array has none of them; halves of pairs are no text
  | str s =>
    cases h
    have hnot : ∀ t, ¬ Lists (some (.str s)) t := by rintro t ⟨_, hv, -⟩; cases hv
    simp only [isCeiling, hnot, List.all_eq_true, List.mem_filterMap, asText_eq_some,
      Json.str.injEq]
    constructor
    · rintro hall t ⟨c, hc, ht⟩
      have := t.isScalar c (by simp [← ht])
      rw [hall c hc] at this
      cases this
    · intro hnone c hc
      by_contra hs
      refine hnone ⟨[c], fun d hd => ?_⟩ ⟨c, hc, rfl⟩
      rw [List.mem_singleton.mp hd]
      simpa using hs
  | obj members =>
    cases h
    have hnot : ∀ t, ¬ Lists (some (.obj members)) t := by rintro t ⟨_, hv, -⟩; cases hv
    simp only [isCeiling, hnot, List.all_eq_true, List.any_eq_true, List.mem_filterMap,
      asText_eq_some, Json.str.injEq]
    constructor
    · rintro hall t ⟨p, hp, ht⟩
      obtain ⟨c, hc, hs⟩ := hall p hp
      have := t.isScalar c (ht ▸ hc)
      rw [hs] at this
      cases this
    · intro hnone p hp
      by_contra hs
      push Not at hs
      exact hnone ⟨p.1, fun c hc => by simpa using hs c hc⟩ ⟨p, hp, rfl⟩
  | _ => cases h

theorem not_lists_of_falsy {value : Json} (h : value.truthy = false) (t : Text) :
    ¬ Lists (some value) t := by
  rintro ⟨elements, hv, hmem⟩
  cases Option.some.inj hv
  cases elements with
  | nil => cases hmem
  | cons v vs => cases h

theorem isCeiling_of_falsy {value : Json} (h : value.truthy = false) :
    isCeiling (some value) = true := by
  cases value with
  | str s =>
    have hs : s = [] := by simpa [Json.truthy] using h
    rw [hs]; rfl
  | obj members =>
    have hm : members = [] := by simpa [Json.truthy] using h
    rw [hm]; rfl
  | _ => rfl

theorem mem_frozenset_of_lists {value : Option Json} {texts : List Text}
    (h : frozenset value = .ok texts) {t : Text} (ht : Lists value t) : t ∈ texts := by
  obtain ⟨elements, rfl, -⟩ := id ht
  rw [frozenset] at h
  split at h
  · exact setOf_of_lists h ht
  · rename_i hv
    exact absurd ht (not_lists_of_falsy (by simpa using hv) t)

/-- A ceiling is where every text of the set is an element of an array. -/
theorem isCeiling_iff {value : Option Json} {texts : List Text}
    (h : frozenset value = .ok texts) :
    isCeiling value = true ↔ ∀ t ∈ texts, Lists value t := by
  cases value with
  | none => cases h; simp [isCeiling]
  | some v =>
    rw [frozenset] at h
    split at h
    · exact setOf_isCeiling_iff h
    · rename_i hv
      cases h
      simp [isCeiling_of_falsy (by simpa using hv)]

/-- The same with the wildcard, which stands for every text. -/
theorem isCeiling_iff_wildcard {value : Option Json} {texts : List Text}
    (h : frozenset value = .ok texts) :
    isCeiling value = true ↔ ∀ t, (wildcard ∈ texts ∨ t ∈ texts) →
      Lists value wildcard ∨ Lists value t := by
  rw [isCeiling_iff h]
  constructor
  · rintro hall t (hw | ht)
    · exact .inl (hall _ hw)
    · exact .inr (hall _ ht)
  · intro hall t ht
    by_cases hw : wildcard ∈ texts
    · have hlist : Lists value wildcard := by simpa using hall wildcard (.inl hw)
      -- the value is an array, and then every text of the set is an element of it
      obtain ⟨elements, hv, -⟩ := hlist
      exact (isCeiling_iff h).mp (by rw [hv]; rfl) t ht
    · rcases hall t (.inr ht) with hl | hl
      · exact absurd (mem_frozenset_of_lists h hl) hw
      · exact hl

/-! ## 4. The ceiling -/

theorem callerOf_eq_ok {py : Interpreter} {client : Dict Json} {caller : Caller}
    (h : callerOf py client = .ok caller) :
    frozenset (client.lookup (lit "app_ids")) = .ok caller.appIds ∧
      ∃ permissions, frozenset (client.lookup (lit "permissions")) = .ok permissions ∧
        caller.permissions = some permissions := by
  obtain ⟨clientId, -, h⟩ := bind_eq_ok h
  obtain ⟨appIds, ha, h⟩ := bind_eq_ok h
  obtain ⟨permissions, hp, h⟩ := bind_eq_ok h
  split at h
  · cases h; exact ⟨ha, permissions, hp, rfl⟩
  · cases h

theorem authenticate_eq_ok {py : Interpreter} {sha : Sha256} {raw apiKey : Str}
    {client : Dict Json} {caller : Caller}
    (hclient : matchedClient py sha raw apiKey = .ok (some client))
    (h : authenticate py sha raw apiKey = .ok (some caller)) : callerOf py client = .ok caller := by
  rw [authenticate, hclient, ok_bind] at h
  obtain ⟨found, hc, h⟩ := bind_eq_ok h
  cases h
  exact hc

/-- A request for an action, by an agent with a permission. -/
def permissionRequest (permission : Text) : DecisionRequest :=
  { payRequest with agent := some ⟨.lit "a", .lit "agent", [permission]⟩ }

/-- A policy with a permission required for the action. -/
def permissionPolicy (permission : Text) : Plugin :=
  { payPolicy with
    actions := [(lit "pay", { ActionPolicy.default with requiredPermissions := [permission] })] }

/-- What the engine lets through is what the caller may grant. -/
theorem permissions_pass_iff {caller : Caller} {P : Text → Prop} :
    (∀ plugin request, permissionDecision plugin request caller = none →
        ∀ policy ∈ plugin.action request.actionType, ∀ p ∈ policy.requiredPermissions, P p) ↔
      ∀ p, caller.mayGrant p = true → P p := by
  constructor
  · intro hall p hp
    refine hall (permissionPolicy p) (permissionRequest p) ?_ _ rfl p (by simp)
    rw [permissionDecision_eq_none_iff]
    rintro policy hpolicy q hq
    cases Option.some.inj hpolicy
    cases List.mem_singleton.mp hq
    exact ⟨_, rfl, List.mem_singleton.mpr rfl, hp⟩
  · intro hall plugin request hnone policy hpolicy p hp
    obtain ⟨agent, -, -, hgrant⟩ := permissionDecision_eq_none_iff.mp hnone policy hpolicy p hp
    exact hall p hgrant

/-- A caller acts within the arrays of its entry exactly when `permissions` and `app_ids` are no
strings or objects that some text is read from.  `frozenset` takes whatever can be iterated, a
string by its characters and an object by its keys, so `"*"` in place of an array is the
permission for everything. -/
theorem ceiling_iff {py : Interpreter} {sha : Sha256} {raw apiKey : Str} {client : Dict Json}
    {caller : Caller} (hclient : matchedClient py sha raw apiKey = .ok (some client))
    (h : authenticate py sha raw apiKey = .ok (some caller)) :
    ((∀ plugin request, permissionDecision plugin request caller = none →
        ∀ policy ∈ plugin.action request.actionType, ∀ p ∈ policy.requiredPermissions,
          Lists (client.lookup (lit "permissions")) wildcard ∨
            Lists (client.lookup (lit "permissions")) p) ∧
      ∀ app, caller.mayActFor app = true →
        Lists (client.lookup (lit "app_ids")) wildcard ∨
          Lists (client.lookup (lit "app_ids")) app) ↔
      isCeiling (client.lookup (lit "permissions")) = true ∧
        isCeiling (client.lookup (lit "app_ids")) = true := by
  obtain ⟨happs, permissions, hperms, hcaller⟩ := callerOf_eq_ok (authenticate_eq_ok hclient h)
  rw [permissions_pass_iff, isCeiling_iff_wildcard hperms, isCeiling_iff_wildcard happs]
  simp [Caller.mayGrant, Caller.mayActFor, hcaller]

/-! ## 5. A string for a ceiling -/

/-- The key of the client, hashed. -/
def keyDigest : Str := lit "8254c329a92850f6d539dd376f4816ee2764517da5e0235514af433164480d7a"

def keySha : Sha256 := .ofTable ⟨[(lit "k", keyDigest)], by decide, by decide⟩

/-- An entry that gives `*` for its permissions, not `["*"]`. -/
def starClient : Dict Json :=
  [(lit "app_ids", .arr [.str (lit "app")]), (lit "client_id", .str (lit "c")),
    (lit "key_sha256", .str keyDigest), (lit "permissions", .str (lit "*"))]

/-- The configuration of the one client, as text. -/
def starClients : Str := (dumpsDoc (.arr [.obj starClient])).render .plain [0x20]

theorem loads_starClients : loads (strip starClients) = .ok (.arr [.obj starClient]) := by
  have hstrip : strip starClients = starClients := by decide +kernel
  have hdumps : dumps (.arr [.obj starClient]) = .ok starClients := if_pos (by decide +kernel)
  rw [hstrip, loads_dumps (by decide +kernel) hdumps]
  rfl

def starCaller : Caller := ⟨.lit "c", true, [.lit "app"], some [wildcard]⟩

theorem matchedClient_star :
    matchedClient plainInterpreter keySha starClients (lit "k") = .ok (some starClient) := by
  have hne : strip starClients ≠ [] := by decide +kernel
  have hload : loadClients starClients = .ok [starClient] := by
    rw [loadClients, if_neg hne, loads_starClients]
    rfl
  have hkey : encodeUtf8 (lit "k") = .ok (lit "k") := rfl
  rw [matchedClient, hkey, ok_bind, hload, ok_bind]
  rfl

theorem authenticate_star :
    authenticate plainInterpreter keySha starClients (lit "k") = .ok (some starCaller) := by
  rw [authenticate, matchedClient_star]
  rfl

/-- A caller whose entry lists no permission lets its agent pay. -/
theorem ceiling_exceeded :
    matchedClient plainInterpreter keySha starClients (lit "k") =
        .ok (some starClient) ∧
      authenticate plainInterpreter keySha starClients (lit "k") = .ok (some starCaller) ∧
      permissionDecision (permissionPolicy (.lit "pay:write"))
        (permissionRequest (.lit "pay:write")) starCaller = none ∧
      ¬ (Lists (some (.str (lit "*"))) wildcard ∨
        Lists (some (.str (lit "*"))) (.lit "pay:write")) := by
  refine ⟨matchedClient_star, authenticate_star, rfl, ?_⟩
  rintro (⟨_, h, -⟩ | ⟨_, h, -⟩) <;> cases h

theorem ceiling_iff_star :
    ((∀ plugin request, permissionDecision plugin request starCaller = none →
        ∀ policy ∈ plugin.action request.actionType, ∀ p ∈ policy.requiredPermissions,
          Lists (some (.str (lit "*"))) wildcard ∨ Lists (some (.str (lit "*"))) p) ∧
      ∀ app, starCaller.mayActFor app = true →
        Lists (some (.arr [.str (lit "app")])) wildcard ∨
          Lists (some (.arr [.str (lit "app")])) app) ↔
      isCeiling (some (.str (lit "*"))) = true ∧
        isCeiling (some (.arr [.str (lit "app")])) = true :=
  ceiling_iff matchedClient_star authenticate_star

end Axg
