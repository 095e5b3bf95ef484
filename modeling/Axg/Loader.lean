/-
# The plugin loader (`axg/plugin_loader.py`)

`load` looks into the cache, waits for the file or the remote document, and then writes the cache
whatever happened meanwhile.  A load is two or three steps here, and edits of policies and
`clear_cache` calls come between them.  The loader is a read-through cache
(`LoaderStep.simulates`), so in a run whose loads do not carry old content over a `clear_cache`,
what is loaded after one has been current since (`loaded_since_clear`).  A load that does writes
the policy of before into the new cache, where it stays (`stale_after_reload`).

Validation of a policy is pydantic's and enters as a function.
-/
import Axg.General.ReadThrough
import Axg.Crypto
import Axg.Python.JsonDumps

namespace Axg

open Python General

/-! ## 1. Reading a policy -/

section

variable (validate : Json → Option Plugin)

/-- `Plugin.model_validate(json.loads(content))`; `none` where it raises. -/
def parsePlugin (content : Str) : Option Plugin :=
  match loads content with
  | .ok data => validate data
  | .error _ => none

/-- What a load makes of what it finds: no file, or no valid policy in it, is an error. -/
def readPlugin (found : Option Str) : Option Plugin := found.bind (parsePlugin validate)

end

/-! ## 2. Loads -/

/-- A load that missed the cache.  `found` is `none` until it has read. -/
structure LoadCall where
  pluginId : Text
  started : Nat
  found : Option (Option Str)

/-- A load that returned. -/
structure Loaded where
  pluginId : Text
  started : Nat
  plugin : Plugin

/-- `contents` are the files and remote documents.  `shown` is their history, with the number of
`clear_cache` calls before each. -/
structure LoaderState where
  contents : Text → Option Str
  cache : Dict Plugin
  clears : Nat
  shown : List (Nat × (Text → Option Str))
  calls : List LoadCall
  loaded : List Loaded

/-- A new loader. -/
def LoaderState.Init (s : LoaderState) : Prop :=
  s.cache = [] ∧ s.clears = 0 ∧ s.shown = [(0, s.contents)] ∧ s.calls = [] ∧ s.loaded = []

/-- The policy was to be read at some moment after the first `n` calls of `clear_cache`. -/
def LoaderState.CurrentSince (validate : Json → Option Plugin) (s : LoaderState) (n : Nat)
    (pluginId : Text) (plugin : Plugin) : Prop :=
  ∃ p ∈ s.shown, n ≤ p.1 ∧ readPlugin validate (p.2 pluginId) = some plugin

/-- One step of `load` and `clear_cache` calls and of edits, with the writes to the cache that
`stores` allows. -/
inductive LoaderStep (validate : Json → Option Plugin)
    (stores : LoaderState → Text → Plugin → Prop) : LoaderState → LoaderState → Prop
  | edit (s : LoaderState) (contents : Text → Option Str) :
    LoaderStep validate stores s
      { s with contents := contents, shown := s.shown ++ [(s.clears, contents)] }
  | clearCache (s : LoaderState) :
    LoaderStep validate stores s
      { s with
        cache := [], clears := s.clears + 1, shown := s.shown ++ [(s.clears + 1, s.contents)] }
  | cached (s : LoaderState) (pluginId : Text) (plugin : Plugin)
      (h : s.cache.lookup pluginId.str = some plugin) :
    LoaderStep validate stores s { s with loaded := s.loaded ++ [⟨pluginId, s.clears, plugin⟩] }
  | start (s : LoaderState) (pluginId : Text) (h : s.cache.lookup pluginId.str = none) :
    LoaderStep validate stores s { s with calls := s.calls ++ [⟨pluginId, s.clears, none⟩] }
  | read (s : LoaderState) (before after : List LoadCall) (call : LoadCall)
      (h : s.calls = before ++ call :: after) :
    LoaderStep validate stores s
      { s with calls := before ++ { call with found := some (s.contents call.pluginId) } :: after }
  | finish (s : LoaderState) (before after : List LoadCall) (call : LoadCall) (found : Option Str)
      (plugin : Plugin) (h : s.calls = before ++ call :: after) (hfound : call.found = some found)
      (hread : readPlugin validate found = some plugin)
      (hstore : stores s call.pluginId plugin) :
    LoaderStep validate stores s
      { s with
        cache := s.cache.set call.pluginId.str plugin
        calls := before ++ after
        loaded := s.loaded ++ [⟨call.pluginId, call.started, plugin⟩] }
  | raise (s : LoaderState) (before after : List LoadCall) (call : LoadCall)
      (h : s.calls = before ++ call :: after) :
    LoaderStep validate stores s { s with calls := before ++ after }

/-- `load` writes the cache unconditionally. -/
def anyStore (_ : LoaderState) (_ : Text) (_ : Plugin) : Prop := True

/-- What a load writes has been current since the last `clear_cache`.  It is the condition under
which the cache keeps what a reload is for. -/
def freshStore (validate : Json → Option Plugin) (s : LoaderState) (pluginId : Text)
    (plugin : Plugin) : Prop :=
  s.CurrentSince validate s.clears pluginId plugin

/-! ## 3. The loader as a read-through cache -/

section

variable {validate : Json → Option Plugin}

def LoadCall.abs (validate : Json → Option Plugin) (call : LoadCall) :
    ReadThrough.Call Text Plugin :=
  ⟨call.pluginId, call.started, call.found.map (readPlugin validate)⟩

def Loaded.abs (l : Loaded) : ReadThrough.Returned Text Plugin := ⟨l.pluginId, l.started, l.plugin⟩

/-- The policies in place of their texts, and the cache as a function. -/
def LoaderState.abs (validate : Json → Option Plugin) (s : LoaderState) :
    ReadThrough.State Text Plugin where
  source id := readPlugin validate (s.contents id)
  cache id := s.cache.lookup id.str
  clears := s.clears
  shown := s.shown.map (fun p => (p.1, fun id => readPlugin validate (p.2 id)))
  calls := s.calls.map (LoadCall.abs validate)
  returned := s.loaded.map Loaded.abs

theorem LoaderState.shownSince_abs {s : LoaderState} {n : Nat} {pluginId : Text}
    {plugin : Plugin} :
    (s.abs validate).ShownSince n pluginId plugin ↔
      s.CurrentSince validate n pluginId plugin := by
  simp [ReadThrough.State.ShownSince, CurrentSince, abs]

theorem LoaderState.Init.abs {s : LoaderState} (h : s.Init) : (s.abs validate).Init := by
  obtain ⟨hcache, hclears, hshown, hcalls, hloaded⟩ := h
  refine ⟨?_, hclears, ?_, ?_, ?_⟩
  · funext id; simp [LoaderState.abs, hcache]
  · simp [LoaderState.abs, hshown]
  · simp [LoaderState.abs, hcalls]
  · simp [LoaderState.abs, hloaded]

variable {stores : LoaderState → Text → Plugin → Prop}
  {stores' : ReadThrough.State Text Plugin → Text → Plugin → Prop}

/-- Each step of the loader is a step of the read-through cache. -/
theorem LoaderStep.simulates
    (hstores : ∀ s id plugin, stores s id plugin → stores' (s.abs validate) id plugin)
    {s t : LoaderState} (h : LoaderStep validate stores s t) :
    ReadThrough.Step stores' (s.abs validate) (t.abs validate) := by
  have hcalls : ∀ {before after : List LoadCall} {call : LoadCall},
      s.calls = before ++ call :: after → (s.abs validate).calls =
        before.map (LoadCall.abs validate) ++ call.abs validate ::
          after.map (LoadCall.abs validate) := by
    intro before after call hs
    simp [LoaderState.abs, hs]
  cases h with
  | edit contents =>
    have hstep : ReadThrough.Step stores' (s.abs validate) _ :=
      .edit _ (fun id => readPlugin validate (contents id))
    simpa [LoaderState.abs] using hstep
  | clearCache =>
    have hstep : ReadThrough.Step stores' (s.abs validate) _ := .clear _
    simpa [LoaderState.abs] using hstep
  | cached pluginId plugin hhit =>
    have hstep : ReadThrough.Step stores' (s.abs validate) _ := .hit _ pluginId plugin hhit
    simpa [LoaderState.abs, Loaded.abs] using hstep
  | start pluginId hmiss =>
    have hstep : ReadThrough.Step stores' (s.abs validate) _ := .miss _ pluginId hmiss
    simpa [LoaderState.abs, LoadCall.abs] using hstep
  | read before after call hs =>
    have hstep : ReadThrough.Step stores' (s.abs validate) _ := .read _ _ _ _ (hcalls hs)
    simpa [LoaderState.abs, LoadCall.abs] using hstep
  | finish before after call found plugin hs hfound hread hstore =>
    have hc : (call.abs validate).read = some (some plugin) := by
      simp [LoadCall.abs, hfound, hread]
    have hstep : ReadThrough.Step stores' (s.abs validate) _ :=
      .store _ _ _ _ plugin (hcalls hs) hc (hstores s _ _ hstore)
    -- the dictionary updates by text, the cache by id: an id is its text
    have hcache : Function.update (s.abs validate).cache (call.abs validate).key (some plugin) =
        fun id => (s.cache.set call.pluginId.str plugin).lookup id.str := by
      funext id
      rw [Dict.lookup_set, Function.update_apply]
      exact if_congr Text.ext_iff rfl rfl
    rw [hcache] at hstep
    simpa [LoaderState.abs, LoadCall.abs, Loaded.abs] using hstep
  | raise before after call hs =>
    have hstep : ReadThrough.Step stores' (s.abs validate) _ := .fail _ _ _ _ (hcalls hs)
    simpa [LoaderState.abs] using hstep

/-- What was loaded stays in the history. -/
theorem LoaderStep.loaded_subset {s t : LoaderState} (h : LoaderStep validate stores s t) :
    s.loaded ⊆ t.loaded := by
  cases h with
  | cached pluginId plugin hhit => exact List.subset_append_left _ _
  | finish before after call found plugin hs hfound hread hstore =>
    exact List.subset_append_left _ _
  | _ => exact List.Subset.refl _

/-- Each load yields a policy that was current at some moment. -/
theorem loaded_current {s : LoaderState}
    (h : Reachable LoaderState.Init (LoaderStep validate stores) s) :
    ∀ l ∈ s.loaded, s.CurrentSince validate 0 l.pluginId l.plugin := by
  have hany : ∀ s id plugin, stores s id plugin →
      ReadThrough.AnyStore (s.abs validate) id plugin := fun _ _ _ _ => trivial
  have habs := h.simulated (LoaderState.abs validate) (fun _ => LoaderState.Init.abs)
    (fun _ _ => LoaderStep.simulates hany)
  intro l hl
  exact LoaderState.shownSince_abs.mp
    (ReadThrough.shown_of_reachable habs l.abs (List.mem_map_of_mem hl))

/-- In a run in which no load carries content over a `clear_cache` that has not been current
since, each load yields a policy that was current after the `clear_cache` calls before it.  The
loader is a cache that reads through, whose stores may come late; the condition is on the stores,
and what it keeps is that an entry of the cache was current after the last clear. -/
theorem loaded_since_clear {s : LoaderState}
    (h : Reachable LoaderState.Init (LoaderStep validate (freshStore validate)) s) :
    ∀ l ∈ s.loaded, s.CurrentSince validate l.started l.pluginId l.plugin := by
  have hfresh : ∀ s id plugin, freshStore validate s id plugin →
      ReadThrough.FreshStore (s.abs validate) id plugin :=
    fun _ _ _ => LoaderState.shownSince_abs.mpr
  have habs := h.simulated (LoaderState.abs validate) (fun _ => LoaderState.Init.abs)
    (fun _ _ => LoaderStep.simulates hfresh)
  intro l hl
  exact LoaderState.shownSince_abs.mp
    (ReadThrough.shownSince_of_reachable habs l.abs (List.mem_map_of_mem hl))

end

/-! ## 4. A policy of before the reload -/

/-- The approver role of a policy document. -/
def documentRole (members : Dict Json) : Text :=
  match members.lookup (lit "approval") with
  | some (.obj approval) =>
    (textField approval "default_role").getD ApprovalPolicy.default.defaultRole
  | _ => ApprovalPolicy.default.defaultRole

/-- A policy of which only the name, the version and the approver role are given. -/
def namedPolicy (plugin version role : Text) : Plugin :=
  { Plugin.default plugin version with
    approval := { ApprovalPolicy.default with defaultRole := role } }

/-- Validation, for documents with a name, a version, a domain and an approver role alone. -/
def validateNamed (v : Json) : Option Plugin :=
  match v with
  | .obj members => do
    let plugin ← textField members "plugin"
    let version ← textField members "version"
    let _ ← textField members "domain"
    return namedPolicy plugin version (documentRole members)
  | _ => none

/-- The members of the document of the policy `p`. -/
def policyMembers (version role : Text) : Dict Json :=
  [(lit "approval", .obj [(lit "default_role", .str role)]), (lit "domain", .str (lit "d")),
    (lit "plugin", .str (lit "p")), (lit "version", .str version)]

def policyText (version role : Text) : Str :=
  (dumpsDoc (.obj (policyMembers version role))).render .plain [0x20]

theorem documentRole_policyMembers (version role : Text) :
    documentRole (policyMembers version role) = role := by
  have hlookup : (policyMembers version role).lookup (lit "approval") =
      some (.obj [(lit "default_role", .str role)]) := rfl
  have hrole : textField [(lit "default_role", Json.str role)] "default_role" = some role :=
    textField_of_lookup rfl
  rw [documentRole, hlookup]
  simp only [hrole, Option.getD_some]

theorem validateNamed_policyMembers (version role : Text) :
    validateNamed (.obj (policyMembers version role)) =
      some (namedPolicy (.lit "p") version role) := by
  have hplugin : textField (policyMembers version role) "plugin" = some (.lit "p") :=
    textField_of_lookup (t := .lit "p") rfl
  have hversion : textField (policyMembers version role) "version" = some version :=
    textField_of_lookup rfl
  have hdomain : textField (policyMembers version role) "domain" = some (.lit "d") :=
    textField_of_lookup (t := .lit "d") rfl
  simp only [validateNamed, hplugin, hversion, hdomain, documentRole_policyMembers,
    Option.bind_eq_bind, Option.bind_some]
  rfl

theorem parsePlugin_policyText (version role : Text) :
    parsePlugin validateNamed (policyText version role) =
      some (namedPolicy (.lit "p") version role) := by
  have hdumps : dumps (.obj (policyMembers version role)) = .ok (policyText version role) :=
    if_pos rfl
  have hwf : (Json.obj (policyMembers version role)).Wf := by
    have hkeys : [lit "approval", lit "domain", lit "plugin", lit "version"].Nodup := by decide
    refine Json.wf_obj.mpr ⟨hkeys, fun p hp => ?_⟩
    simp only [policyMembers, List.mem_cons, List.not_mem_nil, or_false] at hp
    rcases hp with rfl | rfl | rfl | rfl <;> rfl
  have hsort : (Json.obj (policyMembers version role)).sortKeys =
      .obj (policyMembers version role) := rfl
  rw [parsePlugin, loads_dumps hwf hdumps, hsort]
  exact validateNamed_policyMembers version role

/-- The file of the policy `p`, with a version and a role, and no other file. -/
def filesAt (version role : Text) : Text → Option Str :=
  fun id => if id = .lit "p" then some (policyText version role) else none

theorem readPlugin_filesAt (version role : Text) :
    readPlugin validateNamed (filesAt version role (.lit "p")) =
      some (namedPolicy (.lit "p") version role) := by
  rw [filesAt, if_pos rfl, readPlugin, Option.bind_some, parsePlugin_policyText]

theorem eq_of_readPlugin_filesAt {version role id : Text} {plugin : Plugin}
    (h : readPlugin validateNamed (filesAt version role id) = some plugin) :
    plugin = namedPolicy (.lit "p") version role := by
  by_cases hid : id = .lit "p"
  · rw [hid, readPlugin_filesAt] at h
    exact (Option.some.inj h).symm
  · rw [filesAt, if_neg hid] at h
    cases h

/-- The loader before any load. -/
def freshLoader (contents : Text → Option Str) : LoaderState where
  contents := contents
  cache := []
  clears := 0
  shown := [(0, contents)]
  calls := []
  loaded := []

/-- Version 1 is loaded, the file is edited and the cache cleared, and the next load yields version
2. -/
theorem loaded_since_clear_once :
    ∃ s, Reachable LoaderState.Init (LoaderStep validateNamed (freshStore validateNamed)) s ∧
      s.clears = 1 ∧ s.loaded.map (fun l => l.plugin.version) = [.lit "1", .lit "2"] ∧
      ∀ l ∈ s.loaded, s.CurrentSince validateNamed l.started l.pluginId l.plugin := by
  have hold := readPlugin_filesAt (.lit "1") (.lit "end_user")
  have hnew := readPlugin_filesAt (.lit "2") (.lit "end_user")
  have h0 : Reachable LoaderState.Init (LoaderStep validateNamed (freshStore validateNamed))
      (freshLoader (filesAt (.lit "1") (.lit "end_user"))) := .of_init ⟨rfl, rfl, rfl, rfl, rfl⟩
  have h1 := h0.tail (.start _ (.lit "p") rfl)
  have h2 := h1.tail (.read _ [] [] _ rfl)
  have h3 := h2.tail (.finish _ [] [] _ _ _ rfl rfl hold
    ⟨_, List.mem_cons_self, le_refl _, hold⟩)
  have h4 := h3.tail (.edit _ (filesAt (.lit "2") (.lit "end_user")))
  have h5 := h4.tail (.clearCache _)
  have h6 := h5.tail (.start _ (.lit "p") rfl)
  have h7 := h6.tail (.read _ [] [] _ rfl)
  -- what is stored is in the file since the clear
  have h8 := h7.tail (.finish _ [] [] _ _ _ rfl rfl hnew
    ⟨_, List.mem_append_right _ List.mem_cons_self, le_refl _, hnew⟩)
  exact ⟨_, h8, rfl, rfl, loaded_since_clear h8⟩

/-- A load reads version 1, the file is edited, the cache cleared, the load finishes, and the next
load yields version 1, which has not been current since the reload. -/
theorem stale_after_reload :
    ∃ s, Reachable LoaderState.Init (LoaderStep validateNamed anyStore) s ∧
      ∃ l ∈ s.loaded, ¬ s.CurrentSince validateNamed l.started l.pluginId l.plugin := by
  have hold := readPlugin_filesAt (.lit "1") (.lit "end_user")
  have hnew := readPlugin_filesAt (.lit "2") (.lit "end_user")
  have h0 : Reachable LoaderState.Init (LoaderStep validateNamed anyStore)
      (freshLoader (filesAt (.lit "1") (.lit "end_user"))) := .of_init ⟨rfl, rfl, rfl, rfl, rfl⟩
  have h1 := h0.tail (.start _ (.lit "p") rfl)
  have h2 := h1.tail (.read _ [] [] _ rfl)
  have h3 := h2.tail (.edit _ (filesAt (.lit "2") (.lit "end_user")))
  have h4 := h3.tail (.clearCache _)
  have h5 := h4.tail (.finish _ [] [] _ _ _ rfl rfl hold trivial)
  have h6 := h5.tail (.cached _ (.lit "p") _ rfl)
  refine ⟨_, h6, ⟨.lit "p", 1, namedPolicy (.lit "p") (.lit "1") (.lit "end_user")⟩,
    List.mem_cons_of_mem _ (.head _), ?_⟩
  rintro ⟨q, hq, hn, hread⟩
  have hq : q = (0, filesAt (.lit "1") (.lit "end_user")) ∨
      q = (0, filesAt (.lit "2") (.lit "end_user")) ∨
      q = (1, filesAt (.lit "2") (.lit "end_user")) := by simpa [freshLoader] using hq
  rcases hq with rfl | rfl | rfl
  · exact absurd hn (by decide)
  · exact absurd hn (by decide)
  · have hversion := congrArg Plugin.version (Option.some.inj (hread.symm.trans hnew))
    exact absurd hversion (by decide)

end Axg
