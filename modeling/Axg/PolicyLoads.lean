/-
# Loading a policy, with every way it can end (`axg/plugin_loader.py`)

`load` turns the exceptions that it names into `PluginLoadError`, and `decide` answers that one with
a `CONFIRM`.  Others leave both: a file or a response that is not UTF-8, an integer with more digits
than `int` takes, a URL whose port is a number only to the parse that stripped it, and whatever else
`httpx` raises than its `HTTPError`.

`load_ok_iff` and `load_escapes_iff` say from the file, the URL and the responses when a policy is
loaded and when an exception escapes; `load_failsSafe_iff` puts them together.

`httpx` and pydantic enter as functions.
-/
import Axg.Decisions
import Axg.Remote

namespace Axg

open Python

/-! ## 1. Files and responses -/

/-- `rules.json` of a plugin. -/
inductive PolicyFile
  | missing
  /-- An `OSError`, when it is opened or read. -/
  | unreadable
  | content (bytes : ByteArray)

/-- The text of a file that is opened as UTF-8.  A `UnicodeDecodeError` is a `ValueError`. -/
def decodeUtf8 (bytes : ByteArray) : Except PyError Str :=
  match String.fromUTF8? bytes with
  | some text => .ok (universalNewlines (text.toList.map CodePoint.ofChar))
  | none => .error .valueError

/-- What `client.get` comes to. -/
inductive Exchange
  /-- `httpx.ConnectError` and `httpx.ConnectTimeout`. -/
  | unreachable
  /-- Any other `httpx.HTTPError`. -/
  | httpError
  /-- Any other exception, such as `httpx.InvalidURL`. -/
  | raised
  | response (status : Nat) (body : ByteArray)

def isPluginIdStart (c : CodePoint) : Bool :=
  (0x61 ≤ c.val && c.val ≤ 0x7A) || (0x30 ≤ c.val && c.val ≤ 0x39)

/-- `_PLUGIN_ID.fullmatch(plugin_id)` -/
def isPluginId (pluginId : Str) : Bool :=
  match pluginId with
  | [] => false
  | c :: rest => isPluginIdStart c &&
      rest.all (fun d => isPluginIdStart d || d = 0x5F || d = 0x2D) && rest.length ≤ 63

/-- Where policies come from: validation (`Plugin.model_validate`, `none` where it raises),
`response.json()`, the files, and the settings of remote policies. -/
structure PolicySource where
  validate : Json → Option Plugin
  responseJson : ByteArray → Except PyError Json
  files : Str → PolicyFile
  urls : UrlService
  ips : IpService
  resolve : Str → Option (List IPv4)
  exchange : IPv4 → Exchange
  remoteEnabled : Bool
  allowlist : Str

namespace PolicySource

variable (source : PolicySource)

/-- `_load_local`.  `JSONDecodeError`, `ValidationError` and `OSError` are handled. -/
def loadLocal (pluginId : Str) : Except LoadError Plugin :=
  if isPluginId pluginId = false then .error .localPlugin
  else
    match source.files pluginId with
    | .missing => .error .localPlugin
    | .unreadable => .error .localPlugin
    | .content bytes =>
      match decodeUtf8 bytes >>= loads with
      | .error .jsonDecodeError => .error .localPlugin
      | .error _ => .error .valueError
      | .ok data =>
        match source.validate data with
        | none => .error .localPlugin
        | some plugin => .ok plugin

/-- What the exchange with an address comes to: `raise_for_status`, `response.json()` and
validation.  `HTTPError`, `JSONDecodeError` and `ValidationError` are handled. -/
def attempt (ip : IPv4) : Attempt :=
  match source.exchange ip with
  | .unreachable => .unreachable
  | .httpError => .httpError
  | .raised => .escaped
  | .response status body =>
    if status < 200 ∨ 300 ≤ status then .httpError
    else
      match source.responseJson body with
      | .error .jsonDecodeError => .answered none
      | .error _ => .escaped
      | .ok data => .answered (source.validate data)

/-- `load`: what it returns or raises, and the cache after it. -/
def loadPolicy (cache : Dict Plugin) (pluginId : Str) : Except LoadError Plugin × Dict Plugin :=
  let result := (load source.urls source.ips source.resolve source.attempt source.allowlist
    (cache.lookup pluginId) source.remoteEnabled source.loadLocal pluginId).result
  match cache.lookup pluginId, result with
  | none, .ok plugin => (result, cache.set pluginId plugin)
  | _, _ => (result, cache)

end PolicySource

/-! ## 2. What a load comes to -/

/-- A server was reached. -/
def Attempt.reached : Attempt → Bool
  | .unreachable => false
  | _ => true

/-- The first address that is reached decides. -/
theorem tryAddresses_result (connect : IPv4 → Attempt) (request : IPv4 → HttpRequest)
    (addresses : List IPv4) : (tryAddresses connect request addresses).result =
      match (addresses.find? (fun ip => (connect ip).reached)).map connect with
      | some (.answered (some plugin)) => .ok plugin
      | some (.answered none) => .error .invalidPolicy
      | some .escaped => .error .valueError
      | _ => .error .fetchFailed := by
  induction addresses with
  | nil => rfl
  | cons ip rest ih =>
    rw [tryAddresses]
    cases hip : connect ip with
    | unreachable => simp [hip, ih, Attempt.reached]
    | httpError => simp [hip, Attempt.reached]
    | escaped => simp [hip, Attempt.reached]
    | answered plugin => cases plugin <;> simp [hip, Attempt.reached]

namespace PolicySource

variable (source : PolicySource)

/-- The first address that is reached. -/
def server (addresses : List IPv4) : Option IPv4 :=
  addresses.find? (fun ip => (source.attempt ip).reached)

/-- The file that is read for an id. -/
structure Reads (pluginId : Str) (bytes : ByteArray) : Prop where
  isLocal : isRemote pluginId = false
  valid : isPluginId pluginId = true
  file : source.files pluginId = .content bytes

/-- The URL may be fetched. -/
structure Permits (url : Str) : Prop where
  isRemote : isRemote url = true
  enabled : source.remoteEnabled = true
  allowed : isAllowlisted source.urls source.allowlist url = true

/-- The URL is fetched from these addresses, if its port can be read. -/
structure Resolves (url : Str) (parsed : ParseResult) (addresses : List IPv4) : Prop where
  permits : source.Permits url
  parses : source.urls.urlparse url = some parsed
  https : parsed.scheme = lit "https"
  host : ∃ host, source.urls.hostname parsed.netloc = some host ∧ host ≠ [] ∧
    safeIps source.ips (source.resolve host) = some addresses

/-- A server answers with a success. -/
def Answers (ip : IPv4) (body : ByteArray) : Prop :=
  ∃ status, source.exchange ip = .response status body ∧ 200 ≤ status ∧ status < 300

/-- There is a valid policy, in the file or at the URL.  It says nothing of how the code gets
there, so that it can be compared with what `load` returns. -/
inductive Offers (pluginId : Str) (plugin : Plugin) : Prop
  | file {bytes : ByteArray} {data : Json} (hreads : source.Reads pluginId bytes)
      (hdata : decodeUtf8 bytes >>= loads = .ok data) (hvalid : source.validate data = some plugin)
  | url {parsed : ParseResult} {addresses : List IPv4} {port : Option Nat} {ip : IPv4}
      {body : ByteArray} {data : Json} (hresolves : source.Resolves pluginId parsed addresses)
      (hport : source.urls.port parsed.netloc = some port)
      (hserver : source.server addresses = some ip) (hanswers : source.Answers ip body)
      (hdata : source.responseJson body = .ok data) (hvalid : source.validate data = some plugin)

/-- An exception escapes.  One constructor for each place of `_load_local` and `_load_remote`
that raises what the handler after it does not name. -/
inductive Escapes (pluginId : Str) : Prop
  /-- The file is not UTF-8, or has an integer that is too long. -/
  | file {bytes : ByteArray} {e : PyError} (hreads : source.Reads pluginId bytes)
      (herror : decodeUtf8 bytes >>= loads = .error e) (hne : e ≠ .jsonDecodeError)
  /-- The URL cannot be parsed with the space around it. -/
  | parse (hpermits : source.Permits pluginId) (hparse : source.urls.urlparse pluginId = none)
  /-- Its port cannot be read so. -/
  | port {parsed : ParseResult} {addresses : List IPv4}
      (hresolves : source.Resolves pluginId parsed addresses)
      (hport : source.urls.port parsed.netloc = none)
  /-- `client.get` raises something else than an `HTTPError`. -/
  | get {parsed : ParseResult} {addresses : List IPv4} {port : Option Nat} {ip : IPv4}
      (hresolves : source.Resolves pluginId parsed addresses)
      (hport : source.urls.port parsed.netloc = some port)
      (hserver : source.server addresses = some ip) (hraised : source.exchange ip = .raised)
  /-- `response.json()` raises something else than a `JSONDecodeError`. -/
  | body {parsed : ParseResult} {addresses : List IPv4} {port : Option Nat} {ip : IPv4}
      {body : ByteArray} {e : PyError} (hresolves : source.Resolves pluginId parsed addresses)
      (hport : source.urls.port parsed.netloc = some port)
      (hserver : source.server addresses = some ip) (hanswers : source.Answers ip body)
      (herror : source.responseJson body = .error e) (hne : e ≠ .jsonDecodeError)

variable {source} {pluginId : Str} {plugin : Plugin}

theorem loadLocal_ok_iff : source.loadLocal pluginId = .ok plugin ↔
    isPluginId pluginId = true ∧ ∃ bytes data, source.files pluginId = .content bytes ∧
      decodeUtf8 bytes >>= loads = .ok data ∧ source.validate data = some plugin := by
  unfold loadLocal
  cases isPluginId pluginId with
  | false => simp
  | true =>
    cases source.files pluginId with
    | missing => simp
    | unreadable => simp
    | content bytes =>
      simp only [Bool.true_eq_false, ↓reduceIte, PolicyFile.content.injEq, true_and,
        exists_and_left, exists_eq_left']
      cases hread : decodeUtf8 bytes >>= loads with
      | error e => cases e <;> simp
      | ok data =>
        simp only [Except.ok.injEq, exists_eq_left']
        cases source.validate data <;> simp

theorem loadLocal_escapes_iff : source.loadLocal pluginId = .error .valueError ↔
    isPluginId pluginId = true ∧ ∃ bytes e, source.files pluginId = .content bytes ∧
      decodeUtf8 bytes >>= loads = .error e ∧ e ≠ .jsonDecodeError := by
  unfold loadLocal
  cases isPluginId pluginId with
  | false => simp
  | true =>
    cases source.files pluginId with
    | missing => simp
    | unreadable => simp
    | content bytes =>
      simp only [Bool.true_eq_false, ↓reduceIte, PolicyFile.content.injEq, true_and,
        exists_and_left, exists_eq_left']
      cases hread : decodeUtf8 bytes >>= loads with
      | error e => cases e <;> simp
      | ok data => cases hvalid : source.validate data <;> simp [hvalid]

/-- Without an answer nothing is read. -/
theorem attempt_of_not_answers {ip : IPv4} (h : ∀ body, ¬ source.Answers ip body) :
    (∀ answer, source.attempt ip ≠ .answered answer) ∧
      (source.attempt ip = .escaped → source.exchange ip = .raised) := by
  unfold attempt
  cases hexchange : source.exchange ip with
  | response status body =>
    have hstatus : status < 200 ∨ 300 ≤ status := by
      by_contra hno
      exact h body ⟨status, hexchange, by omega, by omega⟩
    simp [if_pos hstatus]
  | _ => simp

/-- With an answer its body is read. -/
theorem attempt_of_answers {ip : IPv4} {body : ByteArray} (h : source.Answers ip body) :
    source.attempt ip =
      match source.responseJson body with
      | .error .jsonDecodeError => .answered none
      | .error _ => .escaped
      | .ok data => .answered (source.validate data) := by
  obtain ⟨status, hexchange, hle, hlt⟩ := h
  have hstatus : ¬ (status < 200 ∨ 300 ≤ status) := by omega
  simp only [attempt, hexchange, if_neg hstatus]

/-- The address answers with a policy. -/
theorem attempt_ok_iff {ip : IPv4} : source.attempt ip = .answered (some plugin) ↔
    ∃ body data, source.Answers ip body ∧ source.responseJson body = .ok data ∧
      source.validate data = some plugin := by
  constructor
  · intro h
    by_cases hanswers : ∃ body, source.Answers ip body
    · obtain ⟨body, hbody⟩ := hanswers
      rw [attempt_of_answers hbody] at h
      cases hjson : source.responseJson body with
      | error e =>
        rw [hjson] at h
        cases e <;> cases h
      | ok data =>
        rw [hjson] at h
        exact ⟨body, data, hbody, hjson, Attempt.answered.inj h⟩
    · exact absurd h ((attempt_of_not_answers (not_exists.mp hanswers)).1 _)
  · rintro ⟨body, data, hbody, hjson, hvalid⟩
    rw [attempt_of_answers hbody, hjson]
    exact congrArg Attempt.answered hvalid

/-- An exception escapes from the exchange with the address. -/
theorem attempt_escaped_iff {ip : IPv4} : source.attempt ip = .escaped ↔
    source.exchange ip = .raised ∨ ∃ body e, source.Answers ip body ∧
      source.responseJson body = .error e ∧ e ≠ .jsonDecodeError := by
  constructor
  · intro h
    by_cases hanswers : ∃ body, source.Answers ip body
    · obtain ⟨body, hbody⟩ := hanswers
      rw [attempt_of_answers hbody] at h
      cases hjson : source.responseJson body with
      | error e =>
        rw [hjson] at h
        refine .inr ⟨body, e, hbody, hjson, ?_⟩
        rintro rfl
        cases h
      | ok data =>
        rw [hjson] at h
        cases h
    · exact .inl ((attempt_of_not_answers (not_exists.mp hanswers)).2 h)
  · rintro (hraised | ⟨body, e, hbody, hjson, hne⟩)
    · rw [attempt, hraised]
    · rw [attempt_of_answers hbody, hjson]
      cases e <;> first | rfl | exact absurd rfl hne

theorem Resolves.unique {url : Str} {parsed parsed' : ParseResult}
    {addresses addresses' : List IPv4}
    (h : source.Resolves url parsed addresses) (h' : source.Resolves url parsed' addresses') :
    parsed = parsed' ∧ addresses = addresses' := by
  obtain ⟨host, hhost, -, hsafe⟩ := h.host
  obtain ⟨host', hhost', -, hsafe'⟩ := h'.host
  cases h.parses.symm.trans h'.parses
  cases hhost.symm.trans hhost'
  cases hsafe.symm.trans hsafe'
  exact ⟨rfl, rfl⟩

/-- The ends of `_load_remote`. -/
theorem loadRemote_cases {url : Str} (hpermits : source.Permits url) :
    let result := (loadRemote source.urls source.ips source.resolve source.attempt url).result
    (source.urls.urlparse url = none ∧ result = .error .valueError) ∨
      ((∃ e, result = .error e ∧ e ≠ .valueError) ∧ source.urls.urlparse url ≠ none ∧
        ∀ parsed addresses, ¬ source.Resolves url parsed addresses) ∨
      ∃ parsed addresses, source.Resolves url parsed addresses ∧
        ((source.urls.port parsed.netloc = none ∧ result = .error .valueError) ∨
          ∃ port request, source.urls.port parsed.netloc = some port ∧
            result = (tryAddresses source.attempt request addresses).result) := by
  intro result
  cases hparse : source.urls.urlparse url with
  | none => exact .inl ⟨rfl, by simp only [result, loadRemote, hparse, Fetch.none]⟩
  | some parsed =>
    have hrefused : ∀ e, result = .error e → e ≠ .valueError →
        (∀ addresses, ¬ source.Resolves url parsed addresses) →
          (∃ e, result = .error e ∧ e ≠ .valueError) ∧ some parsed ≠ none ∧
            ∀ parsed addresses, ¬ source.Resolves url parsed addresses := by
      intro e he hne hno
      refine ⟨⟨e, he, hne⟩, by simp, fun parsed' addresses hresolves => ?_⟩
      cases hparse.symm.trans hresolves.parses
      exact hno addresses hresolves
    refine .inr ?_
    cases hhost : source.urls.hostname parsed.netloc with
    | none =>
      refine .inl (hrefused .invalidUrl ?_ (by simp) ?_)
      · simp only [result, loadRemote, hparse, hhost, Fetch.none]
      · intro addresses hresolves
        obtain ⟨host, hhost', -⟩ := hresolves.host
        cases hhost.symm.trans hhost'
    | some host =>
      by_cases hne : host = []
      · refine .inl (hrefused .invalidUrl ?_ (by simp) ?_)
        · simp only [result, loadRemote, hparse, hhost, hne, ↓reduceIte, Fetch.none]
        · intro addresses hresolves
          obtain ⟨host', hhost', hne', -⟩ := hresolves.host
          cases hhost.symm.trans hhost'
          exact hne' hne
      by_cases hscheme : parsed.scheme = lit "https"
      · cases hsafe : safeIps source.ips (source.resolve host) with
        | none =>
          refine .inl (hrefused .unsafeHost ?_ (by simp) ?_)
          · simp only [result, loadRemote, hparse, hhost, hne, hscheme, ne_eq, not_true_eq_false,
              ↓reduceIte, hsafe, Fetch.none]
          · intro addresses hresolves
            obtain ⟨host', hhost', -, hsafe'⟩ := hresolves.host
            cases hhost.symm.trans hhost'
            cases hsafe.symm.trans hsafe'
        | some addresses =>
          refine .inr ⟨parsed, addresses,
            ⟨hpermits, hparse, hscheme, host, hhost, hne, hsafe⟩, ?_⟩
          cases hport : source.urls.port parsed.netloc with
          | none =>
            refine .inl ⟨rfl, ?_⟩
            simp only [result, loadRemote, hparse, hhost, hne, hscheme, ne_eq, not_true_eq_false,
              ↓reduceIte, hsafe, hport, Fetch.none]
          | some port =>
            refine .inr ⟨port, pinned parsed host port, rfl, ?_⟩
            simp only [result, loadRemote, hparse, hhost, hne, hscheme, ne_eq, not_true_eq_false,
              ↓reduceIte, hsafe, hport]
      · refine .inl (hrefused .notHttps ?_ (by simp) ?_)
        · simp only [result, loadRemote, hparse, hhost, hne, hscheme, ne_eq, not_false_eq_true,
            ↓reduceIte, Fetch.none]
        · intro addresses hresolves
          exact hscheme hresolves.https

/-- What `load` comes to when the cache does not have the policy. -/
def loaded (source : PolicySource) (pluginId : Str) : Except LoadError Plugin :=
  (load source.urls source.ips source.resolve source.attempt source.allowlist none
    source.remoteEnabled source.loadLocal pluginId).result

theorem loaded_of_local (h : isRemote pluginId = false) :
    source.loaded pluginId = source.loadLocal pluginId := by
  simp only [loaded, load, h, ↓reduceIte, Fetch.none]

theorem loaded_of_permits (h : source.Permits pluginId) : source.loaded pluginId =
    (loadRemote source.urls source.ips source.resolve source.attempt pluginId).result := by
  simp only [loaded, load, h.isRemote, h.enabled, h.allowed, Bool.true_eq_false, ↓reduceIte]

theorem loaded_of_not_permits (h : isRemote pluginId = true) (hno : ¬ source.Permits pluginId) :
    ∃ e, source.loaded pluginId = .error e ∧ e ≠ .valueError := by
  unfold loaded load
  simp only [h, Bool.true_eq_false, ↓reduceIte]
  cases henabled : source.remoteEnabled with
  | false => exact ⟨.remoteDisabled, rfl, by simp⟩
  | true =>
    cases hallowed : isAllowlisted source.urls source.allowlist pluginId with
    | false => exact ⟨.notAllowlisted, rfl, by simp⟩
    | true => exact absurd ⟨h, henabled, hallowed⟩ hno

/-- The server that is reached decides. -/
theorem exchanged_iff (request : IPv4 → HttpRequest) (addresses : List IPv4) :
    (∀ plugin, (tryAddresses source.attempt request addresses).result = .ok plugin ↔
        ∃ ip, source.server addresses = some ip ∧
          source.attempt ip = .answered (some plugin)) ∧
      ((tryAddresses source.attempt request addresses).result = .error .valueError ↔
        ∃ ip, source.server addresses = some ip ∧ source.attempt ip = .escaped) := by
  rw [tryAddresses_result, server]
  cases addresses.find? (fun ip => (source.attempt ip).reached) with
  | none => simp
  | some ip =>
    simp only [Option.map_some, Option.some.injEq, exists_eq_left']
    cases source.attempt ip with
    | answered plugin => cases plugin <;> simp
    | _ => simp

/-- A policy behind a URL is offered by the server at its addresses. -/
theorem Offers.resolves (h : source.Offers pluginId plugin) (hremote : isRemote pluginId = true) :
    ∃ parsed addresses, source.Resolves pluginId parsed addresses ∧
      source.urls.port parsed.netloc ≠ none := by
  cases h with
  | file hreads _ _ => cases hremote.symm.trans hreads.isLocal
  | url hresolves hport _ _ _ _ =>
    exact ⟨_, _, hresolves, fun hnone => by cases hport.symm.trans hnone⟩

/-- A policy is loaded exactly where there is one. -/
theorem loaded_ok_iff : source.loaded pluginId = .ok plugin ↔ source.Offers pluginId plugin := by
  cases hremote : isRemote pluginId with
  | false =>
    rw [loaded_of_local hremote, loadLocal_ok_iff]
    constructor
    · rintro ⟨hvalid, bytes, data, hfile, hdata, hplugin⟩
      exact .file ⟨hremote, hvalid, hfile⟩ hdata hplugin
    · rintro (⟨hreads, hdata, hplugin⟩ | ⟨hresolves, -⟩)
      · exact ⟨hreads.valid, _, _, hreads.file, hdata, hplugin⟩
      · cases hremote.symm.trans hresolves.permits.isRemote
  | true =>
    -- an id is a URL or the name of a directory, so no file offers anything here
    have hidle : ∀ e, (∀ parsed addresses, source.Resolves pluginId parsed addresses →
        source.urls.port parsed.netloc = none) →
          ((.error e : Except LoadError Plugin) = .ok plugin ↔ source.Offers pluginId plugin) := by
      intro e hnone
      refine iff_of_false (by rintro ⟨⟩) fun hoffers => ?_
      obtain ⟨parsed, addresses, hresolves, hport⟩ := hoffers.resolves hremote
      exact hport (hnone parsed addresses hresolves)
    by_cases hpermits : source.Permits pluginId
    · rw [loaded_of_permits hpermits]
      rcases loadRemote_cases hpermits with ⟨hparse, hresult⟩ | ⟨⟨e, hresult, -⟩, -, hno⟩ |
        ⟨parsed, addresses, hresolves, ⟨hport, hresult⟩ | ⟨port, request, hport, hresult⟩⟩
      · rw [hresult]
        refine hidle _ fun parsed addresses hresolves => ?_
        cases hparse.symm.trans hresolves.parses
      · rw [hresult]
        exact hidle _ fun parsed addresses hresolves => absurd hresolves (hno _ _)
      · rw [hresult]
        refine hidle _ fun parsed' addresses' hresolves' => ?_
        obtain ⟨rfl, rfl⟩ := hresolves.unique hresolves'
        exact hport
      · rw [hresult, (exchanged_iff request addresses).1 plugin]
        constructor
        · rintro ⟨ip, hserver, hattempt⟩
          obtain ⟨body, data, hanswers, hdata, hplugin⟩ := attempt_ok_iff.mp hattempt
          exact .url hresolves hport hserver hanswers hdata hplugin
        · rintro (⟨hreads, -⟩ | ⟨hresolves', hport', hserver, hanswers, hdata, hplugin⟩)
          · cases hremote.symm.trans hreads.isLocal
          · obtain ⟨rfl, rfl⟩ := hresolves.unique hresolves'
            exact ⟨_, hserver, attempt_ok_iff.mpr ⟨_, _, hanswers, hdata, hplugin⟩⟩
    · obtain ⟨e, he, -⟩ := loaded_of_not_permits hremote hpermits
      rw [he]
      exact hidle _ fun parsed addresses hresolves => absurd hresolves.permits hpermits

/-- Nothing escapes for a URL that may not be fetched. -/
theorem Escapes.permits (h : source.Escapes pluginId) (hremote : isRemote pluginId = true) :
    source.Permits pluginId := by
  cases h with
  | file hreads _ _ => cases hremote.symm.trans hreads.isLocal
  | parse hpermits _ => exact hpermits
  | port hresolves _ => exact hresolves.permits
  | get hresolves _ _ _ => exact hresolves.permits
  | body hresolves _ _ _ _ _ => exact hresolves.permits

/-- And an exception escapes exactly where one does. -/
theorem loaded_escapes_iff :
    source.loaded pluginId = .error .valueError ↔ source.Escapes pluginId := by
  cases hremote : isRemote pluginId with
  | false =>
    rw [loaded_of_local hremote, loadLocal_escapes_iff]
    constructor
    · rintro ⟨hvalid, bytes, e, hfile, herror, hne⟩
      exact .file ⟨hremote, hvalid, hfile⟩ herror hne
    · intro h
      have hno : ¬ source.Permits pluginId := by
        intro hpermits
        cases hremote.symm.trans hpermits.isRemote
      cases h with
      | file hreads herror hne => exact ⟨hreads.valid, _, _, hreads.file, herror, hne⟩
      | parse hpermits _ => exact absurd hpermits hno
      | port hresolves _ => exact absurd hresolves.permits hno
      | get hresolves _ _ _ => exact absurd hresolves.permits hno
      | body hresolves _ _ _ _ _ => exact absurd hresolves.permits hno
  | true =>
    have hnofile : ∀ bytes, ¬ source.Reads pluginId bytes := by
      intro bytes hreads
      cases hremote.symm.trans hreads.isLocal
    by_cases hpermits : source.Permits pluginId
    · rw [loaded_of_permits hpermits]
      rcases loadRemote_cases hpermits with ⟨hparse, hresult⟩ | ⟨⟨e, hresult, hne⟩, hparse, hno⟩ |
        ⟨parsed, addresses, hresolves, ⟨hport, hresult⟩ | ⟨port, request, hport, hresult⟩⟩
      · rw [hresult]
        exact iff_of_true rfl (.parse hpermits hparse)
      · rw [hresult]
        refine iff_of_false (fun h => hne (Except.error.inj h)) ?_
        intro h
        cases h with
        | file hreads _ _ => exact hnofile _ hreads
        | parse _ hnone => exact hparse hnone
        | port hresolves _ => exact hno _ _ hresolves
        | get hresolves _ _ _ => exact hno _ _ hresolves
        | body hresolves _ _ _ _ _ => exact hno _ _ hresolves
      · rw [hresult]
        exact iff_of_true rfl (.port hresolves hport)
      · rw [hresult, (exchanged_iff request addresses).2]
        constructor
        · rintro ⟨ip, hserver, hattempt⟩
          rcases attempt_escaped_iff.mp hattempt with hraised | ⟨body, e, hanswers, herror, hne⟩
          · exact .get hresolves hport hserver hraised
          · exact .body hresolves hport hserver hanswers herror hne
        · intro h
          cases h with
          | file hreads _ _ => exact absurd hreads (hnofile _)
          | parse _ hnone => cases hnone.symm.trans hresolves.parses
          | port hresolves' hnone =>
            obtain ⟨rfl, rfl⟩ := hresolves.unique hresolves'
            cases hport.symm.trans hnone
          | get hresolves' _ hserver hraised =>
            obtain ⟨rfl, rfl⟩ := hresolves.unique hresolves'
            exact ⟨_, hserver, attempt_escaped_iff.mpr (.inl hraised)⟩
          | body hresolves' _ hserver hanswers herror hne =>
            obtain ⟨rfl, rfl⟩ := hresolves.unique hresolves'
            exact ⟨_, hserver, attempt_escaped_iff.mpr (.inr ⟨_, _, hanswers, herror, hne⟩)⟩
    · obtain ⟨e, he, hne⟩ := loaded_of_not_permits hremote hpermits
      rw [he]
      exact iff_of_false (fun h => hne (Except.error.inj h)) fun h => hpermits (h.permits hremote)

end PolicySource

/-! ## 3. Failing safe -/

section FailSafe

variable (source : PolicySource) (text : LoadError → Text) (request : DecisionRequest)
  (py : Interpreter) (sha : Sha256) (keys : KeyManager) (caller : Caller) (now : Clock)
  (uuid : Text) (verified : Except PyError VerifiedContext) (cache : Dict Plugin)

/-- `decide` on what `load` returned or raised.  Only `PluginLoadError` is handled; `text` is what
it says. -/
def decideLoaded (result : Except LoadError Plugin) : Except PyError DecisionResponse :=
  match result with
  | .ok plugin => decide request py sha keys caller now uuid (.ok plugin) verified
  | .error .valueError => .error .valueError
  | .error e => decide request py sha keys caller now uuid (.error (text e)) verified

/-- A cached policy has passed validation. -/
def PolicySource.Validated (plugin : Plugin) : Prop := ∃ data, source.validate data = some plugin

/-- A policy that is loaded has passed validation, and is the one thing that is stored.  Without one
there is a `PluginLoadError`, the cache stays, and the answer is a `CONFIRM` without a Passport and
without a ticket. -/
structure FailsSafe : Prop where
  ends : (∃ plugin, (source.loadPolicy cache request.pluginId.str).1 = .ok plugin) ∨
    ∃ e, (source.loadPolicy cache request.pluginId.str).1 = .error e ∧ e ≠ .valueError
  validated : (∀ p ∈ cache, source.Validated p.2) →
    (∀ plugin, (source.loadPolicy cache request.pluginId.str).1 = .ok plugin →
      source.Validated plugin) ∧
    ∀ p ∈ (source.loadPolicy cache request.pluginId.str).2, source.Validated p.2
  kept : ∀ e, (source.loadPolicy cache request.pluginId.str).1 = .error e →
    (source.loadPolicy cache request.pluginId.str).2 = cache
  confirms : ∀ e, (source.loadPolicy cache request.pluginId.str).1 = .error e →
    ∃ response, decideLoaded text request py sha keys caller now uuid verified (.error e) =
        .ok response ∧
      response.decision = .confirm ∧ response.scores.riskScore.val = 1 ∧
      response.passport = none ∧ response.approval = none

variable {source cache}

theorem PolicySource.loadPolicy_hit {pluginId : Str} {plugin : Plugin}
    (h : cache.lookup pluginId = some plugin) :
    source.loadPolicy cache pluginId = (.ok plugin, cache) := by
  simp only [loadPolicy, h, load, Fetch.none]

theorem PolicySource.loadPolicy_miss {pluginId : Str} (h : cache.lookup pluginId = none) :
    source.loadPolicy cache pluginId = (source.loaded pluginId,
      match source.loaded pluginId with
      | .ok plugin => cache.set pluginId plugin
      | .error _ => cache) := by
  unfold loaded
  simp only [loadPolicy, h]
  generalize (load source.urls source.ips source.resolve source.attempt source.allowlist none
    source.remoteEnabled source.loadLocal pluginId).result = result
  cases result <;> rfl

theorem PolicySource.Offers.validated {pluginId : Str} {plugin : Plugin}
    (h : source.Offers pluginId plugin) : source.Validated plugin := by
  cases h with
  | file _ _ hvalid => exact ⟨_, hvalid⟩
  | url _ _ _ _ _ hvalid => exact ⟨_, hvalid⟩

/-- What `decide` makes of a `PluginLoadError`. -/
theorem decideLoaded_error {e : LoadError} (he : e ≠ .valueError) {response : DecisionResponse} :
    decideLoaded text request py sha keys caller now uuid verified (.error e) = .ok response ↔
      response = failSafe request (text e) ∧ request.Loggable := by
  have hdecide : decideLoaded text request py sha keys caller now uuid verified (.error e) =
      decide request py sha keys caller now uuid (.error (text e)) verified := by
    cases e with
    | valueError => exact absurd rfl he
    | _ => rfl
  rw [hdecide, decide, logged_eq_ok]

/-- Loading fails safe exactly when the policy is cached or no exception escapes, and the request
can be logged where there is no policy.  What escapes is what the handlers do not name: bytes
that are no UTF-8, numbers of too many digits, a port that cannot be read, and the errors of
`httpx` that are not `HTTPError`. -/
theorem load_failsSafe_iff :
    FailsSafe source text request py sha keys caller now uuid verified cache ↔
      (∃ plugin, cache.lookup request.pluginId.str = some plugin) ∨
        ¬ source.Escapes request.pluginId.str ∧
          ((∃ plugin, source.Offers request.pluginId.str plugin) ∨ request.Loggable) := by
  cases hcache : cache.lookup request.pluginId.str with
  -- a hit reads nothing, so nothing can be raised and no response is made up
  | some plugin =>
    refine iff_of_true ?_ (.inl ⟨plugin, rfl⟩)
    have hload := @PolicySource.loadPolicy_hit source cache _ _ hcache
    refine ⟨.inl ⟨plugin, by rw [hload]⟩, ?_, ?_, ?_⟩
    · intro hvalid
      rw [hload]
      refine ⟨?_, hvalid⟩
      rintro p ⟨⟩
      exact hvalid _ (Dict.lookup_mem hcache)
    · intro e he
      rw [hload] at he
      cases he
    · intro e he
      rw [hload] at he
      cases he
  | none =>
    have hload := @PolicySource.loadPolicy_miss source cache _ hcache
    have hno : ¬ ∃ plugin, (none : Option Plugin) = some plugin := by simp
    rw [or_iff_right hno, ← PolicySource.loaded_escapes_iff]
    simp only [← PolicySource.loaded_ok_iff]
    cases hresult : source.loaded request.pluginId.str with
    | ok plugin =>
      rw [hresult] at hload
      refine iff_of_true ?_ ⟨by rintro ⟨⟩, .inl ⟨plugin, rfl⟩⟩
      have hvalidated := (PolicySource.loaded_ok_iff.mp hresult).validated
      refine ⟨.inl ⟨plugin, by rw [hload]⟩, ?_, ?_, ?_⟩
      · intro hvalid
        rw [hload]
        constructor
        · rintro p ⟨⟩
          exact hvalidated
        · intro p hp
          rcases Dict.mem_set hp with rfl | hp
          · exact hvalidated
          · exact hvalid p hp
      · intro e he
        rw [hload] at he
        cases he
      · intro e he
        rw [hload] at he
        cases he
    | error e =>
      rw [hresult] at hload
      constructor
      · intro h
        have he : e ≠ .valueError := by
          rcases h.ends with ⟨plugin, hok⟩ | ⟨e', he', hne⟩
          · rw [hload] at hok
            cases hok
          · rw [hload] at he'
            cases he'
            exact hne
        obtain ⟨response, hresponse, -⟩ := h.confirms e (by rw [hload])
        exact ⟨fun h => he (Except.error.inj h),
          .inr ((decideLoaded_error text request py sha keys caller now uuid verified he).mp
            hresponse).2⟩
      · rintro ⟨hne, hor⟩
        have he : e ≠ .valueError := fun h => hne (congrArg _ h)
        have hlog : request.Loggable := by
          rcases hor with ⟨plugin, hok⟩ | hlog
          · cases hok
          · exact hlog
        refine ⟨.inr ⟨e, by rw [hload], he⟩, ?_, ?_, ?_⟩
        · intro hvalid
          rw [hload]
          exact ⟨by rintro p ⟨⟩, hvalid⟩
        · intro e' _
          rw [hload]
        · intro e' he'
          rw [hload] at he'
          cases he'
          exact ⟨_, (decideLoaded_error text request py sha keys caller now uuid verified he).mpr
            ⟨rfl, hlog⟩, rfl, rfl, rfl, rfl⟩

end FailSafe

/-- A deployment whose plugins all have one file, and nothing else. -/
def fileSource (bytes : ByteArray) : PolicySource where
  validate _ := none
  responseJson _ := .error .jsonDecodeError
  files _ := .content bytes
  urls := plainUrls
  ips := publicIps
  resolve _ := none
  exchange _ := .unreachable
  remoteEnabled := false
  allowlist := []

/-- A file of one byte that is not UTF-8: the `UnicodeDecodeError` leaves `decide`. -/
theorem undecodable_escapes :
    ((fileSource ⟨#[0xFF]⟩).loadPolicy [] payRequest.pluginId.str).1 = .error .valueError ∧
      (∀ text, decideLoaded text payRequest plainInterpreter plainSha pairedKeys .trustedLocal 0
        (.lit "j1") (.ok .none) ((fileSource ⟨#[0xFF]⟩).loadPolicy [] payRequest.pluginId.str).1 =
          .error .valueError) ∧
      ∀ text, ¬ FailsSafe (fileSource ⟨#[0xFF]⟩) text payRequest plainInterpreter plainSha
        pairedKeys .trustedLocal 0 (.lit "j1") (.ok .none) [] := by
  have hdecode : decodeUtf8 ⟨#[0xFF]⟩ = .error .valueError := by
    have hnone : String.fromUTF8? ⟨#[0xFF]⟩ = none := by decide +kernel
    rw [decodeUtf8, hnone]
  have hread : decodeUtf8 ⟨#[0xFF]⟩ >>= loads = .error .valueError := by
    rw [hdecode, error_bind]
  have hescapes : (fileSource ⟨#[0xFF]⟩).Escapes payRequest.pluginId.str :=
    .file ⟨by decide, by decide, rfl⟩ hread (by decide)
  have hload : ((fileSource ⟨#[0xFF]⟩).loadPolicy [] payRequest.pluginId.str).1 =
      .error .valueError := by
    rw [PolicySource.loadPolicy_miss rfl]
    exact PolicySource.loaded_escapes_iff.mpr hescapes
  refine ⟨hload, fun text => by rw [hload]; rfl, fun text h => ?_⟩
  rcases h.ends with ⟨plugin, hok⟩ | ⟨e, he, hne⟩
  · rw [hload] at hok
    cases hok
  · rw [hload] at he
    cases he
    exact hne rfl

end Axg
