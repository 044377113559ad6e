import InkTime.Library.Checked

/-!
# Destinations of webhooks

`resolve_webhook_destination`: a URL is resolved once, and every address of the answer is public or allowed for its host.
-/

namespace InkTime.Webhook

open Checked

inductive Address where
  | v4 (number : BitVec 32)
  | v6 (number : BitVec 128)
  deriving DecidableEq

/-- `address.ipv4_mapped` -/
def Address.ipv4Mapped : Address → Option Address
  | .v4 _ => none
  | .v6 number => if number >>> 32 = 0xFFFF then some (.v4 (number.setWidth 32)) else none

/-- Exceptions, as far as a caller tells them apart. -/
inductive Failure where
  | unsafeUrl (message : String)
  | value (message : String)
  | connectTimeout (message : String)
  | readTimeout (message : String)
  | timeout
  | os (message : String)
  | http
  | other
  deriving DecidableEq

/-- `TimeoutError`, of which `socket.timeout` is another name. -/
def Failure.isTimeout : Failure → Bool
  | .timeout => true
  | _ => false

/-- An `OSError`. -/
def Failure.isOs : Failure → Bool
  | .connectTimeout _ | .readTimeout _ | .timeout | .os _ => true
  | _ => false

/-- What `urlsplit` returns; `port` raises where it is none. -/
structure SplitUrl where
  scheme : String
  hostname : Option String
  username : Option String
  password : Option String
  port : Option (Option Nat)
  path : String
  query : String
  fragment : String

/-- The standard library; without an answer where it raises `ValueError` or `UnicodeError`. -/
structure Runtime where
  urlsplit : String → Option SplitUrl
  /-- `urlunsplit` of an `https` URL without a fragment. -/
  urlunsplit : String → String → String → String
  idna : String → Option String
  casefold : String → String
  strip : String → String
  ipAddress : String → Option Address
  /-- `str(address)` -/
  text : Address → String
  ipNetwork : String → Option (Address → Bool)
  isPrivate : Address → Bool
  isLoopback : Address → Bool
  isLinkLocal : Address → Bool
  isReserved : Address → Bool
  isMulticast : Address → Bool
  isUnspecified : Address → Bool
  isGlobal : Address → Bool

/-- A text that is there and not empty. -/
def truthy (text : Option String) : Bool := text.any (· != "")

/-- `text.rstrip(".")` -/
def rstripDots (text : String) : String := .ofList (text.toList.reverse.dropWhile (· == '.')).reverse

def httpsAuthority (hostname : String) (port : Nat) : String :=
  let host := if hostname.toList.contains ':' then "[" ++ hostname ++ "]" else hostname
  if port = 443 then host else host ++ ":" ++ toString port

/-- `getaddrinfo`: the texts `record[4][0]`, each without an answer where it raises `IndexError`. -/
def Resolver : Type := String → Nat → Except Failure (List (Option String))

structure ResolvedWebhookTarget where
  url : String
  hostname : String
  port : Nat
  requestTarget : String
  addresses : List String

section Functions

variable (runtime : Runtime)

def normalizedIp (value : String) : Option Address := do
  let address ← runtime.ipAddress (.ofList (value.toList.takeWhile (· != '%')))
  return address.ipv4Mapped.getD address

def blocked (address : Address) : Bool :=
  runtime.isPrivate address || runtime.isLoopback address || runtime.isLinkLocal address || runtime.isReserved address
    || runtime.isMulticast address || runtime.isUnspecified address || !runtime.isGlobal address

/-- What the environment variable lists. -/
def allowlistValues (environment : String) : List String :=
  ((environment.splitOn ",").map runtime.strip).filter (· != "")

/-- Whether an entry of the allowlist is for a host and an address. -/
def allows (host : String) (address : Address) (raw : String) : Bool :=
  let item := runtime.casefold (rstripDots raw)
  if item.startsWith "." then host.endsWith item && host != .ofList (item.toList.drop 1)
  else item == host || (runtime.ipNetwork item).any (· address)

def allowlisted (host : String) (address : Address) (values : List String) : Bool := values.any (allows runtime host address)

/-- One record of the answer. -/
def addRecord (hostname : String) (configured : List String) (addresses : List String) (record : Option String) :
    Except Failure (List String) :=
  match record.bind (normalizedIp runtime) with
  | none => .error (.unsafeUrl "WEBHOOK-SSRF-002 Webhook DNS 回應不合法")
  | some address => do
    require (!(blocked runtime address && !allowlisted runtime hostname address configured))
      (.unsafeUrl "WEBHOOK-SSRF-003 Webhook 不可解析至內部或保留網路")
    return if runtime.text address ∈ addresses then addresses else addresses ++ [runtime.text address]

/-- The host and the port of a URL, once it is an `https` URL without credentials. -/
def checkUrl (url : String) : Except Failure (SplitUrl × String × Nat) := do
  let parsed ← orError (runtime.urlsplit url) (.unsafeUrl "WEBHOOK-SSRF-001 Webhook Port 不合法")
  let given ← orError parsed.port (.unsafeUrl "WEBHOOK-SSRF-001 Webhook Port 不合法")
  let port := if given.getD 0 = 0 then 443 else given.getD 0
  require (!(runtime.casefold parsed.scheme != "https" || !truthy parsed.hostname || truthy parsed.username
    || truthy parsed.password || parsed.fragment != ""))
    (.unsafeUrl "WEBHOOK-SSRF-001 Webhook URL 必須是沒有帳密與 Fragment 的 HTTPS URL")
  require (1 ≤ port && port ≤ 65535) (.unsafeUrl "WEBHOOK-SSRF-001 Webhook Port 不合法")
  let encoded ← orError (runtime.idna (rstripDots (parsed.hostname.getD "")))
    (.unsafeUrl "WEBHOOK-SSRF-001 Webhook Hostname 不合法")
  let hostname := runtime.casefold encoded
  require (hostname != "" && hostname.length ≤ 253) (.unsafeUrl "WEBHOOK-SSRF-001 Webhook Hostname 不合法")
  require (!hostname.toList.all ("0123456789.".toList.contains ·) || (runtime.ipAddress hostname).isSome)
    (.unsafeUrl "WEBHOOK-SSRF-001 不接受模糊 IP 表示法")
  return (parsed, hostname, port)

def lookUp (resolver : Resolver) (hostname : String) (port : Nat) : Except Failure (List (Option String)) :=
  match resolver hostname port with
  | .ok records => .ok records
  | .error failure => .error (if failure.isOs then .unsafeUrl "WEBHOOK-SSRF-002 Webhook 網域無法解析" else failure)

def resolveWebhookDestination (resolver : Resolver) (configured : List String) (url : String) :
    Except Failure ResolvedWebhookTarget := do
  let (parsed, hostname, port) ← checkUrl runtime url
  let records ← lookUp resolver hostname port
  let addresses ← records.foldlM (addRecord runtime hostname configured) []
  require (!addresses.isEmpty) (.unsafeUrl "WEBHOOK-SSRF-002 Webhook 網域沒有可用位址")
  let path := if parsed.path == "" then "/" else parsed.path
  return {
    url := runtime.urlunsplit (httpsAuthority hostname port) path parsed.query
    hostname, port
    requestTarget := if parsed.query == "" then path else path ++ "?" ++ parsed.query
    addresses }

end Functions

end InkTime.Webhook
