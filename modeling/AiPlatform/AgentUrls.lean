import AiPlatform.AgentModel
import AiPlatform.IpAddresses
import AiPlatform.Urls

/-!
The address a node claims to be reachable at, `app/core/agent_url.py`, with the
whole of `urllib.parse.urlsplit`. What the standard library knows of Unicode and
of address classes, and what the resolver answers, are parameters; an exception
that is not an `AgentUrlError` is kept apart.
-/

namespace AiPlatform

namespace Urls

structure SplitResult where
  scheme : List Char
  netloc : List Char
  path : List Char
  query : List Char
  fragment : List Char
  deriving DecidableEq

/-- `text.partition(separator)` without the separator. -/
def partition (separator : Char) (text : List Char) : List Char × List Char :=
  (text.takeWhile (· ≠ separator), (text.dropWhile (· ≠ separator)).drop 1)

/-- `url[:i].lower()` where the text before the first colon is a scheme. -/
def scheme (text : List Char) : List Char :=
  let scheme := text.takeWhile (· ≠ ':')
  if ':' ∈ text ∧ (scheme.head?.any Char.isAlpha) ∧ scheme.all schemeChar then
    scheme.map Char.toLower
  else []

/-- `urlsplit(url)`; `none` where it raises `ValueError` about the authority. -/
def urlsplit (validAuthority : List Char → Bool) (url : String) : Option SplitResult :=
  let text := (url.toList.dropWhile (·.toNat ≤ 32)).filter (· ∉ ['\t', '\r', '\n'])
  let (netloc, rest) := match afterScheme text with
    | '/' :: '/' :: rest => (rest.takeWhile (· ∉ ['/', '?', '#']),
        rest.dropWhile (· ∉ ['/', '?', '#']))
    | rest => ([], rest)
  if bracketed netloc ∧ validAuthority netloc then
    let (beforeFragment, fragment) := partition '#' rest
    let (path, query) := partition '?' beforeFragment
    some ⟨scheme text, netloc, path, query, fragment⟩
  else none

/-- What stands before the last `@` of an authority. -/
def userinfo (netloc : List Char) : List Char :=
  ((netloc.reverse.dropWhile (· ≠ '@')).drop 1).reverse

def username (netloc : List Char) : List Char := (partition ':' (userinfo netloc)).1

def password (netloc : List Char) : List Char := (partition ':' (userinfo netloc)).2

/-- What stands after the last `@`. -/
def hostinfo (netloc : List Char) : List Char := (netloc.reverse.takeWhile (· ≠ '@')).reverse

def writtenPort (netloc : List Char) : List Char :=
  if '[' ∈ hostinfo netloc then
    (partition ':' (partition ']' (partition '[' (hostinfo netloc)).2).2).2
  else (partition ':' (hostinfo netloc)).2

/-- `parts.port`; `none` where it raises `ValueError`. -/
def port (netloc : List Char) : Option (Option Nat) :=
  if writtenPort netloc = [] then some none
  else ((IpAddress.decimal (writtenPort netloc)).filter (· ≤ 65535)).map some

end Urls

namespace AgentUrls

open Agents (strip)

/-- What the standard library knows of texts and addresses. -/
structure PythonLibrary where
  lower : String → String
  /-- `_check_bracketed_host` and `_checknetloc` -/
  validAuthority : List Char → Bool
  repr : String → String
  /-- `str(ip_address(literal))` -/
  addressText : String → String
  isLoopback : IpAddress → Bool
  isLinkLocal : IpAddress → Bool
  isUnspecified : IpAddress → Bool
  isMulticast : IpAddress → Bool
  isReserved : IpAddress → Bool

/-- What `getaddrinfo` does: it answers, raises `gaierror`, or raises something else. -/
inductive Resolution
  | infos (literals : List String)
  | gaierror
  | raises
  deriving DecidableEq

structure EnrollmentSettings where
  defaultAgentPort : Int
  allowedAgentPorts : List Int
  allowedAdvertiseCidrs : List String
  requireHttps : Bool

structure ValidatedAgentUrl where
  url : String
  host : String
  port : Int
  addresses : List String
  deriving DecidableEq

/-- `AgentUrlError`, or an exception that nobody expects. -/
inductive Failure
  | agentUrlError (message : String)
  | valueError
  | resolverError
  deriving DecidableEq

def refuse {α : Type} (message : String) : Except Failure α := .error (.agentUrlError message)

section Validation

variable (library : PythonLibrary) (settings : EnrollmentSettings)

def screenParts (parts : Urls.SplitResult) : Except Failure (List Char × String × Int) :=
  if parts.scheme ≠ "http".toList ∧ parts.scheme ≠ "https".toList then
    refuse "The agent address must start with http:// or https://."
  else if settings.requireHttps ∧ parts.scheme ≠ "https".toList then
    refuse "This platform requires node agents to be reached over HTTPS."
  else if Urls.username parts.netloc ≠ [] ∨ Urls.password parts.netloc ≠ [] then
    refuse "The agent address must not contain credentials."
  else if (parts.path ≠ [] ∧ parts.path ≠ ['/']) ∨ parts.query ≠ [] ∨ parts.fragment ≠ [] then
    refuse "The agent address must be a bare host and port, with no path."
  else match Urls.port parts.netloc with
    | none => refuse "The agent address has an invalid port."
    | some given =>
        match Urls.hostname library.lower parts.netloc with
        | none => refuse "The agent address has no host."
        | some hostname =>
            let port : Int := match given with
              | some port => if port = 0 then settings.defaultAgentPort else port
              | none => settings.defaultAgentPort
            if port ∉ settings.allowedAgentPorts then
              let allowed := ", ".intercalate (settings.allowedAgentPorts.map toString)
              refuse s!"Port {port} is not allowed for a node agent. Allowed: {allowed}."
            else .ok (parts.scheme, hostname, port)

def screen (raw : String) : Except Failure (List Char × String × Int) :=
  let candidate := strip raw
  if candidate = "" then refuse "No agent address was given."
  else if 512 < candidate.length then refuse "The agent address is too long."
  else match Urls.urlsplit library.validAuthority candidate with
    | none => .error .valueError
    | some parts => screenParts library settings parts

def addressesOf (literals : List String) : List (String × IpAddress) :=
  literals.eraseDups.filterMap fun literal => (ipAddress literal).map fun address => (literal, address)

def resolve (hostname : String) : Resolution → Except Failure (List (String × IpAddress))
  | .raises => .error .resolverError
  | .gaierror => refuse s!"{hostname} could not be resolved from the control plane."
  | .infos literals =>
      if addressesOf literals = [] then
        refuse s!"{hostname} could not be resolved from the control plane."
      else .ok (addressesOf literals)

def cidrs : List String → Except Failure (List IpNetwork)
  | [] => .ok []
  | value :: rest => do
      match ipNetwork value with
      | none => refuse s!"Configured advertise range {library.repr value} is not a valid CIDR."
      | some network =>
          let networks ← cidrs rest
          return network :: networks

def rejectUnroutable (hostname text : String) (address : IpAddress) : Except Failure Unit :=
  if library.isLoopback address then
    refuse s!"{hostname} resolves to {text}, which is the loopback address."
  else if library.isLinkLocal address then
    refuse s!"{hostname} resolves to {text}, which is a link-local address."
  else if library.isUnspecified address then
    refuse s!"{hostname} resolves to {text}, which is not a host address."
  else if library.isMulticast address ∨ library.isReserved address then
    refuse s!"{hostname} resolves to {text}, which is not a host address."
  else .ok ()

def vet (hostname : String) (permitted : List IpNetwork) :
    List (String × IpAddress) → Except Failure Unit
  | [] => .ok ()
  | (literal, address) :: rest => do
      rejectUnroutable library hostname (library.addressText literal) address
      if permitted ≠ [] ∧ permitted.all fun network => !network.contains address then
        refuse (s!"{hostname} resolves to {library.addressText literal}, which is outside the " ++
          "address ranges this platform accepts nodes from.")
      else vet hostname permitted rest

/-- `f"[{hostname}]" if ":" in hostname else hostname` -/
def hostPart (hostname : String) : String :=
  if ':' ∈ hostname.toList then "[" ++ hostname ++ "]" else hostname

def normalised (scheme : List Char) (hostname : String) (port : Int) : String :=
  s!"{String.ofList scheme}://{library.lower (hostPart hostname)}:{port}"

def validateAgentUrl (answer : Resolution) (raw : String) : Except Failure ValidatedAgentUrl := do
  let (scheme, hostname, port) ← screen library settings raw
  let addresses ← resolve hostname answer
  let permitted ← cidrs library settings.allowedAdvertiseCidrs
  vet library hostname permitted addresses
  return {
    url := normalised library scheme hostname port
    host := library.lower hostname
    port := port
    addresses := addresses.map fun (literal, _) => library.addressText literal }

end Validation

end AgentUrls

end AiPlatform
