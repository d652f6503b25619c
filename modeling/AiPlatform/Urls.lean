import Mathlib.Data.List.Infix

/-!
The host of a URL as `urllib.parse.urlsplit(url).hostname` finds it: leading
controls and spaces go, then tabs and line ends; a scheme is taken off; what
follows `//` up to `/`, `?` or `#` is the authority, and the host in it stands
after the last `@` and before the port. Python's lower case is a parameter.
-/

namespace AiPlatform.Urls

def hasInfix (part text : String) : Bool := part.toList <:+: text.toList

def hasSuffix (part text : String) : Bool := part.toList <:+ text.toList

/-- `str.rstrip("/")` -/
def dropSlashes (text : String) : String :=
  String.ofList (text.toList.reverse.dropWhile (· = '/')).reverse

def schemeChar (c : Char) : Bool :=
  c.isAlphanum || c = '+' || c = '-' || c = '.'

def afterScheme (text : List Char) : List Char :=
  let scheme := text.takeWhile (· ≠ ':')
  if ':' ∈ text ∧ (scheme.head?.any Char.isAlpha) ∧ scheme.all schemeChar then
    text.drop (scheme.length + 1)
  else text

/-- `netloc` -/
def authority (url : String) : List Char :=
  let text := (url.toList.dropWhile (·.toNat ≤ 32)).filter (· ∉ ['\t', '\r', '\n'])
  match afterScheme text with
  | '/' :: '/' :: rest => rest.takeWhile (· ∉ ['/', '?', '#'])
  | _ => []

def bracketed (netloc : List Char) : Bool := ('[' ∈ netloc) = (']' ∈ netloc)

def writtenHost (netloc : List Char) : List Char :=
  let hostinfo := (netloc.reverse.takeWhile (· ≠ '@')).reverse
  if '[' ∈ hostinfo then ((hostinfo.dropWhile (· ≠ '[')).drop 1).takeWhile (· ≠ ']')
  else hostinfo.takeWhile (· ≠ ':')

def hostname (lower : String → String) (netloc : List Char) : Option String :=
  let host := writtenHost netloc
  if host.isEmpty then none
  else some (lower (String.ofList (host.takeWhile (· ≠ '%'))) ++
    String.ofList (host.dropWhile (· ≠ '%')))

example : hostname id (authority "https://user@api.site:8080/v1?x") = some "api.site" := by
  decide +kernel

end AiPlatform.Urls
