import AiPlatform.AgentModel
import AiPlatform.Trimming
import Mathlib.Data.List.Infix

/-!
The air-gap gate of `scripts/check_airgap.py`, as far as it reads one lockfile and
one Dockerfile. A text is a list of code points. The patterns are read line by line,
which is what `^` and `.` make of them; only the spaces of a pattern pass a line break.
-/

namespace AiPlatform.AirGap

open Agents (isSpace)
open Trimming (trim)

abbrev Text := List Char

structure Finding where
  path : String
  line : Nat
  message : String

/-- Where `str.splitlines()` ends a line. -/
def isLineBreak (c : Char) : Bool :=
  let code := c.toNat
  (10 ≤ code && code ≤ 13) || (28 ≤ code && code ≤ 30) || code == 133 || code == 8232 || code == 8233

/-- `str.splitlines()` -/
def splitlines : Text → List Text
  | [] => []
  | '\r' :: '\n' :: rest => [] :: splitlines rest
  | c :: rest =>
      if isLineBreak c then [] :: splitlines rest
      else
        match splitlines rest with
        | [] => [[c]]
        | line :: later => (c :: line) :: later

/-- The lines between the line feeds, which is where `^` matches. -/
def linesOf (text : Text) : List Text := text.splitOn '\n'

/-- `str.split()` -/
def words (text : Text) : List Text := (text.splitOnP isSpace).filter (· ≠ [])

/-- `\w`; beyond ASCII it is what the Unicode tables of `re` say. -/
def isWord (unicode : Char → Bool) (c : Char) : Bool :=
  if c.toNat < 128 then c.isAlphanum || c = '_' else unicode c

def isHex (c : Char) : Bool := ('0' ≤ c && c ≤ '9') || ('a' ≤ c && c ≤ 'f')

/-- `PINNED_IMAGE.search`: `@sha256:[0-9a-f]{64}` -/
def pinnedImage (image : Text) : Bool :=
  image.tails.any fun tail =>
    "@sha256:".toList.isPrefixOf tail && 64 ≤ ((tail.drop 8).takeWhile isHex).length

/-- The operators of `REQ_PIN`, in its order. -/
def operators : List String := ["==", ">=", "<=", ">", "<", "~=", "!="]

def isNameChar (c : Char) : Bool := c.isAlphanum || c = '.' || c = '_' || c = '-'

/-- `(?:\[[^\]]+\])?` -/
def dropExtras (text : Text) : Text :=
  match text with
  | '[' :: rest =>
      match rest.dropWhile (· ≠ ']') with
      | ']' :: after => if rest.takeWhile (· ≠ ']') = [] then text else after
      | _ => text
  | _ => text

/-- `REQ_PIN.match`: the operator behind the name and the extras. -/
def reqPin (text : Text) : Option String :=
  match text with
  | [] => none
  | first :: _ =>
      if first.isAlphanum then
        let rest := (dropExtras (text.dropWhile isNameChar)).dropWhile isSpace
        operators.find? fun operator => operator.toList.isPrefixOf rest
      else none

/-- A word of the list, with no word character on either side; the first place, and what
is behind it. `before` is the character in front of the text. -/
def findWord (unicode : Char → Bool) (wanted : List String) : Option Char → Text →
    Option (String × Text)
  | _, [] => none
  | before, c :: rest =>
      let here (word : String) : Bool :=
        word.toList.isPrefixOf (c :: rest) && !before.any (isWord unicode) &&
          !((c :: rest).drop word.length).head?.any (isWord unicode)
      match wanted.find? here with
      | some word => some (word, (c :: rest).drop word.length)
      | none => findWord unicode wanted (some c) rest

/-- `\b(apt-get|apt|apk|yum|dnf)\b.*?\b(install|add)\b`: the package manager. What is
installed behind any manager is installed behind the first one. -/
def installsWith (unicode : Char → Bool) (before : Option Char) (text : Text) : Option String :=
  match findWord unicode ["apt-get", "apt", "apk", "yum", "dnf"] before text with
  | some (manager, rest) =>
      -- The last character of a manager is a word character.
      (findWord unicode ["install", "add"] (some 't') rest).map fun _ => manager
  | none => none

/-- `^\s*RUN\b.*?` and the pattern above, on one line. -/
def runInstalls (unicode : Char → Bool) (line : Text) : Option String :=
  match line.dropWhile isSpace with
  | 'R' :: 'U' :: 'N' :: rest =>
      if rest.head?.any (isWord unicode) then none else installsWith unicode (some 'N') rest
  | _ => none

/-- A match of `DOCKERFILE_FROM`: the line where it starts, which may be a blank one in
front, the line of the keyword and the image. Lines are counted from 0. -/
structure FromMatch where
  start : Nat
  keyword : Nat
  image : Text

def isFrom (word : Text) : Bool := word.map Char.toUpper = "FROM".toList

/-- `DOCKERFILE_FROM.finditer`. Blank lines in front belong to a match, and the image may
stand on a later line. `keyword` is the line of a keyword that has no image yet. -/
def fromMatches : (start number : Nat) → (keyword : Option Nat) → List Text → List FromMatch
  | _, _, _, [] => []
  | start, number, keyword, line :: rest =>
      match words line, keyword with
      | [], _ => fromMatches start (number + 1) keyword rest
      | image :: _, some keyword =>
          ⟨start, keyword, image⟩ :: fromMatches (number + 1) (number + 1) none rest
      | [word], none =>
          if isFrom word then fromMatches start (number + 1) (some number) rest
          else fromMatches (number + 1) (number + 1) none rest
      | word :: image :: _, none =>
          if isFrom word then
            ⟨start, number, image⟩ :: fromMatches (number + 1) (number + 1) none rest
          else fromMatches (number + 1) (number + 1) none rest

/-- The matches of the pattern for `RUN`: the line where each starts and the manager. -/
def runMatches (unicode : Char → Bool) : (start number : Nat) → List Text → List (Nat × String)
  | _, _, [] => []
  | start, number, line :: rest =>
      if line.all isSpace then runMatches unicode start (number + 1) rest
      else
        match runInstalls unicode line with
        | some manager => (start, manager) :: runMatches unicode (number + 1) (number + 1) rest
        | none => runMatches unicode (number + 1) (number + 1) rest

def hashMark : Text := "--hash=sha256:".toList

/-- The operator other than `==` that a line of a lockfile shows. -/
def otherOperator (line : Text) : Option String :=
  let stripped := trim isSpace line
  match stripped with
  | [] => none
  | '#' :: _ => none
  | '-' :: _ => none
  | _ => (reqPin stripped).filter (· ≠ "==")

def firstWord (line : Text) : String := String.ofList ((words line).headD [])

/-- `check_requirements_locked`, on one lockfile -/
def checkRequirementsLocked (path : String) (text : Text) : List Finding :=
  (if hashMark <:+: text then []
    else [⟨path, 1, "lockfile has no --hash entries; regenerate with `make lock` " ++
      "(pip-compile --generate-hashes)"⟩]) ++
  (splitlines text).zipIdx.filterMap fun (line, number) =>
    (otherOperator line).map fun operator =>
      let name := firstWord line
      ⟨path, number + 1, s!"{name} uses '{operator}'; a lockfile must use '=='"⟩

def tagged (image : Text) : Bool :=
  !pinnedImage image && (image.contains '/' || image.contains ':')

/-- `check_dockerfile_digests`, on one Dockerfile -/
def checkDockerfileDigests (path : String) (text : Text) : List Finding :=
  (fromMatches 0 0 none (linesOf text)).filterMap fun found =>
    if tagged found.image then
      let image := String.ofList found.image
      some ⟨path, found.start + 1, s!"FROM {image} is tag-pinned; use image@sha256:<digest> so " ++
        "the build machine and the air-gapped target get identical bytes"⟩
    else none

/-- `check_dockerfile_no_os_packages`, on one Dockerfile -/
def checkDockerfileNoOsPackages (unicode : Char → Bool) (path : String) (text : Text) :
    List Finding :=
  (runMatches unicode 0 0 (linesOf text)).map fun (start, manager) =>
    ⟨path, start + 1, s!"installs OS packages with {manager}; every dependency must resolve to a " ++
      "wheel, or the package must be baked into a pinned base image"⟩

def report (unicode : Char → Bool) (lockfile dockerfile : Text) : List Finding :=
  checkRequirementsLocked "requirements.txt" lockfile ++
    checkDockerfileDigests "Dockerfile" dockerfile ++
    checkDockerfileNoOsPackages unicode "Dockerfile" dockerfile

def logicalLines (goesOn : Text → Bool) : List (Text × Nat) → List (List (Text × Nat))
  | [] => []
  | (line, number) :: rest =>
      if goesOn line then
        match logicalLines goesOn rest with
        | [] => [[(line, number)]]
        | group :: later => ((line, number) :: group) :: later
      else [(line, number)] :: logicalLines goesOn rest

structure Entry where
  number : Nat
  text : Text

def isComment (line : Text) : Bool := (line.dropWhile isSpace).head? = some '#'

def lockGoesOn (line : Text) : Bool := line.getLast? = some '\\' && !isComment line

def dropComment : (space : Bool) → Text → Text
  | _, [] => []
  | space, c :: rest => if c = '#' && space then [] else c :: dropComment (isSpace c) rest

def lockEntry (group : List (Text × Nat)) : Entry where
  number := (group.head?.map Prod.snd).getD 0
  text := trim isSpace (dropComment true (group.flatMap fun (line, _) =>
    if lockGoesOn line then trim (· = '\\') line
    else if isComment line then ' ' :: line else line))

def requirements (lockfile : Text) : List Entry :=
  ((logicalLines lockGoesOn (splitlines lockfile).zipIdx).map lockEntry).filter fun entry =>
    entry.text ≠ [] && entry.text.head? ≠ some '-'

/-- Pinned with `==` and with a hash of its own. -/
def Entry.locked (entry : Entry) : Bool :=
  reqPin entry.text = some "==" && decide (hashMark <:+: entry.text)

def blanks : List Char := [' ', '\t']

/-- A backslash at the end, with spaces or tabs behind it at most, joins the next line. -/
def dockerGoesOn (line : Text) : Bool :=
  (line.rdropWhile (blanks.contains ·)).getLast? = some '\\'

def dockerEntry (group : List (Text × Nat)) : Entry where
  number := (group.head?.map Prod.snd).getD 0
  text := (group.flatMap fun (line, _) =>
    if dockerGoesOn line then (line.rdropWhile (blanks.contains ·)).dropLast else line).dropWhile
      isSpace

def instructions (dockerfile : Text) : List Entry :=
  (logicalLines dockerGoesOn ((linesOf dockerfile).zipIdx.filter fun (line, _) =>
    !line.all isSpace && !isComment line)).map dockerEntry

def Entry.keyword (entry : Entry) : String :=
  String.ofList ((entry.text.takeWhile fun c => !isSpace c).map Char.toUpper)

def Entry.arguments (entry : Entry) : Text := entry.text.dropWhile fun c => !isSpace c

/-- What a `FROM` names: the first word that is no flag. -/
def Entry.image (entry : Entry) : Text :=
  ((words entry.arguments).dropWhile fun word => "--".toList.isPrefixOf word).headD []

/-- The name that a `FROM` gives to its stage. -/
def Entry.stage (entry : Entry) : Option Text :=
  match (words entry.arguments).dropWhile fun word => "--".toList.isPrefixOf word with
  | [_, as, name] => if as.map Char.toUpper = "AS".toList then some (name.map Char.toLower) else none
  | _ => none

/-- The `FROM` instructions that name neither a digest nor one of the earlier stages. -/
def loose : (stages : List Text) → List Entry → List Entry
  | _, [] => []
  | stages, entry :: rest =>
      if entry.keyword = "FROM" then
        let later := loose (entry.stage.toList ++ stages) rest
        if pinnedImage entry.image || stages.contains (entry.image.map Char.toLower) then later
        else entry :: later
      else loose stages rest

/-- A `RUN` instruction that installs OS packages. -/
def Entry.installs (unicode : Char → Bool) (entry : Entry) : Bool :=
  entry.keyword = "RUN" && (installsWith unicode (some 'N') entry.arguments).isSome

structure Compliant (unicode : Char → Bool) (lockfile dockerfile : Text) : Prop where
  locked : ∀ entry ∈ requirements lockfile, entry.locked
  pinned : loose [] (instructions dockerfile) = []
  bare : ∀ entry ∈ instructions dockerfile, ¬ entry.installs unicode

end AiPlatform.AirGap
