import Mathlib.Data.List.Basic
import Mathlib.Algebra.Group.Nat.Defs

/-!
Internet addresses and networks as Python's `ipaddress` reads them from a text.
A text is an address of one of the two versions or none, and a network only holds
addresses of its own version.
-/

namespace AiPlatform

namespace IpAddress

/-- `text.split(separator)` -/
def split (separator : Char) : List Char → List (List Char)
  | [] => [[]]
  | c :: rest =>
      if c = separator then [] :: split separator rest
      else
        match split separator rest with
        | [] => [[c]]
        | part :: parts => (c :: part) :: parts

def isDigit (c : Char) : Bool := '0' ≤ c && c ≤ '9'

def digitValue (c : Char) : Nat := c.toNat - '0'.toNat

def decimal (digits : List Char) : Option Nat :=
  if digits ≠ [] ∧ digits.all isDigit then
    some (digits.foldl (fun value c => 10 * value + digitValue c) 0)
  else none

def hexValue (c : Char) : Option Nat :=
  if isDigit c then some (digitValue c)
  else if 'a' ≤ c ∧ c ≤ 'f' then some (c.toNat - 'a'.toNat + 10)
  else if 'A' ≤ c ∧ c ≤ 'F' then some (c.toNat - 'A'.toNat + 10)
  else none

/-- `_parse_octet`; leading zeros are ambiguous and refused. -/
def octet (digits : List Char) : Option Nat :=
  if 3 < digits.length ∨ (digits.head? = some '0' ∧ digits ≠ ['0']) then none
  else (decimal digits).filter (· ≤ 255)

def parse4 (text : List Char) : Option Nat :=
  match (split '.' text).mapM octet with
  | some [a, b, c, d] => some (((a * 256 + b) * 256 + c) * 256 + d)
  | _ => none

/-- `_parse_hextet` -/
def hextet (digits : List Char) : Option Nat :=
  if digits = [] ∨ 4 < digits.length then none
  else digits.foldlM (fun value c => (hexValue c).map (16 * value + ·)) 0

def hextets (parts : List (List Char)) : Option Nat :=
  parts.foldlM (fun value part => (hextet part).map (65536 * value + ·)) 0

def expandTail (parts : List (List Char)) : Option (List (List Char)) :=
  match parts.getLast? with
  | some last =>
      if '.' ∈ last then
        (parse4 last).map fun value =>
          let digits (word : Nat) : List Char :=
            [word / 4096, word / 256 % 16, word / 16 % 16, word % 16].map Nat.digitChar
          parts.dropLast ++ [digits (value / 65536), digits (value % 65536)]
      else some parts
  | none => none

/-- The parts before and after a `::`, of which there may be one. -/
def halves (parts : List (List Char)) : Option (List (List Char) × Option (List (List Char))) :=
  let inner := (List.range parts.length).filter fun n =>
    0 < n && n + 1 < parts.length && (parts[n]?).any List.isEmpty
  match inner with
  | [] => some (parts, none)
  | [n] => some (parts.take n, some (parts.drop (n + 1)))
  | _ => none

/-- An outer part may be empty only next to a `::`. -/
def outer (side : List (List Char)) : Option (List (List Char)) :=
  if side = [[]] then some [] else if side.any List.isEmpty then none else some side

def parseGroups (text : List Char) : Option Nat := do
  let written := split ':' text
  if written.length < 3 then none
  else do
    let parts ← expandTail written
    if 9 < parts.length then none
    else
      match ← halves parts with
      | (all, none) => if all.length = 8 then hextets all else none
      | (high, some low) => do
          let high ← outer high
          let low ← outer low
          if high.length + low.length < 8 then do
            let front ← hextets high
            let back ← hextets low
            some (front * 65536 ^ (8 - high.length) + back)
          else none

/-- `_split_scope_id`, and the address before it. -/
def parse6 (text : List Char) : Option Nat :=
  match split '%' text with
  | [address] => parseGroups address
  | [address, scope] => if scope = [] then none else parseGroups address
  | _ => none

end IpAddress

inductive IpAddress
  | v4 (value : Nat)
  | v6 (value : Nat)
  deriving DecidableEq

/-- `ipaddress.ip_address`; `none` where it raises. -/
def ipAddress (text : String) : Option IpAddress :=
  if '/' ∈ text.toList then none
  else ((IpAddress.parse4 text.toList).map .v4).or ((IpAddress.parse6 text.toList).map .v6)

structure IpNetwork where
  address : IpAddress
  hostBits : Nat
  deriving DecidableEq

namespace IpNetwork

def maskLength (text : List Char) : Option Nat :=
  (IpAddress.parse4 text).bind fun mask =>
    ((List.range 33).find? fun length => mask = 2 ^ 32 - 2 ^ (32 - length)).or
      ((List.range 33).find? fun length => mask = 2 ^ (32 - length) - 1)

def prefixLength (bits : Nat) (text : List Char) : Option Nat :=
  (IpAddress.decimal text).filter (· ≤ bits)

/-- `address in network` -/
def contains (network : IpNetwork) : IpAddress → Bool
  | .v4 value =>
      match network.address with
      | .v4 base => value / 2 ^ network.hostBits = base / 2 ^ network.hostBits
      | .v6 _ => false
  | .v6 value =>
      match network.address with
      | .v6 base => value / 2 ^ network.hostBits = base / 2 ^ network.hostBits
      | .v4 _ => false

end IpNetwork

/-- `ipaddress.ip_network(text, strict=False)`; `none` where it raises. -/
def ipNetwork (text : String) : Option IpNetwork :=
  match IpAddress.split '/' text.toList with
  | [address] =>
      ((IpAddress.parse4 address).map fun value => ⟨.v4 value, 0⟩).or
        ((IpAddress.parse6 address).map fun value => ⟨.v6 value, 0⟩)
  | [address, mask] =>
      (((IpAddress.parse4 address).bind fun value =>
          ((IpNetwork.prefixLength 32 mask).or (IpNetwork.maskLength mask)).map fun length =>
            ⟨.v4 value, 32 - length⟩)).or
        ((IpAddress.parse6 address).bind fun value =>
          (IpNetwork.prefixLength 128 mask).map fun length => ⟨.v6 value, 128 - length⟩)
  | _ => none

example : ipAddress "10.0.0.5" = some (.v4 167772165) := by decide +kernel

example : ipAddress "::ffff:10.0.0.5" = some (.v6 281470849515525) := by decide +kernel

example : ipAddress "1::2::3" = none := by decide +kernel

example : (ipNetwork "10.0.0.0/255.0.0.0").map (·.hostBits) = some 24 := by decide +kernel

end AiPlatform
