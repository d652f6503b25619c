import AiPlatform.Replacements

/-!
User names in LDAP filters: `_escape_filter` of `app/services/auth_providers.py`, and the
values of RFC 4515 filters as a directory reads them, octet by octet.
-/

namespace AiPlatform.Ldap

def metacharacters : List (Char × List Char) :=
  [('\\', ['\\', '5', 'c']), ('*', ['\\', '2', 'a']), ('(', ['\\', '2', '8']),
    (')', ['\\', '2', '9']), ('\x00', ['\\', '0', '0'])]

def escapeFilter (value : String) : String :=
  String.ofList (replaceEach metacharacters value.toList)

def octets (text : List Char) : List UInt8 := text.flatMap String.utf8EncodeChar

def hexDigit (octet : UInt8) : Option UInt8 :=
  if 0x30 ≤ octet ∧ octet ≤ 0x39 then some (octet - 0x30)
  else if 0x41 ≤ octet ∧ octet ≤ 0x46 then some (octet - 0x37)
  else if 0x61 ≤ octet ∧ octet ≤ 0x66 then some (octet - 0x57)
  else none

/-- An octet that a value has to escape: NUL, the parentheses, `*` and the backslash. -/
abbrev Special (octet : UInt8) : Prop := octet ∈ [0x00, 0x28, 0x29, 0x2a, 0x5c]

/-- `valueencoding` of RFC 4515: a backslash and two hex digits are one octet, and no other
special octet stands in a value. -/
def unescape : List UInt8 → Option (List UInt8)
  | [] => some []
  | octet :: rest =>
      if octet = 0x5c then
        match rest with
        | high :: low :: rest =>
            match hexDigit high, hexDigit low with
            | some high, some low => (unescape rest).map fun value => (16 * high + low) :: value
            | _, _ => none
        | _ => none
      else if Special octet then none
      else (unescape rest).map fun value => octet :: value

def unescapeText (text : String) : Option String :=
  (unescape (octets text.toList)).bind fun value => String.fromUTF8? value.toByteArray

theorem unescape_plain {octet : UInt8} (plain : ¬Special octet) (rest : List UInt8) :
    unescape (octet :: rest) = (unescape rest).map fun value => octet :: value := by
  have other : octet ≠ 0x5c := by
    rintro rfl
    exact plain (by decide)
  conv => lhs; unfold unescape
  rw [if_neg other, if_neg plain]

theorem unescape_all {plain : List UInt8} (none : ∀ octet ∈ plain, ¬Special octet)
    (rest : List UInt8) :
    unescape (plain ++ rest) = (unescape rest).map fun value => plain ++ value := by
  induction plain with
  | nil => simp
  | cons octet more ih =>
      obtain ⟨first, later⟩ := List.forall_mem_cons.mp none
      rw [List.cons_append, unescape_plain first, ih later, Option.map_map]
      rfl

theorem unescape_hex {high low : UInt8} {left right : UInt8} (first : hexDigit high = some left)
    (second : hexDigit low = some right) (rest : List UInt8) :
    unescape (0x5c :: high :: low :: rest) =
      (unescape rest).map fun value => (16 * left + right) :: value := by
  rw [unescape, if_pos rfl]
  simp only [first, second]

theorem utf8_octets (c : Char) :
    (c.val.toNat ≤ 0x7f ∧ String.utf8EncodeChar c = [UInt8.ofNat c.val.toNat]) ∨
      (0x7f < c.val.toNat ∧ ∀ octet ∈ String.utf8EncodeChar c, 0x80 ≤ octet.toNat) := by
  unfold String.utf8EncodeChar
  dsimp only
  split
  · exact .inl ⟨‹_›, rfl⟩
  · refine .inr ⟨by omega, ?_⟩
    split
    · simp only [List.forall_mem_cons, UInt8.toNat_ofNat']
      refine ⟨by omega, by omega, by simp⟩
    · split
      · simp only [List.forall_mem_cons, UInt8.toNat_ofNat']
        refine ⟨by omega, by omega, by omega, by simp⟩
      · simp only [List.forall_mem_cons, UInt8.toNat_ofNat']
        refine ⟨by omega, by omega, by omega, by omega, by simp⟩

theorem special_character {octet : UInt8} (special : Special octet) :
    octet.toNat < 0x80 ∧ ∃ entry ∈ metacharacters, entry.1 = Char.ofNat octet.toNat := by
  simp only [Special, List.mem_cons, List.not_mem_nil, or_false] at special
  rcases special with rfl | rfl | rfl | rfl | rfl <;> decide

theorem utf8_plain {c : Char} (plain : ∀ entry ∈ metacharacters, entry.1 ≠ c) :
    ∀ octet ∈ String.utf8EncodeChar c, ¬Special octet := by
  intro octet member special
  obtain ⟨low, entry, listed, same⟩ := special_character special
  rcases utf8_octets c with ⟨ascii, single⟩ | ⟨_, high⟩
  · rw [single, List.mem_singleton] at member
    have value : octet.toNat = c.toNat := by
      rw [member, UInt8.toNat_ofNat']
      exact Nat.mod_eq_of_lt (by omega)
    rw [value, Char.ofNat_toNat] at same
    exact plain entry listed same
  · have above := high octet member
    omega

theorem separate_metacharacters : Separate metacharacters := by
  unfold Separate
  decide

theorem escapeFilter_toList (value : String) :
    (escapeFilter value).toList = value.toList.flatMap (substitute metacharacters) := by
  rw [escapeFilter, String.toList_ofList, replaceEach_eq separate_metacharacters]

theorem unescape_entry (rest : List UInt8) : ∀ entry ∈ metacharacters,
    unescape (octets entry.2 ++ rest) =
      (unescape rest).map fun value => String.utf8EncodeChar entry.1 ++ value := by
  simp only [metacharacters, List.forall_mem_cons]
  refine ⟨?_, ?_, ?_, ?_, ?_, by simp⟩
  · exact @unescape_hex 0x35 0x63 5 12 rfl rfl rest
  · exact @unescape_hex 0x32 0x61 2 10 rfl rfl rest
  · exact @unescape_hex 0x32 0x38 2 8 rfl rfl rest
  · exact @unescape_hex 0x32 0x39 2 9 rfl rfl rest
  · exact @unescape_hex 0x30 0x30 0 0 rfl rfl rest

theorem unescape_substitute (c : Char) (rest : List UInt8) :
    unescape (octets (substitute metacharacters c) ++ rest) =
      (unescape rest).map fun value => String.utf8EncodeChar c ++ value := by
  by_cases escaped : ∃ entry ∈ metacharacters, entry.1 = c
  · obtain ⟨entry, member, rfl⟩ := escaped
    rw [substitute_entry (by decide) entry member]
    exact unescape_entry rest entry member
  · have plain : ∀ entry ∈ metacharacters, entry.1 ≠ c := fun entry member same =>
      escaped ⟨entry, member, same⟩
    rw [substitute_absent plain, octets, List.flatMap_singleton]
    exact unescape_all (utf8_plain plain) rest

theorem unescape_octets (text : List Char) :
    unescape (octets (text.flatMap (substitute metacharacters))) = some (octets text) := by
  induction text with
  | nil => rfl
  | cons c rest ih =>
      have first := unescape_substitute c (octets (rest.flatMap (substitute metacharacters)))
      rw [ih] at first
      rw [List.flatMap_cons, octets, List.flatMap_append]
      exact first

theorem unescapeText_escapeFilter (value : String) :
    unescapeText (escapeFilter value) = some value := by
  have encoded : (octets value.toList).toByteArray = value.toByteArray := String.utf8Encode_toList
  rw [unescapeText, escapeFilter_toList, unescape_octets, Option.bind_some, encoded,
    String.fromUTF8?, dif_pos value.isValidUTF8]
  rfl

def hexDigits : List Char := "0123456789abcdef".toList

def StartsHex (behind : List Char) : Prop :=
  ∃ high low rest, behind = high :: low :: rest ∧ high ∈ hexDigits ∧ low ∈ hexDigits

/-- A text without raw metacharacters: every backslash starts the escape of an octet. -/
structure Inert (text : List Char) : Prop where
  raw : ∀ c ∈ text, c ∉ ['*', '(', ')', '\x00']
  escapes : ∀ front behind, text = front ++ '\\' :: behind → StartsHex behind

section Inert

variable {rest : List Char}

theorem inert_nil : Inert [] :=
  ⟨fun _ member => (nomatch member), fun _ _ same => by simp at same⟩

theorem Inert.plain (inert : Inert rest) {c : Char} (plain : ∀ entry ∈ metacharacters, entry.1 ≠ c) :
    Inert (c :: rest) := by
  refine ⟨?_, ?_⟩
  · refine List.forall_mem_cons.mpr ⟨fun raw => ?_, inert.raw⟩
    simp only [List.mem_cons, List.not_mem_nil, or_false] at raw
    rcases raw with rfl | rfl | rfl | rfl <;> exact absurd plain (by decide)
  · intro front behind same
    cases front with
    | nil =>
        cases same
        exact absurd plain (by decide)
    | cons first front =>
        cases same
        exact inert.escapes front behind rfl

theorem digit_plain : ∀ c ∈ hexDigits, ∀ entry ∈ metacharacters, entry.1 ≠ c := by
  have absent : ∀ entry ∈ metacharacters, entry.1 ∉ hexDigits := by decide
  intro c digit entry member same
  exact absent entry member (same ▸ digit)

theorem Inert.escape (inert : Inert rest) {high low : Char} (first : high ∈ hexDigits)
    (second : low ∈ hexDigits) : Inert ('\\' :: high :: low :: rest) := by
  have digits := (inert.plain (digit_plain low second)).plain (digit_plain high first)
  refine ⟨List.forall_mem_cons.mpr ⟨by decide, digits.raw⟩, ?_⟩
  intro front behind same
  cases front with
  | nil =>
      cases same
      exact ⟨high, low, rest, rfl, first, second⟩
  | cons slash front =>
      rw [List.cons_append, List.cons.injEq] at same
      exact digits.escapes front behind same.2

theorem inert_entry (inert : Inert rest) : ∀ entry ∈ metacharacters, Inert (entry.2 ++ rest) := by
  simp only [metacharacters, List.forall_mem_cons]
  refine ⟨?_, ?_, ?_, ?_, ?_, by simp⟩ <;> exact inert.escape (by decide) (by decide)

theorem inert_escaped (text : List Char) : Inert (text.flatMap (substitute metacharacters)) := by
  induction text with
  | nil => exact inert_nil
  | cons c rest ih =>
      rw [List.flatMap_cons]
      by_cases escaped : ∃ entry ∈ metacharacters, entry.1 = c
      · obtain ⟨entry, member, rfl⟩ := escaped
        rw [substitute_entry (by decide) entry member]
        exact inert_entry ih entry member
      · have plain : ∀ entry ∈ metacharacters, entry.1 ≠ c := fun entry member same =>
          escaped ⟨entry, member, same⟩
        rw [substitute_absent plain]
        exact ih.plain plain

end Inert

/-- An escaped value has no raw metacharacter, and the directory reads the value back. -/
theorem escapeFilter_exact (value : String) :
    Inert (escapeFilter value).toList ∧ unescapeText (escapeFilter value) = some value := by
  refine ⟨?_, unescapeText_escapeFilter value⟩
  rw [escapeFilter_toList]
  exact inert_escaped value.toList

/-- A text that looks escaped is escaped again. -/
example : (escapeFilter "\\2a(").toList = "\\5c2a\\28".toList := by decide

end AiPlatform.Ldap
