import Mathlib.Data.List.Infix

/-!
Glob patterns as Redis and Valkey document them: `*` stands for any text, `?` for
one character, a class in brackets for one of its characters or, after `^`, one
of the others, and a backslash takes the special meaning of the next character
away. A class that is empty, open or backwards is none of these.
-/

namespace AiPlatform.Globs

inductive Item
  | exactly (own : Char)
  | one
  | oneOf (negated : Bool) (ranges : List (Char × Char))
  | many
  deriving DecidableEq

def specials : List Char := ['*', '?', '[', '\\']

/-- What is being read: text, the character after a backslash, or a class with
the ranges that it has so far. -/
inductive Mode
  | text
  | escape
  | opened
  | inside (negated : Bool) (ranges : List (Char × Char))
  | quoted (negated : Bool) (ranges : List (Char × Char))
  | after (negated : Bool) (ranges : List (Char × Char)) (first : Char)
  | upTo (negated : Bool) (ranges : List (Char × Char)) (first : Char)
  deriving DecidableEq

def stepInside (negated : Bool) (ranges : List (Char × Char)) (char : Char) :
    Option (Mode × List Item) :=
  if char = ']' then
    if ranges = [] then none else some (.text, [.oneOf negated ranges])
  else if char = '\\' then some (.quoted negated ranges, [])
  else some (.after negated ranges char, [])

def step : Mode → Char → Option (Mode × List Item)
  | .text, char =>
      if char = '*' then some (.text, [.many])
      else if char = '?' then some (.text, [.one])
      else if char = '[' then some (.opened, [])
      else if char = '\\' then some (.escape, [])
      else some (.text, [.exactly char])
  | .escape, char => some (.text, [.exactly char])
  | .opened, char =>
      if char = '^' then some (.inside true [], []) else stepInside false [] char
  | .inside negated ranges, char => stepInside negated ranges char
  | .quoted negated ranges, char => some (.inside negated (ranges ++ [(char, char)]), [])
  | .after negated ranges first, char =>
      if char = '-' then some (.upTo negated ranges first, [])
      else stepInside negated (ranges ++ [(first, first)]) char
  | .upTo negated ranges first, last =>
      if last = ']' ∨ last = '\\' ∨ last < first then none
      else some (.inside negated (ranges ++ [(first, last)]), [])

def parse : Mode → List Char → Option (List Item)
  | mode, [] => if mode = .text then some [] else none
  | mode, char :: rest =>
      match step mode char with
      | none => none
      | some (next, items) => (parse next rest).map (items ++ ·)

def Item.admits : Item → Char → Bool
  | .exactly own, char => own = char
  | .one, _ => true
  | .oneOf negated ranges, char =>
      (ranges.any fun (first, last) => decide (first ≤ char) && decide (char ≤ last)) != negated
  | .many, _ => false

def fits : List Item → List Char → Bool
  | [], text => text.isEmpty
  | .many :: items, text => text.tails.any fun rest => fits items rest
  | _ :: _, [] => false
  | item :: items, char :: rest => item.admits char && fits items rest

def Item.textual : Item → Bool
  | .exactly _ | .many => true
  | .one | .oneOf _ _ => false

/-- The matcher does what is documented of the patterns that are documented, where
it matters on ASCII texts. -/
def Documented (glob : String → String → Bool) : Prop :=
  ∀ pattern items, parse .text pattern.toList = some items → ∀ text : String,
    (∀ item ∈ items, item.textual = true) ∨ (∀ char ∈ text.toList, char.toNat < 128) →
      glob pattern text = fits items text.toList

def documented (pattern text : String) : Bool :=
  match parse .text pattern.toList with
  | some items => fits items text.toList
  | none => false

theorem documented_documented : Documented documented := by
  intro pattern items parsed text _
  rw [documented, parsed]

theorem parse_literal {text : List Char} (ordinary : ∀ char ∈ text, char ∉ specials) :
    parse .text (text ++ ['*']) = some (text.map .exactly ++ [.many]) := by
  induction text with
  | nil => rfl
  | cons char rest ih =>
      have plain : char ≠ '*' ∧ char ≠ '?' ∧ char ≠ '[' ∧ char ≠ '\\' := by
        simpa [specials] using ordinary char (.head _)
      obtain ⟨star, mark, bracket, backslash⟩ := plain
      have read : step .text char = some (.text, [.exactly char]) := by
        simp only [step, if_neg star, if_neg mark, if_neg bracket, if_neg backslash]
      rw [List.cons_append, parse, read]
      simp only [ih fun other member => ordinary other (.tail _ member)]
      rfl

theorem fits_literal {text : List Char} {key : List Char} :
    fits (text.map .exactly ++ [.many]) key = true ↔ text <+: key := by
  induction text generalizing key with
  | nil =>
      refine iff_of_true ?_ (List.nil_prefix)
      exact List.any_eq_true.mpr ⟨[], (List.mem_tails _ _).mpr List.nil_suffix, rfl⟩
  | cons char rest ih =>
      cases key with
      | nil => simp [fits]
      | cons other key =>
          change (Item.admits (.exactly char) other &&
            fits (rest.map .exactly ++ [.many]) key) = true ↔ _
          rw [Bool.and_eq_true, ih, List.cons_prefix_cons, Item.admits, decide_eq_true_eq]

theorem Documented.literal {glob : String → String → Bool} (documents : Documented glob)
    {text key : String} (ordinary : ∀ char ∈ text.toList, char ∉ specials) :
    glob (text ++ "*") key = true ↔ text.toList <+: key.toList := by
  have parsed : parse .text (text ++ "*").toList = some (text.toList.map .exactly ++ [.many]) := by
    rw [String.toList_append]
    exact parse_literal ordinary
  have textual : ∀ item ∈ text.toList.map Item.exactly ++ [.many], item.textual = true := by
    intro item member
    rcases List.mem_append.mp member with own | last
    · obtain ⟨_, _, rfl⟩ := List.mem_map.mp own
      rfl
    · rw [List.mem_singleton.mp last]
      rfl
  rw [documents _ _ parsed key (.inl textual), fits_literal]

end AiPlatform.Globs
