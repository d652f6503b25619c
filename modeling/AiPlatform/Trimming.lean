import Mathlib.Data.List.DropRight

/-!
Texts over any alphabet with a set of spaces: trimming, what is left of a text
without its spaces, and splitting at separators that are spaces. None of these
loses or reorders what is no space.
-/

namespace AiPlatform.Trimming

variable {α : Type} {space : α → Bool} {text left right : List α}

def trim (space : α → Bool) (text : List α) : List α := (text.dropWhile space).rdropWhile space

def ink (space : α → Bool) (text : List α) : List α := text.filter fun a => !space a

def Opens (space : α → Bool) (text : List α) : Prop := ∀ a ∈ text.head?, space a = false

@[simp] theorem ink_nil : ink space [] = [] := rfl

@[simp] theorem ink_append : ink space (left ++ right) = ink space left ++ ink space right :=
  List.filter_append ..

theorem ink_cons_space {a : α} (blank : space a = true) : ink space (a :: text) = ink space text := by
  rw [ink, List.filter_cons_of_neg (by simp [blank]), ink]

theorem ink_eq_nil : ink space text = [] ↔ ∀ a ∈ text, space a = true := by
  simp [ink]

@[simp] theorem ink_dropWhile : ink space (text.dropWhile space) = ink space text := by
  induction text with
  | nil => rfl
  | cons a rest ih =>
      by_cases blank : space a = true
      · rw [List.dropWhile_cons_of_pos blank, ih, ink_cons_space blank]
      · rw [List.dropWhile_cons_of_neg blank]

theorem ink_reverse : ink space text.reverse = (ink space text).reverse := List.filter_reverse ..

@[simp] theorem ink_rdropWhile : ink space (text.rdropWhile space) = ink space text := by
  rw [List.rdropWhile, ink_reverse, ink_dropWhile, ink_reverse, List.reverse_reverse]

@[simp] theorem ink_trim : ink space (trim space text) = ink space text := by
  rw [trim, ink_rdropWhile, ink_dropWhile]

theorem rdropWhile_ink : text.rdropWhile space = [] ↔ ink space text = [] := by
  rw [List.rdropWhile_eq_nil_iff, ink_eq_nil]

theorem trim_ink : trim space text = [] ↔ ink space text = [] := by
  rw [trim, rdropWhile_ink, ink_dropWhile]

theorem opens_nil : Opens space [] := fun _ member => nomatch member

theorem opens_dropWhile : Opens space (text.dropWhile space) := by
  intro a member
  have stop := List.head?_dropWhile_not space text
  rw [Option.mem_def.mp member] at stop
  simpa using stop

theorem Opens.append (opens : Opens space left) (some : left ≠ []) :
    Opens space (left ++ right) := by
  cases left with
  | nil => exact absurd rfl some
  | cons a rest => exact opens

theorem Opens.of_prefix (opens : Opens space right) (start : left <+: right) :
    Opens space left := by
  obtain ⟨rest, rfl⟩ := start
  cases left with
  | nil => exact opens_nil
  | cons a tail => exact opens

theorem Opens.dropWhile (opens : Opens space text) : text.dropWhile space = text := by
  cases text with
  | nil => rfl
  | cons a rest =>
      apply List.dropWhile_cons_of_neg
      simp [opens a rfl]

theorem opens_rdropWhile (opens : Opens space text) : Opens space (text.rdropWhile space) :=
  opens.of_prefix (List.rdropWhile_prefix ..)

theorem opens_trim : Opens space (trim space text) := opens_rdropWhile opens_dropWhile

theorem Opens.trim (opens : Opens space text) : trim space text = text.rdropWhile space := by
  rw [Trimming.trim, opens.dropWhile]

theorem Opens.ink (opens : Opens space text) : ink space text = [] ↔ text = [] := by
  constructor
  · intro blank
    cases text with
    | nil => rfl
    | cons a rest =>
        have first := ink_eq_nil.mp blank a List.mem_cons_self
        rw [opens a rfl] at first
        cases first
  · rintro rfl
    rfl

theorem length_trim_le : (trim space text).length ≤ text.length := by
  have front := (List.dropWhile_suffix (l := text) space).length_le
  have back := (List.rdropWhile_prefix space (text.dropWhile space)).length_le
  exact back.trans front

theorem rdropWhile_append : (left ++ right).rdropWhile space =
    if right.rdropWhile space = [] then left.rdropWhile space
    else left ++ right.rdropWhile space := by
  simp only [List.rdropWhile, List.reverse_append, List.dropWhile_append, List.isEmpty_iff,
    List.reverse_eq_nil_iff]
  split <;> simp

theorem dropWhile_append_opens (opens : Opens space right) :
    (left ++ right).dropWhile space = left.dropWhile space ++ right := by
  rw [List.dropWhile_append]
  split
  · rename_i blank
    rw [List.isEmpty_iff.mp blank, opens.dropWhile, List.nil_append]
  · rfl

@[simp] theorem trim_dropWhile : trim space (text.dropWhile space) = trim space text := by
  rw [trim, trim, List.dropWhile_idempotent]

theorem rdropWhile_dropWhile :
    (text.rdropWhile space).dropWhile space = (text.dropWhile space).rdropWhile space := by
  induction text with
  | nil => rfl
  | cons a rest ih =>
      have cons : (a :: rest).rdropWhile space = _ := @rdropWhile_append _ space [a] rest
      by_cases blank : space a = true
      · rw [List.dropWhile_cons_of_pos blank, cons]
        split
        · rename_i empty
          rw [← ih, empty]
          simp [List.rdropWhile, blank]
        · rw [List.singleton_append, List.dropWhile_cons_of_pos blank, ih]
      · rw [List.dropWhile_cons_of_neg blank]
        refine Opens.dropWhile (opens_rdropWhile fun b member => ?_)
        cases member
        simpa using blank

@[simp] theorem trim_rdropWhile : trim space (text.rdropWhile space) = trim space text := by
  rw [trim, rdropWhile_dropWhile, List.rdropWhile_idempotent, trim]

@[simp] theorem trim_trim : trim space (trim space text) = trim space text := by
  rw [opens_trim.trim, trim, List.rdropWhile_idempotent]

theorem trim_append_blank (blank : ink space right = []) :
    trim space (left ++ right) = trim space left := by
  rw [← trim_rdropWhile, rdropWhile_append, if_pos (rdropWhile_ink.mpr blank), trim_rdropWhile]

theorem trim_suffix (ends : left <:+ right) : trim space left <:+ right.rdropWhile space := by
  obtain ⟨front, rfl⟩ := (List.dropWhile_suffix (l := left) space).trans ends
  rw [rdropWhile_append]
  split
  · rename_i blank
    rw [trim, blank]
    exact List.nil_suffix
  · exact List.suffix_append _ _

/-- The text between the separators. `separator` says how long the one is that stands
at the front of a text, behind the character before it; `skip` characters of the last
one are still to be passed. -/
def splitAt (separator : Option α → List α → Nat) : Option α → Nat → List α → List (List α)
  | _, _, [] => [[]]
  | _, skip + 1, a :: rest => splitAt separator (some a) skip rest
  | before, 0, a :: rest =>
      match separator before (a :: rest) with
      | 0 =>
          match splitAt separator (some a) 0 rest with
          | [] => [[a]]
          | piece :: pieces => (a :: piece) :: pieces
      | width + 1 => [] :: splitAt separator (some a) width rest

theorem ink_splitAt {separator : Option α → List α → Nat}
    (blank : ∀ before (text : List α), ink space (text.take (separator before text)) = [])
    (before : Option α) (skip : Nat) :
    ink space (splitAt separator before skip text).flatten = ink space (text.drop skip) := by
  induction text generalizing before skip with
  | nil => simp [splitAt]
  | cons a rest ih =>
      cases skip with
      | succ skip => exact ih (some a) skip
      | zero =>
          rw [splitAt]
          split
          · have kept := ih (some a) 0
            split
            · rename_i empty
              rw [empty, List.flatten_nil, ink_nil, List.drop_zero] at kept
              rw [List.flatten_singleton, List.drop_zero]
              calc ink space [a] = ink space [a] ++ ink space rest := by
                    rw [← kept, List.append_nil]
                _ = ink space (a :: rest) := ink_append.symm
            · rename_i piece pieces found
              rw [found] at kept
              rw [List.flatten_cons, List.cons_append, ← List.flatten_cons, ← List.singleton_append,
                ink_append, kept, List.drop_zero, ← ink_append, List.singleton_append,
                List.drop_zero]
          · rename_i width found
            have own := blank before (a :: rest)
            rw [found, List.take_succ_cons, ink_eq_nil] at own
            have first := own a List.mem_cons_self
            have others : ink space (rest.take width) = [] :=
              ink_eq_nil.mpr fun b member => own b (List.mem_cons_of_mem _ member)
            calc ink space ([] :: splitAt separator (some a) width rest).flatten
                = ink space (rest.drop width) := ih (some a) width
              _ = ink space (rest.take width ++ rest.drop width) := by
                  rw [ink_append, others, List.nil_append]
              _ = ink space rest := by rw [List.take_append_drop]
              _ = ink space (a :: rest) := (ink_cons_space first).symm

end AiPlatform.Trimming
