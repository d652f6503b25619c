import Mathlib.Data.List.Basic

/-!
Replacements in a text, one item after the other. When no replacement brings in an item
that a later one replaces, the order does not show: every item of the text is replaced
once, by the entry of the table that is its own.
-/

namespace AiPlatform

variable {α : Type} [DecidableEq α]

def replaceAll (item : α) (replacement : List α) (text : List α) : List α :=
  text.flatMap fun a => if a = item then replacement else [a]

def replaceEach (table : List (α × List α)) (text : List α) : List α :=
  table.foldl (fun text entry => replaceAll entry.1 entry.2 text) text

def substitute : List (α × List α) → α → List α
  | [], a => [a]
  | (item, replacement) :: rest, a => if a = item then replacement else substitute rest a

def Separate (table : List (α × List α)) : Prop :=
  table.Pairwise fun earlier later => later.1 ∉ earlier.2

theorem substitute_absent {table : List (α × List α)} {a : α}
    (absent : ∀ entry ∈ table, entry.1 ≠ a) : substitute table a = [a] := by
  induction table with
  | nil => rfl
  | cons entry rest ih =>
      obtain ⟨item, replacement⟩ := entry
      have other : a ≠ item := fun same => absent _ List.mem_cons_self same.symm
      rw [substitute, if_neg other]
      exact ih fun entry member => absent entry (List.mem_cons_of_mem _ member)

theorem substitute_all {table : List (α × List α)} {text : List α}
    (absent : ∀ entry ∈ table, entry.1 ∉ text) : text.flatMap (substitute table) = text := by
  induction text with
  | nil => rfl
  | cons a rest ih =>
      have first : substitute table a = [a] := substitute_absent fun entry member same =>
        absent entry member (same ▸ List.mem_cons_self)
      rw [List.flatMap_cons, first, ih fun entry member inside =>
        absent entry member (List.mem_cons_of_mem _ inside)]
      rfl

theorem replaceEach_eq {table : List (α × List α)} (separate : Separate table) (text : List α) :
    replaceEach table text = text.flatMap (substitute table) := by
  induction table generalizing text with
  | nil =>
      have same : text.flatMap (substitute []) = text := substitute_all (by simp)
      exact same.symm
  | cons entry rest ih =>
      obtain ⟨item, replacement⟩ := entry
      obtain ⟨apart, later⟩ := List.pairwise_cons.mp separate
      change replaceEach rest (replaceAll item replacement text) = _
      rw [ih later, replaceAll, List.flatMap_assoc]
      refine congrArg (fun f => text.flatMap f) (funext fun a => ?_)
      rw [substitute]
      split
      · exact substitute_all apart
      · rw [List.flatMap_singleton]

theorem substitute_entry {table : List (α × List α)} (once : (table.map (·.1)).Nodup) :
    ∀ entry ∈ table, substitute table entry.1 = entry.2 := by
  induction table with
  | nil => exact fun _ member => nomatch member
  | cons head rest ih =>
      obtain ⟨item, replacement⟩ := head
      obtain ⟨fresh, later⟩ := List.nodup_cons.mp once
      intro entry member
      rw [substitute]
      rcases List.mem_cons.mp member with rfl | listed
      · exact if_pos rfl
      · have other : entry.1 ≠ item := fun same =>
          fresh (List.mem_map.mpr ⟨entry, listed, same⟩)
        rw [if_neg other]
        exact ih later entry listed

end AiPlatform
