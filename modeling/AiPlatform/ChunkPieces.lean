import AiPlatform.Chunking

/-!
The pieces that the splitting levels hand to the packer. They hold what the text
holds without its spaces and stay within the budget. A piece can be empty: the
one before a sentence that fills the budget with nothing in front of it.
-/

namespace AiPlatform.Chunking

open Agents (isSpace)
open Trimming

variable {chunkSize : Nat}

/-- Pieces within the budget, none of which begins with a space. An empty one has one
behind it that fills the budget. -/
inductive Pieces (chunkSize : Nat) : List Text → Prop
  | nil : Pieces chunkSize []
  | cons {piece : Text} {rest : List Text} : piece ≠ [] → piece.length ≤ chunkSize →
      Opens isSpace piece → Pieces chunkSize rest → Pieces chunkSize (piece :: rest)
  | empty {full : Text} {rest : List Text} : full.length = chunkSize → Opens isSpace full →
      Pieces chunkSize rest → Pieces chunkSize ([] :: full :: rest)

theorem Pieces.append {left right : List Text} (first : Pieces chunkSize left)
    (second : Pieces chunkSize right) : Pieces chunkSize (left ++ right) := by
  induction first with
  | nil => exact second
  | cons some within opens _ ih => exact .cons some within opens ih
  | empty full opens _ ih => exact .empty full opens ih

theorem Pieces.flatMap {α : Type} {pieces : α → List Text} {items : List α}
    (each : ∀ item ∈ items, Pieces chunkSize (pieces item)) :
    Pieces chunkSize (items.flatMap pieces) := by
  induction items with
  | nil => exact .nil
  | cons item rest ih =>
      rw [List.flatMap_cons]
      exact (each item List.mem_cons_self).append
        (ih fun other member => each other (List.mem_cons_of_mem _ member))

theorem Pieces.single {text : Text} (within : text.length ≤ chunkSize)
    (opens : Opens isSpace text) : Pieces chunkSize (if text = [] then [] else [text]) := by
  by_cases empty : text = []
  · rw [if_pos empty]
    exact .nil
  · rw [if_neg empty]
    exact .cons empty within opens .nil

theorem flatten_single (text : Text) : (if text = [] then [] else [text]).flatten = text := by
  by_cases empty : text = []
  · rw [if_pos empty, empty]
    rfl
  · rw [if_neg empty, List.flatten_singleton]

theorem paragraphBreak_blank (before : Option Char) (text : Text) :
    ink isSpace (text.take (paragraphBreak before text)) = [] := by
  unfold paragraphBreak
  split
  · rename_i rest
    split
    · rfl
    · rename_i width found
      have start : (rest.takeWhile isSpace).rdropWhile (· ≠ '\n') <+: rest :=
        (List.rdropWhile_prefix ..).trans (List.takeWhile_prefix _)
      have run : rest.take (width + 1) = (rest.takeWhile isSpace).rdropWhile (· ≠ '\n') := by
        rw [List.prefix_iff_eq_take.mp start, found]
      rw [List.take_succ_cons, ink_cons_space (by decide), run, ink_eq_nil]
      intro c member
      exact List.mem_takeWhile_imp ((List.rdropWhile_prefix ..).subset member)
  · rfl

theorem sentenceBreak_blank (before : Option Char) (text : Text) :
    ink isSpace (text.take (sentenceBreak before text)) = [] := by
  unfold sentenceBreak
  split
  · rw [← List.prefix_iff_eq_take.mp (List.takeWhile_prefix _), ink_eq_nil]
    exact fun c => List.mem_takeWhile_imp
  · rfl

theorem cutPoint_bounds (positive : 0 < chunkSize) (text : Text) :
    0 < cutPoint chunkSize text ∧ cutPoint chunkSize text ≤ chunkSize := by
  have short : ((text.take chunkSize).rdropWhile (· ≠ ' ')).length ≤ chunkSize :=
    (List.rdropWhile_prefix ..).length_le.trans (List.length_take_le ..)
  unfold cutPoint
  by_cases first : ((text.take chunkSize).rdropWhile (· ≠ ' ')).length - 1 = 0
  · simp only [first, ↓reduceIte]
    omega
  · simp only [first, ↓reduceIte]
    omega

theorem hardCutFrom_pieces (positive : 0 < chunkSize) {fuel : Nat} {remaining : Text}
    (enough : remaining.length < fuel) (opens : Opens isSpace remaining) :
    Pieces chunkSize (hardCutFrom chunkSize fuel remaining) ∧
      ink isSpace (hardCutFrom chunkSize fuel remaining).flatten = ink isSpace remaining := by
  induction fuel generalizing remaining with
  | zero => omega
  | succ fuel ih =>
      rw [hardCutFrom]
      by_cases long : chunkSize < remaining.length
      · rw [if_pos long]
        obtain ⟨some, within⟩ := cutPoint_bounds positive remaining
        have shorter : ((remaining.drop (cutPoint chunkSize remaining)).dropWhile isSpace).length <
            fuel := by
          have suffix := (List.dropWhile_suffix (l := remaining.drop (cutPoint chunkSize remaining))
            isSpace).length_le
          rw [List.length_drop] at suffix
          omega
        obtain ⟨pieces, kept⟩ := ih shorter opens_dropWhile
        have length : (remaining.take (cutPoint chunkSize remaining)).length =
            cutPoint chunkSize remaining := by
          rw [List.length_take]
          omega
        constructor
        · refine .cons ?_ (length.le.trans within) (opens.of_prefix (List.take_prefix ..)) pieces
          intro empty
          rw [empty] at length
          exact absurd length.symm (by simpa using some.ne')
        · rw [List.flatten_cons, ink_append, kept, ink_dropWhile, ← ink_append,
            List.take_append_drop]
      · rw [if_neg long]
        exact ⟨.single (by omega) opens, by rw [flatten_single]⟩

theorem hardCut_pieces (positive : 0 < chunkSize) {text : Text} (opens : Opens isSpace text) :
    Pieces chunkSize (hardCut chunkSize text) ∧
      ink isSpace (hardCut chunkSize text).flatten = ink isSpace text :=
  hardCutFrom_pieces positive (Nat.lt_succ_self _) opens

theorem joinSentences_pieces (positive : 0 < chunkSize) {sentences : List Text} {current : Text}
    (within : current.length ≤ chunkSize) (opens : Opens isSpace current) :
    Pieces chunkSize (joinSentences chunkSize current sentences) ∧
      (current.length = chunkSize → ∃ rest, Pieces chunkSize rest ∧
        joinSentences chunkSize current sentences = current :: rest) := by
  have filled (full : current.length = chunkSize) : current ≠ [] := by
    rintro rfl
    exact positive.ne full
  induction sentences generalizing current with
  | nil =>
      rw [joinSentences]
      refine ⟨.single within opens, fun full => ⟨[], .nil, ?_⟩⟩
      rw [if_neg (filled full)]
  | cons part rest ih =>
      simp only [joinSentences]
      by_cases blank : strip part = []
      · rw [if_pos blank]
        exact ih within opens filled
      · rw [if_neg blank]
        by_cases long : chunkSize < (strip part).length
        · rw [if_pos long]
          obtain ⟨cut, _⟩ := hardCut_pieces positive (opens_trim : Opens isSpace (strip part))
          have none' : ([] : Text).length ≤ chunkSize := Nat.zero_le chunkSize
          obtain ⟨later, _⟩ := ih none' opens_nil fun full => absurd full positive.ne
          refine ⟨((Pieces.single within opens).append cut).append later, fun full => ?_⟩
          rw [if_neg (filled full), List.append_assoc]
          exact ⟨_, cut.append later, rfl⟩
        · rw [if_neg long]
          have fresh : Opens isSpace (strip part) := opens_trim
          have some : 0 < (strip part).length := List.length_pos_iff.mpr blank
          by_cases fits : current.length + (strip part).length + 1 ≤ chunkSize
          · rw [if_pos fits]
            have joined : (strip (current ++ ' ' :: strip part)).length ≤ chunkSize := by
              refine length_trim_le.trans ?_
              rw [List.length_append, List.length_cons]
              omega
            refine ⟨(ih joined opens_trim fun full => ?_).1, fun full => ?_⟩
            · intro empty
              rw [empty] at full
              exact positive.ne full
            · omega
          · rw [if_neg fits]
            obtain ⟨later, whole⟩ := ih (Nat.le_of_not_lt long) fresh (fun _ => blank)
            refine ⟨?_, fun full => ⟨_, later, rfl⟩⟩
            by_cases empty : current = []
            · -- Only a sentence of the full budget does not fit behind nothing.
              subst empty
              rw [List.length_nil] at fits
              obtain ⟨after, pieces, same⟩ := whole (by omega)
              rw [same]
              exact .empty (by omega) fresh pieces
            · exact .cons empty within opens later

theorem ink_joinSentences (positive : 0 < chunkSize) (sentences : List Text) (current : Text) :
    ink isSpace (joinSentences chunkSize current sentences).flatten =
      ink isSpace current ++ ink isSpace sentences.flatten := by
  induction sentences generalizing current with
  | nil => rw [joinSentences, flatten_single, List.flatten_nil, ink_nil, List.append_nil]
  | cons part rest ih =>
      have own : ink isSpace (strip part) = ink isSpace part := ink_trim
      simp only [joinSentences]
      rw [List.flatten_cons, ink_append]
      by_cases blank : strip part = []
      · rw [if_pos blank, ih, trim_ink.mp blank, List.nil_append]
      · rw [if_neg blank]
        by_cases long : chunkSize < (strip part).length
        · obtain ⟨_, kept⟩ := hardCut_pieces positive (opens_trim : Opens isSpace (strip part))
          rw [if_pos long, List.flatten_append, List.flatten_append, flatten_single, ink_append,
            ink_append, kept, ih, own, ink_nil, List.nil_append, List.append_assoc]
        · rw [if_neg long]
          by_cases fits : current.length + (strip part).length + 1 ≤ chunkSize
          · rw [if_pos fits, ih, ink_trim, ink_append, ink_cons_space (by decide), own,
              List.append_assoc]
          · rw [if_neg fits, List.flatten_cons, ink_append, ih, own]

theorem splitSentences_pieces (positive : 0 < chunkSize) (paragraph : Text) :
    Pieces chunkSize (splitSentences chunkSize paragraph) ∧
      ink isSpace (splitSentences chunkSize paragraph).flatten = ink isSpace paragraph := by
  have none' : ([] : Text).length ≤ chunkSize := Nat.zero_le chunkSize
  refine ⟨(joinSentences_pieces positive none' opens_nil).1, ?_⟩
  rw [splitSentences, ink_joinSentences positive, ink_splitAt sentenceBreak_blank, ink_nil,
    List.nil_append, List.drop_zero]

def paragraphPieces (chunkSize : Nat) (part : Text) : List Text :=
  if strip part = [] then []
  else if (strip part).length ≤ chunkSize then [strip part]
  else splitSentences chunkSize (strip part)

theorem paragraphPieces_pieces (positive : 0 < chunkSize) (part : Text) :
    Pieces chunkSize (paragraphPieces chunkSize part) ∧
      ink isSpace (paragraphPieces chunkSize part).flatten = ink isSpace part := by
  have own : ink isSpace (strip part) = ink isSpace part := ink_trim
  unfold paragraphPieces
  by_cases blank : strip part = []
  · rw [if_pos blank]
    exact ⟨.nil, (trim_ink.mp blank).symm⟩
  · rw [if_neg blank]
    by_cases fits : (strip part).length ≤ chunkSize
    · rw [if_pos fits]
      exact ⟨.cons blank fits opens_trim .nil, by rw [List.flatten_singleton, own]⟩
    · rw [if_neg fits, ← own]
      exact splitSentences_pieces positive _

theorem piecesOf_pieces (positive : 0 < chunkSize) (text : Text) :
    Pieces chunkSize (piecesOf chunkSize text) :=
  Pieces.flatMap fun part _ => (paragraphPieces_pieces positive part).1

theorem ink_piecesOf (positive : 0 < chunkSize) (text : Text) :
    ink isSpace (piecesOf chunkSize text).flatten = ink isSpace text := by
  have each (parts : List Text) :
      ink isSpace (parts.flatMap (paragraphPieces chunkSize)).flatten =
        ink isSpace parts.flatten := by
    induction parts with
    | nil => rfl
    | cons part rest ih =>
        rw [List.flatMap_cons, List.flatten_append, ink_append, ih, List.flatten_cons, ink_append,
          (paragraphPieces_pieces positive part).2]
  calc ink isSpace (piecesOf chunkSize text).flatten
      = ink isSpace (splitAt paragraphBreak none 0 text).flatten := each _
    _ = ink isSpace text := by rw [ink_splitAt paragraphBreak_blank, List.drop_zero]

end AiPlatform.Chunking
