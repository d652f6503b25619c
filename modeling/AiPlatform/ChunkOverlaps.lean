import AiPlatform.ChunkPieces

/-!
What each chunk repeats of the one before it and what it has of its own. The
packer is followed with the packed text in these two parts; together the parts
are the text that the source packs.
-/

namespace AiPlatform.Chunking

open Agents (isSpace)
open Knowledge (Chunk ParsedSegment)
open Trimming

variable {chunkSize overlap : Nat}

/-- A text that begins with what was carried over from the chunk before. -/
structure Part where
  repeated : Text
  fresh : Text

def Part.text (part : Part) : Text := part.repeated ++ part.fresh

def Part.trimmed (part : Part) : Part :=
  let fresh := part.fresh.rdropWhile isSpace
  ⟨if fresh = [] then part.repeated.rdropWhile isSpace else part.repeated, fresh⟩

/-- `candidate` -/
def joinPart (part : Part) (piece : Text) : Part :=
  if part.text = [] then ⟨[], piece⟩ else ⟨part.repeated, part.fresh ++ '\n' :: '\n' :: piece⟩

/-- `carryOver` -/
def carryPart (chunkSize overlap : Nat) (current piece : Text) : Part :=
  let joined : Part := if overlap = 0 then ⟨[], piece⟩
    else Part.trimmed ⟨(tailOf overlap current ++ ['\n', '\n']).dropWhile isSpace, piece⟩
  if chunkSize < joined.text.length then ⟨[], piece⟩ else joined

/-- `packStep` -/
def partStep (chunkSize overlap : Nat) (part : Part) (piece : Text) : Option Part × Part :=
  if (candidate part.text piece).length ≤ chunkSize then (none, joinPart part piece)
  else if part.text = [] then (none, ⟨[], piece⟩)
  else (some part.trimmed, carryPart chunkSize overlap part.text piece)

/-- `packFrom` -/
def partsFrom (chunkSize overlap : Nat) : Part → List Text → List Part
  | part, [] => if part.text = [] then [] else [part.trimmed]
  | part, piece :: rest =>
      let step := partStep chunkSize overlap part piece
      step.1.toList ++ partsFrom chunkSize overlap step.2 rest

def partsOf (chunkSize overlap : Nat) (text : Text) : List Part :=
  let text := strip text
  if text = [] then []
  else if text.length ≤ chunkSize then [⟨[], text⟩]
  else partsFrom chunkSize overlap ⟨[], []⟩ (piecesOf chunkSize text)

structure Piece (chunkSize : Nat) (piece : Text) : Prop where
  within : piece.length ≤ chunkSize
  opens : Opens isSpace piece

theorem Pieces.each {pieces : List Text} (fine : Pieces chunkSize pieces) :
    ∀ piece ∈ pieces, Piece chunkSize piece := by
  induction fine with
  | nil => exact List.forall_mem_nil _
  | cons some within opens _ ih => exact List.forall_mem_cons.mpr ⟨⟨within, opens⟩, ih⟩
  | empty full opens _ ih =>
      exact List.forall_mem_cons.mpr ⟨⟨Nat.zero_le _, opens_nil⟩,
        List.forall_mem_cons.mpr ⟨⟨full.le, opens⟩, ih⟩⟩

theorem Part.trimmed_text (part : Part) : part.trimmed.text = part.text.rdropWhile isSpace := by
  rw [Part.text, Part.text, rdropWhile_append, Part.trimmed]
  by_cases empty : part.fresh.rdropWhile isSpace = []
  · simp [empty]
  · simp [empty]

theorem joinPart_text (part : Part) (piece : Text) :
    (joinPart part piece).text = candidate part.text piece := by
  unfold joinPart candidate
  by_cases empty : part.text = []
  · rw [if_pos empty, if_pos empty]
    rfl
  · rw [if_neg empty, if_neg empty, Part.text, Part.text, List.append_assoc]

theorem strip_tail (tail : Text) {piece : Text} (opens : Opens isSpace piece) :
    strip (tail ++ '\n' :: '\n' :: piece) =
      (Part.trimmed ⟨(tail ++ ['\n', '\n']).dropWhile isSpace, piece⟩).text := by
  have split : tail ++ '\n' :: '\n' :: piece = (tail ++ ['\n', '\n']) ++ piece := by simp
  rw [Part.trimmed_text, Part.text, ← dropWhile_append_opens opens, split]
  rfl

theorem carryPart_text {piece : Text} (opens : Opens isSpace piece) (current : Text) :
    (carryPart chunkSize overlap current piece).text =
      carryOver chunkSize overlap current piece := by
  by_cases off : overlap = 0
  · simp only [carryPart, carryOver, if_pos off]
    by_cases long : chunkSize < piece.length
    · simp [long, Part.text]
    · simp [long, Part.text]
  · simp only [carryPart, carryOver, if_neg off, strip_tail _ opens]
    by_cases long : chunkSize < (Part.trimmed
        ⟨(tailOf overlap current ++ ['\n', '\n']).dropWhile isSpace, piece⟩).text.length
    · rw [if_pos long, if_pos long]
      rfl
    · rw [if_neg long, if_neg long]

theorem carryOver_piece {piece : Text} (given : Piece chunkSize piece) (current : Text) :
    Piece chunkSize (carryOver chunkSize overlap current piece) := by
  unfold carryOver
  by_cases off : overlap = 0
  · simp only [if_pos off, ite_self]
    exact given
  · simp only [if_neg off]
    split
    · exact given
    · rename_i short
      exact ⟨Nat.le_of_not_lt short, opens_trim⟩

theorem packStep_piece {current piece : Text} (fine : Piece chunkSize current)
    (given : Piece chunkSize piece) :
    Piece chunkSize (packStep chunkSize overlap current piece).2 := by
  unfold packStep
  by_cases fits : (candidate current piece).length ≤ chunkSize
  · rw [if_pos fits]
    refine ⟨fits, ?_⟩
    unfold candidate
    by_cases empty : current = []
    · rw [if_pos empty]
      exact given.opens
    · rw [if_neg empty]
      exact fine.opens.append empty
  · rw [if_neg fits]
    by_cases empty : current = []
    · rw [if_pos empty]
      exact given
    · rw [if_neg empty]
      exact carryOver_piece given current

theorem strip_piece {text : Text} (fine : Piece chunkSize text) :
    strip text = text.rdropWhile isSpace := fine.opens.trim

theorem partStep_text (overlap : Nat) {part : Part} {piece : Text} (fine : Piece chunkSize part.text)
    (given : Piece chunkSize piece) :
    (partStep chunkSize overlap part piece).1.map Part.text =
        (packStep chunkSize overlap part.text piece).1.map strip ∧
      (partStep chunkSize overlap part piece).2.text =
        (packStep chunkSize overlap part.text piece).2 := by
  unfold partStep packStep
  by_cases fits : (candidate part.text piece).length ≤ chunkSize
  · rw [if_pos fits, if_pos fits]
    exact ⟨rfl, joinPart_text part piece⟩
  · rw [if_neg fits, if_neg fits]
    by_cases empty : part.text = []
    · rw [if_pos empty, if_pos empty]
      exact ⟨rfl, rfl⟩
    · rw [if_neg empty, if_neg empty]
      refine ⟨?_, carryPart_text given.opens part.text⟩
      rw [Option.map_some, Option.map_some, Part.trimmed_text, strip_piece fine]

theorem partsFrom_text {pieces : List Text} {part : Part} (fine : Piece chunkSize part.text)
    (given : ∀ piece ∈ pieces, Piece chunkSize piece) :
    (partsFrom chunkSize overlap part pieces).map Part.text =
      (packFrom chunkSize overlap part.text pieces).map strip := by
  induction pieces generalizing part with
  | nil =>
      rw [partsFrom, packFrom]
      by_cases empty : part.text = []
      · rw [if_pos empty, if_pos empty]
        rfl
      · rw [if_neg empty, if_neg empty, List.map_singleton, List.map_singleton,
          Part.trimmed_text, strip_piece fine]
  | cons piece rest ih =>
      obtain ⟨first, later⟩ := List.forall_mem_cons.mp given
      obtain ⟨emitted, next⟩ := partStep_text overlap fine first
      have kept : Piece chunkSize (partStep chunkSize overlap part piece).2.text := by
        rw [next]
        exact packStep_piece fine first
      have out : (partStep chunkSize overlap part piece).1.toList.map Part.text =
          (packStep chunkSize overlap part.text piece).1.toList.map strip := by
        rw [← Option.toList_map, emitted, Option.toList_map]
      simp only [partsFrom, packFrom, List.map_append]
      rw [out, ih kept later, next]

theorem partsOf_text (positive : 0 < chunkSize) (text : Text) :
    (partsOf chunkSize overlap text).map Part.text = (split chunkSize overlap text).map strip := by
  simp only [partsOf, split]
  by_cases empty : strip text = []
  · rw [if_pos empty, if_pos empty]
    rfl
  · rw [if_neg empty, if_neg empty]
    by_cases short : (strip text).length ≤ chunkSize
    · have stripped : strip (strip text) = strip text := trim_trim
      rw [if_pos short, if_pos short, List.map_singleton, List.map_singleton, stripped]
      rfl
    · rw [if_neg short, if_neg short]
      exact partsFrom_text ⟨Nat.zero_le _, opens_nil⟩ (piecesOf_pieces positive _).each

/-- What is carried over is an end of the chunk before, but for the spaces around it,
and no longer than the overlap. -/
def Repeats (overlap : Nat) (before repeated : Text) : Prop :=
  strip repeated <:+ before ∧ (strip repeated).length ≤ overlap

/-- Every part repeats of the one before it; in front of the first there is `before`. -/
def Overlapping (overlap : Nat) : Text → List Part → Prop
  | _, [] => True
  | before, part :: rest =>
      Repeats overlap before part.repeated ∧ Overlapping overlap part.text rest

theorem repeats_nil (before : Text) : Repeats overlap before [] :=
  ⟨List.nil_suffix, Nat.zero_le _⟩

theorem Repeats.of_strip {before one other : Text} (repeats : Repeats overlap before one)
    (same : strip other = strip one) : Repeats overlap before other := by
  rw [Repeats, same]
  exact repeats

theorem strip_trimmed_repeated (part : Part) : strip part.trimmed.repeated = strip part.repeated := by
  simp only [Part.trimmed]
  split
  · exact trim_rdropWhile
  · rfl

theorem tailOf_suffix (text : Text) : tailOf overlap text <:+ text := by
  unfold tailOf
  split
  · exact List.suffix_refl _
  · have cut : text.drop (text.length - overlap) <:+ text := List.drop_suffix ..
    dsimp only
    split
    · exact cut
    · rename_i c word found
      have rest : word <:+ (text.drop (text.length - overlap)).dropWhile (· ≠ ' ') := by
        rw [found]
        exact List.suffix_cons c word
      exact (rest.trans (List.dropWhile_suffix _)).trans cut

theorem tailOf_length (given : overlap ≠ 0) (text : Text) : (tailOf overlap text).length ≤ overlap := by
  unfold tailOf
  by_cases short : text.length ≤ overlap
  · rw [if_pos (.inr short)]
    exact short
  · rw [if_neg (by simp [given, short])]
    have cut : (text.drop (text.length - overlap)).length ≤ overlap := by
      rw [List.length_drop]
      omega
    dsimp only
    split
    · exact cut
    · rename_i c word found
      have rest := (List.dropWhile_suffix (l := text.drop (text.length - overlap))
        (· ≠ ' ')).length_le
      rw [found, List.length_cons] at rest
      omega

theorem carryPart_repeats (current piece : Text) :
    Repeats overlap (current.rdropWhile isSpace)
      (carryPart chunkSize overlap current piece).repeated := by
  unfold carryPart
  by_cases off : overlap = 0
  · simp only [if_pos off, ite_self]
    exact repeats_nil _
  · simp only [if_neg off]
    split
    · exact repeats_nil _
    · have tail : Repeats overlap (current.rdropWhile isSpace) (tailOf overlap current) :=
        ⟨trim_suffix (tailOf_suffix current), length_trim_le.trans (tailOf_length off current)⟩
      refine tail.of_strip ?_
      rw [strip_trimmed_repeated]
      exact trim_dropWhile.trans (trim_append_blank (by decide))

theorem joinPart_repeated (part : Part) (piece : Text) :
    (joinPart part piece).repeated = part.repeated ∨ (joinPart part piece).repeated = [] := by
  unfold joinPart
  split
  · exact .inr rfl
  · exact .inl rfl

theorem partsFrom_overlapping {pieces : List Text} {part : Part} {before : Text}
    (repeats : Repeats overlap before part.repeated) :
    Overlapping overlap before (partsFrom chunkSize overlap part pieces) := by
  induction pieces generalizing part before with
  | nil =>
      rw [partsFrom]
      split
      · trivial
      · exact ⟨repeats.of_strip (strip_trimmed_repeated part), trivial⟩
  | cons piece rest ih =>
      simp only [partsFrom, partStep]
      by_cases fits : (candidate part.text piece).length ≤ chunkSize
      · rw [if_pos fits]
        apply ih
        rcases joinPart_repeated part piece with same | none
        · rw [same]
          exact repeats
        · rw [none]
          exact repeats_nil before
      · rw [if_neg fits]
        by_cases empty : part.text = []
        · rw [if_pos empty]
          exact ih (repeats_nil before)
        · rw [if_neg empty]
          refine ⟨repeats.of_strip (strip_trimmed_repeated part), ih ?_⟩
          rw [Part.trimmed_text]
          exact carryPart_repeats part.text piece

theorem ink_trimmed (part : Part) : ink isSpace part.trimmed.fresh = ink isSpace part.fresh :=
  ink_rdropWhile

theorem carryPart_ink (current piece : Text) :
    ink isSpace (carryPart chunkSize overlap current piece).fresh = ink isSpace piece := by
  unfold carryPart
  by_cases off : overlap = 0
  · simp only [if_pos off, ite_self]
  · simp only [if_neg off]
    split
    · rfl
    · exact ink_rdropWhile

theorem partStep_ink (part : Part) (piece : Text) :
    ink isSpace ((partStep chunkSize overlap part piece).1.toList.flatMap Part.fresh) ++
        ink isSpace (partStep chunkSize overlap part piece).2.fresh =
      ink isSpace part.fresh ++ ink isSpace piece := by
  have packed (empty : part.text = []) : part.fresh = [] :=
    (List.append_eq_nil_iff.mp empty).2
  unfold partStep
  by_cases fits : (candidate part.text piece).length ≤ chunkSize
  · rw [if_pos fits]
    unfold joinPart
    by_cases empty : part.text = []
    · rw [if_pos empty, packed empty]
      rfl
    · rw [if_neg empty]
      change ink isSpace (part.fresh ++ '\n' :: '\n' :: piece) = _
      rw [ink_append, ink_cons_space (by decide), ink_cons_space (by decide)]
  · rw [if_neg fits]
    by_cases empty : part.text = []
    · rw [if_pos empty, packed empty]
      rfl
    · rw [if_neg empty]
      simp only [Option.toList_some, List.flatMap_singleton]
      rw [ink_trimmed, carryPart_ink]

theorem partsFrom_ink (pieces : List Text) (part : Part) :
    ink isSpace ((partsFrom chunkSize overlap part pieces).flatMap Part.fresh) =
      ink isSpace part.fresh ++ ink isSpace pieces.flatten := by
  induction pieces generalizing part with
  | nil =>
      rw [partsFrom, List.flatten_nil, ink_nil, List.append_nil]
      split
      · rename_i empty
        rw [(List.append_eq_nil_iff.mp empty).2]
        rfl
      · rw [List.flatMap_singleton, ink_trimmed]
  | cons piece rest ih =>
      simp only [partsFrom]
      rw [List.flatMap_append, ink_append, ih, ← List.append_assoc, partStep_ink,
        List.flatten_cons, ink_append, List.append_assoc]

theorem partsFrom_sizes {pieces : List Text} {part : Part} (fine : Piece chunkSize part.text)
    (given : ∀ piece ∈ pieces, Piece chunkSize piece) :
    ∀ out ∈ partsFrom chunkSize overlap part pieces, out.text ≠ [] ∧ out.text.length ≤ chunkSize := by
  have emitted {part : Part} (fine : Piece chunkSize part.text) (some : part.text ≠ []) :
      part.trimmed.text ≠ [] ∧ part.trimmed.text.length ≤ chunkSize := by
    rw [Part.trimmed_text]
    refine ⟨fun blank => some ?_, (List.rdropWhile_prefix ..).length_le.trans fine.within⟩
    exact fine.opens.ink.mp (rdropWhile_ink.mp blank)
  induction pieces generalizing part with
  | nil =>
      rw [partsFrom]
      split
      · exact List.forall_mem_nil _
      · rename_i some
        exact List.forall_mem_singleton.mpr (emitted fine some)
  | cons piece rest ih =>
      obtain ⟨first, later⟩ := List.forall_mem_cons.mp given
      have kept : Piece chunkSize (partStep chunkSize overlap part piece).2.text := by
        rw [(partStep_text overlap fine first).2]
        exact packStep_piece fine first
      simp only [partsFrom]
      refine List.forall_mem_append.mpr ⟨?_, ih kept later⟩
      unfold partStep
      split
      · exact List.forall_mem_nil _
      · split
        · exact List.forall_mem_nil _
        · rename_i some
          exact List.forall_mem_singleton.mpr (emitted fine some)

/-- The texts cover a text: each is one of the chunk before in part, and what they have
of their own is the text but for its spaces. -/
def Covers (overlap : Nat) (text : Text) (texts : List Text) : Prop :=
  ∃ parts : List Part, parts.map Part.text = texts ∧ Overlapping overlap [] parts ∧
    ink isSpace (parts.flatMap Part.fresh) = ink isSpace text

theorem partsOf_sizes (positive : 0 < chunkSize) (text : Text) :
    ∀ part ∈ partsOf chunkSize overlap text,
      part.text ≠ [] ∧ part.text.length ≤ chunkSize := by
  simp only [partsOf]
  by_cases empty : strip text = []
  · rw [if_pos empty]
    exact List.forall_mem_nil _
  · rw [if_neg empty]
    by_cases short : (strip text).length ≤ chunkSize
    · rw [if_pos short]
      exact List.forall_mem_singleton.mpr ⟨empty, short⟩
    · rw [if_neg short]
      exact partsFrom_sizes ⟨Nat.zero_le _, opens_nil⟩ (piecesOf_pieces positive _).each

theorem partsOf_overlapping (text : Text) :
    Overlapping overlap [] (partsOf chunkSize overlap text) := by
  simp only [partsOf]
  split
  · trivial
  · split
    · exact ⟨repeats_nil [], trivial⟩
    · exact partsFrom_overlapping (repeats_nil [])

theorem partsOf_ink (positive : 0 < chunkSize) (text : Text) :
    ink isSpace ((partsOf chunkSize overlap text).flatMap Part.fresh) = ink isSpace text := by
  have own : ink isSpace (strip text) = ink isSpace text := ink_trim
  simp only [partsOf]
  by_cases empty : strip text = []
  · rw [if_pos empty, ← own, empty]
    rfl
  · rw [if_neg empty]
    by_cases short : (strip text).length ≤ chunkSize
    · rw [if_pos short, List.flatMap_singleton, own]
    · rw [if_neg short, partsFrom_ink, ink_piecesOf positive, own]
      rfl

end AiPlatform.Chunking
