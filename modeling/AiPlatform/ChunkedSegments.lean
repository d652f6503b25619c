import AiPlatform.ChunkOverlaps

/-!
The chunks of a document. They are numbered through, each belongs to one segment,
and the chunks of a segment hold all of its text. Whether each of them has text of
its own depends on the packer never being given an empty piece at a bad moment.
-/

namespace AiPlatform.Chunking

open Agents (isSpace)
open Knowledge (Chunk ParsedSegment)
open Trimming

structure Chunked (chunkSize : Int) (overlap : Nat) (segment : ParsedSegment) (group : List Chunk) :
    Prop where
  located : ∀ chunk ∈ group, chunk.location = segment.location
  some : ∀ chunk ∈ group, strip chunk.text.toList ≠ []
  within : ∀ chunk ∈ group, (chunk.text.length : Int) ≤ chunkSize
  covers : Covers overlap segment.text.toList (group.map fun chunk => chunk.text.toList)

theorem chunks_appended (location : Option String) (texts : List Text) (chunks : List Chunk) :
    ∃ group, texts.foldl (appendChunk location) chunks = chunks ++ group ∧
      group.map (·.ordinal) = List.range' chunks.length group.length ∧
      (∀ chunk ∈ group, chunk.location = location) ∧
      group.map (fun chunk => chunk.text.toList) = (texts.map strip).filter (· ≠ []) := by
  induction texts generalizing chunks with
  | nil => exact ⟨[], by simp, rfl, List.forall_mem_nil _, rfl⟩
  | cons text rest ih =>
      obtain ⟨group, appended, numbered, located, same⟩ := ih (appendChunk location chunks text)
      rw [List.foldl_cons, appended]
      by_cases empty : strip text = []
      · have unchanged : appendChunk location chunks text = chunks := by simp [appendChunk, empty]
        rw [unchanged] at numbered ⊢
        exact ⟨group, rfl, numbered, located, by simp [empty, same]⟩
      · have added : appendChunk location chunks text =
            chunks ++ [⟨chunks.length, String.ofList (strip text), location⟩] := by
          simp [appendChunk, empty]
        rw [added] at numbered ⊢
        refine ⟨⟨chunks.length, String.ofList (strip text), location⟩ :: group, by simp, ?_, ?_, ?_⟩
        · rw [List.map_cons, numbered, List.length_cons, List.range'_succ, List.length_append]
          rfl
        · exact List.forall_mem_cons.mpr ⟨rfl, located⟩
        · simp [empty, same]

theorem split_texts {chunkSize overlap : Nat} (positive : 0 < chunkSize) (text : Text) :
    ((split chunkSize overlap text).map strip).filter (· ≠ []) =
      (partsOf chunkSize overlap text).map Part.text := by
  rw [← partsOf_text positive, List.filter_eq_self]
  intro out member
  obtain ⟨part, listed, rfl⟩ := List.mem_map.mp member
  simpa using (partsOf_sizes positive text part listed).1

def partsFor (chunkSize overlap : Int) (text : Text) : List Part :=
  partsOf chunkSize.toNat (clamped chunkSize overlap) text

theorem segment_chunks {chunkSize : Int} (overlap : Int) (positive : 0 < chunkSize) (segment : ParsedSegment)
    (chunks : List Chunk) :
    ∃ group, (split chunkSize.toNat (clamped chunkSize overlap) segment.text.toList).foldl
          (appendChunk segment.location) chunks = chunks ++ group ∧
      group.map (·.ordinal) = List.range' chunks.length group.length ∧
      Chunked chunkSize (clamped chunkSize overlap) segment group ∧
      group.map (fun chunk => chunk.text.toList) =
        (partsFor chunkSize overlap segment.text.toList).map Part.text := by
  have positive' : 0 < chunkSize.toNat := by omega
  obtain ⟨group, appended, numbered, located, same⟩ := chunks_appended segment.location
    (split chunkSize.toNat (clamped chunkSize overlap) segment.text.toList) chunks
  rw [split_texts positive'] at same
  have part {chunk : Chunk} (member : chunk ∈ group) :
      ∃ part ∈ partsFor chunkSize overlap segment.text.toList, part.text = chunk.text.toList := by
    have listed : chunk.text.toList ∈ group.map fun chunk => chunk.text.toList :=
      List.mem_map_of_mem member
    rw [same] at listed
    exact List.mem_map.mp listed
  refine ⟨group, appended, numbered, ⟨located, ?_, ?_, ?_⟩, same⟩
  · intro chunk member
    have texts : chunk.text.toList ∈ ((split chunkSize.toNat (clamped chunkSize overlap)
        segment.text.toList).map strip).filter (· ≠ []) := by
      rw [split_texts positive', ← same]
      exact List.mem_map_of_mem member
    obtain ⟨listed, some⟩ := List.mem_filter.mp texts
    obtain ⟨raw, _, stripped⟩ := List.mem_map.mp listed
    rw [← stripped] at some ⊢
    have twice : strip (strip raw) = strip raw := trim_trim
    rw [twice]
    simpa using some
  · intro chunk member
    obtain ⟨part, listed, text⟩ := part member
    have bound := (partsOf_sizes positive' _ part listed).2
    rw [text, String.length_toList] at bound
    omega
  · exact ⟨_, same.symm, partsOf_overlapping _, partsOf_ink positive' _⟩

theorem segments_chunks {chunkSize : Int} (overlap : Int) (positive : 0 < chunkSize)
    (segments : List ParsedSegment) (chunks : List Chunk) :
    ∃ groups : List (List Chunk), segments.foldl (fun chunks segment =>
        (split chunkSize.toNat (clamped chunkSize overlap) segment.text.toList).foldl
          (appendChunk segment.location) chunks) chunks = chunks ++ groups.flatten ∧
      groups.flatten.map (·.ordinal) = List.range' chunks.length groups.flatten.length ∧
      List.Forall₂ (fun segment group => Chunked chunkSize (clamped chunkSize overlap) segment group ∧
        group.map (fun chunk => chunk.text.toList) =
          (partsFor chunkSize overlap segment.text.toList).map Part.text) segments groups := by
  induction segments generalizing chunks with
  | nil => exact ⟨[], by simp, rfl, .nil⟩
  | cons segment rest ih =>
      obtain ⟨group, appended, numbered, chunked⟩ :=
        segment_chunks overlap positive segment chunks
      obtain ⟨groups, more, further, others⟩ := ih (chunks ++ group)
      refine ⟨group :: groups, ?_, ?_, .cons chunked others⟩
      · rw [List.foldl_cons, appended, more, List.flatten_cons, List.append_assoc]
      · rw [List.length_append] at further
        rw [List.flatten_cons, List.map_append, numbered, further, List.length_append,
          List.range'_append_1]

/-- The chunks are numbered through; those of a segment are located in it, within the
size and not empty, and beside what each repeats they hold the segment but for its spaces. -/
theorem chunks_hold_the_segments (segments : List ParsedSegment) (chunkSize overlap : Int)
    (positive : 0 < chunkSize) :
    ∃ groups : List (List Chunk),
      chunkSegments segments chunkSize overlap = .ok groups.flatten ∧
      groups.flatten.map (·.ordinal) = List.range groups.flatten.length ∧
      List.Forall₂ (Chunked chunkSize (clamped chunkSize overlap)) segments groups := by
  obtain ⟨groups, all, numbered, chunked⟩ :=
    segments_chunks overlap positive segments []
  refine ⟨groups, ?_, ?_, chunked.imp fun _ _ both => both.1⟩
  · rw [chunkSegments, if_neg (by omega), all, List.nil_append]
  · rw [numbered, List.range_eq_range', List.length_nil]

theorem a_page_and_a_heading_are_held :
    ((chunkSegments [⟨"Leave is granted.\n\nAsk early. It is short.", some "page 1"⟩, ⟨" II ", none⟩]
      20 12).toOption.map fun chunks => chunks.map fun chunk => (chunk.ordinal, chunk.text)) =
        some [(0, "Leave is granted."), (1, "granted.\n\nAsk early."), (2, "early.\n\nIt is short."),
          (3, "II")] ∧
    ∃ groups : List (List Chunk),
      chunkSegments [⟨"Leave is granted.\n\nAsk early. It is short.", some "page 1"⟩, ⟨" II ", none⟩]
        20 12 = .ok groups.flatten ∧
      groups.flatten.map (·.ordinal) = List.range groups.flatten.length ∧
      List.Forall₂ (Chunked 20 (clamped 20 12))
        [⟨"Leave is granted.\n\nAsk early. It is short.", some "page 1"⟩, ⟨" II ", none⟩] groups :=
  ⟨by decide +kernel, chunks_hold_the_segments _ 20 12 (by decide)⟩

section Fresh

variable {chunkSize overlap : Nat}

def packed (chunkSize overlap : Nat) (current : Text) (pieces : List Text) : Text :=
  pieces.foldl (fun current piece => (packStep chunkSize overlap current piece).2) current

/-- An empty piece comes when it cannot be joined, so the packed text is emitted and its
tail is all that is packed next. -/
def Stale (chunkSize overlap : Nat) (current piece : Text) : Prop :=
  piece = [] ∧ overlap ≠ 0 ∧ chunkSize < current.length + 2 ∧ strip (tailOf overlap current) ≠ []

def NeverStale (chunkSize overlap : Nat) (current : Text) (pieces : List Text) : Prop :=
  ∀ before piece after, pieces = before ++ piece :: after →
    ¬ Stale chunkSize overlap (packed chunkSize overlap current before) piece

def Part.IsFresh (part : Part) : Prop := part.text = [] ∨ ink isSpace part.fresh ≠ []

theorem fresh_alone {piece : Text} (opens : Opens isSpace piece) : Part.IsFresh ⟨[], piece⟩ := by
  by_cases empty : piece = []
  · exact .inl empty
  · exact .inr fun blank => empty (opens.ink.mp blank)

theorem trimmed_fresh (part : Part) : part.trimmed.fresh ≠ [] ↔ ink isSpace part.fresh ≠ [] :=
  rdropWhile_ink.not

theorem partStep_fresh {part : Part} {piece : Text} (fresh : part.IsFresh)
    (given : Piece chunkSize piece) (alive : ¬ Stale chunkSize overlap part.text piece) :
    (∀ out ∈ (partStep chunkSize overlap part piece).1, out.fresh ≠ []) ∧
      (partStep chunkSize overlap part piece).2.IsFresh := by
  unfold partStep
  by_cases fits : (candidate part.text piece).length ≤ chunkSize
  · rw [if_pos fits]
    refine ⟨fun out none' => (nomatch none'), ?_⟩
    unfold joinPart
    by_cases empty : part.text = []
    · rw [if_pos empty]
      exact fresh_alone given.opens
    · rw [if_neg empty]
      refine .inr fun blank => ?_
      rw [ink_append] at blank
      exact fresh.resolve_left empty (List.append_eq_nil_iff.mp blank).1
  · rw [if_neg fits]
    by_cases empty : part.text = []
    · rw [if_pos empty]
      exact ⟨fun out none' => (nomatch none'), fresh_alone given.opens⟩
    · rw [if_neg empty]
      constructor
      · rintro out ⟨⟩
        exact (trimmed_fresh part).mpr (fresh.resolve_left empty)
      · by_cases none' : piece = []
        · -- The tail is blank, as the step is not stale, so nothing is carried over.
          subst none'
          refine .inl ?_
          rw [carryPart_text opens_nil]
          have full : chunkSize < part.text.length + 2 := by
            rw [candidate, if_neg empty, List.length_append] at fits
            simpa using fits
          unfold carryOver
          by_cases off : overlap = 0
          · simp [off]
          · have blank : strip (tailOf overlap part.text) = [] := by
              by_contra left
              exact alive ⟨rfl, off, full, left⟩
            have joined : strip (tailOf overlap part.text ++ ['\n', '\n']) = [] :=
              (trim_append_blank (by decide)).trans blank
            simp [off, joined]
        · refine .inr ?_
          rw [carryPart_ink]
          exact fun blank => none' (given.opens.ink.mp blank)

theorem partsFrom_fresh {pieces : List Text} {part : Part} (fresh : part.IsFresh)
    (fine : Piece chunkSize part.text) (given : ∀ piece ∈ pieces, Piece chunkSize piece)
    (alive : NeverStale chunkSize overlap part.text pieces) :
    ∀ out ∈ partsFrom chunkSize overlap part pieces, out.fresh ≠ [] := by
  induction pieces generalizing part with
  | nil =>
      rw [partsFrom]
      split
      · exact List.forall_mem_nil _
      · rename_i some
        exact List.forall_mem_singleton.mpr ((trimmed_fresh part).mpr (fresh.resolve_left some))
  | cons piece rest ih =>
      obtain ⟨first, later⟩ := List.forall_mem_cons.mp given
      obtain ⟨emitted, kept⟩ := partStep_fresh fresh first (alive [] piece rest rfl)
      have text := (partStep_text overlap fine first).2
      simp only [partsFrom]
      refine List.forall_mem_append.mpr ⟨fun out member => emitted out (Option.mem_toList.mp member),
        ih kept ?_ later ?_⟩
      · rw [text]
        exact packStep_piece fine first
      · rw [text]
        intro before other after same
        exact alive (piece :: before) other after (by rw [same]; rfl)

theorem Pieces.followed (positive : 0 < chunkSize) {pieces before after : List Text}
    (fine : Pieces chunkSize pieces) (same : pieces = before ++ [] :: after) :
    ∃ full rest, after = full :: rest ∧ full.length = chunkSize ∧ Opens isSpace full := by
  induction fine generalizing before with
  | nil => cases before <;> cases same
  | cons some _ _ _ ih =>
      cases before with
      | nil =>
          cases same
          exact absurd rfl some
      | cons first before =>
          cases same
          exact ih rfl
  | empty full opens _ ih =>
      cases before with
      | nil =>
          cases same
          exact ⟨_, _, rfl, full, opens⟩
      | cons first before =>
          cases before with
          | nil =>
              cases same
              exact absurd full positive.ne
          | cons second before =>
              cases same
              exact ih rfl

theorem partsFrom_append (overlap : Nat) {before : List Text} {part : Part} (fine : Piece chunkSize part.text)
    (given : ∀ piece ∈ before, Piece chunkSize piece) (rest : List Text) :
    ∃ emitted next, partsFrom chunkSize overlap part (before ++ rest) =
        emitted ++ partsFrom chunkSize overlap next rest ∧
      next.text = packed chunkSize overlap part.text before ∧ Piece chunkSize next.text := by
  induction before generalizing part with
  | nil => exact ⟨[], part, rfl, rfl, fine⟩
  | cons piece before ih =>
      obtain ⟨first, later⟩ := List.forall_mem_cons.mp given
      have text := (partStep_text overlap fine first).2
      have kept : Piece chunkSize (partStep chunkSize overlap part piece).2.text := by
        rw [text]
        exact packStep_piece fine first
      obtain ⟨emitted, next, same, reached, fine'⟩ := ih kept later
      refine ⟨(partStep chunkSize overlap part piece).1.toList ++ emitted, next, ?_, ?_, fine'⟩
      · rw [List.cons_append, partsFrom, same, List.append_assoc]
      · rw [reached, text]
        rfl

theorem carryPart_empty (current : Text) :
    (carryPart chunkSize overlap current []).fresh = [] := by
  unfold carryPart
  by_cases off : overlap = 0
  · simp only [if_pos off, ite_self]
  · simp only [if_neg off]
    split
    · rfl
    · rfl

theorem stale_repeats {part : Part} {full : Text} (rest : List Text)
    (fine : Piece chunkSize part.text) (filled : full.length = chunkSize)
    (stale : Stale chunkSize overlap part.text []) :
    ∃ out ∈ partsFrom chunkSize overlap part ([] :: full :: rest), out.fresh = [] := by
  obtain ⟨_, given, crowded, left⟩ := stale
  have some : part.text ≠ [] := by
    intro empty
    have none' : tailOf overlap part.text = [] :=
      List.suffix_nil.mp (empty ▸ tailOf_suffix part.text)
    rw [none'] at left
    exact left rfl
  have first : partStep chunkSize overlap part [] =
      (.some part.trimmed, carryPart chunkSize overlap part.text []) := by
    unfold partStep
    rw [if_neg ?_, if_neg some]
    rw [candidate, if_neg some, List.length_append]
    simpa using crowded
  have carried : (carryPart chunkSize overlap part.text []).text ≠ [] := by
    rw [carryPart_text opens_nil]
    have joined : strip (tailOf overlap part.text ++ ['\n', '\n']) = strip (tailOf overlap part.text) :=
      trim_append_blank (by decide)
    have short : (strip (tailOf overlap part.text)).length ≤ chunkSize :=
      (length_trim_le.trans (tailOf_suffix part.text).length_le).trans fine.within
    simpa [carryOver, given, joined, Nat.not_lt.mpr short] using left
  have second : (partStep chunkSize overlap (carryPart chunkSize overlap part.text []) full).1 =
      .some (carryPart chunkSize overlap part.text []).trimmed := by
    unfold partStep
    rw [if_neg ?_, if_neg carried]
    rw [candidate, if_neg carried, List.length_append, List.length_cons, List.length_cons]
    omega
  refine ⟨(carryPart chunkSize overlap part.text []).trimmed, ?_, ?_⟩
  · simp only [partsFrom, first, second, Option.toList_some, List.mem_append, List.mem_singleton]
    exact .inr (.inl trivial)
  · rw [Part.trimmed, carryPart_empty]
    rfl

def WellPacked (chunkSize overlap : Nat) (text : Text) : Prop :=
  chunkSize < (strip text).length →
    NeverStale chunkSize overlap [] (piecesOf chunkSize (strip text))

theorem partsOf_fresh (positive : 0 < chunkSize) (text : Text) :
    (∀ part ∈ partsOf chunkSize overlap text, part.fresh ≠ []) ↔
      WellPacked chunkSize overlap text := by
  have start : Piece chunkSize ([] : Text) := ⟨Nat.zero_le _, opens_nil⟩
  have pieces := piecesOf_pieces positive (strip text)
  unfold WellPacked
  simp only [partsOf]
  by_cases empty : strip text = []
  · rw [if_pos empty, empty]
    exact iff_of_true (List.forall_mem_nil _) fun long => absurd long (Nat.not_lt_zero _)
  · rw [if_neg empty]
    by_cases short : (strip text).length ≤ chunkSize
    · rw [if_pos short]
      exact iff_of_true (List.forall_mem_singleton.mpr empty) fun long => absurd long (by omega)
    · rw [if_neg short]
      constructor
      · rintro fresh - before piece after same stale
        obtain rfl : piece = [] := stale.1
        obtain ⟨full, rest, rfl, filled, _⟩ := pieces.followed positive same
        have each : ∀ piece ∈ before, Piece chunkSize piece := fun piece member =>
          pieces.each piece (same ▸ List.mem_append_left _ member)
        obtain ⟨emitted, next, parts, reached, fine⟩ := @partsFrom_append chunkSize overlap before ⟨[], []⟩
          start each ([] :: full :: rest)
        have stuck : Stale chunkSize overlap next.text [] := by
          rw [reached]
          exact stale
        obtain ⟨out, member, none'⟩ := stale_repeats rest fine filled stuck
        refine fresh out ?_ none'
        rw [same, parts]
        exact List.mem_append_right _ member
      · intro alive
        have none' : Part.IsFresh ⟨[], []⟩ := .inl rfl
        exact partsFrom_fresh none' start pieces.each
          (alive (Nat.lt_of_not_le short))

end Fresh

def twoParagraphs : Text :=
  List.replicate 99 'a' ++ ' ' :: List.replicate 100 'b' ++ '\n' :: '\n' ::
    List.replicate 199 'c' ++ ['.', ' ', 'd']

end AiPlatform.Chunking
