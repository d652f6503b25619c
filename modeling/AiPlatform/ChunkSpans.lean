import AiPlatform.ChunkedSegments

/-!
Where in its segment a chunk stands, counted in characters that are no spaces. The
chunks begin one behind the other, except that one may begin with all of the one
before: then both begin at the same place.
-/

namespace AiPlatform.Chunking

open Agents (isSpace)
open Trimming

variable {chunkSize overlap : Nat}

structure Span where
  start : Nat
  stop : Nat

/-- The spans of parts, behind `seen` characters of the segment. -/
def spansFrom : Nat → List Part → List Span
  | _, [] => []
  | seen, part :: rest =>
      ⟨seen - (ink isSpace part.repeated).length, seen + (ink isSpace part.fresh).length⟩ ::
        spansFrom (seen + (ink isSpace part.fresh).length) rest

def spansOf (chunkSize overlap : Nat) (text : Text) : List Span :=
  spansFrom 0 (partsOf chunkSize overlap text)

def Span.of (span : Span) (text : Text) : Text :=
  ((ink isSpace text).take span.stop).drop span.start

theorem ink_text (part : Part) :
    ink isSpace part.text = ink isSpace part.repeated ++ ink isSpace part.fresh := ink_append

theorem ink_suffix {left right : Text} (ends : left <:+ right) :
    ink isSpace left <:+ ink isSpace right := by
  obtain ⟨front, rfl⟩ := ends
  rw [ink_append]
  exact List.suffix_append ..

theorem spansFrom_text {parts : List Part} {before front : Text}
    (overlapping : Overlapping overlap before parts) (known : ink isSpace before <:+ front) :
    List.Forall₂ (fun part span => ink isSpace part.text =
        ((front ++ ink isSpace (parts.flatMap Part.fresh)).take span.stop).drop span.start)
      parts (spansFrom front.length parts) := by
  induction parts generalizing before front with
  | nil => exact .nil
  | cons part rest ih =>
      obtain ⟨⟨ends, _⟩, later⟩ := overlapping
      have own : ink isSpace (strip part.repeated) = ink isSpace part.repeated := ink_trim
      obtain ⟨first, rfl⟩ := (own ▸ ink_suffix ends).trans known
      have next : ink isSpace part.text <:+
          first ++ ink isSpace part.repeated ++ ink isSpace part.fresh := by
        rw [ink_text, List.append_assoc]
        exact List.suffix_append ..
      have others := ih later next
      rw [List.length_append] at others
      refine .cons ?_ ?_
      · rw [ink_text, List.flatMap_cons, ink_append, ← List.append_assoc,
          ← List.length_append, List.take_left, List.append_assoc]
        simp
      · rw [List.flatMap_cons, ink_append, ← List.append_assoc]
        exact others

theorem spansOf_text (positive : 0 < chunkSize) (text : Text) :
    List.Forall₂ (fun chunk span => ink isSpace chunk = Span.of span text)
      ((partsOf chunkSize overlap text).map Part.text) (spansOf chunkSize overlap text) := by
  have own : ink isSpace ([] : Text) <:+ [] := List.suffix_rfl
  have held := spansFrom_text (@partsOf_overlapping chunkSize overlap text) own
  rw [partsOf_ink positive, List.nil_append] at held
  exact List.forall₂_map_left_iff.mpr held

theorem spansFrom_last {parts : List Part} (some : parts ≠ []) (seen : Nat) :
    ∃ span ∈ spansFrom seen parts,
      span.stop = seen + (ink isSpace (parts.flatMap Part.fresh)).length := by
  induction parts generalizing seen with
  | nil => exact absurd rfl some
  | cons part rest ih =>
      by_cases last : rest = []
      · subst last
        exact ⟨_, List.mem_cons_self, by simp⟩
      · obtain ⟨span, member, stop⟩ := ih last (seen + (ink isSpace part.fresh).length)
        refine ⟨span, List.mem_cons_of_mem _ member, ?_⟩
        rw [stop, List.flatMap_cons, ink_append, List.length_append, Nat.add_assoc]

theorem spansFrom_within (parts : List Part) (seen : Nat) :
    ∀ span ∈ spansFrom seen parts,
      span.stop ≤ seen + (ink isSpace (parts.flatMap Part.fresh)).length := by
  induction parts generalizing seen with
  | nil => exact List.forall_mem_nil _
  | cons part rest ih =>
      rw [List.flatMap_cons, ink_append, List.length_append, ← Nat.add_assoc]
      exact List.forall_mem_cons.mpr ⟨Nat.le_add_right .., ih _⟩

theorem opens_ink_pos {text : Text} (opens : Opens isSpace text) (some : text ≠ []) :
    0 < (ink isSpace text).length :=
  List.length_pos_iff.mpr fun blank => some (opens.ink.mp blank)

theorem ink_trimmed_repeated (part : Part) :
    ink isSpace part.trimmed.repeated = ink isSpace part.repeated := by
  simp only [Part.trimmed]
  split
  · exact ink_rdropWhile
  · rfl

theorem tailOf_short {text : Text} (short : text.length ≤ overlap) : tailOf overlap text = text := by
  rw [tailOf, if_pos (.inr short)]

def Drops (chunkSize overlap : Nat) (current piece : Text) : Prop :=
  current ≠ [] ∧ chunkSize < (candidate current piece).length ∧
    ¬ (current.length ≤ overlap ∧
      (strip (current ++ '\n' :: '\n' :: piece)).length ≤ chunkSize)

theorem carryPart_whole {current piece : Text} (opens : Opens isSpace piece) (some : current ≠ [])
    (short : current.length ≤ overlap)
    (fits : (strip (current ++ '\n' :: '\n' :: piece)).length ≤ chunkSize) :
    ink isSpace (carryPart chunkSize overlap current piece).repeated = ink isSpace current := by
  have filled := List.length_pos_iff.mpr some
  have on : overlap ≠ 0 := by omega
  rw [strip_tail current opens] at fits
  unfold carryPart
  simp only [if_neg on, tailOf_short short, if_neg (Nat.not_lt.mpr fits)]
  rw [ink_trimmed_repeated, ink_dropWhile, ink_append]
  exact List.append_nil _

theorem carryPart_ink_suffix (current piece : Text) :
    ink isSpace (carryPart chunkSize overlap current piece).repeated <:+ ink isSpace current := by
  obtain ⟨ends, _⟩ := @carryPart_repeats chunkSize overlap current piece
  have own : ink isSpace (strip (carryPart chunkSize overlap current piece).repeated) =
    ink isSpace (carryPart chunkSize overlap current piece).repeated := ink_trim
  have blank : ink isSpace (current.rdropWhile isSpace) = ink isSpace current := ink_rdropWhile
  rw [← own, ← blank]
  exact ink_suffix ends

theorem proper_suffix_ink {text tail : Text} (opens : Opens isSpace text) (ends : tail <:+ text)
    (shorter : tail.length < text.length) :
    (ink isSpace tail).length < (ink isSpace text).length := by
  obtain ⟨front, rfl⟩ := ends
  have some : front ≠ [] := by
    rintro rfl
    simp at shorter
  have first := opens_ink_pos (opens.of_prefix (List.prefix_append ..)) some
  rw [ink_append, List.length_append]
  omega

theorem carryPart_lost {current piece : Text} (opens : Opens isSpace current)
    (opens' : Opens isSpace piece) (drops : Drops chunkSize overlap current piece) :
    (ink isSpace (carryPart chunkSize overlap current piece).repeated).length <
      (ink isSpace current).length := by
  obtain ⟨some, _, lost⟩ := drops
  have none := opens_ink_pos opens some
  unfold carryPart
  by_cases off : overlap = 0
  · simpa [off] using none
  · simp only [if_neg off]
    split
    · simpa using none
    · next fits =>
        rw [← strip_tail _ opens'] at fits
        have longer : overlap < current.length := by
          by_contra short
          rw [Nat.not_lt] at short
          rw [tailOf_short short, Nat.not_lt] at fits
          exact lost ⟨short, fits⟩
        have shorter : (tailOf overlap current).length < current.length :=
          (tailOf_length off current).trans_lt longer
        have inks := proper_suffix_ink opens (tailOf_suffix current) shorter
        rw [ink_trimmed_repeated, ink_dropWhile, ink_append, List.length_append]
        exact inks

theorem repeated_nil {part : Part} (empty : part.text = []) : part.repeated = [] :=
  (List.append_eq_nil_iff.mp empty).1

theorem partStep_repeated {part : Part} {piece : Text}
    (none : (partStep chunkSize overlap part piece).1 = none) :
    (partStep chunkSize overlap part piece).2.repeated = part.repeated := by
  unfold partStep at none ⊢
  split
  · unfold joinPart
    split
    · next empty => exact (repeated_nil empty).symm
    · rfl
  · next long =>
      rw [if_neg long] at none
      split
      · next empty => exact (repeated_nil empty).symm
      · next some =>
          rw [if_neg some] at none
          cases none

theorem partStep_emits {part out : Part} {piece : Text}
    (emits : (partStep chunkSize overlap part piece).1 = some out) :
    part.text ≠ [] ∧ chunkSize < (candidate part.text piece).length ∧ out = part.trimmed ∧
      (partStep chunkSize overlap part piece).2 = carryPart chunkSize overlap part.text piece := by
  unfold partStep at emits ⊢
  split at emits
  · cases emits
  · next long =>
      rw [if_neg long]
      split at emits
      · cases emits
      · next some =>
          rw [if_neg some]
          cases emits
          exact ⟨some, Nat.lt_of_not_le long, rfl, rfl⟩

theorem partStep_long {part : Part} {piece : Text} (filled : part.text ≠ [])
    (long : chunkSize < (candidate part.text piece).length) :
    (partStep chunkSize overlap part piece).1 = .some part.trimmed := by
  unfold partStep
  rw [if_neg (Nat.not_le.mpr long), if_neg filled]

theorem trimmed_span (part : Part) (seen : Nat) (rest : List Part) :
    spansFrom seen (part.trimmed :: rest) =
      ⟨seen - (ink isSpace part.repeated).length, seen + (ink isSpace part.fresh).length⟩ ::
        spansFrom (seen + (ink isSpace part.fresh).length) rest := by
  rw [spansFrom, ink_trimmed, ink_trimmed_repeated]

def NeverDrops (chunkSize overlap : Nat) (current : Text) (pieces : List Text) : Prop :=
  ∀ before piece after, pieces = before ++ piece :: after →
    ¬ Drops chunkSize overlap (packed chunkSize overlap current before) piece

theorem neverDrops_cons {current piece : Text} {rest : List Text} :
    NeverDrops chunkSize overlap current (piece :: rest) ↔
      ¬ Drops chunkSize overlap current piece ∧
        NeverDrops chunkSize overlap (packStep chunkSize overlap current piece).2 rest := by
  constructor
  · intro never
    refine ⟨never [] piece rest rfl, ?_⟩
    intro before other after same
    exact never (piece :: before) other after (by rw [same, List.cons_append])
  · rintro ⟨first, later⟩ before other after same
    cases before with
    | nil =>
        cases same
        exact first
    | cons _ before =>
        cases same
        exact later before other after rfl

def Ending (pieces : List Text) : Prop :=
  ∀ before piece after, pieces = before ++ piece :: after →
    ink isSpace (piece :: after).flatten ≠ []

theorem Ending.rest {piece : Text} {rest : List Text} (ending : Ending (piece :: rest)) :
    Ending rest := by
  intro before other after same
  exact ending (piece :: before) other after (by rw [same, List.cons_append])

theorem Pieces.ending (positive : 0 < chunkSize) {pieces : List Text}
    (fine : Pieces chunkSize pieces) : Ending pieces := by
  intro before piece after same blank
  rw [List.flatten_cons, ink_append] at blank
  obtain ⟨first, later⟩ := List.append_eq_nil_iff.mp blank
  have given := fine.each piece (same ▸ List.mem_append_right _ List.mem_cons_self)
  obtain rfl : piece = [] := given.opens.ink.mp first
  -- Behind an empty piece comes one that fills the budget.
  obtain ⟨full, rest, rfl, filled, opens⟩ := fine.followed positive same
  rw [List.flatten_cons, ink_append] at later
  have empty : full = [] := opens.ink.mp (List.append_eq_nil_iff.mp later).1
  rw [empty, List.length_nil] at filled
  exact positive.ne filled

theorem partsFrom_spans {part : Part} {piece : Text} (rest : List Text) (seen : Nat) :
    ((partStep chunkSize overlap part piece).1 = none ∧
      spansFrom seen (partsFrom chunkSize overlap part (piece :: rest)) =
        spansFrom seen (partsFrom chunkSize overlap (partStep chunkSize overlap part piece).2 rest)) ∨
    ((partStep chunkSize overlap part piece).1 = .some part.trimmed ∧
      part.text ≠ [] ∧ chunkSize < (candidate part.text piece).length ∧
      (partStep chunkSize overlap part piece).2 = carryPart chunkSize overlap part.text piece ∧
      spansFrom seen (partsFrom chunkSize overlap part (piece :: rest)) =
        ⟨seen - (ink isSpace part.repeated).length, seen + (ink isSpace part.fresh).length⟩ ::
          spansFrom (seen + (ink isSpace part.fresh).length)
            (partsFrom chunkSize overlap (carryPart chunkSize overlap part.text piece) rest)) := by
  cases step : (partStep chunkSize overlap part piece).1 with
  | none =>
      refine .inl ⟨rfl, ?_⟩
      simp only [partsFrom, step, Option.toList_none, List.nil_append]
  | some out =>
      obtain ⟨filled, long, rfl, carried⟩ := partStep_emits step
      refine .inr ⟨rfl, filled, long, carried, ?_⟩
      simp only [partsFrom, step, Option.toList_some, List.singleton_append, trimmed_span, carried]

theorem ink_length_text (part : Part) : (ink isSpace part.text).length =
    (ink isSpace part.repeated).length + (ink isSpace part.fresh).length := by
  rw [ink_text, List.length_append]

theorem spansFrom_lost {pieces : List Text} {part : Part} {seen : Nat}
    (lost : (ink isSpace part.repeated).length < seen) :
    ∀ span ∈ spansFrom seen (partsFrom chunkSize overlap part pieces), 0 < span.start := by
  induction pieces generalizing part seen with
  | nil =>
      rw [partsFrom]
      split
      · exact List.forall_mem_nil _
      · rw [trimmed_span]
        exact List.forall_mem_singleton.mpr (Nat.sub_pos_of_lt lost)
  | cons piece rest ih =>
      obtain ⟨quiet, same⟩ | ⟨-, -, -, -, same⟩ :=
        @partsFrom_spans chunkSize overlap part piece rest seen
      · rw [same]
        exact ih (by rwa [partStep_repeated quiet])
      · rw [same]
        refine List.forall_mem_cons.mpr ⟨Nat.sub_pos_of_lt lost, ih ?_⟩
        have carried := (@carryPart_ink_suffix chunkSize overlap part.text piece).length_le
        rw [ink_length_text] at carried
        omega

theorem spansFrom_whole {pieces : List Text} {part : Part} {seen : Nat}
    (whole : (ink isSpace part.repeated).length = seen) (fine : Piece chunkSize part.text)
    (given : ∀ piece ∈ pieces, Piece chunkSize piece)
    (never : NeverDrops chunkSize overlap part.text pieces) :
    ∀ span ∈ spansFrom seen (partsFrom chunkSize overlap part pieces), span.start = 0 := by
  induction pieces generalizing part seen with
  | nil =>
      rw [partsFrom]
      split
      · exact List.forall_mem_nil _
      · rw [trimmed_span]
        exact List.forall_mem_singleton.mpr (Nat.sub_eq_zero_of_le whole.ge)
  | cons piece rest ih =>
      obtain ⟨first, later⟩ := List.forall_mem_cons.mp given
      obtain ⟨kept, never⟩ := neverDrops_cons.mp never
      have text := (partStep_text overlap fine first).2
      have fine' : Piece chunkSize (packStep chunkSize overlap part.text piece).2 :=
        packStep_piece fine first
      rw [← text] at fine' never
      obtain ⟨quiet, same⟩ | ⟨-, filled, long, carried, same⟩ :=
        @partsFrom_spans chunkSize overlap part piece rest seen
      · rw [same]
        exact ih ((congrArg (fun text => (ink isSpace text).length)
          (partStep_repeated quiet)).trans whole) fine' later never
      · rw [same]
        rw [carried] at fine' never
        obtain ⟨short, fits⟩ := not_not.mp fun lost => kept ⟨filled, long, lost⟩
        refine List.forall_mem_cons.mpr ⟨Nat.sub_eq_zero_of_le whole.ge, ih ?_ fine' later never⟩
        rw [carryPart_whole first.opens filled short fits, ink_length_text, whole]

theorem spansFrom_dropped {pieces : List Text} {part : Part} {seen : Nat}
    (whole : (ink isSpace part.repeated).length = seen) (fine : Piece chunkSize part.text)
    (given : ∀ piece ∈ pieces, Piece chunkSize piece) (ending : Ending pieces)
    (drops : ¬ NeverDrops chunkSize overlap part.text pieces) :
    ∃ span ∈ spansFrom seen (partsFrom chunkSize overlap part pieces), 0 < span.start ∧
      span.stop = seen + (ink isSpace part.fresh ++ ink isSpace pieces.flatten).length := by
  induction pieces generalizing part seen with
  | nil =>
      refine absurd ?_ drops
      intro before piece after same
      simp at same
  | cons piece rest ih =>
      obtain ⟨first, later⟩ := List.forall_mem_cons.mp given
      have text := (partStep_text overlap fine first).2
      have fine' : Piece chunkSize (packStep chunkSize overlap part.text piece).2 :=
        packStep_piece fine first
      rw [← text] at fine'
      have total : ink isSpace part.fresh ++ ink isSpace (piece :: rest).flatten =
          (ink isSpace part.fresh ++ ink isSpace piece) ++ ink isSpace rest.flatten := by
        rw [List.flatten_cons, ink_append, List.append_assoc]
      rw [neverDrops_cons, ← text] at drops
      obtain ⟨quiet, same⟩ | ⟨-, filled, long, carried, same⟩ :=
        @partsFrom_spans chunkSize overlap part piece rest seen
      · have kept : ¬ Drops chunkSize overlap part.text piece := fun lost => by
          rw [partStep_long lost.1 lost.2.1] at quiet
          cases quiet
        have own := @partStep_ink chunkSize overlap part piece
        rw [quiet, Option.toList_none, List.flatMap_nil, ink_nil, List.nil_append] at own
        rw [same, total, ← own]
        refine ih ?_ fine' later ending.rest fun never => drops ⟨kept, never⟩
        rw [partStep_repeated quiet, whole]
      · rw [same, total]
        rw [carried] at fine' drops
        have own := @carryPart_ink chunkSize overlap part.text piece
        by_cases lost : Drops chunkSize overlap part.text piece
        · have left : partsFrom chunkSize overlap (carryPart chunkSize overlap part.text piece) rest ≠
              [] := by
            intro none
            have inks := @partsFrom_ink chunkSize overlap rest (carryPart chunkSize overlap part.text piece)
            rw [none, own, ← ink_append] at inks
            exact ending [] piece rest rfl inks.symm
          have behind := carryPart_lost fine.opens first.opens lost
          rw [ink_length_text, whole] at behind
          obtain ⟨span, member, stop⟩ :=
            spansFrom_last left (seen + (ink isSpace part.fresh).length)
          refine ⟨span, List.mem_cons_of_mem _ member, spansFrom_lost behind span member, ?_⟩
          rw [stop, partsFrom_ink, own]
          simp only [List.length_append, Nat.add_assoc]
        · obtain ⟨short, fits⟩ := not_not.mp fun dropped => lost ⟨filled, long, dropped⟩
          have carries : (ink isSpace (carryPart chunkSize overlap part.text piece).repeated).length =
              seen + (ink isSpace part.fresh).length := by
            rw [carryPart_whole first.opens filled short fits, ink_length_text, whole]
          obtain ⟨span, member, behind, stop⟩ :=
            ih carries fine' later ending.rest fun never => drops ⟨lost, never⟩
          refine ⟨span, List.mem_cons_of_mem _ member, behind, ?_⟩
          rw [stop, own]
          simp only [List.length_append, Nat.add_assoc]

/-- Every chunk of the text but the last is carried over whole. Texts of the budget are
one chunk. -/
def CarriesWhole (chunkSize overlap : Nat) (text : Text) : Prop :=
  chunkSize < (strip text).length →
    NeverDrops chunkSize overlap [] (piecesOf chunkSize (strip text))

theorem spansOf_start_iff (positive : 0 < chunkSize) (text : Text) (head : Nat) :
    (∀ span ∈ spansOf chunkSize overlap text, head < span.stop → span.start = 0) ↔
      (ink isSpace text).length ≤ head ∨ CarriesWhole chunkSize overlap text := by
  have total := @partsOf_ink chunkSize overlap positive text
  have start : Piece chunkSize (Part.text ⟨[], []⟩) := ⟨Nat.zero_le _, opens_nil⟩
  have pieces := piecesOf_pieces positive (strip text)
  have own : ink isSpace (strip text) = ink isSpace text := ink_trim
  constructor
  · intro starts
    by_contra! ⟨reaches, drops⟩
    simp only [CarriesWhole, Classical.not_imp] at drops
    obtain ⟨long, drops⟩ := drops
    obtain ⟨span, member, behind, stop⟩ := @spansFrom_dropped chunkSize overlap _ ⟨[], []⟩ 0
      rfl start pieces.each (pieces.ending positive) drops
    have some : strip text ≠ [] := by
      intro empty
      simp [empty] at long
    have parts : spansOf chunkSize overlap text =
        spansFrom 0 (partsFrom chunkSize overlap ⟨[], []⟩ (piecesOf chunkSize (strip text))) := by
      simp only [spansOf, partsOf, if_neg some, if_neg (Nat.not_le.mpr long)]
    rw [← parts] at member
    rw [ink_piecesOf positive, own, ink_nil, List.nil_append, Nat.zero_add] at stop
    exact behind.ne' (starts span member (stop ▸ reaches))
  · rintro (short | whole) span member reaches
    · have within := spansFrom_within _ _ span member
      rw [total] at within
      omega
    · simp only [spansOf, partsOf] at member
      split at member
      · cases member
      · split at member
        · simp only [spansFrom, List.mem_singleton] at member
          subst member
          rfl
        · next long =>
            exact spansFrom_whole rfl start pieces.each (whole (Nat.lt_of_not_le long)) span member

end AiPlatform.Chunking
