import AiPlatform.ChunkedSegments
import AiPlatform.Words

/-!
What chunking does to the words of a segment. Paragraphs, sentences and the packer
leave them as they are; only `_hard_cut` can cut one, where it finds no space to cut
at. It looks for the space character alone, so another space does not help it.
-/

namespace AiPlatform.Chunking

open Agents (isSpace)
open Knowledge (Chunk ParsedSegment)
open Trimming

variable {chunkSize overlap : Nat}

/-- The values of `remaining` at which `_hard_cut` cuts. -/
def remainders (chunkSize : Nat) : Nat → Text → List Text
  | 0, _ => []
  | fuel + 1, remaining =>
      if chunkSize < remaining.length then
        remaining :: remainders chunkSize fuel
          ((remaining.drop (cutPoint chunkSize remaining)).dropWhile isSpace)
      else []

def CutsWord (chunkSize : Nat) (remaining : Text) : Prop :=
  let ending := lastRun isSpace (remaining.take (cutPoint chunkSize remaining))
  let beginning := firstRun isSpace (remaining.drop (cutPoint chunkSize remaining))
  ending ≠ [] ∧ beginning ≠ [] ∧ ending.length + beginning.length ≤ chunkSize

theorem words_some {text : Text} : ∀ word ∈ words isSpace text, word ≠ [] :=
  fun _ member => (mem_words member).1

theorem flatMap_words_some {texts : List Text} :
    ∀ word ∈ texts.flatMap (words isSpace), word ≠ [] := by
  intro word member
  obtain ⟨text, _, member⟩ := List.mem_flatMap.mp member
  exact words_some word member

theorem firstRun_cutPoint {remaining : Text}
    (short : (firstRun isSpace remaining).length ≤ chunkSize) :
    (firstRun isSpace remaining).length ≤ cutPoint chunkSize remaining := by
  unfold cutPoint
  simp only
  split
  · exact short
  · next inside =>
      have starts : (remaining.take chunkSize).rdropWhile (· ≠ ' ') <+: remaining :=
        (List.rdropWhile_prefix ..).trans (List.take_prefix ..)
      have stop := List.rdropWhile_last_not (· ≠ ' ') (remaining.take chunkSize)
      generalize (remaining.take chunkSize).rdropWhile (· ≠ ' ') = front at inside starts stop
      by_contra before
      have some : front ≠ [] := by
        rintro rfl
        exact inside rfl
      have last : front.getLast some = ' ' := by simpa using stop some
      have filled : front.length - 1 < front.length := by omega
      have within : front.length - 1 < (firstRun isSpace remaining).length := by omega
      have run : firstRun isSpace remaining <+: remaining := List.takeWhile_prefix _
      have same : (firstRun isSpace remaining)[front.length - 1] = ' ' := by
        rw [run.getElem within, ← starts.getElem filled, ← last, List.getLast_eq_getElem]
      have ink := firstRun_ink _ (List.getElem_mem within)
      rw [same] at ink
      cases ink

theorem hardCutFrom_first {fuel : Nat} {remaining : Text} (enough : remaining.length < fuel)
    (some : firstRun isSpace remaining ≠ [])
    (short : (firstRun isSpace remaining).length ≤ chunkSize) :
    ∃ later, (hardCutFrom chunkSize fuel remaining).flatMap (words isSpace) =
      firstRun isSpace remaining :: later := by
  have begins {text : Text} (same : firstRun isSpace text = firstRun isSpace remaining) :
      ∃ later, words isSpace text = firstRun isSpace remaining :: later := by
    refine ⟨words isSpace (behindRun isSpace text), ?_⟩
    rw [words_behind, same]
    simp [asWord, some]
  cases fuel with
  | zero => omega
  | succ fuel =>
      rw [hardCutFrom]
      by_cases long : chunkSize < remaining.length
      · rw [if_pos long, List.flatMap_cons]
        have same : firstRun isSpace (remaining.take (cutPoint chunkSize remaining)) =
            firstRun isSpace remaining := by
          rw [firstRun, ← List.take_takeWhile]
          exact List.take_of_length_le (firstRun_cutPoint short)
        obtain ⟨later, first⟩ := begins same
        exact ⟨_, by rw [first]; rfl⟩
      · have filled : remaining ≠ [] := by
          rintro rfl
          exact some rfl
        rw [if_neg long, if_neg filled, List.flatMap_singleton]
        exact begins rfl

theorem hardCutFrom_words (positive : 0 < chunkSize) {fuel : Nat} {remaining : Text}
    (enough : remaining.length < fuel) :
    Intact chunkSize (words isSpace remaining)
        ((hardCutFrom chunkSize fuel remaining).flatMap (words isSpace)) ↔
      ∀ rest ∈ remainders chunkSize fuel remaining, ¬ CutsWord chunkSize rest := by
  induction fuel generalizing remaining with
  | zero => omega
  | succ fuel ih =>
      rw [hardCutFrom, remainders]
      by_cases long : chunkSize < remaining.length
      · rw [if_pos long, if_pos long, List.flatMap_cons, List.forall_mem_cons]
        obtain ⟨some, within⟩ := cutPoint_bounds positive remaining
        generalize same : (remaining.drop (cutPoint chunkSize remaining)).dropWhile isSpace = tail
        have shorter : tail.length < fuel := by
          have suffix := (List.dropWhile_suffix (l := remaining.drop (cutPoint chunkSize remaining))
            isSpace).length_le
          rw [List.length_drop, same] at suffix
          omega
        rw [← ih shorter]
        generalize reached : remaining.take (cutPoint chunkSize remaining) = front at *
        generalize left : remaining.drop (cutPoint chunkSize remaining) = back at *
        have whole : remaining = front ++ back := by rw [← reached, ← left, List.take_append_drop]
        have kept : firstRun isSpace back ≠ [] → (firstRun isSpace back).length ≤ chunkSize →
            ∃ later, (hardCutFrom chunkSize fuel tail).flatMap (words isSpace) =
              firstRun isSpace back :: later := by
          intro some short
          have opens : back.dropWhile isSpace = back := by
            cases back with
            | nil => rfl
            | cons c rest =>
                refine List.dropWhile_cons_of_neg fun blank => some ?_
                simp [firstRun, blank]
          rw [opens] at same
          subst same
          exact hardCutFrom_first shorter some short
        have behind : words isSpace tail =
            asWord (firstRun isSpace back) ++ words isSpace (behindRun isSpace back) := by
          rw [← same, words_dropWhile, words_behind]
        have around : words isSpace remaining = words isSpace (beforeRun isSpace front) ++
            (asWord (lastRun isSpace front ++ firstRun isSpace back) ++
              words isSpace (behindRun isSpace back)) := by
          rw [whole, words_append]
        have first : words isSpace front =
            words isSpace (beforeRun isSpace front) ++ asWord (lastRun isSpace front) := words_front
        have cuts : CutsWord chunkSize remaining ↔ lastRun isSpace front ≠ [] ∧
            firstRun isSpace back ≠ [] ∧
              (lastRun isSpace front).length + (firstRun isSpace back).length ≤ chunkSize := by
          rw [CutsWord, reached, left]
        have nonempty : ∀ word ∈ asWord (lastRun isSpace front) ++
            (hardCutFrom chunkSize fuel tail).flatMap (words isSpace), word ≠ [] := by
          intro word member
          rcases List.mem_append.mp member with one | later
          · refine @words_some front word ?_
            rw [first]
            exact List.mem_append_right _ one
          · exact flatMap_words_some word later
        rw [around, first, behind, List.append_assoc, Intact.of_front words_some nonempty,
          intact_cut flatMap_words_some kept, cuts]
      · rw [if_neg long, if_neg long]
        refine iff_of_true ?_ (List.forall_mem_nil _)
        by_cases empty : remaining = []
        · rw [if_pos empty, empty]
          exact .nil
        · rw [if_neg empty, List.flatMap_singleton]
          exact Intact.refl ..

def cutWords (chunkSize : Nat) (sentence : Text) : List Text :=
  if chunkSize < sentence.length then (hardCut chunkSize sentence).flatMap (words isSpace)
  else words isSpace sentence

theorem flatMap_single (text : Text) :
    (if text = [] then [] else [text]).flatMap (words isSpace) = words isSpace text := by
  by_cases empty : text = []
  · simp [empty]
  · simp [empty]

theorem joinSentences_words (sentences : List Text) (current : Text) :
    (joinSentences chunkSize current sentences).flatMap (words isSpace) =
      words isSpace current ++ sentences.flatMap fun part => cutWords chunkSize (strip part) := by
  induction sentences generalizing current with
  | nil => rw [joinSentences, flatMap_single, List.flatMap_nil, List.append_nil]
  | cons part rest ih =>
      simp only [joinSentences, List.flatMap_cons]
      by_cases blank : strip part = []
      · rw [if_pos blank, ih, blank]
        simp [cutWords]
      · rw [if_neg blank]
        by_cases long : chunkSize < (strip part).length
        · rw [if_pos long, List.flatMap_append, List.flatMap_append, flatMap_single, ih, cutWords,
            if_pos long, words_nil, List.nil_append, List.append_assoc]
        · rw [if_neg long, cutWords, if_neg long]
          by_cases fits : current.length + (strip part).length + 1 ≤ chunkSize
          · have joined : words isSpace (strip (current ++ ' ' :: strip part)) =
                words isSpace current ++ words isSpace (strip part) :=
              words_trim.trans (words_append_cons (by decide))
            rw [if_pos fits, ih, joined, List.append_assoc]
          · rw [if_neg fits, List.flatMap_cons, ih]

theorem flatten_flatMap_words (texts : List Text) :
    (texts.flatMap (words isSpace)).flatten = ink isSpace texts.flatten := by
  induction texts with
  | nil => rfl
  | cons text rest ih =>
      rw [List.flatMap_cons, List.flatten_append, ih, flatten_words, List.flatten_cons, ink_append]

def CutsNoWord (chunkSize : Nat) (sentence : Text) : Prop :=
  ∀ rest ∈ remainders chunkSize (sentence.length + 1) sentence, ¬ CutsWord chunkSize rest

theorem cutWords_some {sentence : Text} : ∀ word ∈ cutWords chunkSize sentence, word ≠ [] := by
  unfold cutWords
  split
  · exact flatMap_words_some
  · exact words_some

theorem flatten_cutWords (positive : 0 < chunkSize) {sentence : Text}
    (opens : Opens isSpace sentence) :
    (cutWords chunkSize sentence).flatten = (words isSpace sentence).flatten := by
  unfold cutWords
  split
  · rw [flatten_flatMap_words, (hardCut_pieces positive opens).2, flatten_words]
  · rfl

theorem cutWords_intact (positive : 0 < chunkSize) (sentence : Text) :
    Intact chunkSize (words isSpace sentence) (cutWords chunkSize sentence) ↔
      (chunkSize < sentence.length → CutsNoWord chunkSize sentence) := by
  unfold cutWords
  by_cases long : chunkSize < sentence.length
  · rw [if_pos long, hardCut, hardCutFrom_words positive (Nat.lt_succ_self _)]
    exact ⟨fun kept _ => kept, fun kept => kept long⟩
  · rw [if_neg long]
    exact iff_of_true (Intact.refl ..) fun longer => absurd longer long

def paragraphWords (chunkSize : Nat) (part : Text) : List Text :=
  if chunkSize < (strip part).length then
    (splitAt sentenceBreak none 0 (strip part)).flatMap fun sentence =>
      cutWords chunkSize (strip sentence)
  else words isSpace part

theorem paragraphPieces_words (part : Text) :
    (paragraphPieces chunkSize part).flatMap (words isSpace) = paragraphWords chunkSize part := by
  have own : words isSpace (strip part) = words isSpace part := words_trim
  unfold paragraphPieces paragraphWords
  by_cases blank : strip part = []
  · rw [if_pos blank, blank, ← own, blank]
    rfl
  · rw [if_neg blank]
    by_cases fits : (strip part).length ≤ chunkSize
    · rw [if_pos fits, if_neg (by omega), List.flatMap_singleton, own]
    · rw [if_neg fits, if_pos (by omega), splitSentences, joinSentences_words, words_nil,
        List.nil_append]

theorem piecesOf_words (text : Text) :
    (piecesOf chunkSize text).flatMap (words isSpace) =
      (splitAt paragraphBreak none 0 text).flatMap (paragraphWords chunkSize) := by
  have pieces : piecesOf chunkSize text =
      (splitAt paragraphBreak none 0 text).flatMap (paragraphPieces chunkSize) := rfl
  rw [pieces, List.flatMap_assoc]
  exact List.flatMap_congr fun part _ => paragraphPieces_words part

theorem sentences_words (part : Text) :
    (splitAt sentenceBreak none 0 (strip part)).flatMap (fun sentence =>
      words isSpace (strip sentence)) = words isSpace part := by
  have own : words isSpace (strip part) = words isSpace part := words_trim
  rw [← own, ← words_splitAt sentenceBreak_blank none]
  exact List.flatMap_congr fun sentence _ => words_trim

theorem paragraphWords_intact (positive : 0 < chunkSize) (part : Text) :
    Intact chunkSize (words isSpace part) (paragraphWords chunkSize part) ↔
      (chunkSize < (strip part).length → ∀ sentence ∈ splitAt sentenceBreak none 0 (strip part),
        chunkSize < (strip sentence).length → CutsNoWord chunkSize (strip sentence)) := by
  unfold paragraphWords
  by_cases long : chunkSize < (strip part).length
  · rw [if_pos long, ← sentences_words, intact_flatMap]
    · constructor
      · exact fun intact _ sentence member => (cutWords_intact positive _).mp (intact sentence member)
      · exact fun kept sentence member =>
          (cutWords_intact positive _).mpr (kept long sentence member)
    · exact fun sentence _ => flatten_cutWords positive opens_trim
    · exact fun sentence _ => words_some
    · exact fun sentence _ => cutWords_some
  · rw [if_neg long]
    exact iff_of_true (Intact.refl ..) fun longer => absurd longer long

theorem paragraphWords_some {part : Text} : ∀ word ∈ paragraphWords chunkSize part, word ≠ [] := by
  unfold paragraphWords
  split
  · intro word member
    obtain ⟨sentence, _, member⟩ := List.mem_flatMap.mp member
    exact cutWords_some word member
  · exact words_some

theorem flatten_paragraphWords (positive : 0 < chunkSize) (part : Text) :
    (paragraphWords chunkSize part).flatten = (words isSpace part).flatten := by
  rw [← paragraphPieces_words, flatten_flatMap_words, (paragraphPieces_pieces positive part).2,
    flatten_words]

theorem trimmed_words (part : Part) :
    words isSpace part.trimmed.fresh = words isSpace part.fresh := words_rdropWhile

theorem carryPart_words (current piece : Text) :
    words isSpace (carryPart chunkSize overlap current piece).fresh = words isSpace piece := by
  unfold carryPart
  by_cases off : overlap = 0
  · simp only [if_pos off, ite_self]
  · simp only [if_neg off]
    split
    · rfl
    · exact words_rdropWhile

theorem partStep_words (part : Part) (piece : Text) :
    (partStep chunkSize overlap part piece).1.toList.flatMap (fun out => words isSpace out.fresh) ++
        words isSpace (partStep chunkSize overlap part piece).2.fresh =
      words isSpace part.fresh ++ words isSpace piece := by
  have packed (empty : part.text = []) : part.fresh = [] :=
    (List.append_eq_nil_iff.mp empty).2
  unfold partStep
  by_cases fits : (candidate part.text piece).length ≤ chunkSize
  · rw [if_pos fits]
    unfold joinPart
    by_cases empty : part.text = []
    · rw [if_pos empty, packed empty]
      rfl
    · rw [if_neg empty]
      change words isSpace (part.fresh ++ '\n' :: '\n' :: piece) = _
      rw [words_append_cons (by decide), words_cons (by decide)]
  · rw [if_neg fits]
    by_cases empty : part.text = []
    · rw [if_pos empty, packed empty]
      rfl
    · rw [if_neg empty]
      simp only [Option.toList_some, List.flatMap_singleton]
      rw [trimmed_words, carryPart_words]

theorem partsFrom_words (pieces : List Text) (part : Part) :
    (partsFrom chunkSize overlap part pieces).flatMap (fun out => words isSpace out.fresh) =
      words isSpace part.fresh ++ pieces.flatMap (words isSpace) := by
  induction pieces generalizing part with
  | nil =>
      rw [partsFrom, List.flatMap_nil, List.append_nil]
      split
      · rename_i empty
        rw [(List.append_eq_nil_iff.mp empty).2]
        rfl
      · rw [List.flatMap_singleton, trimmed_words]
  | cons piece rest ih =>
      simp only [partsFrom]
      rw [List.flatMap_append, ih, ← List.append_assoc, partStep_words, List.flatMap_cons,
        List.append_assoc]

def KeepsWords (chunkSize : Nat) (text : Text) : Prop :=
  chunkSize < (strip text).length →
    ∀ part ∈ splitAt paragraphBreak none 0 (strip text), chunkSize < (strip part).length →
      ∀ sentence ∈ splitAt sentenceBreak none 0 (strip part),
        chunkSize < (strip sentence).length → CutsNoWord chunkSize (strip sentence)

theorem partsOf_words (positive : 0 < chunkSize) (text : Text) :
    Intact chunkSize (words isSpace text)
        ((partsOf chunkSize overlap text).flatMap fun part => words isSpace part.fresh) ↔
      KeepsWords chunkSize text := by
  have own : words isSpace (strip text) = words isSpace text := words_trim
  unfold KeepsWords
  simp only [partsOf]
  rw [← own]
  by_cases empty : strip text = []
  · rw [if_pos empty, empty]
    exact iff_of_true .nil fun long => absurd long (Nat.not_lt_zero _)
  · rw [if_neg empty]
    by_cases short : (strip text).length ≤ chunkSize
    · rw [if_pos short, List.flatMap_singleton]
      exact iff_of_true (Intact.refl ..) fun long => absurd long (by omega)
    · rw [if_neg short, partsFrom_words, piecesOf_words, words_nil, List.nil_append]
      conv => lhs; rw [← words_splitAt paragraphBreak_blank none]
      rw [intact_flatMap (fun part _ => flatten_paragraphWords positive part)
        (fun part _ => words_some) (fun part _ => paragraphWords_some)]
      constructor
      · exact fun intact _ part member => (paragraphWords_intact positive part).mp (intact part member)
      · exact fun kept part member =>
          (paragraphWords_intact positive part).mpr (kept (by omega) part member)

theorem word_in_chunk {group : List Chunk} {parts : List Part} {word : Text}
    (texts : group.map (fun chunk => chunk.text.toList) = parts.map Part.text)
    (member : word ∈ parts.flatMap fun part => words isSpace part.fresh) :
    ∃ chunk ∈ group, word <:+: chunk.text.toList := by
  obtain ⟨part, listed, within⟩ := List.mem_flatMap.mp member
  have text : part.text ∈ group.map fun chunk => chunk.text.toList := by
    rw [texts]
    exact List.mem_map_of_mem listed
  obtain ⟨chunk, there, same⟩ := List.mem_map.mp text
  refine ⟨chunk, there, ?_⟩
  rw [same]
  exact (mem_words within).2.2.trans (List.suffix_append ..).isInfix

/-- The words of a segment in its chunks. The new texts of the chunks have its words, of
which only those longer than a chunk are cut, if and only if no long sentence is cut
through a word that fits; then every such word stands in a chunk of the segment. -/
structure WordsChunked (chunkSize overlap : Int) (segment : ParsedSegment) (group : List Chunk) :
    Prop where
  texts : group.map (fun chunk => chunk.text.toList) =
    (partsFor chunkSize overlap segment.text.toList).map Part.text
  intact : Intact chunkSize.toNat (words isSpace segment.text.toList)
      ((partsFor chunkSize overlap segment.text.toList).flatMap fun part =>
        words isSpace part.fresh) ↔
    KeepsWords chunkSize.toNat segment.text.toList
  stand : KeepsWords chunkSize.toNat segment.text.toList →
    ∀ word ∈ words isSpace segment.text.toList, (word.length : Int) ≤ chunkSize →
      ∃ chunk ∈ group, word <:+: chunk.text.toList

end AiPlatform.Chunking
