import AiPlatform.KnowledgeModel
import AiPlatform.Trimming

/-!
`app/services/chunking.py`. A text is a list of code points. A segment is split
into paragraphs, a paragraph that is too long into sentences, and a sentence that
is too long at spaces; the pieces are then packed into chunks, each of which may
begin with the tail of the one before.
-/

namespace AiPlatform.Chunking

open Agents (isSpace)
open Knowledge (Chunk Failure ParsedSegment)
open Trimming (trim splitAt)

abbrev Text := List Char

/-- `str.strip()` -/
abbrev strip (text : Text) : Text := trim isSpace text

/-- `_PARAGRAPH`: from a line break to the last one among the spaces behind it. -/
def paragraphBreak (_ : Option Char) : Text → Nat
  | '\n' :: rest =>
      match ((rest.takeWhile isSpace).rdropWhile (· ≠ '\n')).length with
      | 0 => 0
      | width + 1 => width + 2
  | _ => 0

/-- `_SENTENCE`: the spaces behind the end of a sentence. -/
def sentenceBreak (before : Option Char) (text : Text) : Nat :=
  if before.any fun c => c = '.' || c = '!' || c = '?' then (text.takeWhile isSpace).length else 0

/-- Where `_hard_cut` cuts: at the last space of the budget, unless that is the first character. -/
def cutPoint (chunkSize : Nat) (text : Text) : Nat :=
  -- The characters up to the last space, without it; none where there is no space.
  let cut := ((text.take chunkSize).rdropWhile (· ≠ ' ')).length - 1
  if cut = 0 then chunkSize else cut

/-- The loop of `_hard_cut`; every turn takes something away. -/
def hardCutFrom (chunkSize : Nat) : Nat → Text → List Text
  | 0, _ => []
  | fuel + 1, remaining =>
      if chunkSize < remaining.length then
        let cut := cutPoint chunkSize remaining
        remaining.take cut :: hardCutFrom chunkSize fuel ((remaining.drop cut).dropWhile isSpace)
      else if remaining = [] then [] else [remaining]

def hardCut (chunkSize : Nat) (text : Text) : List Text := hardCutFrom chunkSize (text.length + 1) text

/-- The loop of `_split_sentences`. -/
def joinSentences (chunkSize : Nat) : Text → List Text → List Text
  | current, [] => if current = [] then [] else [current]
  | current, part :: rest =>
      let sentence := strip part
      if sentence = [] then joinSentences chunkSize current rest
      else if chunkSize < sentence.length then
        (if current = [] then [] else [current]) ++ hardCut chunkSize sentence ++
          joinSentences chunkSize [] rest
      else if current.length + sentence.length + 1 ≤ chunkSize then
        joinSentences chunkSize (strip (current ++ ' ' :: sentence)) rest
      else current :: joinSentences chunkSize sentence rest

def splitSentences (chunkSize : Nat) (paragraph : Text) : List Text :=
  joinSentences chunkSize [] (splitAt sentenceBreak none 0 paragraph)

/-- `_tail` -/
def tailOf (overlap : Nat) (text : Text) : Text :=
  if overlap = 0 ∨ text.length ≤ overlap then text
  else
    let tail := text.drop (text.length - overlap)
    match tail.dropWhile (· ≠ ' ') with
    | [] => tail
    | _ :: word => word

def carryOver (chunkSize overlap : Nat) (current piece : Text) : Text :=
  let joined := if overlap = 0 then piece else strip (tailOf overlap current ++ '\n' :: '\n' :: piece)
  if chunkSize < joined.length then piece else joined

def candidate (current piece : Text) : Text :=
  if current = [] then piece else current ++ '\n' :: '\n' :: piece

/-- One turn of the loop of `_pack`: the chunk that it emits, if any, and the packed text. -/
def packStep (chunkSize overlap : Nat) (current piece : Text) : Option Text × Text :=
  if (candidate current piece).length ≤ chunkSize then (none, candidate current piece)
  else if current = [] then (none, piece)
  else (some current, carryOver chunkSize overlap current piece)

/-- The rest of `_pack`, from the packed text on. -/
def packFrom (chunkSize overlap : Nat) : Text → List Text → List Text
  | current, [] => if current = [] then [] else [current]
  | current, piece :: rest =>
      let step := packStep chunkSize overlap current piece
      step.1.toList ++ packFrom chunkSize overlap step.2 rest

def pack (chunkSize overlap : Nat) (pieces : List Text) : List Text :=
  packFrom chunkSize overlap [] pieces

/-- The pieces of a text that `_split` packs. -/
def piecesOf (chunkSize : Nat) (text : Text) : List Text :=
  (splitAt paragraphBreak none 0 text).flatMap fun part =>
    let paragraph := strip part
    if paragraph = [] then []
    else if paragraph.length ≤ chunkSize then [paragraph]
    else splitSentences chunkSize paragraph

def split (chunkSize overlap : Nat) (text : Text) : List Text :=
  let text := strip text
  if text = [] then []
  else if text.length ≤ chunkSize then [text]
  else pack chunkSize overlap (piecesOf chunkSize text)

/-- `chunks.append(..)`, unless nothing is left of the text. -/
def appendChunk (location : Option String) (chunks : List Chunk) (text : Text) : List Chunk :=
  let cleaned := strip text
  if cleaned = [] then chunks else chunks ++ [⟨chunks.length, String.ofList cleaned, location⟩]

def clamped (chunkSize overlap : Int) : Nat := (max 0 (min overlap (chunkSize / 2))).toNat

def chunkSegments (segments : List ParsedSegment) (chunkSize overlap : Int) :
    Except Failure (List Chunk) :=
  if chunkSize ≤ 0 then .error ⟨"ValueError", "chunk_size must be positive."⟩
  else .ok (segments.foldl (fun chunks segment =>
    (split chunkSize.toNat (clamped chunkSize overlap) segment.text.toList).foldl
      (appendChunk segment.location) chunks) [])

end AiPlatform.Chunking
