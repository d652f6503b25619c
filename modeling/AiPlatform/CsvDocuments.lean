import AiPlatform.ChunkSpans

/-!
`_parse_csv` of `app/services/document_parsers.py`, on the decoded text. The rows are
those of `csv.reader` with the excel dialect over the lines of an `io.StringIO`. They
are put into tables of forty, each with the header above it, and the tables are then
chunked like any other segments.
-/

namespace AiPlatform.DocumentParsers

open Agents (isSpace)
open Chunking
open Knowledge (Chunk ParseFailure ParseResult ParsedSegment)
open Trimming

abbrev Row := List Text

inductive Mode
  | startRecord
  | startField
  | inField
  | inQuotedField
  | quoteInQuotedField
  | eatCrnl
  deriving DecidableEq

/-- `csv.Error` -/
inductive CsvError
  /-- A character behind a carriage return. -/
  | newLineInField
  | fieldLimit
  deriving DecidableEq

structure Reader where
  mode : Mode
  field : Text
  fields : Row

/-- `parse_reset` -/
def Reader.reset : Reader := ⟨.startRecord, [], []⟩

/-- `parse_save_field` -/
def Reader.saveField (reader : Reader) (mode : Mode) : Reader :=
  ⟨mode, [], reader.fields ++ [reader.field]⟩

/-- `csv.field_size_limit()` -/
def fieldSizeLimit : Nat := 131072

/-- `parse_add_char` -/
def Reader.addChar (reader : Reader) (mode : Mode) (c : Char) : Except CsvError Reader :=
  if fieldSizeLimit ≤ reader.field.length then .error .fieldLimit
  else .ok ⟨mode, reader.field ++ [c], reader.fields⟩

/-- `none` stands for the end of a line, behind its line break. -/
def isEol (c : Option Char) : Bool := c = none || c = some '\n' || c = some '\r'

def Reader.endRecord (reader : Reader) (c : Option Char) : Reader :=
  reader.saveField (if c = none then .startRecord else .eatCrnl)

/-- `START_FIELD` -/
def Reader.startField (reader : Reader) (c : Option Char) : Except CsvError Reader :=
  if isEol c then .ok (reader.endRecord c)
  else
    match c with
    | some '"' => .ok { reader with mode := .inQuotedField }
    | some ',' => .ok (reader.saveField .startField)
    | some c => reader.addChar .inField c
    | none => .ok reader

/-- `parse_process_char` -/
def Reader.processChar (reader : Reader) (c : Option Char) : Except CsvError Reader :=
  match reader.mode with
  | .startRecord =>
      if c = none then .ok reader
      else if isEol c then .ok { reader with mode := .eatCrnl }
      else reader.startField c
  | .startField => reader.startField c
  | .inField =>
      if isEol c then .ok (reader.endRecord c)
      else
        match c with
        | some ',' => .ok (reader.saveField .startField)
        | some c => reader.addChar .inField c
        | none => .ok reader
  | .inQuotedField =>
      match c with
      | none => .ok reader
      | some '"' => .ok { reader with mode := .quoteInQuotedField }
      | some c => reader.addChar .inQuotedField c
  | .quoteInQuotedField =>
      if isEol c then .ok (reader.endRecord c)
      else
        match c with
        | some '"' => reader.addChar .inQuotedField '"'
        | some ',' => .ok (reader.saveField .startField)
        | some c => reader.addChar .inField c
        | none => .ok reader
  | .eatCrnl =>
      if c = none then .ok { reader with mode := .startRecord }
      else if isEol c then .ok reader
      else .error .newLineInField

/-- The lines of an `io.StringIO`, each with its line feed. -/
def linesOf : Text → List Text
  | [] => []
  | c :: rest =>
      if c = '\n' then ['\n'] :: linesOf rest
      else
        match linesOf rest with
        | [] => [[c]]
        | line :: others => (c :: line) :: others

/-- The rows behind those that were read, as `list(reader)` takes them. A quoted field
goes on in the next line, and the end of the text ends it. -/
def rowsFrom : Reader → List Text → Except CsvError (List Row)
  | reader, [] =>
      if reader.field ≠ [] ∨ reader.mode = .inQuotedField then
        .ok [(reader.saveField .startRecord).fields]
      else .ok []
  | reader, line :: rest => do
      let reader ← line.foldlM (fun reader c => reader.processChar (some c)) reader
      let reader ← reader.processChar none
      if reader.mode = .startRecord then
        let rows ← rowsFrom .reset rest
        return reader.fields :: rows
      else rowsFrom reader rest

def readRows (decoded : Text) : Except CsvError (List Row) := rowsFrom .reset (linesOf decoded)

/-- `_CSV_ROWS_PER_SEGMENT` -/
def csvRowsPerSegment : Nat := 40

/-- `", ".join(row)` -/
def joinCells (row : Row) : Text := List.intercalate [',', ' '] row

def tableText (header : Row) (batch : List Row) : Text :=
  List.intercalate ['\n'] (joinCells header :: batch.map joinCells)

def batches (body : List Row) : List (Nat × List Row) :=
  (List.range ((body.length + (csvRowsPerSegment - 1)) / csvRowsPerSegment)).map fun index =>
    let start := csvRowsPerSegment * index
    (start, (body.drop start).take csvRowsPerSegment)

def tableSegment (header : Row) (batch : Nat × List Row) : ParsedSegment :=
  ⟨String.ofList (tableText header batch.2),
    some s!"rows {batch.1 + 1}-{batch.1 + batch.2.length}"⟩

def csvSegments (header : Row) (body : List Row) : List ParsedSegment :=
  if body = [] then [⟨String.ofList (joinCells header), none⟩]
  else (batches body).map (tableSegment header)

/-- `_parse_csv`, where the text of a `csv.Error` is the reader's own. -/
def parseCsv (message : CsvError → String) (decoded : Text) : Except ParseFailure ParseResult :=
  match readRows decoded with
  | .error error => .error (.unsupported s!"Could not read the CSV: {message error}")
  | .ok [] => .ok ⟨[], false, some "The CSV was empty."⟩
  | .ok (header :: body) => .ok ⟨csvSegments header body, false, none⟩

example : (readRows "id,note\n1,\"a \"\"b\"\"\nc\"\n\n2,".toList).toOption =
    some [["id".toList, "note".toList], ["1".toList, "a \"b\"\nc".toList], [], ["2".toList, []]] := by
  decide +kernel

theorem batches_taken (body : List Row) (count : Nat) :
    (List.range count).flatMap (fun index =>
        (body.drop (csvRowsPerSegment * index)).take csvRowsPerSegment) =
      body.take (csvRowsPerSegment * count) := by
  induction count with
  | zero => simp
  | succ count ih =>
      rw [List.range_succ, List.flatMap_append, ih, List.flatMap_singleton, Nat.mul_succ,
        List.take_add]

theorem batches_rows (body : List Row) : (batches body).flatMap Prod.snd = body := by
  rw [batches, List.flatMap_map]
  refine (batches_taken body _).trans (List.take_of_length_le ?_)
  unfold csvRowsPerSegment
  omega

theorem batches_at {body : List Row} {batch : Nat × List Row} (member : batch ∈ batches body) :
    batch.2 ≠ [] ∧ batch.2 = (body.drop batch.1).take batch.2.length := by
  obtain ⟨index, below, rfl⟩ := List.mem_map.mp member
  rw [List.mem_range] at below
  dsimp only
  constructor
  · intro empty
    have none := congrArg List.length empty
    rw [List.length_take, List.length_drop, List.length_nil] at none
    unfold csvRowsPerSegment at below none
    omega
  · rw [List.length_take, ← List.take_take, List.take_length]

def tablesOf (body : List Row) : List (Nat × List Row) :=
  if body = [] then [(0, [])] else batches body

def locationOf (batch : Nat × List Row) : Option String :=
  if batch.2 = [] then none else some s!"rows {batch.1 + 1}-{batch.1 + batch.2.length}"

def tableOf (header : Row) (batch : Nat × List Row) : ParsedSegment :=
  ⟨String.ofList (tableText header batch.2), locationOf batch⟩

theorem csvSegments_tables (header : Row) (body : List Row) :
    csvSegments header body = (tablesOf body).map (tableOf header) := by
  unfold csvSegments tablesOf
  split
  · simp [tableOf, tableText, locationOf, List.intercalate]
  · refine List.map_congr_left fun batch member => ?_
    rw [tableSegment, tableOf, locationOf, if_neg (batches_at member).1]

/-- Each row is in one table, in order, and a table names the rows of the body that it
has. -/
structure Partitioned (body : List Row) (tables : List (Nat × List Row)) : Prop where
  rows : tables.flatMap Prod.snd = body
  named : ∀ batch ∈ tables, batch.2 = (body.drop batch.1).take batch.2.length
  filled : body ≠ [] → ∀ batch ∈ tables, batch.2 ≠ []

theorem tablesOf_partitioned (body : List Row) : Partitioned body (tablesOf body) := by
  by_cases empty : body = []
  · subst empty
    exact ⟨rfl, by simp [tablesOf], fun some => absurd rfl some⟩
  · rw [tablesOf, if_neg empty]
    exact ⟨batches_rows body, fun _ member => (batches_at member).2,
      fun _ _ member => (batches_at member).1⟩

theorem ink_lines (line : Text) (lines : List Text) :
    ink isSpace (List.intercalate ['\n'] (line :: lines)) =
      ink isSpace line ++ lines.flatMap (ink isSpace) := by
  induction lines generalizing line with
  | nil => simp [List.intercalate]
  | cons next rest ih =>
      have joined : List.intercalate ['\n'] (line :: next :: rest) =
          line ++ '\n' :: List.intercalate ['\n'] (next :: rest) := by
        simp [List.intercalate, List.intersperse]
      rw [joined, ink_append, ink_cons_space (by decide), ih, List.flatMap_cons]

def rowInk (row : Row) : Text := ink isSpace (joinCells row)

theorem ink_table (header : Row) (batch : List Row) :
    ink isSpace (tableText header batch) = rowInk header ++ batch.flatMap rowInk := by
  rw [tableText, ink_lines, List.flatMap_map]
  rfl

def Span.Holds (span : Span) (head : Nat) : Prop :=
  ∀ place < head, span.start ≤ place ∧ place < span.stop

theorem holds_iff {span : Span} {head : Nat} (reaches : head < span.stop) :
    Span.Holds span head ↔ head = 0 ∨ span.start = 0 := by
  constructor
  · intro holds
    by_cases none : head = 0
    · exact .inl none
    · exact .inr (Nat.le_zero.mp (holds 0 (Nat.pos_of_ne_zero none)).1)
  · rintro (rfl | first) place below
    · cases below
    · exact ⟨first ▸ Nat.zero_le _, below.trans reaches⟩

variable {chunkSize overlap : Nat} {header : Row} {batch : List Row}

/-- The chunks of a table that have something of its rows have all of the header. -/
def RepeatsHeader (chunkSize overlap : Nat) (header : Row) (batch : List Row) : Prop :=
  ∀ span ∈ spansOf chunkSize overlap (tableText header batch),
    (rowInk header).length < span.stop → Span.Holds span (rowInk header).length

/-- There is no header text, or no row text, or each chunk of the table but the last is
carried over whole. -/
def KeepsHeader (chunkSize overlap : Nat) (header : Row) (batch : List Row) : Prop :=
  rowInk header = [] ∨ (∀ row ∈ batch, rowInk row = []) ∨
    CarriesWhole chunkSize overlap (tableText header batch)

theorem repeatsHeader_iff (positive : 0 < chunkSize) :
    RepeatsHeader chunkSize overlap header batch ↔ KeepsHeader chunkSize overlap header batch := by
  have rows : (ink isSpace (tableText header batch)).length ≤ (rowInk header).length ↔
      ∀ row ∈ batch, rowInk row = [] := by
    rw [ink_table, List.length_append, ← List.flatMap_eq_nil_iff, ← List.length_eq_zero_iff]
    omega
  have starts := @spansOf_start_iff chunkSize overlap positive (tableText header batch)
    (rowInk header).length
  rw [rows] at starts
  unfold RepeatsHeader KeepsHeader
  rw [← starts, ← List.length_eq_zero_iff]
  by_cases none : (rowInk header).length = 0
  · exact iff_of_true (fun span _ reaches => (holds_iff reaches).mpr (.inl none)) (.inl none)
  · simp only [none, false_or]
    refine forall_congr' fun span => forall_congr' fun _ => forall_congr' fun reaches => ?_
    rw [holds_iff reaches, or_iff_right none]

structure Shows (header : Row) (batch : List Row) (chunk : Chunk) (span : Span) : Prop where
  text : ink isSpace chunk.text.toList = span.of (tableText header batch)
  begins : (rowInk header).length < span.stop → Span.Holds span (rowInk header).length →
    rowInk header <+: ink isSpace chunk.text.toList

theorem shows_of_text {chunk : Chunk} {span : Span}
    (text : ink isSpace chunk.text.toList = span.of (tableText header batch)) :
    Shows header batch chunk span := by
  refine ⟨text, fun reaches holds => ?_⟩
  obtain none | first := (holds_iff reaches).mp holds
  · rw [List.length_eq_zero_iff.mp none]
    exact List.nil_prefix
  · rw [text, Span.of, first, List.drop_zero, ink_table]
    exact List.prefix_take_iff.mpr ⟨List.prefix_append .., reaches.le⟩

structure TableChunked (chunkSize overlap : Int) (header : Row) (batch : Nat × List Row)
    (group : List Chunk) : Prop where
  located : ∀ chunk ∈ group, chunk.location = locationOf batch
  shows : List.Forall₂ (Shows header batch.2) group
    (spansOf chunkSize.toNat (clamped chunkSize overlap) (tableText header batch.2))

theorem shown_of_texts (positive : 0 < chunkSize) {group : List Chunk}
    (same : group.map (fun chunk => chunk.text.toList) =
      (partsOf chunkSize overlap (tableText header batch)).map Part.text) :
    List.Forall₂ (Shows header batch) group
      (spansOf chunkSize overlap (tableText header batch)) := by
  have texts := @spansOf_text chunkSize overlap positive (tableText header batch)
  rw [← same, List.forall₂_map_left_iff] at texts
  exact texts.imp fun _ _ => shows_of_text

def longRows : Text :=
  "id,note\n1,".toList ++ List.replicate 150 'a' ++ ".\n2,".toList ++
    List.replicate 150 'b' ++ ".\n".toList

end AiPlatform.DocumentParsers
