import AiPlatform.ProbeReports

/-!
The table of `dcgmi dmon`, whose cells are words or the two words of "Not Supported", and
what all four reports of the GPU probes show. Cells of two words move the values behind
them to the next columns, and make up for columns that were cut off.
-/

namespace AiPlatform.Probes

open Agents (isSpace)
open AirGap (Text splitlines isLineBreak)
open Trimming (trim words)

structure Word where
  text : Text
  some : text ≠ []
  solid : ∀ c ∈ text, isSpace c = false

def Word.of (text : Text) (plain : text ≠ [] ∧ (text.all fun c => !isSpace c) = true) : Word :=
  ⟨text, plain.1, by simpa using plain.2⟩

theorem Word.words (word : Word) : words isSpace word.text = [word.text] := by
  rw [Trimming.words_run word.solid, Trimming.asWord, if_neg (by simpa using word.some)]

theorem Word.unbroken (word : Word) : Unbroken word.text := by
  intro c member
  by_contra breaks
  have solid := word.solid c member
  rw [space_of_break (by simpa using breaks)] at solid
  cases solid

inductive DmonCell
  | word (run : Word)
  | notSupported

namespace DmonCell

def text : DmonCell → Text
  | .word run => run.text
  | .notSupported => "Not Supported".toList

def words : DmonCell → List Text
  | .word run => [run.text]
  | .notSupported => ["Not".toList, "Supported".toList]

theorem words_text (cell : DmonCell) : Trimming.words isSpace cell.text = cell.words := by
  cases cell with
  | word run => exact run.words
  | notSupported => decide +kernel

def value {F : Type} (floats : Floats F) : DmonCell → Option F
  | .word run => dcgmFloat floats run.text
  | .notSupported => none

end DmonCell

/-- A row: its GPU, the cell of each field with the blanks in front of it beyond the
first, and how many of the cells are printed. -/
structure DmonRow where
  gpu : Word
  cell : Nat → DmonCell
  pad : Nat → Nat
  width : Nat

inductive DmonLine
  /-- A header, or a row that was cut short of its GPU. -/
  | other (text : Text) (unbroken : Unbroken text)
      (noRow : ¬"GPU".toList <+: trim isSpace text ∨ (words isSpace text).length < 2)
  | row (row : DmonRow)

theorem DmonCell.unbroken (cell : DmonCell) : Unbroken cell.text := by
  cases cell with
  | word run => exact run.unbroken
  | notSupported => decide +kernel

namespace DmonRow

def cells (row : DmonRow) : List DmonCell := (dmonFields.take row.width).map row.cell

def columnsText (row : DmonRow) (fields : List Nat) : Text :=
  fields.flatMap fun field => List.replicate (row.pad field + 1) ' ' ++ (row.cell field).text

def line (row : DmonRow) : Text :=
  "GPU".toList ++ ' ' :: (row.gpu.text ++ row.columnsText (dmonFields.take row.width))

theorem stops_columnsText (row : DmonRow) (fields : List Nat) :
    Trimming.Stops isSpace (row.columnsText fields) := by
  cases fields with
  | nil => simp [Trimming.Stops, columnsText]
  | cons field rest =>
      intro c first
      rw [columnsText, List.flatMap_cons, List.replicate_succ] at first
      cases first
      decide

theorem words_columnsText (row : DmonRow) (fields : List Nat) :
    words isSpace (row.columnsText fields) = (fields.map row.cell).flatMap DmonCell.words := by
  induction fields with
  | nil => rfl
  | cons field rest ih =>
      have blank : Trimming.ink isSpace (List.replicate (row.pad field + 1) ' ') = [] :=
        Trimming.ink_eq_nil.mpr fun c member => by
          rw [List.eq_of_mem_replicate member]
          decide
      have stops := row.stops_columnsText rest
      rw [columnsText] at ih stops ⊢
      rw [List.flatMap_cons, List.append_assoc, Trimming.words_blank_append blank,
        Trimming.words_append_stops stops, ih, DmonCell.words_text, List.map_cons,
        List.flatMap_cons]

theorem words_line (row : DmonRow) :
    words isSpace row.line = "GPU".toList :: row.gpu.text :: row.cells.flatMap DmonCell.words := by
  have gpu : words isSpace "GPU".toList = ["GPU".toList] := by decide +kernel
  rw [line, Trimming.words_append_cons (by decide), gpu,
    Trimming.words_append_stops (row.stops_columnsText _), row.gpu.words, words_columnsText, cells]
  rfl

theorem line_unbroken (row : DmonRow) : Unbroken row.line := by
  intro c member
  rw [line, List.mem_append, List.mem_cons, List.mem_append] at member
  rcases member with start | rfl | gpu | columns
  · exact (by decide +kernel : Unbroken "GPU".toList) c start
  · decide
  · exact row.gpu.unbroken c gpu
  · obtain ⟨field, -, inside⟩ := List.mem_flatMap.mp columns
    rcases List.mem_append.mp inside with blank | cell
    · rw [List.eq_of_mem_replicate blank]
      decide
    · exact (row.cell field).unbroken c cell

theorem trim_line (row : DmonRow) : ∃ rest, trim isSpace row.line = 'G' :: 'P' :: 'U' :: rest := by
  have opens : Trimming.Opens isSpace row.line := by
    intro c first
    cases first
    decide
  have back : "GPU".toList.rdropWhile isSpace = "GPU".toList := by decide +kernel
  rw [opens.trim, line, Trimming.rdropWhile_append, back]
  split
  · exact ⟨[], rfl⟩
  · exact ⟨_, rfl⟩

end DmonRow

section Shifts

variable {F : Type} (floats : Floats F) {cells : List DmonCell}

def InPlace (cells : List DmonCell) : Prop :=
  cells.Pairwise fun before later => before = .notSupported → later.value floats = none

theorem shifted_iff (cells : List DmonCell) {front : List Text} (some : front ≠ [])
    (blank : ∀ word ∈ front, dcgmFloat floats word = none) :
    ((front ++ cells.flatMap DmonCell.words).take cells.length).map (dcgmFloat floats) =
        cells.map (DmonCell.value floats) ↔
      ∀ cell ∈ cells, cell.value floats = none := by
  induction cells generalizing front with
  | nil => simp
  | cons cell rest ih =>
      obtain ⟨first, others, rfl⟩ := List.exists_cons_of_ne_nil some
      rw [List.forall_mem_cons] at blank ⊢
      have tokens : others ++ (cell :: rest).flatMap DmonCell.words =
          (others ++ cell.words) ++ rest.flatMap DmonCell.words := by simp
      rw [List.cons_append, List.length_cons, List.take_succ_cons, tokens, List.map_cons,
        List.map_cons, List.cons.injEq, blank.1, eq_comm (a := none)]
      refine and_congr_right fun none => ?_
      refine ih (by cases cell <;> simp [DmonCell.words]) fun word member => ?_
      rcases List.mem_append.mp member with later | own
      · exact blank.2 word later
      · cases cell with
        | word run =>
            cases List.mem_singleton.mp own
            exact none
        | notSupported =>
            simp only [DmonCell.words, List.mem_cons, List.not_mem_nil, or_false] at own
            rcases own with rfl | rfl <;> exact if_pos (by decide +kernel)

theorem inPlace_iff (cells : List DmonCell) :
    ((cells.flatMap DmonCell.words).take cells.length).map (dcgmFloat floats) =
        cells.map (DmonCell.value floats) ↔ InPlace floats cells := by
  induction cells with
  | nil => simp [InPlace]
  | cons cell rest ih =>
      rw [InPlace, List.pairwise_cons]
      cases cell with
      | word run =>
          rw [List.flatMap_cons, DmonCell.words, List.singleton_append, List.length_cons,
            List.take_succ_cons, List.map_cons, List.map_cons, List.cons.injEq, ih]
          simp [DmonCell.value, InPlace]
      | notSupported =>
          have second : ∀ word ∈ ["Supported".toList], dcgmFloat floats word = none := by
            intro word member
            cases List.mem_singleton.mp member
            exact if_pos (by decide +kernel)
          have first : dcgmFloat floats "Not".toList = none := if_pos (by decide +kernel)
          have behind := shifted_iff floats rest (by simp) second
          rw [List.singleton_append] at behind
          rw [List.flatMap_cons, DmonCell.words, List.cons_append, List.singleton_append,
            List.length_cons, List.take_succ_cons, List.map_cons, List.map_cons, List.cons.injEq,
            behind, first]
          simp only [DmonCell.value, true_and, forall_const]
          refine ⟨fun none => ⟨none, ?_⟩, And.left⟩
          exact List.pairwise_of_forall_mem_list fun _ _ later member _ => none later member

end Shifts

section Readings

variable {F : Type} (floats : Floats F) (devices : List GpuDevice)

namespace DmonRow

def known (row : DmonRow) : Option (Int × GpuDevice) :=
  (floats.integer row.gpu.text).bind fun index =>
    (Dcgm.deviceAt devices index).map fun device => (index, device)

def Complete (row : DmonRow) : Prop := dmonFields.length ≤ row.width

instance (row : DmonRow) : Decidable row.Complete := inferInstanceAs (Decidable (_ ≤ _))

def values (row : DmonRow) : List (Option F) :=
  dmonFields.map fun field => (row.cell field).value floats

def wordCount (row : DmonRow) : Nat := (row.cells.flatMap DmonCell.words).length

/-- A row of a known GPU has all its columns and no two words in front of a number, or too
few words to count. -/
def Unshifted (row : DmonRow) : Prop :=
  (row.known floats devices).isSome →
    row.Complete ∧ InPlace floats row.cells ∨ row.wordCount + 1 < dmonFields.length

theorem cells_complete {row : DmonRow} (complete : row.Complete) :
    row.cells = dmonFields.map row.cell := by
  rw [cells, List.take_of_length_le complete]

theorem length_cells_le (cells : List DmonCell) :
    cells.length ≤ (cells.flatMap DmonCell.words).length := by
  induction cells with
  | nil => simp
  | cons cell rest ih =>
      have some : 1 ≤ cell.words.length := by cases cell <;> simp [DmonCell.words]
      rw [List.flatMap_cons, List.length_append, List.length_cons]
      omega

theorem reading_line (row : DmonRow) :
    Dcgm.reading floats devices row.line =
      if row.wordCount + 1 < dmonFields.length then none
      else
        (row.known floats devices).map fun (index, device) =>
          (index, device, ((row.cells.flatMap DmonCell.words).take dmonFields.length).map
            (dcgmFloat floats)) := by
  obtain ⟨rest, starts⟩ := row.trim_line
  have parts : words isSpace ('G' :: 'P' :: 'U' :: rest) =
      "GPU".toList :: row.gpu.text :: row.cells.flatMap DmonCell.words := by
    rw [← starts, Trimming.words_trim, row.words_line]
  have passes : (decide ('G' :: 'P' :: 'U' :: rest = []) ||
      "#".toList.isPrefixOf ('G' :: 'P' :: 'U' :: rest) ||
      !"GPU".toList.isPrefixOf ('G' :: 'P' :: 'U' :: rest)) = false := by
    simp [List.isPrefixOf]
  rw [Dcgm.reading, starts]
  simp only [passes, parts, column, List.length_cons, List.getD_cons_succ, List.getD_cons_zero,
    List.drop_succ_cons, List.drop_zero, wordCount, known]
  have same : (row.cells.flatMap DmonCell.words).length + 1 + 1 < dmonFields.length + 1 ↔
      (row.cells.flatMap DmonCell.words).length + 1 < dmonFields.length := by omega
  simp only [same]
  cases floats.integer row.gpu.text with
  | none => simp
  | some index =>
      simp only [Option.bind_some, Option.map_map]
      rfl

def own (row : DmonRow) : Option (Int × GpuDevice × List (Option F)) :=
  if row.Complete then
    (row.known floats devices).map fun (index, device) => (index, device, row.values floats)
  else none

theorem reading_iff (row : DmonRow) :
    Dcgm.reading floats devices row.line = row.own floats devices ↔
      row.Unshifted floats devices := by
  rw [row.reading_line floats devices, own, Unshifted]
  cases row.known floats devices with
  | none => simp
  | some known =>
      obtain ⟨index, device⟩ := known
      simp only [Option.map_some, Option.isSome_some, forall_const]
      by_cases complete : row.Complete
      · have all := cells_complete complete
        have eight : row.cells.length = dmonFields.length := by rw [all, List.length_map]
        have enough := length_cells_le row.cells
        rw [eight] at enough
        have counted : ¬row.wordCount + 1 < dmonFields.length := by rw [wordCount]; omega
        have places := inPlace_iff floats row.cells
        rw [if_neg counted, if_pos complete, ← places, eight, all]
        simp [complete, counted, values, Function.comp_def]
      · rw [if_neg complete]
        simp [complete]

end DmonRow

namespace DmonLine

def text : DmonLine → Text
  | .other text _ _ => text
  | .row entry => entry.line

theorem unbroken (line : DmonLine) : Unbroken line.text := by
  cases line with
  | other text unbroken _ => exact unbroken
  | row entry => exact entry.line_unbroken

def data : DmonLine → Option (Int × GpuDevice × DmonRow)
  | .other .. => none
  | .row entry =>
      if entry.Complete then
        (entry.known floats devices).map fun (index, device) => (index, device, entry)
      else none

def own (line : DmonLine) : Option (Int × GpuDevice × List (Option F)) :=
  (line.data floats devices).map fun (index, device, entry) => (index, device, entry.values floats)

def Unshifted : DmonLine → Prop
  | .other .. => True
  | .row entry => entry.Unshifted floats devices

theorem reading_iff (line : DmonLine) :
    Dcgm.reading floats devices line.text = line.own floats devices ↔
      line.Unshifted floats devices := by
  cases line with
  | other text unbroken noRow =>
      refine iff_of_true ?_ trivial
      rw [own, data, DmonLine.text, Option.map_none, Dcgm.reading]
      dsimp only
      split
      · rfl
      · rename_i starts
        simp only [Bool.or_eq_true, not_or, Bool.not_eq_true', Bool.not_eq_false,
          List.isPrefixOf_iff_prefix] at starts
        have short : (words isSpace text).length < 2 := noRow.resolve_left (not_not.mpr starts.2)
        rw [Trimming.words_trim, if_pos (by rw [show dmonFields.length = 8 from rfl]; omega)]
  | row entry =>
      have same : own floats devices (row entry) = entry.own floats devices := by
        rw [own, data, DmonRow.own]
        split
        · rw [Option.map_map]
          rfl
        · rfl
      rw [same]
      exact entry.reading_iff floats devices

end DmonLine

namespace DmonRow

def value (row : DmonRow) (field : Nat) : Option F := (row.cell field).value floats

def float (value : Option F) : F := (value.filter floats.truthy).getD floats.zero

def sample (index : Int) (device : GpuDevice) (row : DmonRow) : GpuMetricSample F :=
  let memoryUsed := (integer floats ((row.value floats 252).filter floats.truthy)).getD 0
  let temperature := float floats (row.value floats 150)
  let uncorrected := integer floats (row.value floats 313)
  { gpuUuid := device.uuid
    index
    utilizationPercent := float floats (row.value floats 203)
    memoryUsedMib := memoryUsed
    memoryTotalMib := device.memoryTotalMib
    temperatureCelsius := temperature
    powerDrawWatts := float floats (row.value floats 155)
    powerLimitWatts := floats.zero
    smClockMhz := integer floats (row.value floats 100)
    smUtilizationPercent := row.value floats 203
    eccErrorsCorrected := integer floats (row.value floats 312)
    eccErrorsUncorrected := uncorrected
    pcieReplayCounter := integer floats (row.value floats 202)
    nvlinkBandwidthMbps := none
    health := classifyHealth floats temperature memoryUsed device.memoryTotalMib uncorrected }

structure Readable (row : DmonRow) : Prop where
  used : Finite floats ((row.value floats 252).filter floats.truthy)
  uncorrected : Finite floats (row.value floats 313)
  clock : Finite floats (row.value floats 100)
  corrected : Finite floats (row.value floats 312)
  replays : Finite floats (row.value floats 202)

theorem orZero_eq (value : Option F) : Dcgm.orZero floats value = float floats value := by
  cases value with
  | none => rfl
  | some x => cases truth : floats.truthy x <;> simp [Dcgm.orZero, float, Option.filter, truth]

theorem intOrZero_eq_ok {value : Option F} {n : Int} :
    Dcgm.intOrZero floats value = .ok n ↔
      Finite floats (value.filter floats.truthy) ∧
        n = (integer floats (value.filter floats.truthy)).getD 0 := by
  cases value with
  | none => simp [Dcgm.intOrZero, Finite, integer, eq_comm]
  | some x =>
      cases truth : floats.truthy x with
      | false => simp [Dcgm.intOrZero, Finite, integer, Option.filter, truth, eq_comm]
      | true =>
          cases cut : floats.int x <;>
            simp [Dcgm.intOrZero, Finite, integer, Option.filter, truth, cut, Except.toOption,
              eq_comm]

theorem intOrNone_eq_ok {value : Option F} {n : Option Int} :
    Dcgm.intOrNone floats value = .ok n ↔
      Finite floats value ∧ n = integer floats value := by
  cases value with
  | none => simp [Dcgm.intOrNone, Finite, integer, eq_comm]
  | some x =>
      cases cut : floats.int x <;>
        simp [Dcgm.intOrNone, Finite, integer, cut, Except.map, Except.toOption, eq_comm]

theorem sample_eq_ok {index : Int} {device : GpuDevice} {row : DmonRow}
    {report : GpuMetricSample F} :
    Dcgm.sample floats index device (row.values floats) = .ok report ↔
      row.Readable floats ∧ report = row.sample floats index device := by
  simp only [Dcgm.sample, values, dmonFields, List.map_cons, List.map_nil, Dcgm.value,
    List.getElem?_cons_zero, List.getElem?_cons_succ, orZero_eq, bind_eq_ok,
    intOrZero_eq_ok, intOrNone_eq_ok, Except.ok.injEq, exists_eq_left']
  constructor
  · rintro ⟨_, ⟨used, rfl⟩, _, ⟨uncorrected, rfl⟩, _, ⟨clock, rfl⟩, _, ⟨corrected, rfl⟩, _,
      ⟨replays, rfl⟩, same⟩
    exact ⟨⟨used, uncorrected, clock, corrected, replays⟩, (Except.ok.inj same).symm⟩
  · rintro ⟨readable, rfl⟩
    exact ⟨_, ⟨readable.used, rfl⟩, _, ⟨readable.uncorrected, rfl⟩, _, ⟨readable.clock, rfl⟩, _,
      ⟨readable.corrected, rfl⟩, _, ⟨readable.replays, rfl⟩, rfl⟩

end DmonRow

end Readings

/-- The tables of one round of queries; `none` stands for a query that fails. -/
structure Tables where
  drivers : List Row
  devices : List Row
  metrics : List Row
  processes : Option (List Row)
  dmon : Option (List DmonLine)

namespace Tables

variable {F : Type} (floats : Floats F) (tables : Tables)

def outputs : Outputs where
  drivers := tableText tables.drivers driverFields
  devices := tableText tables.devices deviceFields
  metrics := tableText tables.metrics metricFields
  processes := tables.processes.map fun table => tableText table processFields
  dmon := tables.dmon.map fun lines => printed (lines.map DmonLine.text)

def driverInfo : DriverInfo :=
  match completeRows tables.drivers driverFields with
  | [] => ⟨"unknown".toList, "unknown".toList, "nvidia_smi"⟩
  | first :: _ => ⟨first.text "driver_version", first.text "cuda_version", "nvidia_smi"⟩

def gpuDevices : List GpuDevice :=
  (completeRows tables.devices deviceFields).map (Row.device floats tables.driverInfo.cudaVersion)

def smiSamples : List (GpuMetricSample F) :=
  (completeRows tables.metrics metricFields).map (Row.sample floats)

def gpuProcesses : List GpuProcess :=
  (completeRows (tables.processes.getD []) processFields).map (Row.process floats)

def dmonSamples : List (GpuMetricSample F) :=
  ((tables.dmon.getD []).filterMap (DmonLine.data floats (tables.gpuDevices floats))).map
    fun (index, device, row) => row.sample floats index device

/-- The samples of `nvidia-smi` stand in for those of `dcgmi` when there are none. -/
def dcgmSamples : List (GpuMetricSample F) :=
  if (tables.dmonSamples floats).isEmpty then tables.smiSamples floats
  else tables.dmonSamples floats

/-- No report fails; every row is read as the cells of its own columns, and the reports
show these, an unsupported one as `none` or, where there has to be a number, as zero. -/
structure Faithful : Prop where
  driverRows : Separated tables.drivers driverFields
  deviceRows : Separated tables.devices deviceFields
  metricRows : Separated tables.metrics metricFields
  processRows : Separated (tables.processes.getD []) processFields
  dmonRows : ∀ line ∈ tables.dmon.getD [],
    Dcgm.reading floats (tables.gpuDevices floats) line.text =
      line.own floats (tables.gpuDevices floats)
  drivers : NvidiaSmi.driverInfo tables.outputs = tables.driverInfo
  devices : NvidiaSmi.listDevices floats tables.outputs = .ok (tables.gpuDevices floats)
  metrics : NvidiaSmi.sampleMetrics floats tables.outputs = .ok (tables.smiSamples floats)
  processes : NvidiaSmi.listProcesses floats tables.outputs = .ok (tables.gpuProcesses floats)
  dmon : Dcgm.sampleMetrics floats tables.outputs = .ok (tables.dcgmSamples floats)

/-- No comma splits a cell of a row that counts, no two words shift a number, and what is
shown as an integer can be turned into one. -/
structure Clean : Prop where
  driverRows : ∀ row ∈ tables.drivers, row.Unsplit driverFields
  deviceRows : ∀ row ∈ tables.devices, row.Unsplit deviceFields
  metricRows : ∀ row ∈ tables.metrics, row.Unsplit metricFields
  processRows : ∀ row ∈ tables.processes.getD [], row.Unsplit processFields
  dmonRows : ∀ line ∈ tables.dmon.getD [], line.Unshifted floats (tables.gpuDevices floats)
  devices : ∀ row ∈ tables.devices, row.Complete deviceFields → row.ReadableDevice floats
  metrics : ∀ row ∈ tables.metrics, row.Complete metricFields → row.ReadableSample floats
  processes : ∀ row ∈ tables.processes.getD [], row.Complete processFields →
    row.ReadableProcess floats
  dmon : ∀ line ∈ tables.dmon.getD [], ∀ index device row,
    line.data floats (tables.gpuDevices floats) = some (index, device, row) → row.Readable floats

variable {tables}

theorem separated_iff {table : List Row} {fields : List String} (two : 2 ≤ fields.length) :
    Separated table fields ↔ ∀ row ∈ table, row.Unsplit fields :=
  forall_congr' fun row => imp_congr_right fun _ => row.row_line_iff two

theorem driverInfo_eq (apart : Separated tables.drivers driverFields) :
    NvidiaSmi.driverInfo tables.outputs = tables.driverInfo := by
  rw [NvidiaSmi.driverInfo, outputs, rows_table apart, driverInfo]
  cases completeRows tables.drivers driverFields <;> rfl

theorem devices_iff (drivers : Separated tables.drivers driverFields)
    (apart : Separated tables.devices deviceFields) :
    NvidiaSmi.listDevices floats tables.outputs = .ok (tables.gpuDevices floats) ↔
      ∀ row ∈ tables.devices, row.Complete deviceFields → row.ReadableDevice floats := by
  rw [NvidiaSmi.listDevices, driverInfo_eq drivers]
  exact reports_iff apart fun row => row.device_iff floats _

theorem metrics_iff (apart : Separated tables.metrics metricFields) :
    NvidiaSmi.sampleMetrics floats tables.outputs = .ok (tables.smiSamples floats) ↔
      ∀ row ∈ tables.metrics, row.Complete metricFields → row.ReadableSample floats :=
  reports_iff apart fun row => row.sample_iff floats

theorem processes_iff (apart : Separated (tables.processes.getD []) processFields) :
    NvidiaSmi.listProcesses floats tables.outputs = .ok (tables.gpuProcesses floats) ↔
      ∀ row ∈ tables.processes.getD [], row.Complete processFields →
        row.ReadableProcess floats := by
  rw [NvidiaSmi.listProcesses, outputs, gpuProcesses]
  cases queried : tables.processes with
  | none => simp [completeRows]
  | some table =>
      rw [queried] at apart
      exact reports_iff apart fun row => row.process_iff floats

theorem readings_eq {devices : List GpuDevice} {lines : List DmonLine}
    (own : ∀ line ∈ lines, Dcgm.reading floats devices line.text = line.own floats devices) :
    (splitlines (printed (lines.map DmonLine.text))).filterMap (Dcgm.reading floats devices) =
      (lines.filterMap (DmonLine.data floats devices)).map
        fun (index, device, row) => (index, device, row.values floats) := by
  have unbroken : ∀ text ∈ lines.map DmonLine.text, Unbroken text := by
    intro text member
    obtain ⟨line, -, rfl⟩ := List.mem_map.mp member
    exact line.unbroken
  rw [splitlines_printed unbroken, List.filterMap_map, List.map_filterMap]
  exact List.filterMap_congr own

theorem dmon_iff
    (devices : NvidiaSmi.listDevices floats tables.outputs = .ok (tables.gpuDevices floats))
    (metrics : NvidiaSmi.sampleMetrics floats tables.outputs = .ok (tables.smiSamples floats))
    (own : ∀ line ∈ tables.dmon.getD [],
      Dcgm.reading floats (tables.gpuDevices floats) line.text =
        line.own floats (tables.gpuDevices floats)) :
    Dcgm.sampleMetrics floats tables.outputs = .ok (tables.dcgmSamples floats) ↔
      ∀ line ∈ tables.dmon.getD [], ∀ index device row,
        line.data floats (tables.gpuDevices floats) = some (index, device, row) →
          row.Readable floats := by
  rw [Dcgm.sampleMetrics, devices, dcgmSamples, dmonSamples]
  cases queried : tables.dmon with
  | none =>
      have unasked : tables.outputs.dmon = none := by rw [outputs, queried]; rfl
      simp [unasked, metrics, bind, Except.bind]
  | some lines =>
      have asked : tables.outputs.dmon = some (printed (lines.map DmonLine.text)) := by
        rw [outputs, queried]; rfl
      rw [queried, Option.getD_some] at own
      let counted := lines.filterMap (DmonLine.data floats (tables.gpuDevices floats))
      have loop : ((splitlines (printed (lines.map DmonLine.text))).filterMap
            (Dcgm.reading floats (tables.gpuDevices floats))).mapM
              (fun data => Dcgm.sample floats data.1 data.2.1 data.2.2) =
          counted.mapM fun data => Dcgm.sample floats data.1 data.2.1 (data.2.2.values floats) := by
        rw [readings_eq floats own, List.mapM_map]
        rfl
      simp only [asked, bind, Except.bind, loop, metrics, Option.getD_some]
      constructor
      · intro ran line member index device row counts
        cases all : counted.mapM fun data =>
            Dcgm.sample floats data.1 data.2.1 (data.2.2.values floats) with
        | error fault => simp only [all, reduceCtorEq] at ran
        | ok samples =>
            have listed := List.mem_filterMap.mpr ⟨line, member, counts⟩
            obtain ⟨report, read⟩ := Columns.mapM_rows all _ listed
            exact ((DmonRow.sample_eq_ok floats).mp read).1
      · intro readable
        have all : (counted.mapM fun data =>
              Dcgm.sample floats data.1 data.2.1 (data.2.2.values floats)) =
            .ok (counted.map fun data => data.2.2.sample floats data.1 data.2.1) := by
          refine Columns.mapM_eq_ok_map.mpr ?_
          rintro ⟨index, device, row⟩ listed
          obtain ⟨line, member, counts⟩ := List.mem_filterMap.mp listed
          exact (DmonRow.sample_eq_ok floats).mpr ⟨readable line member index device row counts, rfl⟩
        simp only [all]
        split <;> rfl

end Tables

inductive Number
  | nan
  | infinite
  | finite (value : Rat)
  deriving DecidableEq

def digits (text : Text) : Option Nat :=
  if text ≠ [] ∧ text.all Char.isDigit then
    some (text.foldl (fun n c => 10 * n + (c.toNat - '0'.toNat)) 0)
  else none

def plainFloats : Floats Number where
  float text :=
    if lower text = "nan".toList then some .nan
    else if lower text = "inf".toList then some .infinite
    else (digits text).map fun n => .finite n
  integer text := (digits text).map Int.ofNat
  int
    | .nan => .error .valueError
    | .infinite => .error .overflowError
    | .finite value => .ok (value.num.tdiv value.den)
  zero := .finite 0
  int_zero := by decide +kernel
  truthy x := x ≠ .finite 0
  atLeast
    | .nan, _ => false
    | .infinite, _ => true
    | .finite value, threshold => threshold ≤ value
  ratio numerator denominator := .finite (numerator / denominator)

def oneGpu (power clock : DmonCell) (width : Nat) : Tables where
  drivers := []
  devices := [{
    cell := fun field => if field = "memory.total" then "81920".toList else "0".toList
    unbroken := fun field => by split <;> decide +kernel
    width := 6 }]
  metrics := []
  processes := none
  dmon := some [.row {
    gpu := .of "0".toList (by decide)
    cell := fun field =>
      if field = 155 then power
      else if field = 100 then clock
      else .word (.of "40".toList (by decide))
    pad := fun _ => 3
    width }]

end AiPlatform.Probes
