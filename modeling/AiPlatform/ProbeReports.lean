import AiPlatform.Columns
import AiPlatform.GpuProbes

/-!
The tables that the GPU tools print, and what the probes report of them. A row has a cell
for each field that was asked for, and may be cut short; the reports are then written down
by the names of the fields. The probes report that exactly for the tables whose rows come
apart into their own cells and whose numbers can be turned into integers.
-/

namespace AiPlatform.Probes

open Agents (isSpace)
open AirGap (Text splitlines isLineBreak)
open Columns (joined)
open Trimming (trim words)

def Unbroken (text : Text) : Prop := ∀ c ∈ text, isLineBreak c = false

instance (text : Text) : Decidable (Unbroken text) :=
  List.decidableBAll (fun c => isLineBreak c = false) text

def printed (lines : List Text) : Text := lines.flatMap fun line => line ++ ['\n']

theorem splitlines_line {line : Text} (unbroken : Unbroken line) (rest : Text) :
    splitlines (line ++ '\n' :: rest) = line :: splitlines rest := by
  induction line with
  | nil => simp [splitlines, isLineBreak]
  | cons c line ih =>
      have inside : isLineBreak c = false := unbroken c List.mem_cons_self
      have later := ih fun d member => unbroken d (List.mem_cons_of_mem _ member)
      have other : c ≠ '\r' := by
        rintro rfl
        exact absurd inside (by decide)
      rw [List.cons_append, splitlines, later, if_neg (by simp [inside])]
      exact fun _ same _ => absurd same other

theorem splitlines_printed {lines : List Text} (unbroken : ∀ line ∈ lines, Unbroken line) :
    splitlines (printed lines) = lines := by
  induction lines with
  | nil => rfl
  | cons line lines ih =>
      have first := unbroken line List.mem_cons_self
      have others := ih fun line member => unbroken line (List.mem_cons_of_mem _ member)
      rw [printed, List.flatMap_cons, List.append_assoc, List.singleton_append,
        splitlines_line first]
      rw [printed] at others
      rw [others]

theorem space_of_break {c : Char} (breaks : isLineBreak c = true) : isSpace c = true := by
  simp only [isLineBreak, isSpace, Bool.or_eq_true, Bool.and_eq_true, decide_eq_true_eq,
    beq_iff_eq] at breaks ⊢
  omega

/-- A row: the cell of each field, with the blanks around it, and how many of the cells
are printed. -/
structure Row where
  cell : String → Text
  unbroken : ∀ field, Unbroken (cell field)
  width : Nat

namespace Row

def cells (row : Row) (fields : List String) : List Text := (fields.map row.cell).take row.width

def line (row : Row) (fields : List String) : Text := joined ',' (row.cells fields)

def Complete (row : Row) (fields : List String) : Prop := fields.length ≤ row.width

instance (row : Row) (fields : List String) : Decidable (row.Complete fields) :=
  inferInstanceAs (Decidable (_ ≤ _))

def text (row : Row) (field : String) : Text := trim isSpace (row.cell field)

def own (row : Row) (fields : List String) : Option (List Text) :=
  if row.Complete fields then some (fields.map row.text) else none

def Unsplit (row : Row) (fields : List String) : Prop :=
  ',' ∉ (row.cells fields).flatten ∨
    (row.cells fields).length + (row.cells fields).flatten.count ',' < fields.length

theorem line_unbroken (row : Row) (fields : List String) : Unbroken (row.line fields) := by
  intro c member
  rcases Columns.mem_of_joined member with rfl | ⟨cell, listed, inside⟩
  · decide
  · obtain ⟨field, -, rfl⟩ := List.mem_map.mp (List.mem_of_mem_take listed)
    exact row.unbroken field c inside

theorem row_line (row : Row) {fields : List String} (two : 2 ≤ fields.length) :
    Probes.row fields.length (row.line fields) =
      if fields.length ≤ (row.cells fields).length + (row.cells fields).flatten.count ',' then
        some (((row.cells fields).flatMap (List.splitOn ',')).map (trim isSpace))
      else none := by
  cases cells : row.cells fields with
  | nil =>
      rw [line, cells, Probes.row, if_pos (by rfl), if_neg]
      simp only [List.length_nil, List.flatten_nil, List.count_nil]
      omega
  | cons cell rest =>
      have pieces := Columns.splitOn_joined ',' (List.cons_ne_nil cell rest)
      have count := Columns.length_pieces ',' (cell :: rest)
      rw [Probes.row, line, cells, pieces]
      simp only [List.length_map, count]
      split
      · rename_i blank
        have spaces := Trimming.ink_eq_nil.mp (Trimming.trim_ink.mp blank)
        have alone : ',' ∉ joined ',' (cell :: rest) := fun member =>
          absurd (spaces ',' member) (by decide)
        have single := congrArg List.length (Columns.splitOn_absent alone)
        rw [pieces, count, List.length_singleton] at single
        rw [if_neg (by omega)]
      · rfl

theorem row_line_iff (row : Row) {fields : List String} (two : 2 ≤ fields.length) :
    Probes.row fields.length (row.line fields) = row.own fields ↔ row.Unsplit fields := by
  have width : (row.cells fields).length = min row.width fields.length := by simp [cells]
  have counted := Columns.length_pieces ',' (row.cells fields)
  have completes : row.Complete fields ↔ fields.length ≤ row.width := Iff.rfl
  rw [row.row_line two, own, Unsplit]
  by_cases absent : ',' ∈ (row.cells fields).flatten
  · have commas := List.count_pos_iff.mpr absent
    simp only [absent, not_true_eq_false, false_or]
    constructor
    · intro same
      by_contra enough
      rw [if_pos (by omega)] at same
      by_cases complete : row.Complete fields
      · rw [if_pos complete] at same
        have lengths := congrArg List.length (Option.some.inj same)
        rw [completes] at complete
        simp only [List.length_map] at lengths
        omega
      · rw [if_neg complete] at same
        cases same
    · intro short
      rw [if_neg (by omega), if_neg (by rw [completes]; omega)]
  · rw [Columns.pieces_absent absent, List.count_eq_zero.mpr absent, Nat.add_zero, width]
    refine iff_of_true ?_ (.inl absent)
    by_cases complete : row.Complete fields
    · have all : row.cells fields = fields.map row.cell := List.take_of_length_le (by simpa)
      rw [if_pos complete, all, List.map_map]
      rw [completes] at complete
      rw [if_pos (by omega)]
      rfl
    · rw [if_neg complete]
      rw [completes] at complete
      rw [if_neg (by omega)]

end Row

section Readings

variable {F : Type} (floats : Floats F)

def cellValue (cell : Text) : Option F :=
  let text := lower (trim isSpace cell)
  if notAvailable.contains text then none else floats.float text

def integer (value : Option F) : Option Int := value.bind fun x => (floats.int x).toOption

def Finite (value : Option F) : Prop := ∀ x ∈ value, ∃ n, floats.int x = .ok n

def Bounded (value : Option F) : Prop := ∀ x ∈ value, ∀ fault, floats.int x = .error fault →
  fault = .valueError

theorem cellValue_eq (cell : Text) :
    cellValue floats cell = if lower (trim isSpace cell) ∈ notAvailable then none
      else floats.float (lower (trim isSpace cell)) := by
  simp only [cellValue, List.contains_iff_mem]

theorem num_cell (cell : Text) :
    num floats (trim isSpace cell) = (cellValue floats cell).getD floats.zero := by
  rw [num, cellValue_eq, Trimming.trim_trim]
  split <;> rfl

theorem int_num {cell : Text} {n : Int} :
    floats.int (num floats (trim isSpace cell)) = .ok n ↔
      Finite floats (cellValue floats cell) ∧
        n = (integer floats (cellValue floats cell)).getD 0 := by
  rw [num_cell]
  cases cellValue floats cell with
  | none => simp [Finite, integer, floats.int_zero, eq_comm]
  | some x =>
      cases cut : floats.int x with
      | error fault => simp [Finite, cut]
      | ok m => simp [Finite, integer, cut, Except.toOption, eq_comm]

theorem optInt_cell {cell : Text} {n : Option Int} :
    optInt floats (trim isSpace cell) = .ok n ↔
      Bounded floats (cellValue floats cell) ∧ n = integer floats (cellValue floats cell) := by
  rw [optInt, cellValue_eq, Trimming.trim_trim]
  split
  · simp [Bounded, integer, eq_comm]
  · cases floats.float (lower (trim isSpace cell)) with
    | none => simp [Bounded, integer, eq_comm]
    | some x =>
        cases cut : floats.int x with
        | ok m => simp [Bounded, integer, cut, Except.toOption, eq_comm]
        | error fault => cases fault <;> simp [Bounded, integer, cut, Except.toOption, eq_comm]

end Readings

theorem bind_eq_ok {Fault α β : Type} {first : Except Fault α} {next : α → Except Fault β} {b : β} :
    first >>= next = .ok b ↔ ∃ a, first = .ok a ∧ next a = .ok b := by
  cases first with
  | error fault => simp [bind, Except.bind]
  | ok a => simp [bind, Except.bind]

namespace Row

variable {F : Type} (floats : Floats F)

def value (row : Row) (field : String) : Option F := cellValue floats (row.cell field)

def device (cudaVersion : Text) (row : Row) : GpuDevice where
  index := (integer floats (row.value floats "index")).getD 0
  uuid := row.text "uuid"
  name := row.text "name"
  memoryTotalMib := (integer floats (row.value floats "memory.total")).getD 0
  driverVersion := row.text "driver_version"
  cudaVersion
  pciBusId := if row.text "pci.bus_id" = [] then none else some (row.text "pci.bus_id")
  nvlinkPeers := []

/-- The sample of a row; what need not be there is `none` for a cell without a number. -/
def sample (row : Row) : GpuMetricSample F :=
  let memoryUsed := (integer floats (row.value floats "memory.used")).getD 0
  let memoryTotal := (integer floats (row.value floats "memory.total")).getD 0
  let temperature := (row.value floats "temperature.gpu").getD floats.zero
  let uncorrected := integer floats (row.value floats "ecc.errors.uncorrected.volatile.total")
  { gpuUuid := row.text "uuid"
    index := (integer floats (row.value floats "index")).getD 0
    utilizationPercent := (row.value floats "utilization.gpu").getD floats.zero
    memoryUsedMib := memoryUsed
    memoryTotalMib := memoryTotal
    temperatureCelsius := temperature
    powerDrawWatts := (row.value floats "power.draw").getD floats.zero
    powerLimitWatts := (row.value floats "power.limit").getD floats.zero
    smClockMhz := integer floats (row.value floats "clocks.sm")
    smUtilizationPercent := row.value floats "utilization.gpu"
    eccErrorsCorrected := integer floats (row.value floats "ecc.errors.corrected.volatile.total")
    eccErrorsUncorrected := uncorrected
    pcieReplayCounter := integer floats (row.value floats "pcie.replay_counter")
    nvlinkBandwidthMbps := none
    health := classifyHealth floats temperature memoryUsed memoryTotal uncorrected }

def process (row : Row) : GpuProcess where
  gpuUuid := row.text "gpu_uuid"
  pid := (integer floats (row.value floats "pid")).getD 0
  processName := row.text "process_name"
  usedMemoryMib := (integer floats (row.value floats "used_gpu_memory")).getD 0
  containerId := none

def ReadableDevice (row : Row) : Prop :=
  Finite floats (row.value floats "index") ∧ Finite floats (row.value floats "memory.total")

/-- What a sample's row needs. The utilisation is shown twice, and once as what need not
be there. -/
structure ReadableSample (row : Row) : Prop where
  used : Finite floats (row.value floats "memory.used")
  total : Finite floats (row.value floats "memory.total")
  index : Finite floats (row.value floats "index")
  uncorrected : Bounded floats (row.value floats "ecc.errors.uncorrected.volatile.total")
  clock : Bounded floats (row.value floats "clocks.sm")
  corrected : Bounded floats (row.value floats "ecc.errors.corrected.volatile.total")
  replays : Bounded floats (row.value floats "pcie.replay_counter")
  utilization : (row.value floats "utilization.gpu").isSome

def ReadableProcess (row : Row) : Prop :=
  Finite floats (row.value floats "pid") ∧ Finite floats (row.value floats "used_gpu_memory")

theorem device_iff (cudaVersion : Text) (row : Row) :
    NvidiaSmi.device floats cudaVersion (deviceFields.map row.text) =
      .ok (row.device floats cudaVersion) ↔ row.ReadableDevice floats := by
  simp only [NvidiaSmi.device, column, deviceFields, List.map_cons, List.getD_cons_zero,
    List.getD_cons_succ, text, bind_eq_ok, int_num, ReadableDevice, value]
  constructor
  · rintro ⟨_, ⟨index, -⟩, _, ⟨memory, -⟩, -⟩
    exact ⟨index, memory⟩
  · rintro ⟨index, memory⟩
    exact ⟨_, ⟨index, rfl⟩, _, ⟨memory, rfl⟩, rfl⟩

theorem process_iff (row : Row) :
    NvidiaSmi.process floats (processFields.map row.text) = .ok (row.process floats) ↔
      row.ReadableProcess floats := by
  simp only [NvidiaSmi.process, column, processFields, List.map_cons, List.getD_cons_zero,
    List.getD_cons_succ, text, bind_eq_ok, int_num, ReadableProcess, value]
  constructor
  · rintro ⟨_, ⟨pid, -⟩, _, ⟨memory, -⟩, -⟩
    exact ⟨pid, memory⟩
  · rintro ⟨pid, memory⟩
    exact ⟨_, ⟨pid, rfl⟩, _, ⟨memory, rfl⟩, rfl⟩

theorem sample_iff (row : Row) :
    NvidiaSmi.sample floats (metricFields.map row.text) = .ok (row.sample floats) ↔
      row.ReadableSample floats := by
  simp only [NvidiaSmi.sample, column, metricFields, List.map_cons, List.getD_cons_zero,
    List.getD_cons_succ, text, bind_eq_ok, int_num, optInt_cell]
  constructor
  · rintro ⟨_, ⟨used, -⟩, _, ⟨total, -⟩, _, ⟨uncorrected, -⟩, _, ⟨index, -⟩, _, ⟨clock, -⟩, _,
      ⟨corrected, -⟩, _, ⟨replays, -⟩, same⟩
    have shown : some (num floats (row.text "utilization.gpu")) =
        row.value floats "utilization.gpu" :=
      congrArg GpuMetricSample.smUtilizationPercent (Except.ok.inj same)
    exact ⟨used, total, index, uncorrected, clock, corrected, replays,
      Option.isSome_iff_exists.mpr ⟨_, shown.symm⟩⟩
  · intro readable
    refine ⟨_, ⟨readable.used, rfl⟩, _, ⟨readable.total, rfl⟩, _, ⟨readable.uncorrected, rfl⟩, _,
      ⟨readable.index, rfl⟩, _, ⟨readable.clock, rfl⟩, _, ⟨readable.corrected, rfl⟩, _,
      ⟨readable.replays, rfl⟩, ?_⟩
    obtain ⟨x, shown⟩ := Option.isSome_iff_exists.mp readable.utilization
    have twice : some ((cellValue floats (row.cell "utilization.gpu")).getD floats.zero) =
        row.value floats "utilization.gpu" := by
      rw [← value, shown, Option.getD_some]
    simp only [num_cell]
    rw [twice]
    rfl

end Row

section Tables

variable {table : List Row} {fields : List String}

def tableText (table : List Row) (fields : List String) : Text :=
  printed (table.map fun row => row.line fields)

def completeRows (table : List Row) (fields : List String) : List Row :=
  table.filter fun row => row.Complete fields

def Separated (table : List Row) (fields : List String) : Prop :=
  ∀ row ∈ table, Probes.row fields.length (row.line fields) = row.own fields

theorem rows_table (apart : Separated table fields) :
    rows (tableText table fields) fields.length =
      (completeRows table fields).map fun row => fields.map row.text := by
  have lines : ∀ line ∈ table.map (fun row => row.line fields), Unbroken line := by
    intro line member
    obtain ⟨row, -, rfl⟩ := List.mem_map.mp member
    exact row.line_unbroken fields
  rw [rows, tableText, splitlines_printed lines, List.filterMap_map, completeRows]
  induction table with
  | nil => rfl
  | cons row rest ih =>
      have others := ih (fun row member => apart row (List.mem_cons_of_mem _ member))
        (fun line member => lines line (List.mem_cons_of_mem _ member))
      have own : (Probes.row fields.length ∘ fun row => row.line fields) row = row.own fields :=
        apart row List.mem_cons_self
      by_cases complete : row.Complete fields
      · rw [Row.own, if_pos complete] at own
        rw [List.filterMap_cons_some own, others, List.filter_cons_of_pos (by simpa), List.map_cons]
      · rw [Row.own, if_neg complete] at own
        rw [List.filterMap_cons_none own, others, List.filter_cons_of_neg (by simpa)]

theorem reports_iff {Report : Type} {read : List Text → Except Fault Report} {shown : Row → Report}
    {Readable : Row → Prop} (apart : Separated table fields)
    (each : ∀ row, read (fields.map row.text) = .ok (shown row) ↔ Readable row) :
    (rows (tableText table fields) fields.length).mapM read =
        .ok ((completeRows table fields).map shown) ↔
      ∀ row ∈ table, row.Complete fields → Readable row := by
  rw [rows_table apart, List.mapM_map, Columns.mapM_eq_ok_map]
  simp [completeRows, each]

end Tables

end AiPlatform.Probes
