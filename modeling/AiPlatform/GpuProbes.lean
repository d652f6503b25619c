import AiPlatform.AirGapGate
import AiPlatform.Words

/-!
The GPU probes of the node agent, `app/probes/base.py`, `nvidia_smi.py` and `dcgm.py`, as
far as they read what `nvidia-smi` and `dcgmi dmon` print. A text is a list of code points.
What a float is, and what `float()` and `int()` make of a text, is a parameter.
-/

namespace AiPlatform.Probes

open Agents (isSpace)
open AirGap (Text splitlines)
open Trimming (trim words)

inductive Fault
  | valueError
  | overflowError
  | indexError
  deriving DecidableEq

structure Floats (F : Type) where
  /-- `float(text)`; `none` is its `ValueError`. -/
  float : Text → Option F
  /-- `int(text)`; `none` is its `ValueError`. -/
  integer : Text → Option Int
  /-- `int(x)`: a `ValueError` at nan, an `OverflowError` at the infinities. -/
  int : F → Except Fault Int
  zero : F
  int_zero : int zero = .ok 0
  /-- `bool(x)` -/
  truthy : F → Bool
  /-- `x >= threshold` -/
  atLeast : F → Rat → Bool
  /-- `numerator / denominator` of two integers. -/
  ratio : Int → Int → F

variable {F : Type} (floats : Floats F)

inductive GpuHealth
  | healthy
  | warning
  | critical
  | unknown
  deriving DecidableEq

structure GpuDevice where
  index : Int
  uuid : Text
  name : Text
  memoryTotalMib : Int
  driverVersion : Text
  cudaVersion : Text
  pciBusId : Option Text
  nvlinkPeers : List Nat
  deriving DecidableEq

structure GpuMetricSample (F : Type) where
  gpuUuid : Text
  index : Int
  utilizationPercent : F
  memoryUsedMib : Int
  memoryTotalMib : Int
  temperatureCelsius : F
  powerDrawWatts : F
  powerLimitWatts : F
  smClockMhz : Option Int
  smUtilizationPercent : Option F
  eccErrorsCorrected : Option Int
  eccErrorsUncorrected : Option Int
  pcieReplayCounter : Option Int
  nvlinkBandwidthMbps : Option F
  health : GpuHealth
  deriving DecidableEq

structure GpuProcess where
  gpuUuid : Text
  pid : Int
  processName : Text
  usedMemoryMib : Int
  containerId : Option Text
  deriving DecidableEq

structure DriverInfo where
  driverVersion : Text
  cudaVersion : Text
  probe : String
  deriving DecidableEq

def classifyHealth (temperatureCelsius : F) (memoryUsedMib memoryTotalMib : Int)
    (eccErrorsUncorrected : Option Int) : GpuHealth :=
  if eccErrorsUncorrected.any (· ≠ 0) then .critical
  else if floats.atLeast temperatureCelsius 90 then .critical
  else if floats.atLeast temperatureCelsius 83 then .warning
  else if 0 < memoryTotalMib && floats.atLeast (floats.ratio memoryUsedMib memoryTotalMib) 0.98 then
    .warning
  else .healthy

/-- What the tools print when they are asked; `none` stands for a query that fails. -/
structure Outputs where
  drivers : Text
  devices : Text
  metrics : Text
  processes : Option Text
  dmon : Option Text

def deviceFields : List String :=
  ["index", "uuid", "name", "memory.total", "driver_version", "pci.bus_id"]

def metricFields : List String :=
  ["index", "uuid", "utilization.gpu", "utilization.memory", "memory.used", "memory.total",
    "temperature.gpu", "power.draw", "power.limit", "clocks.sm",
    "ecc.errors.corrected.volatile.total", "ecc.errors.uncorrected.volatile.total",
    "pcie.replay_counter"]

def processFields : List String := ["gpu_uuid", "pid", "process_name", "used_gpu_memory"]

def driverFields : List String := ["driver_version", "cuda_version"]

/-- `_NOT_AVAILABLE` -/
def notAvailable : List Text :=
  ["[n/a]", "[not supported]", "n/a", "not supported", ""].map String.toList

def lower (text : Text) : Text := text.map Char.toLower

/-- `_num`, with its default of 0.0 -/
def num (value : Text) : F :=
  let text := lower (trim isSpace value)
  if text ∈ notAvailable then floats.zero else (floats.float text).getD floats.zero

/-- `_opt_int`; an `OverflowError` passes. -/
def optInt (value : Text) : Except Fault (Option Int) :=
  let text := lower (trim isSpace value)
  if text ∈ notAvailable then .ok none
  else
    match floats.float text with
    | none => .ok none
    | some x =>
        match floats.int x with
        | .ok n => .ok (some n)
        | .error .valueError => .ok none
        | .error fault => .error fault

/-- One line of `_rows` -/
def row (expected : Nat) (line : Text) : Option (List Text) :=
  if trim isSpace line = [] then none
  else
    let parts := (line.splitOn ',').map (trim isSpace)
    if expected ≤ parts.length then some parts else none

def rows (output : Text) (expected : Nat) : List (List Text) :=
  (splitlines output).filterMap (row expected)

/-- `row[i]`; the rows are long enough. -/
def column (row : List Text) (i : Nat) : Text := row.getD i []

namespace NvidiaSmi

def driverInfo (out : Outputs) : DriverInfo :=
  match rows out.drivers driverFields.length with
  | [] => ⟨"unknown".toList, "unknown".toList, "nvidia_smi"⟩
  | first :: _ => ⟨column first 0, column first 1, "nvidia_smi"⟩

def device (cudaVersion : Text) (row : List Text) : Except Fault GpuDevice := do
  let index ← floats.int (num floats (column row 0))
  let memoryTotalMib ← floats.int (num floats (column row 3))
  return {
    index
    uuid := column row 1
    name := column row 2
    memoryTotalMib
    driverVersion := column row 4
    cudaVersion
    pciBusId := if column row 5 = [] then none else some (column row 5)
    nvlinkPeers := [] }

def listDevices (out : Outputs) : Except Fault (List GpuDevice) :=
  (rows out.devices deviceFields.length).mapM (device floats (driverInfo out).cudaVersion)

def sample (row : List Text) : Except Fault (GpuMetricSample F) := do
  let memoryUsed ← floats.int (num floats (column row 4))
  let memoryTotal ← floats.int (num floats (column row 5))
  let temperature := num floats (column row 6)
  let eccUncorrected ← optInt floats (column row 11)
  let index ← floats.int (num floats (column row 0))
  let smClockMhz ← optInt floats (column row 9)
  let eccErrorsCorrected ← optInt floats (column row 10)
  let pcieReplayCounter ← optInt floats (column row 12)
  return {
    gpuUuid := column row 1
    index
    utilizationPercent := num floats (column row 2)
    memoryUsedMib := memoryUsed
    memoryTotalMib := memoryTotal
    temperatureCelsius := temperature
    powerDrawWatts := num floats (column row 7)
    powerLimitWatts := num floats (column row 8)
    smClockMhz
    smUtilizationPercent := some (num floats (column row 2))
    eccErrorsCorrected
    eccErrorsUncorrected := eccUncorrected
    pcieReplayCounter
    nvlinkBandwidthMbps := none
    health := classifyHealth floats temperature memoryUsed memoryTotal eccUncorrected }

def sampleMetrics (out : Outputs) : Except Fault (List (GpuMetricSample F)) :=
  (rows out.metrics metricFields.length).mapM (sample floats)

def process (row : List Text) : Except Fault GpuProcess := do
  let pid ← floats.int (num floats (column row 1))
  let usedMemoryMib ← floats.int (num floats (column row 3))
  return ⟨column row 0, pid, column row 2, usedMemoryMib, none⟩

/-- `list_processes`; a query that fails has no processes. -/
def listProcesses (out : Outputs) : Except Fault (List GpuProcess) :=
  match out.processes with
  | none => .ok []
  | some output => (rows output processFields.length).mapM (process floats)

end NvidiaSmi

/-- `_DMON_FIELDS`: utilisation, memory, temperature, power, SM clock, corrected and
uncorrected ECC errors, PCIe replays. -/
def dmonFields : List Nat := [203, 252, 150, 155, 100, 312, 313, 202]

def upper (text : Text) : Text := text.map Char.toUpper

/-- The cells that `_dcgm_float` takes for no value. -/
def noValue : List Text := ["N/A", "-", "", "NOT", "SUPPORTED"].map String.toList

def dcgmFloat (token : Text) : Option F :=
  if upper (trim isSpace token) ∈ noValue then none else floats.float token

namespace Dcgm

/-- `devices.get(index)`; of two devices with one index the dict holds the later. -/
def deviceAt (devices : List GpuDevice) (index : Int) : Option GpuDevice :=
  devices.reverse.find? (·.index = index)

/-- One line of the loop of `sample_metrics`, up to `values`; `none` is its `continue`. -/
def reading (devices : List GpuDevice) (line : Text) :
    Option (Int × GpuDevice × List (Option F)) :=
  let stripped := trim isSpace line
  if stripped = [] || "#".toList.isPrefixOf stripped || !"GPU".toList.isPrefixOf stripped then none
  else
    let parts := words isSpace stripped
    if parts.length < dmonFields.length + 1 then none
    else
      match floats.integer (column parts 1) with
      | none => none
      | some index =>
          (deviceAt devices index).map fun device =>
            (index, device, ((parts.drop 2).take dmonFields.length).map (dcgmFloat floats))

/-- `values[i]` -/
def value (values : List (Option F)) (i : Nat) : Except Fault (Option F) :=
  match values[i]? with
  | some value => .ok value
  | none => .error .indexError

/-- `value or 0.0` -/
def orZero : Option F → F
  | none => floats.zero
  | some x => if floats.truthy x then x else floats.zero

/-- `int(value or 0)` -/
def intOrZero : Option F → Except Fault Int
  | none => .ok 0
  | some x => if floats.truthy x then floats.int x else .ok 0

/-- `None if value is None else int(value)` -/
def intOrNone : Option F → Except Fault (Option Int)
  | none => .ok none
  | some x => (floats.int x).map some

def sample (index : Int) (device : GpuDevice) (values : List (Option F)) :
    Except Fault (GpuMetricSample F) := do
  let memoryUsed ← intOrZero floats (← value values 1)
  let temperature := orZero floats (← value values 2)
  let eccUncorrected ← intOrNone floats (← value values 6)
  let utilizationPercent := orZero floats (← value values 0)
  let powerDrawWatts := orZero floats (← value values 3)
  let smClockMhz ← intOrNone floats (← value values 4)
  let smUtilizationPercent ← value values 0
  let eccErrorsCorrected ← intOrNone floats (← value values 5)
  let pcieReplayCounter ← intOrNone floats (← value values 7)
  return {
    gpuUuid := device.uuid
    index
    utilizationPercent
    memoryUsedMib := memoryUsed
    memoryTotalMib := device.memoryTotalMib
    temperatureCelsius := temperature
    powerDrawWatts
    powerLimitWatts := floats.zero
    smClockMhz
    smUtilizationPercent
    eccErrorsCorrected
    eccErrorsUncorrected := eccUncorrected
    pcieReplayCounter
    nvlinkBandwidthMbps := none
    health := classifyHealth floats temperature memoryUsed device.memoryTotalMib eccUncorrected }

/-- `DcgmGpuProbe.sample_metrics`. Without a sample of its own it takes those of
`nvidia-smi`. -/
def sampleMetrics (out : Outputs) : Except Fault (List (GpuMetricSample F)) := do
  let devices ← NvidiaSmi.listDevices floats out
  match out.dmon with
  | none => NvidiaSmi.sampleMetrics floats out
  | some output =>
      let samples ← ((splitlines output).filterMap (reading floats devices)).mapM
        fun (index, device, values) => sample floats index device values
      if samples.isEmpty then NvidiaSmi.sampleMetrics floats out else return samples

end Dcgm

end AiPlatform.Probes
