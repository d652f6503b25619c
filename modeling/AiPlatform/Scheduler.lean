import AiPlatform.DeploymentModel
import Mathlib.Algebra.Ring.Rat
import Mathlib.Data.List.Sort

/-!
`SimpleGpuScheduler` of `app/services/scheduler.py`: the choice of GPUs, which
has no effects. Utilisation is a rational number where the source has a float.
-/

namespace AiPlatform.Deployments

structure GpuResource where
  nodeId : Nat
  index : Int
  uuid : String
  memoryTotalMib : Nat
  memoryUsedMib : Nat
  utilizationPercent : Rat
  reserved : Bool

def GpuResource.memoryFreeMib (gpu : GpuResource) : Nat := gpu.memoryTotalMib - gpu.memoryUsedMib

structure PlacementRequest where
  modelId : Nat
  gpuCount : Nat
  requiredMemoryMibPerGpu : Nat
  nodeId : Option Nat
  gpuIndices : Option (List Int)

structure Placement where
  nodeId : Nat
  gpuIndices : List Int
  reservationId : Option Nat
  rationale : String

structure PlacementFailure where
  reason : String
  consideredNodes : List Nat
  details : List (String × String)

/-- `sorted(...)` -/
def ascending (indices : List Int) : List Int := indices.insertionSort (· ≤ ·)

def listText (indices : List Int) : String :=
  "[" ++ String.intercalate ", " (indices.map fun index => s!"{index}") ++ "]"

def indexTexts (indices : List Int) : String :=
  String.intercalate "," ((ascending indices).map fun index => s!"{index}")

def explainFailure (idText : Nat → String) (request : PlacementRequest)
    (available : List GpuResource) : PlacementFailure :=
  let required := request.requiredMemoryMibPerGpu
  let nodes := ((available.map (·.nodeId)).eraseDups).insertionSort
    fun left right => idText left ≤ idText right
  let usable (nodeId : Nat) : String :=
    let own := available.filter fun gpu => gpu.nodeId = nodeId
    let free := own.filter fun gpu => !gpu.reserved && required ≤ gpu.memoryFreeMib
    s!"{free.length} of {own.length} GPUs usable ({(own.filter (·.reserved)).length} reserved, " ++
      s!"needs >={required} MiB free)"
  { reason :=
      if available.isEmpty then
        "No GPUs are known to the platform. Register a GPU node before deploying a model."
      else
        s!"No node has {request.gpuCount} free GPU(s) with at least {required} MiB each."
    consideredNodes := nodes
    details := (available.map (·.nodeId)).eraseDups.map fun nodeId =>
      (idText nodeId, usable nodeId) }

def planExplicit (request : PlacementRequest) (indices : List Int)
    (available : List GpuResource) : Except PlacementFailure Placement :=
  match request.nodeId with
  | none => .error ⟨"Explicit GPU indices require a node_id.", [], []⟩
  | some nodeId =>
      let onNode := (available.filter fun gpu => gpu.nodeId = nodeId).reverse
      let device (index : Int) := onNode.find? fun gpu => gpu.index = index
      let missing := indices.filter fun index => (device index).isNone
      let held := indices.filter fun index => (device index).any (·.reserved)
      let short := indices.filter fun index =>
        (device index).any fun gpu => gpu.memoryFreeMib < request.requiredMemoryMibPerGpu
      if !missing.isEmpty then
        .error ⟨s!"Node has no GPU with index {listText missing}.", [nodeId],
          [("available", indexTexts (onNode.map (·.index)).eraseDups)]⟩
      else if !held.isEmpty then
        .error ⟨s!"GPU(s) {listText held} are already reserved on this node.", [nodeId], []⟩
      else if !short.isEmpty then
        .error ⟨s!"GPU(s) {listText short} have less than {request.requiredMemoryMibPerGpu} " ++
          "MiB free.", [nodeId], []⟩
      else .ok ⟨nodeId, ascending indices, none, "explicit GPU selection"⟩

def meanUtilization (gpus : List GpuResource) : Rat :=
  (gpus.map (·.utilizationPercent)).sum / gpus.length

def leastLoaded (load : Nat → Rat) (first : Nat) (rest : List Nat) : Nat :=
  rest.foldl (fun best nodeId => if load nodeId < load best then nodeId else best) first

def plan (idText : Nat → String) (request : PlacementRequest) (available : List GpuResource) :
    Except PlacementFailure Placement :=
  match request.gpuIndices with
  | some (index :: rest) => planExplicit request (index :: rest) available
  | _ =>
      let eligible := available.filter fun gpu =>
        !gpu.reserved && request.requiredMemoryMibPerGpu ≤ gpu.memoryFreeMib
      let own (nodeId : Nat) := eligible.filter fun gpu => gpu.nodeId = nodeId
      let nodes := (eligible.map (·.nodeId)).eraseDups.filter fun nodeId =>
        request.nodeId.all (· = nodeId)
      let candidates := nodes.filter fun nodeId => request.gpuCount ≤ (own nodeId).length
      match candidates with
      | [] => .error (explainFailure idText request available)
      | first :: rest =>
          let nodeId := leastLoaded (fun nodeId => meanUtilization (own nodeId)) first rest
          let chosen := (own nodeId).insertionSort fun left right =>
            left.utilizationPercent < right.utilizationPercent ∨
              left.utilizationPercent = right.utilizationPercent ∧ left.index ≤ right.index
          .ok {
            nodeId := nodeId
            gpuIndices := ascending ((chosen.take request.gpuCount).map (·.index))
            reservationId := none
            rationale := s!"least-loaded node with {request.gpuCount} free GPU(s) of " ++
              s!">={request.requiredMemoryMibPerGpu} MiB" }

theorem plan_unreserved {idText : Nat → String} {request : PlacementRequest}
    {available : List GpuResource} {placement : Placement}
    (planned : plan idText request available = .ok placement) : placement.reservationId = none := by
  unfold plan at planned
  split at planned
  · unfold planExplicit at planned
    split at planned
    · cases planned
    · simp only at planned
      split at planned
      · cases planned
      · split at planned
        · cases planned
        · split at planned
          · cases planned
          · cases planned
            rfl
  · simp only at planned
    split at planned
    · cases planned
    · cases planned
      rfl

end AiPlatform.Deployments
