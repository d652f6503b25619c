import AiPlatform.DeploymentOps

/-!
`GpuService` and the inventory half of `NodeService` in
`app/services/infrastructure.py`. A call to an agent that raises
`NodeAgentError` is told apart from one that raises anything else; only the
first is caught.
-/

namespace AiPlatform.Deployments

def read (query : Query) : DeploymentProgram (Rows query) := .perform (.read query) .done

def write (write : Write) : DeploymentProgram Unit := .perform (.write write) .done

def insert (draft : Draft) : DeploymentProgram Nat := .perform (.insert draft) .done

def agent (agentUrl : String) (call : AgentCall) :
    DeploymentProgram (Except AgentFailure (Value call)) :=
  .perform (.agent agentUrl call) .done

def claim (nodeId : Nat) (devices : List (Int × Nat)) (purpose : String)
    (reservedBy : Option Nat) : DeploymentProgram (Option (Nat × List GpuAllocation)) :=
  .perform (.claim nodeId devices purpose reservedBy) .done

def telemetry (gpuIds : List Nat) : DeploymentProgram (List Sample) :=
  .perform (.telemetry gpuIds) .done

def flush : DeploymentProgram Bool := .perform .flush .done

def raise {α : Type} (failure : Failure) : DeploymentProgram α :=
  .perform (.raise failure) fun nothing => nomatch nothing

def gpusOf (nodeId : Nat) : DeploymentProgram (List Gpu) := read (.gpusOf nodeId)

def gpuByUuid (uuid : String) : DeploymentProgram (Option Gpu) := read (.gpuByUuid uuid)

def getNode (nodeId : Nat) : DeploymentProgram (Option Node) := read (.node nodeId)

def health (agentUrl : String) : DeploymentProgram (Except AgentFailure Bool) :=
  agent agentUrl .health

def inventory (agentUrl : String) : DeploymentProgram (Except AgentFailure Inventory) :=
  agent agentUrl .gpus

def assignNode (node : Node) (assignment : NodeAssignment) : DeploymentProgram Unit :=
  write (.assignNode node assignment)

def assignGpu (gpuId : Nat) (assignment : GpuAssignment) : DeploymentProgram Unit :=
  write (.assignGpu gpuId assignment)

def assign (deploymentId : Nat) (assignment : DeploymentAssignment) : DeploymentProgram Unit :=
  write (.assignDeployment deploymentId assignment)

def AgentFailure.message : AgentFailure → String
  | .unreachable message | .error message | .raised message => message

def devicesOf (gpus : List Gpu) : List Int → Except Int (List (Int × Nat))
  | [] => .ok []
  | index :: rest =>
      match gpus.reverse.find? fun gpu => gpu.index = index with
      | none => .error index
      | some gpu =>
          match devicesOf gpus rest with
          | .error missing => .error missing
          | .ok devices => .ok ((index, gpu.id) :: devices)

def reserve (nodeId : Nat) (gpuIndices : List Int) (purpose : String) (reservedBy : Option Nat) :
    DeploymentProgram Nat := do
  if gpuIndices.isEmpty then
    raise (.app (validationError "At least one GPU index is required." []))
  else if !decide gpuIndices.Nodup then
    raise (.app (validationError "Duplicate GPU indices in the reservation request." []))
  else
    let gpus ← gpusOf nodeId
    match devicesOf gpus gpuIndices with
    | .error index =>
        raise (.app (validationError s!"Node has no GPU with index {index}."
          [("available", listText (ascending (gpus.map (·.index))))]))
    | .ok devices =>
        match ← claim nodeId devices purpose reservedBy with
        | some (reservation, _) => return reservation
        | none =>
            raise (.app (conflictError (s!"GPUs {listText gpuIndices} are not all free on this " ++
              "node — another deployment holds at least one. Retry with different devices.")
              [("requested", listText gpuIndices)]))

def releaseEach : List GpuAllocation → DeploymentProgram Unit
  | [] => pure ()
  | allocation :: rest => do
      write (.releaseAllocation allocation.id)
      releaseEach rest

/-- `GpuService.release`: the number of allocations it released. -/
def release (reservationId : Nat) : DeploymentProgram Nat := do
  let allocations ← read (.reservation reservationId)
  let active := allocations.filter (·.active)
  releaseEach active
  return active.length

def freeIndices (nodeId : Nat) : DeploymentProgram (List Int) := do
  let claimed ← read (.activeOn nodeId)
  let gpus ← gpusOf nodeId
  return ascending ((gpus.map (·.index)).filter fun index =>
    !claimed.any fun allocation => allocation.gpuIndex = index)

def gpuResourcesFor : List Nat → DeploymentProgram (List GpuResource)
  | [] => pure []
  | nodeId :: rest => do
      let gpus ← gpusOf nodeId
      if gpus.isEmpty then gpuResourcesFor rest
      else
        let samples ← telemetry (gpus.map (·.id))
        let free ← freeIndices nodeId
        let resources := gpus.map fun gpu =>
          let sample := samples.find? fun sample => sample.gpuId = gpu.id
          { nodeId := nodeId
            index := gpu.index
            uuid := gpu.uuid
            memoryTotalMib := gpu.memoryTotalMib
            memoryUsedMib := (sample.map (·.memoryUsedMib)).getD 0
            utilizationPercent := (sample.map (·.utilizationPercent)).getD 0
            reserved := !free.contains gpu.index : GpuResource }
        let others ← gpuResourcesFor rest
        return resources ++ others

/-- The row of a card that its node does not know yet: a new one, or the row of
a card that moved hosts. -/
def adoptDevice (nodeId : Nat) (device : Device) : DeploymentProgram Nat := do
  match ← gpuByUuid device.uuid with
  | none =>
      insert (.gpu ⟨0, nodeId, device.uuid, device.index, device.name, device.memoryTotalMib⟩)
  | some gpu =>
      assignGpu gpu.id (.nodeId nodeId)
      return gpu.id

/-- The loop of `_sync_gpus`, with the rows known by their UUID. -/
def syncDevices (nodeId : Nat) : List Device → List (String × Nat) → DeploymentProgram Unit
  | [], _ => pure ()
  | device :: rest, existing => do
      let gpuId ← match existing.lookup device.uuid with
        | some gpuId => pure gpuId
        | none => adoptDevice nodeId device
      assignGpu gpuId (.index device.index)
      assignGpu gpuId (.name device.name)
      assignGpu gpuId (.memoryTotalMib device.memoryTotalMib)
      syncDevices nodeId rest ((device.uuid, gpuId) :: existing)

/-- `_sync_gpus`, with the failure of its call to the agent. -/
def syncGpus (node : Node) : DeploymentProgram (Option AgentFailure) := do
  match ← inventory node.agentUrl with
  | .error failure => return some failure
  | .ok payload =>
      if !payload.available then return none
      else
        let existing ← gpusOf node.id
        syncDevices node.id payload.devices (existing.map fun gpu => (gpu.uuid, gpu.id))
        let passed ← flush
        if passed then return none else raise .integrity

/-- A section of `sync_node` that asks the agent and stores nothing modelled. -/
def syncSection (node : Node) (call : AgentCall) : DeploymentProgram (Option AgentFailure) := do
  match ← agent node.agentUrl call with
  | .error failure => return some failure
  | .ok _ => return none

/-- What `sync_node` makes of the failure of a section. -/
def sectionEnded (node : Node) : Option AgentFailure → DeploymentProgram Unit
  | none => pure ()
  | some (.raised message) => raise (.raised message)
  | some _ => assignNode node (.status .degraded)

def syncNode (node : Node) : DeploymentProgram Unit := do
  match ← agent node.agentUrl .connect with
  | .error _ => assignNode node (.status .unknown)
  | .ok _ =>
      match ← health node.agentUrl with
      | .error (.unreachable _) => assignNode node (.status .offline)
      | .error (.error _) => assignNode node (.status .degraded)
      | .error (.raised message) => raise (.raised message)
      | .ok degraded =>
          assignNode node (.status (if degraded then .degraded else .online))
          let system ← syncSection node .system
          sectionEnded node system
          let gpus ← syncGpus node
          sectionEnded node gpus
          let containers ← syncSection node .containers
          sectionEnded node containers

def syncEach : List Node → DeploymentProgram Unit
  | [] => pure ()
  | node :: rest => do
      syncNode node
      syncEach rest

def syncNodes : DeploymentProgram Unit := do
  let nodes ← read .pollable
  syncEach nodes

def checkNode (nodeId : Nat) : DeploymentProgram Unit := do
  match ← getNode nodeId with
  | none => raise (.app (notFoundError s!"No node with id {nodeId}."))
  | some node => syncNode node

/-- `register_node`, with `accept_node` for a node that is new. -/
def registerNode (name agentUrl : String) : DeploymentProgram Unit := do
  match ← read (.nodeNamed name) with
  | some _ =>
      raise (.app (conflictError s!"A node named '{name}' is already registered."
        [("field", "name")]))
  | none =>
      match ← health agentUrl with
      | .error (.raised message) => raise (.raised message)
      | .error failure =>
          raise (.app (validationError
            s!"Could not reach a node agent at {agentUrl}: {failure.message}"
            [("field", "agent_url")]))
      | .ok _ =>
          let node : Node := ⟨0, name, agentUrl, .online, false⟩
          let id ← insert (.node node)
          syncNode { node with id := id }

def deleteNode (nodeId : Nat) : DeploymentProgram Unit := do
  match ← getNode nodeId with
  | none => raise (.app (notFoundError s!"No node with id {nodeId}."))
  | some node => write (.deleteNode node.id)

end AiPlatform.Deployments
