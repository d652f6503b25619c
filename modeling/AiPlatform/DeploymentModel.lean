import AiPlatform.Errors
import AiPlatform.Hosts
import AiPlatform.UnitOfWork
import Mathlib.Data.Rat.Defs

/-!
The rows behind nodes, GPUs, allocations and deployments, with the columns that
the deployment services assign after an insert. Times, telemetry and the cached
container inventory are left out. Ids are drawn in order, so an id never comes
back; `idText` of the platform gives the text of one.
-/

namespace AiPlatform.Deployments

inductive DeploymentState
  | requested | validating | scheduling | creating | starting | healthCheck | running | failed
  | stopping | stopped
  deriving DecidableEq

inductive ModelStatus
  | registered | available | unavailable | disabled
  deriving DecidableEq

inductive NodeStatus
  | online | offline | degraded | unknown
  deriving DecidableEq

def ModelStatus.text : ModelStatus → String
  | .registered => "REGISTERED"
  | .available => "AVAILABLE"
  | .unavailable => "UNAVAILABLE"
  | .disabled => "DISABLED"

def NodeStatus.text : NodeStatus → String
  | .online => "ONLINE"
  | .offline => "OFFLINE"
  | .degraded => "DEGRADED"
  | .unknown => "UNKNOWN"

/-- The states `list_pending` asks for. -/
def DeploymentState.pending : DeploymentState → Bool
  | .requested | .validating | .scheduling | .creating | .starting | .healthCheck => true
  | .running | .failed | .stopping | .stopped => false

/-- `{DeploymentState.STOPPED, DeploymentState.FAILED}` -/
def DeploymentState.ended : DeploymentState → Bool
  | .stopped | .failed => true
  | _ => false

structure Model where
  id : Nat
  name : String
  status : ModelStatus
  statusDetail : Option String
  runtime : String
  storagePath : String
  endpointUrl : Option String
  requiredGpuMemoryMib : Option Nat
  minGpuCount : Nat
  contextLength : Option Nat
  extraArgs : List String

structure Node where
  id : Nat
  name : String
  agentUrl : String
  status : NodeStatus
  /-- The label that keeps the poller away. -/
  disabled : Bool
  deriving DecidableEq

structure Gpu where
  id : Nat
  nodeId : Nat
  uuid : String
  index : Int
  name : String
  memoryTotalMib : Nat
  deriving DecidableEq

structure GpuAllocation where
  id : Nat
  nodeId : Nat
  gpuIndex : Int
  gpuId : Option Nat
  reservationId : Nat
  purpose : String
  reservedBy : Option Nat
  released : Bool
  deriving DecidableEq

structure ModelDeployment where
  id : Nat
  modelId : Nat
  /-- `none` for an external runtime. -/
  nodeId : Option Nat
  state : DeploymentState
  stateDetail : Option String
  gpuIndices : List Int
  reservationId : Option Nat
  runtime : String
  image : String
  containerId : Option String
  containerName : Option String
  internalPort : Nat
  internalUrl : Option String
  tensorParallelSize : Nat
  maxModelLen : Option Nat
  gpuMemoryUtilization : Rat
  errorMessage : Option String
  logsExcerpt : Option String
  requestedBy : Option Nat
  deriving DecidableEq

inductive NodeAssignment
  | status (status : NodeStatus)

inductive GpuAssignment
  | nodeId (nodeId : Nat)
  | index (index : Int)
  | name (name : String)
  | memoryTotalMib (memory : Nat)

inductive AllocationAssignment
  | released

inductive DeploymentAssignment
  | state (state : DeploymentState)
  | stateDetail (detail : Option String)
  | reservationId (reservation : Option Nat)
  | containerId (container : Option String)
  | containerName (name : Option String)
  | internalUrl (url : Option String)
  | errorMessage (message : Option String)
  | logsExcerpt (logs : Option String)
  deriving DecidableEq

def NodeAssignment.apply : NodeAssignment → Node → Node
  | .status value, node => { node with status := value }

def GpuAssignment.apply : GpuAssignment → Gpu → Gpu
  | .nodeId value, gpu => { gpu with nodeId := value }
  | .index value, gpu => { gpu with index := value }
  | .name value, gpu => { gpu with name := value }
  | .memoryTotalMib value, gpu => { gpu with memoryTotalMib := value }

def AllocationAssignment.apply : AllocationAssignment → GpuAllocation → GpuAllocation
  | .released, allocation => { allocation with released := true }

def DeploymentAssignment.apply : DeploymentAssignment → ModelDeployment → ModelDeployment
  | .state value, row => { row with state := value }
  | .stateDetail value, row => { row with stateDetail := value }
  | .reservationId value, row => { row with reservationId := value }
  | .containerId value, row => { row with containerId := value }
  | .containerName value, row => { row with containerName := value }
  | .internalUrl value, row => { row with internalUrl := value }
  | .errorMessage value, row => { row with errorMessage := value }
  | .logsExcerpt value, row => { row with logsExcerpt := value }

abbrev nodeTable : Table where
  Row := Node
  Assignment := NodeAssignment
  key := Node.id
  apply := NodeAssignment.apply
  key_apply assignment row := by cases assignment; rfl

abbrev gpuTable : Table where
  Row := Gpu
  Assignment := GpuAssignment
  key := Gpu.id
  apply := GpuAssignment.apply
  key_apply assignment row := by cases assignment <;> rfl

abbrev allocationTable : Table where
  Row := GpuAllocation
  Assignment := AllocationAssignment
  key := GpuAllocation.id
  apply := AllocationAssignment.apply
  key_apply assignment row := by cases assignment; rfl

abbrev deploymentTable : Table where
  Row := ModelDeployment
  Assignment := DeploymentAssignment
  key := ModelDeployment.id
  apply := DeploymentAssignment.apply
  key_apply assignment row := by cases assignment <;> rfl

structure Settings where
  idText : Nat → String
  numberText : Rat → String
  runtimeImages : List (String × String)
  defaultRuntime : String
  network : String
  managedLabel : String
  healthTimeoutSeconds : Nat
  healthIntervalSeconds : Nat
  externalEndpoint : Option String
  externalApiKey : Option String
  runtimeHealthPaths : List (String × String)

/-- `EXTERNAL_RUNTIMES` -/
def externalRuntimes : List String := ["ollama", "external"]

/-- `CONTAINER_PORT` -/
def containerPort : Nat := 8000

/-- `DEFAULT_GPU_MEMORY_UTILIZATION` -/
def defaultGpuMemoryUtilization : Rat := 9 / 10

/-! No assignment touches where a deployment was placed. -/

@[simp] theorem apply_nodeId (assignment : DeploymentAssignment) (row : ModelDeployment) :
    (assignment.apply row).nodeId = row.nodeId := by
  cases assignment <;> rfl

@[simp] theorem apply_gpuIndices (assignment : DeploymentAssignment) (row : ModelDeployment) :
    (assignment.apply row).gpuIndices = row.gpuIndices := by
  cases assignment <;> rfl

end AiPlatform.Deployments
