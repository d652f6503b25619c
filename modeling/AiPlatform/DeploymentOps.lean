import AiPlatform.IdentityMap
import AiPlatform.Processes
import AiPlatform.Scheduler

/-!
What the deployment services ask of the database and of the node agents, as
operations; the session of one request; and the shared store with the hosts.
Statements are read committed and sessions do not flush before a query: what a
request changed becomes visible at its commit, but for the allocations, which
are inserted under the unique index at once. A row that is loaded again is the
instance that was loaded first. A commit fails when a row it updates is gone.

`placements`, `ended` and `claims` are histories that no program reads: where a
deployment was placed, which deployments a committed transaction failed,
stopped or deleted or took the GPUs from, and what was claimed together.
-/

namespace AiPlatform.Deployments

open Hosts (Fleet Command Event Container)

/-- What a container is created with. The last two fields say what it was
created for. -/
structure ContainerSpec where
  name : String
  image : String
  command : List String
  environment : List (String × String)
  labels : List (String × String)
  volumes : List (String × String)
  network : String
  gpus : Option (List Int)
  shmSizeBytes : Option Nat
  restartPolicy : String
  deploymentId : Nat
  nodeId : Nat

structure DeploymentRequestSpec where
  modelId : Nat
  nodeId : Option Nat
  gpuIds : Option (List Int)
  runtime : Option String
  tensorParallelSize : Option Nat
  maxModelLen : Option Nat
  gpuMemoryUtilization : Option Rat

inductive Action
  | deploy (spec : DeploymentRequestSpec) (actor : Nat)
  | stop (deploymentId : Nat)
  | restart (deploymentId : Nat)
  | delete (deploymentId : Nat)
  | reconcile (remove : Bool)
  | tick
  | reserve (nodeId : Nat) (gpuIndices : List Int) (purpose : String) (reservedBy : Nat)
  | release (reservationId : Nat)
  | registerNode (name agentUrl : String)
  | deleteNode (nodeId : Nat)
  | syncNode (nodeId : Nat)
  | syncNodes

structure Request where
  settings : Settings
  action : Action

/-- `NodeAgentError`, its subclass for an agent that is out of reach, or anything else. -/
inductive AgentFailure
  | unreachable (message : String)
  | error (message : String)
  | raised (message : String)

structure Device where
  uuid : String
  index : Int
  name : String
  memoryTotalMib : Nat

structure Inventory where
  available : Bool
  devices : List Device

inductive AgentCall
  | connect
  | command (command : Command ContainerSpec)
  | list
  | logs (containerId : String) (tail : Nat)
  | health
  | system
  | gpus
  | containers

def Value : AgentCall → Type
  | .command (.create _) => String
  | .command _ | .connect | .system | .containers => Unit
  | .list => List (Container ContainerSpec)
  | .logs _ _ => String
  -- Whether the agent calls itself degraded.
  | .health => Bool
  | .gpus => Inventory

structure Sample where
  gpuId : Nat
  memoryUsedMib : Nat
  utilizationPercent : Rat

inductive Query
  | model (id : Nat)
  | node (id : Nat)
  | nodeNamed (name : String)
  | nodes (limit : Nat)
  | pollable
  | gpusOf (nodeId : Nat)
  | gpuByUuid (uuid : String)
  | activeOn (nodeId : Nat)
  | reservation (id : Nat)
  | deployment (id : Nat)
  | pending
  | deployments

def Rows : Query → Type
  | .model _ => Option Model
  | .node _ | .nodeNamed _ => Option Node
  | .nodes _ | .pollable => List Node
  | .gpusOf _ => List Gpu
  | .gpuByUuid _ => Option Gpu
  | .activeOn _ | .reservation _ => List GpuAllocation
  | .deployment _ => Option ModelDeployment
  -- With the model of each, which `selectinload` fetches.
  | .pending => List (ModelDeployment × Option Model)
  | .deployments => List ModelDeployment

inductive Write
  | assignNode (node : Node) (assignment : NodeAssignment)
  | assignGpu (gpuId : Nat) (assignment : GpuAssignment)
  | releaseAllocation (allocationId : Nat)
  | assignDeployment (deploymentId : Nat) (assignment : DeploymentAssignment)
  -- What the worker leaves on a row when its step raised.
  | recordFailure (deploymentId : Nat)
  | deleteDeployment (deploymentId : Nat)
  | deleteNode (nodeId : Nat)

inductive Draft
  | node (draft : Node)
  | gpu (draft : Gpu)
  | deployment (draft : ModelDeployment)

inductive Failure
  | app (error : AppError)
  | integrity
  | raised (message : String)

inductive Op
  | read (query : Query)
  | telemetry (gpuIds : List Nat)
  | write (write : Write)
  | insert (draft : Draft)
  | claim (nodeId : Nat) (devices : List (Int × Nat)) (purpose : String) (reservedBy : Option Nat)
  | flush
  | agent (agentUrl : String) (call : AgentCall)
  | serving (url healthPath : String) (apiKey : Option String)
  | raise (failure : Failure)

def Reply : Op → Type
  | .read query => Rows query
  | .telemetry _ => List Sample
  | .write _ => Unit
  | .insert _ => Nat
  -- The reservation and its rows, or `none` when the unique index refuses one.
  | .claim _ _ _ _ => Option (Nat × List GpuAllocation)
  -- Whether the constraints on `gpus` accept every update of the flush.
  | .flush => Bool
  | .agent _ call => Except AgentFailure (Value call)
  | .serving _ _ _ => Except String (Bool × String)
  | .raise _ => Empty

abbrev deploymentSignature : Signature := ⟨Op, Reply⟩

abbrev DeploymentProgram := Program deploymentSignature

structure Session where
  request : Request
  models : List Model
  nodes : List (Tracked nodeTable)
  gpus : List (Tracked gpuTable)
  allocations : List (Tracked allocationTable)
  deployments : List (Tracked deploymentTable)
  deletedDeployments : List Nat
  deletedNodes : List Nat
  /-- The keys of the unique index on active allocations that the transaction holds. -/
  held : List (Nat × Int)
  /-- The rows an orphan scan started from. -/
  scanned : Option (List ModelDeployment)
  /-- The nodes it looked up, with the GPUs it found. -/
  listed : List (Nat × List Nat)
  /-- The reservations it looked up, with the allocations it found. -/
  found : List (Nat × List Nat)
  /-- The deployments whose step raised. -/
  caught : List Nat

namespace Session

def opened (request : Request) : Session where
  request := request
  models := []
  nodes := []
  gpus := []
  allocations := []
  deployments := []
  deletedDeployments := []
  deletedNodes := []
  held := []
  scanned := none
  listed := []
  found := []
  caught := []

def assignDeployment (session : Session) (deploymentId : Nat)
    (assignment : DeploymentAssignment) : Session :=
  { session with deployments := assigning session.deployments deploymentId assignment }

def workerFailure : String :=
  "The deployment worker raised an unexpected error. See the " ++
    "control-plane logs for the traceback."

def written (session : Session) : Write → Session
  | .assignNode node assignment =>
      { session with
        nodes := assigning (loading session.nodes [node]) node.id assignment }
  | .assignGpu gpuId assignment =>
      { session with gpus := assigning session.gpus gpuId assignment }
  | .releaseAllocation allocationId =>
      { session with allocations := assigning session.allocations allocationId .released }
  | .assignDeployment deploymentId assignment => session.assignDeployment deploymentId assignment
  | .recordFailure deploymentId =>
      let session := { session with caught := session.caught ++ [deploymentId] }
      (session.assignDeployment deploymentId (.state .failed)).assignDeployment deploymentId
        (.errorMessage (some workerFailure))
  | .deleteDeployment deploymentId =>
      { session with deletedDeployments := session.deletedDeployments ++ [deploymentId] }
  | .deleteNode nodeId => { session with deletedNodes := session.deletedNodes ++ [nodeId] }

def drafted (session : Session) (id : Nat) : Draft → Session
  | .node draft => { session with nodes := session.nodes ++ [.insert { draft with id := id }] }
  | .gpu draft => { session with gpus := session.gpus ++ [.insert { draft with id := id }] }
  | .deployment draft =>
      { session with deployments := session.deployments ++ [.insert { draft with id := id }] }

def loaded (session : Session) : (query : Query) → Rows query → Session
  | .model _, some model => { session with models := session.models ++ [model] }
  | .gpusOf nodeId, rows =>
      { session with
        gpus := loading session.gpus rows
        listed := session.listed ++ [(nodeId, List.map Gpu.id rows)] }
  | .gpuByUuid _, some row => { session with gpus := loading session.gpus [row] }
  | .activeOn _, rows => { session with allocations := loading session.allocations rows }
  | .reservation id, rows =>
      { session with
        allocations := loading session.allocations rows
        found := session.found ++ [(id, List.map GpuAllocation.id rows)] }
  | .deployment _, some row => { session with deployments := loading session.deployments [row] }
  | .pending, rows =>
      { session with
        models := session.models ++ rows.filterMap (·.2)
        deployments := loading session.deployments (rows.map (·.1)) }
  | .deployments, rows =>
      { session with
        deployments := loading session.deployments rows
        scanned := some rows }
  | .model _, none | .node _, _ | .nodeNamed _, _ | .nodes _, _ | .pollable, _
  | .gpuByUuid _, none | .deployment _, none => session

def after (session : Session) : (op : Op) → Reply op → Session
  | .read query, rows => session.loaded query rows
  | .write write, _ => session.written write
  | .insert draft, id => session.drafted id draft
  | .claim nodeId devices _ _, some (_, rows) =>
      { session with
        allocations := session.allocations ++ rows.map fun row => .insert row
        held := session.held ++ devices.map fun device => (nodeId, device.1) }
  | .telemetry _, _ | .claim _ _ _ _, none | .flush, _ | .agent _ _, _ | .serving _ _ _, _
  | .raise _, _ => session

end Session

structure Placed where
  deploymentId : Nat
  nodeId : Nat
  gpuIndices : List Int
  reservationId : Nat

structure Claimed where
  reservationId : Nat
  nodeId : Nat
  devices : List (Int × Nat)

structure Shared where
  models : List Model
  nodes : List Node
  gpus : List Gpu
  allocations : List GpuAllocation
  deployments : List ModelDeployment
  locks : Locks (Nat × Int)
  nextId : Nat
  fleet : Fleet ContainerSpec
  placements : List Placed
  ended : List Nat
  claims : List Claimed

def Shared.empty : Shared where
  models := []
  nodes := []
  gpus := []
  allocations := []
  deployments := []
  locks := fun _ => none
  nextId := 0
  fleet := .empty
  placements := []
  ended := []
  claims := []

structure Report where
  logs : String
  degraded : Bool
  inventory : Inventory

/-- What the surroundings contribute to the reaction to an operation. -/
inductive Answer
  | nothing
  | samples (samples : List Sample)
  | order (gpuIds : List Nat)
  | agent (event : Event) (failure : Option AgentFailure) (report : Report)
  | serving (result : Except String (Bool × String))

inductive Change
  | model (model : Model)
  | lost (containerId : String)
  | switched (host containerId : String) (running : Bool)

def GpuAllocation.active (allocation : GpuAllocation) : Bool := !allocation.released

def GpuAllocation.device (allocation : GpuAllocation) : Nat × Int :=
  (allocation.nodeId, allocation.gpuIndex)

def Gpu.device (gpu : Gpu) : Nat × Int := (gpu.nodeId, gpu.index)

/-- The unique constraints on `gpus`. -/
def distinctGpus (gpus : List Gpu) : Bool :=
  decide (gpus.map (·.uuid)).Nodup && decide (gpus.map Gpu.device).Nodup

namespace Shared

def findModel (shared : Shared) (session : Session) (id : Nat) : Option Model :=
  match session.models.find? fun model => model.id = id with
  | some model => some model
  | none => shared.models.find? fun model => model.id = id

def node (shared : Shared) (id : Nat) : Option Node := shared.nodes.find? fun node => node.id = id

/-- `ORDER BY name LIMIT limit` -/
def nodesByName (shared : Shared) (limit : Nat) : List Node :=
  (shared.nodes.insertionSort fun left right => left.name ≤ right.name).take limit

/-- The rows of `gpus` as the transaction sees them. -/
def gpusSeen (shared : Shared) (session : Session) : List Gpu :=
  Tracked.store session.gpus shared.gpus

def allocationsSeen (shared : Shared) (session : Session) : List GpuAllocation :=
  shared.allocations ++ inserted session.allocations

def deploymentsSeen (shared : Shared) (session : Session) : List ModelDeployment :=
  shared.deployments ++ inserted session.deployments

def rows (shared : Shared) (session : Session) : (query : Query) → Rows query
  | .model id => shared.findModel session id
  | .node id => shared.node id
  | .nodeNamed name => shared.nodes.find? fun node => node.name = name
  | .nodes limit => shared.nodesByName limit
  | .pollable => shared.nodes.filter fun node => !node.disabled
  | .gpusOf nodeId =>
      (((shared.gpusSeen session).filter fun gpu => gpu.nodeId = nodeId).insertionSort
        fun left right => left.index ≤ right.index).map (instanceOf session.gpus)
  | .gpuByUuid uuid =>
      ((shared.gpusSeen session).find? fun gpu => gpu.uuid = uuid).map (instanceOf session.gpus)
  | .activeOn nodeId =>
      ((shared.allocationsSeen session).filter fun allocation =>
        allocation.nodeId = nodeId && allocation.active).map (instanceOf session.allocations)
  | .reservation id =>
      ((shared.allocationsSeen session).filter fun allocation =>
        allocation.reservationId = id).map (instanceOf session.allocations)
  | .deployment id =>
      ((shared.deploymentsSeen session).find? fun row => row.id = id).map
        (instanceOf session.deployments)
  | .pending =>
      ((shared.deploymentsSeen session).filter fun row => row.state.pending).map fun row =>
        (instanceOf session.deployments row, shared.findModel session row.modelId)
  | .deployments => (shared.deploymentsSeen session).map (instanceOf session.deployments)

def reservedRows (shared : Shared) (nodeId : Nat) (devices : List (Int × Nat)) (purpose : String)
    (reservedBy : Option Nat) : List GpuAllocation :=
  devices.zipIdx.map fun (device, position) =>
    { id := shared.nextId + 1 + position
      nodeId := nodeId
      gpuIndex := device.1
      gpuId := some device.2
      reservationId := shared.nextId
      purpose := purpose
      reservedBy := reservedBy
      released := false }

def refuses (shared : Shared) (session : Session) (nodeId : Nat) (devices : List (Int × Nat)) :
    Bool :=
  (shared.node nodeId).isNone ||
    devices.any fun device =>
      !(shared.gpus.any fun gpu => gpu.id = device.2) ||
        (shared.allocationsSeen session).any fun allocation =>
          allocation.active && allocation.device = (nodeId, device.1)

/-- The updates of `gpus` go out one row after the other, in the given order,
and the constraints are checked after each. -/
def updatesPass (session : List (Tracked gpuTable)) : List Nat → List Gpu → Bool
  | [], rows => distinctGpus (rows ++ inserted session)
  | id :: rest, rows =>
      let next := rows.map fun row => if row.id = id then Tracked.update session row else row
      distinctGpus next && updatesPass session rest next

def ordered (session : List (Tracked gpuTable)) (order : List Nat) : Bool :=
  order.isPerm ((session.filter (·.dirty)).map (·.key))

def value (fleet : Fleet ContainerSpec) (agentUrl : String) :
    (call : AgentCall) → Event → Report → Option (Value call)
  | .command (.create _), .created id, _ => some id
  | .command (.create _), _, _ => none
  | .command (.start _), .took, _ | .command (.stop _), .took, _ | .command (.restart _), .took, _
  | .command (.remove _), .took, _ => some ()
  | .command (.start _), _, _ | .command (.stop _), _, _ | .command (.restart _), _, _
  | .command (.remove _), _, _ => none
  | .list, _, _ => some (fleet.containers.filter fun container => container.host = agentUrl)
  | .logs _ _, _, report => some report.logs
  | .health, _, report => some report.degraded
  | .gpus, _, report => some report.inventory
  | .connect, _, _ | .system, _, _ | .containers, _, _ => some ()

def called (fleet : Fleet ContainerSpec) (agentUrl : String) :
    AgentCall → Event → Option (Fleet ContainerSpec)
  | .command command, event => fleet.effect agentUrl command event
  | _, .nothing => some fleet
  | _, _ => none

/-- The reply to an operation of process `i` and the shared store after it.
`none` means that the operation cannot be done now: another transaction holds a
key of the unique index, or the code raises. -/
def react (i : Nat) (session : Session) (shared : Shared) :
    (op : Op) → Answer → Option (Reply op × Shared)
  | .read query, _ => some (shared.rows session query, shared)
  | .telemetry _, .samples samples => some (samples, shared)
  | .write _, _ => some ((), shared)
  | .insert _, _ => some (shared.nextId, { shared with nextId := shared.nextId + 1 })
  | .claim nodeId devices purpose reservedBy, _ =>
      let keys := devices.map fun device => (nodeId, device.1)
      if keys.all (shared.locks.free i) then
        if shared.refuses session nodeId devices then some (none, shared)
        else
          some (some (shared.nextId, shared.reservedRows nodeId devices purpose reservedBy),
            { shared with
              locks := shared.locks.acquire i keys
              nextId := shared.nextId + 1 + devices.length
              claims := shared.claims ++ [⟨shared.nextId, nodeId, devices⟩] })
      else none
  | .flush, .order order =>
      if ordered session.gpus order then
        some (updatesPass session.gpus order shared.gpus, shared)
      else none
  | .agent agentUrl call, .agent event failure report =>
      match called shared.fleet agentUrl call event with
      | none => none
      | some fleet =>
          match failure with
          | some failure => some (.error failure, { shared with fleet := fleet })
          | none =>
              (value fleet agentUrl call event report).map fun value =>
                (.ok value, { shared with fleet := fleet })
  | .serving _ _ _, .serving result => some (result, shared)
  | _, _ => none

def nodesAfter (shared : Shared) (session : Session) : List Node :=
  (Tracked.store session.nodes shared.nodes).filter fun node =>
    !session.deletedNodes.contains node.id

def gpusAfter (shared : Shared) (session : Session) : List Gpu :=
  (Tracked.store session.gpus shared.gpus).filter fun gpu =>
    !session.deletedNodes.contains gpu.nodeId

/-- `ON DELETE CASCADE` for the node of an allocation, `SET NULL` for its GPU. -/
def allocationsAfter (shared : Shared) (session : Session) : List GpuAllocation :=
  let gpus := shared.gpusAfter session
  ((Tracked.store session.allocations shared.allocations).filter fun allocation =>
      !session.deletedNodes.contains allocation.nodeId).map fun allocation =>
    { allocation with
      gpuId := allocation.gpuId.filter fun id => gpus.any fun gpu => gpu.id = id }

def deploymentsAfter (shared : Shared) (session : Session) : List ModelDeployment :=
  (Tracked.store session.deployments shared.deployments).filter fun row =>
    !session.deletedDeployments.contains row.id &&
      row.nodeId.all fun nodeId => !session.deletedNodes.contains nodeId

def storable (shared : Shared) (session : Session) : Bool :=
  present session.nodes shared.nodes && present session.gpus shared.gpus &&
    present session.allocations shared.allocations &&
      present (session.deployments.filter fun tracked =>
        !session.deletedDeployments.contains tracked.key) shared.deployments

def consistent (shared : Shared) : Bool :=
  distinctGpus shared.gpus && decide (shared.nodes.map (·.name)).Nodup &&
    (shared.gpus.all fun gpu => (shared.node gpu.nodeId).isSome) &&
      (shared.allocations.all fun allocation => (shared.node allocation.nodeId).isSome) &&
        shared.deployments.all fun row =>
          (row.nodeId.all fun nodeId => (shared.node nodeId).isSome) &&
            shared.models.any fun model => model.id = row.modelId

def placed (session : Session) : List Placed :=
  (inserted session.deployments).filterMap fun row =>
    match row.nodeId, row.reservationId with
    | some nodeId, some reservation => some ⟨row.id, nodeId, row.gpuIndices, reservation⟩
    | _, _ => none

/-- The deployments that the session fails, stops or deletes, whose node it
deletes, or whose GPUs it releases by hand. -/
def ends (shared : Shared) (session : Session) : List Nat :=
  (session.deployments.filter fun tracked => tracked.dirty && tracked.row.state.ended).map
      (·.key) ++
    session.deletedDeployments ++
      (shared.placements.filter fun placed =>
        session.deletedNodes.contains placed.nodeId ||
          match session.request.action with
          | .release reservation => placed.reservationId = reservation
          | _ => false).map (·.deploymentId)

def stored (shared : Shared) (session : Session) : Shared :=
  { shared with
    nodes := shared.nodesAfter session
    gpus := shared.gpusAfter session
    allocations := shared.allocationsAfter session
    deployments := shared.deploymentsAfter session
    placements := shared.placements ++ placed session
    ended := shared.ended ++ shared.ends session }

def commit (i : Nat) (session : Session) (shared : Shared) : Option Shared :=
  let after := shared.stored session
  if shared.storable session && after.consistent then
    some { after with locks := shared.locks.release i }
  else none

def release (i : Nat) (shared : Shared) : Shared :=
  { shared with locks := shared.locks.release i }

def change (shared : Shared) : Change → Shared
  | .model model =>
      { shared with
        models := (shared.models.filter fun other => other.id ≠ model.id) ++ [model] }
  | .lost containerId =>
      { shared with fleet := { shared.fleet with
          containers := shared.fleet.containers.filter fun container =>
            container.id ≠ containerId } }
  | .switched host containerId running =>
      { shared with fleet := shared.fleet.setRunning host containerId running }

end Shared

end AiPlatform.Deployments
