import AiPlatform.SettledKeys

/-!
The discipline of the deployment services: when each operation is used, and in
what state a request ends. It is stated on the session alone, whose instances
are taken to be distinct, because that is what they are in every run.
-/

namespace AiPlatform.Deployments

namespace Action

def steers : Action → Bool
  | .stop _ | .restart _ | .delete _ => true
  | _ => false

def ticks : Action → Bool
  | .tick => true
  | _ => false

def restarts : Action → Bool
  | .restart _ => true
  | _ => false

def reserves : Action → Bool
  | .deploy _ _ | .reserve _ _ _ _ => true
  | _ => false

def books : Action → Bool
  | .reserve _ _ _ _ | .release _ => true
  | _ => false

def syncs : Action → Bool
  | .registerNode _ _ | .syncNode _ | .syncNodes => true
  | _ => false

end Action

namespace Session

def action (session : Session) : Action := session.request.action

def Holds (session : Session) (reservation : Nat) : Prop :=
  ∃ tracked ∈ session.deployments, tracked.inserted = false ∧
    tracked.original.reservationId = some reservation

def MayRelease (session : Session) (reservation : Nat) : Prop :=
  session.action = .release reservation ∨ session.Holds reservation

def Emptied (session : Session) (entry : Nat × List Nat) : Prop :=
  ∀ id ∈ entry.2, ∃ tracked ∈ session.allocations, tracked.key = id ∧ tracked.row.released = true

def LeavesEnded (session : Session) (deploymentId : Nat) : Prop :=
  ∃ tracked ∈ session.deployments, tracked.inserted = false ∧ tracked.key = deploymentId ∧
    tracked.row.state.ended = true

def Reserved (session : Session) (nodeId : Nat) (gpuIndices : List Int) (reservation : Nat) :
    Prop :=
  (inserted session.allocations).map (·.gpuIndex) = gpuIndices ∧
    ∀ row ∈ inserted session.allocations,
      row.nodeId = nodeId ∧ row.reservationId = reservation ∧ row.released = false

def Placeable (session : Session) (draft : ModelDeployment) : Prop :=
  draft.state.ended = false ∧
    match draft.reservationId with
    | some reservation =>
        draft.gpuIndices ≠ [] ∧ ∃ nodeId, draft.nodeId = some nodeId ∧
          session.Reserved nodeId draft.gpuIndices reservation
    | none => draft.gpuIndices = []

def Listed (session : Session) (nodeId : Nat) (device : Int × Nat) : Prop :=
  ∃ entry ∈ session.listed, entry.1 = nodeId ∧ device.2 ∈ entry.2 ∧
    ∃ tracked ∈ session.gpus, tracked.key = device.2 ∧ tracked.row.index = device.1

def PermitsWrite (session : Session) : Write → Prop
  | .assignNode _ _ | .assignGpu _ _ => session.action.syncs = true
  | .releaseAllocation id =>
      ∃ entry ∈ session.found, id ∈ entry.2 ∧ session.MayRelease entry.1
  | .assignDeployment deploymentId (.reservationId value) =>
      value = none ∧ (session.action.steers = true ∨ session.action.ticks = true) ∧
        ∀ tracked ∈ session.deployments, tracked.key = deploymentId → ∀ reservation,
          tracked.row.reservationId = some reservation →
            ∃ entry ∈ session.found, entry.1 = reservation ∧ session.Emptied entry
  | .assignDeployment _ _ => session.action.steers = true ∨ session.action.ticks = true
  | .recordFailure _ => session.action.ticks = true
  | .deleteDeployment deploymentId =>
      (∃ id, session.action = .delete id) ∧ session.LeavesEnded deploymentId
  | .deleteNode nodeId => session.action = .deleteNode nodeId

def MayCreate (session : Session) (spec : ContainerSpec) : Prop :=
  session.action.ticks = true ∧ ∃ tracked ∈ session.deployments, tracked.inserted = false ∧
    tracked.key = spec.deploymentId ∧ tracked.original.nodeId = some spec.nodeId ∧
      ∀ indices, spec.gpus = some indices → indices = tracked.original.gpuIndices

def MayRemove (session : Session) (containerId : String) : Prop :=
  ∀ remove, session.action = .reconcile remove →
    remove = true ∧ ∃ rows, session.scanned = some rows ∧
      claimedBy (knownIds rows) containerId = false

def Permits (session : Session) : Op → Prop
  | .read (.deployment _) => session.action.steers = true
  | .read .pending => session.action.ticks = true
  | .read .deployments =>
      (∃ remove, session.action = .reconcile remove) ∧ session.deployments = []
  | .read (.reservation id) => session.MayRelease id
  | .insert (.deployment draft) =>
      (∃ spec actor, session.action = .deploy spec actor) ∧ inserted session.deployments = [] ∧
        session.Placeable draft
  | .insert _ => session.action.syncs = true
  | .claim nodeId devices _ _ =>
      session.action.reserves = true ∧ (devices.map (·.1)).Nodup ∧
        ∀ device ∈ devices, session.Listed nodeId device
  | .write write => session.PermitsWrite write
  | .agent _ (.command (.create spec)) => session.MayCreate spec
  | .agent _ (.command (.remove id)) => session.MayRemove id
  | .read _ | .telemetry _ | .flush | .agent _ _ | .serving _ _ _ | .raise _ => True

/-- The deployment lost its reservation, or kept it and goes on. The worker's
handler for a step that raised does neither. -/
def Leaves (session : Session) (tracked : Tracked deploymentTable) : Prop :=
  (tracked.row.state.ended = true ∧
      (tracked.row.reservationId = none ∨ tracked.key ∈ session.caught)) ∨
    (tracked.row.state.ended = false ∧
      tracked.row.reservationId = tracked.original.reservationId ∧
        (tracked.original.state.ended = false ∨ session.action.restarts = true))

def Vacates (session : Session) (reservation : Nat) : Prop :=
  ∃ tracked ∈ session.deployments, tracked.inserted = false ∧
    tracked.original.reservationId = some reservation ∧ tracked.row.reservationId = none ∧
      tracked.row.state.ended = true

structure Finished (session : Session) : Prop where
  left : ∀ tracked ∈ session.deployments, tracked.inserted = false →
    tracked.assigned = [] ∨ session.Leaves tracked
  released : ∀ tracked ∈ session.allocations, tracked.assigned ≠ [] →
    ∃ entry ∈ session.found, tracked.key ∈ entry.2 ∧
      (session.action = .release entry.1 ∨ session.Vacates entry.1)
  emptied : ∀ entry ∈ session.found, session.Emptied entry
  deleted : ∀ id ∈ session.deletedDeployments, session.LeavesEnded id
  looked : ∀ reservation, session.action = .release reservation →
    ∃ entry ∈ session.found, entry.1 = reservation
  took : ∀ nodeId gpuIndices purpose reservedBy,
    session.action = .reserve nodeId gpuIndices purpose reservedBy →
      gpuIndices ≠ [] ∧ ∃ reservation, session.Reserved nodeId gpuIndices reservation

end Session

def Replied (session : Session) : (op : Op) → Reply op → Prop
  | .read (.node id), node => ∀ found, node = some found → found.id = id
  | .read (.deployment id), row =>
      ∀ found, row = some found → ∃ base : ModelDeployment, base.id = id ∧
        found = instanceOf session.deployments base
  | .read .pending, rows => ∃ found : List ModelDeployment,
      List.map Prod.fst rows = found.map (instanceOf session.deployments) ∧
        ∀ row ∈ found, row.state.pending = true
  | .read .deployments, rows => ∃ found : List ModelDeployment,
      rows = found.map (instanceOf session.deployments)
  | .read (.reservation _), rows => ∃ found : List GpuAllocation,
      rows = found.map (instanceOf session.allocations)
  | .read (.gpusOf _), rows => ∃ found : List Gpu, rows = found.map (instanceOf session.gpus)
  | .claim nodeId devices _ _, claimed =>
      ∀ reservation rows, claimed = some (reservation, rows) →
        List.map GpuAllocation.gpuIndex rows = devices.map (·.1) ∧
          ∀ row ∈ rows, row.nodeId = nodeId ∧ row.reservationId = reservation ∧
            row.released = false
  | _, _ => True

theorem indices_reservedRows (shared : Shared) (nodeId : Nat) (devices : List (Int × Nat))
    (purpose : String) (reservedBy : Option Nat) :
    (shared.reservedRows nodeId devices purpose reservedBy).map (·.gpuIndex) =
      devices.map (·.1) := by
  rw [Shared.reservedRows, List.map_map]
  conv_rhs => rw [← List.zipIdx_map_fst 0 devices, List.map_map]
  rfl

theorem replied {i : Nat} {session : Session} {shared next : Shared} {op : Op} {answer : Answer}
    {reply : Reply op} (reacts : shared.react i session op answer = some (reply, next)) :
    Replied session op reply := by
  cases reaction reacts with
  | read query =>
      cases query with
      | node id =>
          intro found same
          simpa using List.find?_some same
      | deployment id =>
          intro found same
          obtain ⟨base, seen, rfl⟩ := Option.map_eq_some_iff.mp same
          exact ⟨base, by simpa using List.find?_some seen, rfl⟩
      | pending =>
          refine ⟨(shared.deploymentsSeen session).filter fun row => row.state.pending, ?_, ?_⟩
          · simp only [Shared.rows, List.map_map]
            rfl
          · exact fun row member => (List.mem_filter.mp member).2
      | deployments => exact ⟨_, rfl⟩
      | reservation id => exact ⟨_, rfl⟩
      | gpusOf nodeId => exact ⟨_, rfl⟩
      | _ => trivial
  | claimed nodeId devices purpose reservedBy free accepts =>
      rintro reservation rows ⟨⟩
      refine ⟨indices_reservedRows .., fun row member => ?_⟩
      obtain ⟨node, own, active, _⟩ := mem_reservedRows member
      exact ⟨node, own, active⟩
  | refused nodeId devices purpose reservedBy =>
      rintro reservation rows ⟨⟩
  | telemetry | write | insert | flush | called | serving => trivial

theorem distinct_loaded {session : Session} {query : Query} {rows : Rows query}
    (distinct : (session.loaded query rows).Distinct) : session.Distinct := by
  obtain ⟨gpus, allocations, deployments⟩ := distinct
  cases query with
  | gpusOf nodeId => exact ⟨nodup_of_loading (T := gpuTable) gpus, allocations, deployments⟩
  | activeOn id | reservation id =>
      exact ⟨gpus, nodup_of_loading (T := allocationTable) allocations, deployments⟩
  | pending | deployments =>
      exact ⟨gpus, allocations, nodup_of_loading (T := deploymentTable) deployments⟩
  | gpuByUuid uuid =>
      cases rows with
      | none => exact ⟨gpus, allocations, deployments⟩
      | some row => exact ⟨nodup_of_loading (T := gpuTable) gpus, allocations, deployments⟩
  | deployment id =>
      cases rows with
      | none => exact ⟨gpus, allocations, deployments⟩
      | some row =>
          exact ⟨gpus, allocations, nodup_of_loading (T := deploymentTable) deployments⟩
  | model id => cases rows <;> exact ⟨gpus, allocations, deployments⟩
  | node id | nodeNamed name | nodes limit | pollable => exact ⟨gpus, allocations, deployments⟩

theorem distinct_written {session : Session} {write : Write}
    (distinct : (session.written write).Distinct) : session.Distinct := by
  obtain ⟨gpus, allocations, deployments⟩ := distinct
  cases write with
  | assignNode node assignment | deleteDeployment id | deleteNode id =>
      exact ⟨gpus, allocations, deployments⟩
  | assignGpu gpuId assignment =>
      exact ⟨(keys_assigning (T := gpuTable) ..) ▸ gpus, allocations, deployments⟩
  | releaseAllocation id =>
      exact ⟨gpus, (keys_assigning (T := allocationTable) ..) ▸ allocations, deployments⟩
  | assignDeployment id assignment =>
      exact ⟨gpus, allocations, (keys_assigning (T := deploymentTable) ..) ▸ deployments⟩
  | recordFailure id =>
      simp only [Session.written, Session.assignDeployment] at gpus allocations deployments
      rw [keys_assigning (T := deploymentTable), keys_assigning (T := deploymentTable)]
        at deployments
      exact ⟨gpus, allocations, deployments⟩

theorem distinct_before {session : Session} {op : Op} {reply : Reply op}
    (distinct : (session.after op reply).Distinct) : session.Distinct := by
  cases op with
  | read query => exact distinct_loaded distinct
  | write write => exact distinct_written distinct
  | insert draft =>
      obtain ⟨gpus, allocations, deployments⟩ := distinct
      cases draft with
      | node draft => exact ⟨gpus, allocations, deployments⟩
      | gpu draft =>
          simp only [Session.after, Session.drafted, List.map_append] at gpus
          exact ⟨gpus.of_append_left, allocations, deployments⟩
      | deployment draft =>
          simp only [Session.after, Session.drafted, List.map_append] at deployments
          exact ⟨gpus, allocations, deployments.of_append_left⟩
  | claim nodeId devices purpose reservedBy =>
      obtain ⟨gpus, allocations, deployments⟩ := distinct
      cases reply with
      | none => exact ⟨gpus, allocations, deployments⟩
      | some claimed =>
          simp only [Session.after, List.map_append] at allocations
          exact ⟨gpus, allocations.of_append_left, deployments⟩
  | telemetry | flush | agent | serving | raise => exact distinct

end AiPlatform.Deployments
