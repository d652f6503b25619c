import AiPlatform.DeploymentService

/-!
What one operation does to the store and to the session that performs it, said
once, and the keys: every stored key is settled, which means that no live
session has drawn it, and a settled key stays settled.
-/

namespace AiPlatform.Deployments

open Hosts (Fleet)

structure Untouched (before after : Shared) : Prop where
  models : after.models = before.models
  nodes : after.nodes = before.nodes
  gpus : after.gpus = before.gpus
  allocations : after.allocations = before.allocations
  deployments : after.deployments = before.deployments
  placements : after.placements = before.placements
  ended : after.ended = before.ended
  nextId : before.nextId ≤ after.nextId

theorem Untouched.refl (shared : Shared) : Untouched shared shared :=
  ⟨rfl, rfl, rfl, rfl, rfl, rfl, rfl, Nat.le_refl _⟩

inductive Reaction (i : Nat) (session : Session) (shared : Shared) :
    (op : Op) → Reply op → Shared → Prop
  | read (query : Query) :
      Reaction i session shared (.read query) (shared.rows session query) shared
  | telemetry (gpuIds : List Nat) (samples : List Sample) :
      Reaction i session shared (.telemetry gpuIds) samples shared
  | write (write : Write) : Reaction i session shared (.write write) () shared
  | insert (draft : Draft) :
      Reaction i session shared (.insert draft) shared.nextId
        { shared with nextId := shared.nextId + 1 }
  | refused (nodeId : Nat) (devices : List (Int × Nat)) (purpose : String)
      (reservedBy : Option Nat) :
      Reaction i session shared (.claim nodeId devices purpose reservedBy) none shared
  | claimed (nodeId : Nat) (devices : List (Int × Nat)) (purpose : String)
      (reservedBy : Option Nat)
      (free : ∀ device ∈ devices, shared.locks.free i (nodeId, device.1) = true)
      (accepts : shared.refuses session nodeId devices = false) :
      Reaction i session shared (.claim nodeId devices purpose reservedBy)
        (some (shared.nextId, shared.reservedRows nodeId devices purpose reservedBy))
        { shared with
          locks := shared.locks.acquire i (devices.map fun device => (nodeId, device.1))
          nextId := shared.nextId + 1 + devices.length
          claims := shared.claims ++ [⟨shared.nextId, nodeId, devices⟩] }
  | flush (passed : Bool) : Reaction i session shared .flush passed shared
  | called (agentUrl : String) (call : AgentCall) (reply : Except AgentFailure (Value call))
      (fleet : Fleet ContainerSpec)
      (effect : fleet = shared.fleet ∨ ∃ command event, call = .command command ∧
        shared.fleet.effect agentUrl command event = some fleet) :
      Reaction i session shared (.agent agentUrl call) reply { shared with fleet := fleet }
  | serving (url healthPath : String) (apiKey : Option String)
      (reply : Except String (Bool × String)) :
      Reaction i session shared (.serving url healthPath apiKey) reply shared

section Reactions

variable {i : Nat} {session : Session} {shared next : Shared} {op : Op} {answer : Answer}
  {reply : Reply op}

theorem called_effect {fleet after : Fleet ContainerSpec} {agentUrl : String} {call : AgentCall}
    {event : Hosts.Event} (took : Shared.called fleet agentUrl call event = some after) :
    after = fleet ∨ ∃ command event, call = .command command ∧
      fleet.effect agentUrl command event = some after := by
  cases call with
  | command command => exact .inr ⟨command, event, rfl, took⟩
  | connect | list | logs _ _ | health | system | gpus | containers =>
      cases event with
      | nothing =>
          cases took
          exact .inl rfl
      | created id => cases took
      | took => cases took

theorem reaction (reacts : shared.react i session op answer = some (reply, next)) :
    Reaction i session shared op reply next := by
  cases op with
  | read query =>
      cases reacts
      exact .read query
  | telemetry gpuIds =>
      cases answer with
      | samples samples =>
          cases reacts
          exact .telemetry gpuIds _
      | _ => cases reacts
  | write write =>
      cases reacts
      exact .write write
  | insert draft =>
      cases reacts
      exact .insert draft
  | claim nodeId devices purpose reservedBy =>
      simp only [Shared.react] at reacts
      split at reacts
      · rename_i free
        split at reacts
        · cases reacts
          exact .refused nodeId devices purpose reservedBy
        · rename_i accepts
          cases reacts
          refine .claimed nodeId devices purpose reservedBy (fun device member => ?_)
            (by simpa using accepts)
          exact List.all_eq_true.mp free _ (List.mem_map_of_mem member)
      · cases reacts
  | flush =>
      cases answer with
      | order order =>
          simp only [Shared.react] at reacts
          split at reacts
          · cases reacts
            exact .flush _
          · cases reacts
      | _ => cases reacts
  | agent agentUrl call =>
      cases answer with
      | agent event failure report =>
          simp only [Shared.react] at reacts
          split at reacts
          · cases reacts
          · rename_i fleet took
            cases failure with
            | some failure =>
                cases reacts
                exact .called agentUrl call _ fleet (called_effect took)
            | none =>
                obtain ⟨value, _, same⟩ := Option.map_eq_some_iff.mp reacts
                cases same
                exact .called agentUrl call _ fleet (called_effect took)
      | _ => cases reacts
  | serving url healthPath apiKey =>
      cases answer with
      | serving result =>
          cases reacts
          exact .serving url healthPath apiKey _
      | _ => cases reacts
  | raise failure => cases reply

theorem Reaction.untouched (reacts : Reaction i session shared op reply next) :
    Untouched shared next := by
  cases reacts with
  | read | telemetry | write | refused | flush | serving => exact .refl shared
  | insert => exact ⟨rfl, rfl, rfl, rfl, rfl, rfl, rfl, Nat.le_succ _⟩
  | claimed => exact ⟨rfl, rfl, rfl, rfl, rfl, rfl, rfl, by simp only []; omega⟩
  | called => exact ⟨rfl, rfl, rfl, rfl, rfl, rfl, rfl, Nat.le_refl _⟩

theorem Reaction.fleet (reacts : Reaction i session shared op reply next) :
    next.fleet = shared.fleet ∨ ∃ agentUrl command event, op = .agent agentUrl (.command command) ∧
      shared.fleet.effect agentUrl command event = some next.fleet := by
  cases reacts with
  | read | telemetry | write | insert | refused | claimed | flush | serving => exact .inl rfl
  | called agentUrl call reply fleet effect =>
      rcases effect with same | ⟨command, event, rfl, took⟩
      · exact .inl same
      · exact .inr ⟨agentUrl, command, event, rfl, took⟩

end Reactions

def Session.drawn (session : Session) : List Nat :=
  (inserted session.gpus).map (·.id) ++ (inserted session.allocations).map (·.id) ++
    (inserted session.allocations).map (·.reservationId) ++
      (inserted session.deployments).map (·.id)

def Shared.ids (shared : Shared) : List Nat :=
  shared.gpus.map (·.id) ++ shared.allocations.map (·.id) ++
    shared.allocations.map (·.reservationId) ++ shared.deployments.map (·.id)

structure Settled (system : DeploymentSystem) (id : Nat) : Prop where
  below : id < system.shared.nextId
  unclaimed : ∀ i session, system.Live i session → id ∉ session.drawn

theorem drawn_assignDeployment (session : Session) (id : Nat) (assignment : DeploymentAssignment) :
    (session.assignDeployment id assignment).drawn = session.drawn := by
  simp only [Session.drawn, Session.assignDeployment]
  rw [inserted_assigning (T := deploymentTable) ModelDeployment.id
    (fun assignment row => deploymentTable.key_apply assignment row)]

theorem drawn_written (session : Session) (write : Write) :
    (session.written write).drawn = session.drawn := by
  cases write with
  | assignNode node assignment => rfl
  | assignGpu gpuId assignment =>
      simp only [Session.drawn, Session.written]
      rw [inserted_assigning (T := gpuTable) Gpu.id
        (fun assignment row => gpuTable.key_apply assignment row)]
  | releaseAllocation allocationId =>
      simp only [Session.drawn, Session.written]
      rw [inserted_assigning (T := allocationTable) GpuAllocation.id
          (fun assignment row => allocationTable.key_apply assignment row),
        inserted_assigning (T := allocationTable) GpuAllocation.reservationId
          (fun assignment row => by cases assignment; rfl)]
  | assignDeployment deploymentId assignment => exact drawn_assignDeployment _ _ _
  | recordFailure deploymentId =>
      simp only [Session.written]
      rw [drawn_assignDeployment, drawn_assignDeployment]
      rfl
  | deleteDeployment deploymentId => rfl
  | deleteNode nodeId => rfl

theorem drawn_loaded (session : Session) (query : Query) (rows : Rows query) :
    (session.loaded query rows).drawn = session.drawn := by
  cases query with
  | model id => cases rows <;> rfl
  | node id | nodeNamed name | nodes limit | pollable => rfl
  | gpusOf nodeId =>
      have same := inserted_loading (T := gpuTable) session.gpus rows
      simp only [Session.drawn, Session.loaded, same]
  | gpuByUuid uuid =>
      cases rows with
      | none => rfl
      | some row =>
          have same := inserted_loading (T := gpuTable) session.gpus [row]
          simp only [Session.drawn, Session.loaded, same]
  | activeOn nodeId | reservation id =>
      have same := inserted_loading (T := allocationTable) session.allocations rows
      simp only [Session.drawn, Session.loaded, same]
  | deployment id =>
      cases rows with
      | none => rfl
      | some row =>
          have same := inserted_loading (T := deploymentTable) session.deployments [row]
          simp only [Session.drawn, Session.loaded, same]
  | pending =>
      have same := inserted_loading (T := deploymentTable) session.deployments
        (List.map (·.1) (rows : List (ModelDeployment × Option Model)))
      simp only [Session.drawn, Session.loaded, same]
  | deployments =>
      have same := inserted_loading (T := deploymentTable) session.deployments rows
      simp only [Session.drawn, Session.loaded, same]

theorem mem_reservedRows {shared : Shared} {nodeId : Nat} {devices : List (Int × Nat)}
    {purpose : String} {reservedBy : Option Nat} {row : GpuAllocation}
    (member : row ∈ shared.reservedRows nodeId devices purpose reservedBy) :
    row.nodeId = nodeId ∧ row.reservationId = shared.nextId ∧ row.released = false ∧
      shared.nextId < row.id ∧ row.id < shared.nextId + 1 + devices.length ∧
        ∃ device ∈ devices, row.gpuIndex = device.1 ∧ row.gpuId = some device.2 := by
  obtain ⟨⟨device, position⟩, listed, rfl⟩ := List.mem_map.mp member
  obtain ⟨_, bound, found⟩ := List.mem_zipIdx listed
  simp only [Nat.zero_add] at bound
  refine ⟨rfl, rfl, rfl, ?_, ?_, device, ?_, rfl, rfl⟩
  · simp only
    omega
  · simp only
    omega
  · simp only [Nat.sub_zero] at found
    rw [found]
    exact List.getElem_mem _

theorem drawn_after {i : Nat} {session : Session} {shared next : Shared} {op : Op}
    {reply : Reply op} (reacts : Reaction i session shared op reply next) :
    ∀ id ∈ (session.after op reply).drawn,
      id ∈ session.drawn ∨ (shared.nextId ≤ id ∧ id < next.nextId) := by
  intro id member
  cases reacts with
  | read query => exact .inl (drawn_loaded session query _ ▸ member)
  | write write => exact .inl (drawn_written session write ▸ member)
  | telemetry | refused | flush | called | serving => exact .inl member
  | insert draft =>
      cases draft with
      | node draft => exact .inl member
      | gpu draft =>
          have rows : inserted (session.drafted shared.nextId (.gpu draft)).gpus =
              inserted session.gpus ++ [{ draft with id := shared.nextId }] :=
            inserted_append (T := gpuTable) session.gpus [_]
          simp only [Session.after, Session.drawn, rows] at member
          simp only [Session.drafted, Session.drawn, List.map_append, List.map_cons, List.map_nil,
            List.mem_append, List.mem_singleton] at member ⊢
          rcases member with ((((old | new) | old) | old) | old)
          · exact .inl (by simp [old])
          · exact .inr (by omega)
          · exact .inl (by simp [old])
          · exact .inl (by simp [old])
          · exact .inl (by simp [old])
      | deployment draft =>
          have rows : inserted (session.drafted shared.nextId (.deployment draft)).deployments =
              inserted session.deployments ++ [{ draft with id := shared.nextId }] :=
            inserted_append (T := deploymentTable) session.deployments [_]
          simp only [Session.after, Session.drawn, rows] at member
          simp only [Session.drafted, Session.drawn, List.map_append, List.map_cons, List.map_nil,
            List.mem_append, List.mem_singleton] at member ⊢
          rcases member with (((old | old) | old) | (old | new))
          · exact .inl (by simp [old])
          · exact .inl (by simp [old])
          · exact .inl (by simp [old])
          · exact .inl (by simp [old])
          · exact .inr (by omega)
  | claimed nodeId devices purpose reservedBy free accepts =>
      have rows : inserted (session.allocations ++
          (shared.reservedRows nodeId devices purpose reservedBy).map fun row => .insert row) =
            inserted session.allocations ++
              shared.reservedRows nodeId devices purpose reservedBy :=
        inserted_append (T := allocationTable) session.allocations _
      simp only [Session.after, Session.drawn, rows, List.map_append, List.mem_append] at member ⊢
      rcases member with (((old | (old | new)) | (old | new)) | old)
      · exact .inl (by simp [old])
      · exact .inl (by simp [old])
      · obtain ⟨row, listed, rfl⟩ := List.mem_map.mp new
        have bounds := mem_reservedRows listed
        exact .inr (by omega)
      · exact .inl (by simp [old])
      · obtain ⟨row, listed, rfl⟩ := List.mem_map.mp new
        have bounds := mem_reservedRows listed
        exact .inr (by omega)
      · exact .inl (by simp [old])

section Commits

variable {session : Session} {shared : Shared}

structure SameClaim (before after : GpuAllocation) : Prop where
  id : after.id = before.id
  nodeId : after.nodeId = before.nodeId
  gpuIndex : after.gpuIndex = before.gpuIndex
  reservationId : after.reservationId = before.reservationId
  gpuId : ∀ gpuId, after.gpuId = some gpuId → before.gpuId = some gpuId
  released : before.released = true → after.released = true

theorem SameClaim.device {before after : GpuAllocation} (same : SameClaim before after) :
    after.device = before.device := by
  rw [GpuAllocation.device, GpuAllocation.device, same.nodeId, same.gpuIndex]

theorem replay_allocation (assigned : List AllocationAssignment) (row : GpuAllocation) :
    Tracked.replay (T := allocationTable) assigned row =
      { row with released := row.released || !assigned.isEmpty } := by
  induction assigned generalizing row with
  | nil => simp [Tracked.replay]
  | cons assignment rest ih =>
      cases assignment
      have first : Tracked.replay (T := allocationTable) (.released :: rest) row =
          Tracked.replay (T := allocationTable) rest { row with released := true } := rfl
      rw [first, ih]
      simp

theorem update_allocation (allocations : List (Tracked allocationTable)) (row : GpuAllocation) :
    Tracked.update allocations row = row ∨
      (Tracked.update allocations row = { row with released := true } ∧
        ∃ tracked ∈ allocations, tracked.inserted = false ∧ tracked.key = row.id ∧
          tracked.assigned ≠ []) := by
  rcases Tracked.update_cases allocations row with ⟨same, _⟩ | ⟨tracked, member, loaded, keyed, same⟩
  · exact .inl same
  · rw [same, replay_allocation]
    by_cases clean : tracked.assigned = []
    · exact .inl (by simp [clean])
    · exact .inr ⟨by simp [clean], tracked, member, loaded, keyed, clean⟩

theorem mem_allocationsAfter {row : GpuAllocation}
    (member : row ∈ shared.allocationsAfter session) :
    row.nodeId ∉ session.deletedNodes ∧
      (∀ gpuId, row.gpuId = some gpuId → ∃ gpu ∈ shared.gpusAfter session, gpu.id = gpuId) ∧
        ((∃ old ∈ shared.allocations, SameClaim old row ∧
            (row.released = true → old.released = true ∨
              ∃ tracked ∈ session.allocations, tracked.inserted = false ∧ tracked.key = old.id ∧
                tracked.assigned ≠ [])) ∨
          ∃ new ∈ inserted session.allocations, SameClaim new row ∧
            row.released = new.released) := by
  obtain ⟨before, kept, rfl⟩ := List.mem_map.mp member
  obtain ⟨stored, alive⟩ := List.mem_filter.mp kept
  refine ⟨by simpa using alive, fun gpuId found => ?_, ?_⟩
  · have known := (Option.filter_eq_some_iff.mp found).2
    simpa using known
  · have narrowed (gpuId : Nat) (found : before.gpuId.filter (fun id =>
        (shared.gpusAfter session).any fun gpu => gpu.id = id) = some gpuId) :
        before.gpuId = some gpuId := (Option.filter_eq_some_iff.mp found).1
    rcases Tracked.mem_store.mp stored with ⟨old, listed, rfl⟩ | ⟨tracked, own, new, rfl⟩
    · refine .inl ⟨old, listed, ?_⟩
      rcases update_allocation session.allocations old with same | ⟨same, tracked⟩
      · simp only [same] at narrowed ⊢
        exact ⟨⟨rfl, rfl, rfl, rfl, narrowed, id⟩, .inl⟩
      · simp only [same] at narrowed ⊢
        exact ⟨⟨rfl, rfl, rfl, rfl, narrowed, fun _ => rfl⟩, fun _ => .inr tracked⟩
    · exact .inr ⟨tracked.row, mem_inserted.mpr ⟨tracked, own, new, rfl⟩,
        ⟨rfl, rfl, rfl, rfl, narrowed, id⟩, rfl⟩

theorem mem_deploymentsAfter {row : ModelDeployment}
    (member : row ∈ shared.deploymentsAfter session) :
    row.id ∉ session.deletedDeployments ∧
      (∀ nodeId, row.nodeId = some nodeId → nodeId ∉ session.deletedNodes) ∧
        ((∃ old ∈ shared.deployments, row.id = old.id ∧
            row = Tracked.update session.deployments old) ∨
          row ∈ inserted session.deployments) := by
  obtain ⟨stored, alive⟩ := List.mem_filter.mp member
  simp only [Bool.and_eq_true, Bool.not_eq_true', List.contains_eq_mem,
    decide_eq_false_iff_not] at alive
  refine ⟨alive.1, fun nodeId found => ?_, ?_⟩
  · simpa [found] using alive.2
  · rcases Tracked.mem_store.mp stored with ⟨old, listed, rfl⟩ | ⟨tracked, own, new, rfl⟩
    · exact .inl ⟨old, listed, Tracked.key_update (T := deploymentTable) _ _, rfl⟩
    · exact .inr (mem_inserted.mpr ⟨tracked, own, new, rfl⟩)

theorem mem_gpusAfter {gpu : Gpu} (member : gpu ∈ shared.gpusAfter session) :
    (∃ old ∈ shared.gpus, gpu.id = old.id ∧ gpu = Tracked.update session.gpus old) ∨
      gpu ∈ inserted session.gpus := by
  obtain ⟨stored, _⟩ := List.mem_filter.mp member
  rcases Tracked.mem_store.mp stored with ⟨old, listed, rfl⟩ | ⟨tracked, own, new, rfl⟩
  · exact .inl ⟨old, listed, Tracked.key_update (T := gpuTable) _ _, rfl⟩
  · exact .inr (mem_inserted.mpr ⟨tracked, own, new, rfl⟩)

end Commits

end AiPlatform.Deployments
