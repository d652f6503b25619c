import AiPlatform.DeploymentPrograms
import Mathlib.Data.List.Induction

/-!
Runs of the control plane. What one operation does to an instance of a
deployment or of an allocation, said once, and what earlier invariants say of
every system that a run reaches.
-/

namespace AiPlatform.Deployments

def Op.assignments (key : Nat) : Op → List DeploymentAssignment
  | .write (.assignDeployment deploymentId assignment) =>
      if deploymentId = key then [assignment] else []
  | .write (.recordFailure deploymentId) =>
      if deploymentId = key then
        [.state .failed, .errorMessage (some Session.workerFailure)]
      else []
  | _ => []

/-- The instance after some assignments. One that changes nothing may be dropped. -/
structure Altered (assignments : List DeploymentAssignment)
    (old next : Tracked deploymentTable) : Prop where
  original : next.original = old.original
  inserted : next.inserted = old.inserted
  row : next.row = Tracked.replay (T := deploymentTable) assignments old.row
  assigned : ∀ assignment ∈ next.assigned, assignment ∈ old.assigned ∨ assignment ∈ assignments
  dirty : old.assigned ≠ [] → next.assigned ≠ []

def Query.deploys : Query → Bool
  | .deployment _ | .pending | .deployments => true
  | _ => false

inductive Turned (session : Session) (shared : Shared) (op : Op) :
    Tracked deploymentTable → Prop
  | kept (old next : Tracked deploymentTable) (member : old ∈ session.deployments)
      (altered : Altered (op.assignments old.key) old next) :
      Turned session shared op next
  | loaded (row : ModelDeployment) (query : Query) (stored : row ∈ shared.deployments)
      (reads : op = .read query) (deploys : query.deploys = true)
      (pending : query = .pending → row.state.pending = true) :
      Turned session shared op (.load row)
  | inserted (draft : ModelDeployment) (inserts : op = .insert (.deployment draft)) :
      Turned session shared op (.insert { draft with id := shared.nextId })

inductive TurnedAllocation (session : Session) (shared : Shared) (op : Op) :
    Tracked allocationTable → Prop
  | kept (old : Tracked allocationTable) (member : old ∈ session.allocations) :
      TurnedAllocation session shared op old
  | released (old : Tracked allocationTable) (member : old ∈ session.allocations)
      (releases : op = .write (.releaseAllocation old.key)) :
      TurnedAllocation session shared op (old.assign .released)
  | loaded (row : GpuAllocation) (stored : row ∈ shared.allocations) :
      TurnedAllocation session shared op (.load row)
  | claimed (nodeId : Nat) (devices : List (Int × Nat)) (purpose : String)
      (reservedBy : Option Nat) (row : GpuAllocation)
      (claims : op = .claim nodeId devices purpose reservedBy)
      (member : row ∈ shared.reservedRows nodeId devices purpose reservedBy) :
      TurnedAllocation session shared op (.insert row)

section Instances

variable {i : Nat} {session : Session} {shared next : Shared} {op : Op} {reply : Reply op}

theorem Altered.key {assignments : List DeploymentAssignment} {old next : Tracked deploymentTable}
    (altered : Altered assignments old next) : next.key = old.key := by
  rw [Tracked.key, altered.original, Tracked.key]

theorem Altered.nothing (tracked : Tracked deploymentTable) : Altered [] tracked tracked :=
  ⟨rfl, rfl, rfl, fun _ listed => .inl listed, id⟩

theorem Altered.trans {first second : List DeploymentAssignment}
    {old middle next : Tracked deploymentTable} (before : Altered first old middle)
    (after : Altered second middle next) : Altered (first ++ second) old next := by
  refine ⟨after.original.trans before.original, after.inserted.trans before.inserted, ?_,
    fun assignment listed => ?_, after.dirty ∘ before.dirty⟩
  · rw [after.row, before.row, Tracked.replay_append]
  · rcases after.assigned assignment listed with early | late
    · exact (before.assigned assignment early).imp_right (List.mem_append_left _)
    · exact .inr (List.mem_append_right _ late)

theorem altered_assigning {instances : List (Tracked deploymentTable)} {deploymentId : Nat}
    {assignment : DeploymentAssignment} {tracked : Tracked deploymentTable}
    (member : tracked ∈ assigning instances deploymentId assignment) :
    ∃ old ∈ instances, Altered (if deploymentId = old.key then [assignment] else []) old tracked := by
  obtain ⟨old, there, same⟩ := List.mem_map.mp member
  refine ⟨old, there, ?_⟩
  split at same
  · rename_i changed
    subst same
    rw [if_pos changed.1.symm]
    refine ⟨rfl, rfl, Tracked.assign_row old assignment, ?_, fun _ => by simp⟩
    exact fun _ listed => List.mem_append.mp listed
  · rename_i unchanged
    subst same
    split
    · rename_i keyed
      simp only [keyed.symm, true_and, ne_eq, not_not] at unchanged
      exact ⟨rfl, rfl, unchanged.symm, fun _ listed => .inl listed, id⟩
    · exact .nothing old

theorem turned_kept {tracked : Tracked deploymentTable} (member : tracked ∈ session.deployments)
    (none : op.assignments tracked.key = []) : Turned session shared op tracked := by
  refine .kept tracked tracked member ?_
  rw [none]
  exact .nothing tracked

theorem turned_recorded {deploymentId : Nat} {tracked : Tracked deploymentTable}
    (member : tracked ∈ (session.written (.recordFailure deploymentId)).deployments) :
    Turned session shared (.write (.recordFailure deploymentId)) tracked := by
  obtain ⟨middle, there, second⟩ := altered_assigning member
  obtain ⟨old, there, first⟩ := altered_assigning there
  refine .kept old tracked there ?_
  have both := first.trans second
  rw [first.key] at both
  rw [Op.assignments]
  split at both
  · rename_i keyed
    rwa [if_pos keyed]
  · rename_i other
    rwa [if_neg other]

theorem turned_loading (rows : List ModelDeployment) {query : Query}
    {tracked : Tracked deploymentTable}
    (deploys : query.deploys = true) (seen : ∀ row ∈ rows, row ∈ shared.deploymentsSeen session)
    (pending : query = .pending → ∀ row ∈ rows, row.state.pending = true)
    (member : tracked ∈ loading (T := deploymentTable) session.deployments
      (rows.map (instanceOf (T := deploymentTable) session.deployments))) :
    Turned session shared (.read query) tracked := by
  rcases mem_loading.mp member with old | ⟨row, listed, rfl, new⟩
  · exact turned_kept old rfl
  · obtain ⟨base, found, rfl⟩ := List.mem_map.mp listed
    rw [key_instanceOf] at new
    rw [instanceOf_new new]
    exact .loaded base query (stored_of_found (T := deploymentTable) (seen base found) new) rfl
      deploys fun same => pending same base found

theorem turned (reacts : Reaction i session shared op reply next) :
    ∀ tracked ∈ (session.after op reply).deployments, Turned session shared op tracked := by
  intro tracked member
  cases reacts with
  | read query =>
      cases query with
      | deployment id =>
          cases found : (shared.deploymentsSeen session).find? fun row => row.id = id with
          | none =>
              simp only [Session.after, Shared.rows, found, Option.map_none] at member
              exact turned_kept member rfl
          | some row =>
              simp only [Session.after, Shared.rows, found, Option.map_some] at member
              refine turned_loading [row] rfl ?_ (fun same => by cases same) member
              intro other same
              rw [List.mem_singleton.mp same]
              exact List.mem_of_find?_eq_some found
      | pending =>
          refine turned_loading
            ((shared.deploymentsSeen session).filter fun row => row.state.pending) rfl
            (fun row listed => List.mem_of_mem_filter listed)
            (fun _ row listed => (List.mem_filter.mp listed).2) ?_
          simp only [Session.after, Shared.rows, Session.loaded, List.map_map] at member
          exact member
      | deployments =>
          exact turned_loading (shared.deploymentsSeen session) rfl (fun row listed => listed)
            (fun same => by cases same) member
      | model id =>
          simp only [Session.after, Shared.rows] at member
          cases found : shared.findModel session id <;>
            exact turned_kept (by simpa [found, Session.loaded] using member) rfl
      | gpuByUuid uuid =>
          simp only [Session.after, Shared.rows] at member
          cases found : (shared.gpusSeen session).find? fun gpu => gpu.uuid = uuid <;>
            exact turned_kept (by simpa [found, Session.loaded] using member) rfl
      | node id | nodeNamed name | nodes limit | pollable | gpusOf nodeId | activeOn nodeId
      | reservation id => exact turned_kept member rfl
  | write write =>
      cases write with
      | assignDeployment deploymentId assignment =>
          obtain ⟨old, there, altered⟩ := altered_assigning member
          exact .kept old tracked there altered
      | recordFailure deploymentId => exact turned_recorded member
      | assignNode node assignment | assignGpu gpuId assignment | releaseAllocation id
      | deleteDeployment id | deleteNode id => exact turned_kept member rfl
  | insert draft =>
      cases draft with
      | node draft | gpu draft => exact turned_kept member rfl
      | deployment draft =>
          rcases List.mem_append.mp member with old | new
          · exact turned_kept old rfl
          · rw [List.mem_singleton.mp new]
            exact .inserted draft rfl
  | telemetry | refused | claimed | flush | called | serving => exact turned_kept member rfl

theorem turnedAllocation (reacts : Reaction i session shared op reply next) :
    ∀ tracked ∈ (session.after op reply).allocations,
      TurnedAllocation session shared op tracked := by
  intro tracked member
  have loads {rows : List GpuAllocation} (seen : ∀ row ∈ rows, row ∈ shared.allocationsSeen session)
      (member : tracked ∈ loading (T := allocationTable) session.allocations
        (rows.map (instanceOf (T := allocationTable) session.allocations))) :
      TurnedAllocation session shared op tracked := by
    rcases mem_loading.mp member with old | ⟨row, listed, rfl, new⟩
    · exact .kept tracked old
    · obtain ⟨base, found, rfl⟩ := List.mem_map.mp listed
      rw [key_instanceOf] at new
      rw [instanceOf_new new]
      exact .loaded base (stored_of_found (T := allocationTable) (seen base found) new)
  cases reacts with
  | read query =>
      cases query with
      | activeOn id | reservation id =>
          exact loads (fun row listed => List.mem_of_mem_filter listed) member
      | model id =>
          simp only [Session.after, Shared.rows] at member
          cases found : shared.findModel session id <;>
            exact .kept tracked (by simpa [found, Session.loaded] using member)
      | gpuByUuid uuid =>
          simp only [Session.after, Shared.rows] at member
          cases found : (shared.gpusSeen session).find? fun gpu => gpu.uuid = uuid <;>
            exact .kept tracked (by simpa [found, Session.loaded] using member)
      | deployment id =>
          simp only [Session.after, Shared.rows] at member
          cases found : (shared.deploymentsSeen session).find? fun row => row.id = id <;>
            exact .kept tracked (by simpa [found, Session.loaded] using member)
      | node id | nodeNamed name | nodes limit | pollable | gpusOf nodeId | pending
      | deployments => exact .kept tracked member
  | write write =>
      cases write with
      | releaseAllocation id =>
          rcases mem_assigning (T := allocationTable) member with old | ⟨old, there, rfl, rfl⟩
          · exact .kept tracked old
          · exact .released old there rfl
      | assignDeployment id assignment | recordFailure id | assignNode node assignment
      | assignGpu gpuId assignment | deleteDeployment id | deleteNode id =>
          exact .kept tracked member
  | insert draft => cases draft <;> exact .kept tracked member
  | claimed nodeId devices purpose reservedBy free accepts =>
      rcases List.mem_append.mp member with old | new
      · exact .kept tracked old
      · obtain ⟨row, listed, rfl⟩ := List.mem_map.mp new
        exact .claimed nodeId devices purpose reservedBy row rfl listed
  | telemetry | refused | flush | called | serving => exact .kept tracked member

@[simp] theorem after_request (op : Op) (reply : Reply op) :
    (session.after op reply).request = session.request := by
  cases op with
  | read query =>
      cases query with
      | model id | gpuByUuid uuid | deployment id => cases reply <;> rfl
      | _ => rfl
  | write write => cases write <;> rfl
  | insert draft => cases draft <;> rfl
  | claim nodeId devices purpose reservedBy => cases reply <;> rfl
  | telemetry | flush | agent | serving | raise => rfl

@[simp] theorem after_action (op : Op) (reply : Reply op) :
    (session.after op reply).action = session.action := by
  rw [Session.action, after_request, Session.action]

def Op.deletes : Op → List Nat
  | .write (.deleteDeployment id) => [id]
  | _ => []

def Op.deletesNodes : Op → List Nat
  | .write (.deleteNode id) => [id]
  | _ => []

theorem after_deleted (op : Op) (reply : Reply op) :
    (session.after op reply).deletedDeployments = session.deletedDeployments ++ op.deletes ∧
      (session.after op reply).deletedNodes = session.deletedNodes ++ op.deletesNodes := by
  have none {after : Session} (same : after.deletedDeployments = session.deletedDeployments)
      (nodes : after.deletedNodes = session.deletedNodes) :
      after.deletedDeployments = session.deletedDeployments ++ [] ∧
        after.deletedNodes = session.deletedNodes ++ [] := by
    simp [same, nodes]
  cases op with
  | read query =>
      cases query with
      | model id | gpuByUuid uuid | deployment id => cases reply <;> exact none rfl rfl
      | _ => exact none rfl rfl
  | write write =>
      cases write with
      | deleteDeployment id => exact ⟨rfl, (List.append_nil _).symm⟩
      | deleteNode id => exact ⟨(List.append_nil _).symm, rfl⟩
      | _ => exact none rfl rfl
  | insert draft => cases draft <;> exact none rfl rfl
  | claim nodeId devices purpose reservedBy => cases reply <;> exact none rfl rfl
  | telemetry | flush | agent | serving | raise => exact none rfl rfl

end Instances

theorem replay_state (assigned : List DeploymentAssignment) (row : ModelDeployment) :
    (Tracked.replay (T := deploymentTable) assigned row).state = row.state ∨
      DeploymentAssignment.state (Tracked.replay (T := deploymentTable) assigned row).state ∈ assigned := by
  induction assigned using List.reverseRecOn with
  | nil => exact .inl rfl
  | append_singleton rest assignment ih =>
      rw [Tracked.replay_append]
      change (assignment.apply _).state = _ ∨ DeploymentAssignment.state (assignment.apply _).state ∈ _
      cases assignment with
      | state value => exact .inr (List.mem_append_right _ (List.mem_singleton.mpr rfl))
      | _ => exact ih.imp_right (List.mem_append_left _)

structure Sound (system : DeploymentSystem) : Prop where
  fresh : Fresh system
  kept : discipline.Kept system
  running : ∀ i process, system.processes i = some process → process.status ≠ .stopped

section Sound

variable {system : DeploymentSystem} {i : Nat} {session : Session}

theorem sound_reached {ok : DeploymentSystem → DeploymentLabel → Prop} (system : DeploymentSystem)
    (reached : System.Reaches ok start system) : Sound system := by
  refine ⟨fresh_reached system reached,
    discipline.kept_reached (fun _ => rfl) system reached, ?_⟩
  refine System.reaches_induction (M := deploymentMachine)
    (fun system => ∀ i process, system.processes i = some process → process.status ≠ .stopped)
    ?_ ?_ system reached
  · intro i process found
    cases found
  intro system label next _ running _ transition i process found
  cases transition with
  | stop j op rest session performing awaits => cases awaits
  | change edit => exact running i process found
  | begin | perform | commit | abort =>
      rcases System.put_found found with ⟨_, rfl⟩ | ⟨_, before⟩
      · intro stopped
        cases stopped
      · exact running i process before

theorem Sound.permits (sound : Sound system) {op : Op} (performing : system.Performing i op session) :
    session.Permits op :=
  sound.kept.allowed performing (sound.fresh.sessions i session performing.live)

theorem Sound.finished (sound : Sound system) (ending : system.Ending i session) :
    session.Finished := by
  rcases ending with found | found
  · exact sound.kept.finished found
      (sound.fresh.sessions i session (System.Ending.live (.inl found)))
  · exact absurd rfl (sound.running i _ found)

theorem sessions_reached {ok : DeploymentSystem → DeploymentLabel → Prop} (holds : Session → Prop)
    (opened : ∀ request, holds (Session.opened request))
    (after : ∀ i session shared op reply next, session.Permits op →
      Reaction i session shared op reply next → holds session → holds (session.after op reply))
    (system : DeploymentSystem) (reached : System.Reaches ok start system) :
    ∀ i session, System.Live system i session → holds session := by
  refine System.reaches_induction (M := deploymentMachine)
    (fun system => ∀ i session, System.Live system i session → holds session) ?_ ?_ system reached
  · rintro i session ⟨process, found, _⟩
    cases found
  · intro system label next reached own _ transition i session live
    rcases live_before transition live with new | before |
      ⟨before, op, reply, answer, performed, performing, reacts, rfl⟩
    · rw [new]
      exact opened _
    · exact own i session before
    · exact after i before system.shared op reply next.shared
        ((sound_reached system reached).permits performing) reacts (own i before performing.live)

end Sound

inductive Came (system : DeploymentSystem) (label : DeploymentLabel)
    (container : Hosts.Container ContainerSpec) : Prop
  | survived (old : Hosts.Container ContainerSpec) (present : old ∈ system.shared.fleet.containers)
      (survives : Hosts.Fleet.Survives old container)
  | created (i : Nat) (answer : Answer) (session : Session) (performed : label = .perform i answer)
      (performing : System.Performing system i
        (.agent container.host (.command (.create container.spec))) session)
      (fresh : container.id ∉ system.shared.fleet.used)

theorem came {system next : DeploymentSystem} {label : DeploymentLabel}
    (transition : System.Transition system label next) :
    ∀ container ∈ next.shared.fleet.containers, Came system label container := by
  intro container present
  have stays (present : container ∈ system.shared.fleet.containers) :
      Came system label container :=
    .survived container present (Hosts.Fleet.survives_self container)
  cases transition with
  | begin | stop | abort => exact stays present
  | commit i session shared ending commits =>
      obtain ⟨_, _, rfl⟩ := commit_some commits
      exact stays present
  | perform i answer op rest session reply shared found reacts =>
      rcases (reaction reacts).fleet with same | ⟨host, command, event, rfl, took⟩
      · rw [System.put_shared, same] at present
        exact stays present
      · rw [System.put_shared] at present
        revert took present
        generalize shared.fleet = after
        intro took present
        cases Hosts.Fleet.effect_cases took with
        | idle command => exact stays present
        | created spec id fresh =>
            rcases List.mem_append.mp present with old | new
            · exact stays old
            · rw [List.mem_singleton.mp new]
              exact .created i answer session rfl ⟨rest, found⟩ fresh
        | switched command id running =>
            obtain ⟨old, listed, survives⟩ := Hosts.Fleet.survives_setRunning present
            exact .survived old listed survives
        | removed id => exact stays (List.mem_of_mem_filter present)
  | change edit =>
      cases edit with
      | model model => exact stays present
      | lost id => exact stays (List.mem_of_mem_filter present)
      | switched host id running =>
          obtain ⟨old, listed, survives⟩ := Hosts.Fleet.survives_setRunning present
          exact .survived old listed survives

theorem container_settled {ok : DeploymentSystem → DeploymentLabel → Prop}
    (system : DeploymentSystem) (reached : System.Reaches ok start system) :
    ∀ container ∈ system.shared.fleet.containers, Settled system container.spec.deploymentId := by
  refine System.reaches_induction (M := deploymentMachine) (fun system =>
    ∀ container ∈ system.shared.fleet.containers, Settled system container.spec.deploymentId)
    (by rintro _ ⟨⟩) ?_ system reached
  intro system label next reached settled _ transition container present
  have sound := sound_reached system reached
  cases came transition container present with
  | survived old listed survives =>
      rw [survives.2.2]
      exact (settled old listed).step transition
  | created i answer session performed performing fresh =>
      obtain ⟨_, tracked, member, loaded, keyed, _⟩ := sound.permits performing
      have seen := sound.fresh.seen i session performing.live _ (mem_seen_deployment member loaded)
      rw [keyed] at seen
      exact seen.step transition

/-! ## A cluster to replay schedules on

One node, on which a model is served by the runtime that needs no GPUs and by
one that does. -/

abbrev anyStep (_ : DeploymentSystem) (_ : DeploymentLabel) : Prop := True

def policy : Settings where
  idText _ := "0"
  numberText _ := "0.9"
  runtimeImages := [("mock", "mock-vllm"), ("vllm", "vllm")]
  defaultRuntime := "vllm"
  network := "models"
  managedLabel := "managed"
  healthTimeoutSeconds := 60
  healthIntervalSeconds := 1
  externalEndpoint := none
  externalApiKey := none
  runtimeHealthPaths := []

def servedModel : Model where
  id := 100
  name := "small"
  status := .available
  statusDetail := none
  runtime := ""
  storagePath := "/models/small"
  endpointUrl := none
  requiredGpuMemoryMib := none
  minGpuCount := 1
  contextLength := none
  extraArgs := []

def quiet (i n : Nat) : List DeploymentLabel := List.replicate n (.perform i .nothing)

def calls (i : Nat) (event : Hosts.Event) (devices : List Device) : DeploymentLabel :=
  .perform i (.agent event none ⟨"", false, !devices.isEmpty, devices⟩)

theorem reached_below {ok : DeploymentSystem → DeploymentLabel → Prop} (n : Nat)
    (meets : DeploymentSystem → DeploymentLabel → Bool) (labels : List DeploymentLabel)
    (check : DeploymentSystem → Bool)
    (implied : ∀ system label, System.Below n system → meets system label = true → ok system label)
    (checked : (System.replay (fun system label => System.Label.below n label && meets system label)
      start labels).any check = true) :
    ∃ system, System.Reaches ok start system ∧ check system = true := by
  obtain ⟨system, reached, _, found⟩ := System.reaches_below n labels check .start
    (fun _ _ => rfl) implied checked
  exact ⟨system, reached, found⟩

theorem reached_checked (labels : List DeploymentLabel) (check : DeploymentSystem → Bool)
    (checked : (System.replay (fun _ _ => true) start labels).any check = true) :
    ∃ system, System.Reaches anyStep start system ∧ check system = true :=
  System.reaches_checked labels check .start (fun _ _ _ => trivial) checked

def registers (i : Nat) (devices : List Device) : List DeploymentLabel :=
  [.begin i ⟨policy, .registerNode "node" "agent"⟩] ++ quiet i 1 ++ [calls i .nothing []] ++
    quiet i 1 ++ [calls i .nothing [], calls i .nothing []] ++ quiet i 1 ++
      [calls i .nothing [], calls i .nothing devices] ++
        (if devices.isEmpty then []
        else quiet i (1 + 5 * devices.length) ++ [.perform i (.order [])]) ++
          [calls i .nothing [], .commit i]

def deploysMock (i : Nat) : List DeploymentLabel :=
  [.begin i ⟨policy, .deploy ⟨100, none, none, some "mock", none, none, none⟩ 9⟩] ++ quiet i 3 ++
    [.commit i]

def ticks (i : Nat) : List DeploymentLabel := [.begin i ⟨policy, .tick⟩] ++ quiet i 1

def creates (i : Nat) (containerId : String) : List DeploymentLabel :=
  quiet i 3 ++ [calls i .nothing [], calls i (.created containerId) [], calls i .took []] ++
    quiet i 5

def awaits (i : Nat) : List DeploymentLabel :=
  quiet i 1 ++ [calls i .nothing [], .perform i (.serving (.ok (true, "ok")))] ++ quiet i 2

def stops (i deploymentId : Nat) : List DeploymentLabel :=
  [.begin i ⟨policy, .stop deploymentId⟩] ++ quiet i 3 ++
    [calls i .nothing [], calls i .took [], calls i .took []] ++ quiet i 2

end AiPlatform.Deployments
