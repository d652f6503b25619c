import AiPlatform.SchedulerAnswers

/-!
The tensor-parallel size of a deployment and the GPUs that are reserved for it.
The size comes with the request, or else from the number of GPUs; the GPUs come
from the indices that the request names, or else from the model. The row keeps
both until a container is created from it.
-/

namespace AiPlatform.Deployments

section Plans

variable {idText : Nat → String} {request : PlacementRequest} {available : List GpuResource}
  {placement : Placement}

theorem planExplicit_indices {indices : List Int}
    (planned : planExplicit request indices available = .ok placement) :
    placement.gpuIndices = ascending indices := by
  unfold planExplicit at planned
  split at planned
  · cases planned
  · simp only at planned
    split at planned
    · cases planned
    · split at planned
      · cases planned
      · split at planned
        · cases planned
        · cases planned
          rfl

theorem plan_counted (planned : plan idText request available = .ok placement) :
    placement.gpuIndices.length =
      if request.explicit = [] then request.gpuCount else request.explicit.length := by
  by_cases free : request.explicit = []
  · rw [if_pos free]
    rw [plan_chosen free] at planned
    split at planned
    · cases planned
    · rename_i first rest listed
      cases planned
      have member := leastLoaded_mem (fun nodeId =>
        meanUtilization (request.usableOn available nodeId)) first rest
      rw [← listed] at member
      have enough := (candidates_fit member).2
      rw [ascending_length, PlacementRequest.taken, List.length_map, List.length_take,
        List.length_insertionSort]
      exact Nat.min_eq_left enough
  · rw [if_neg free]
    rw [plan_explicit free] at planned
    rw [planExplicit_indices planned, ascending_length]

end Plans

section Placing

variable {ok : Session → Shared → Op → Answer → Prop} {i : Nat} {state final : Session}
  {shared store : Shared} {settings : Settings} {spec : DeploymentRequestSpec} {model : Model}

theorem explicit_requestFor (node : Option Node) :
    (requestFor spec model node).explicit =
      (spec.gpuIds.filter fun indices => !indices.isEmpty).getD [] := rfl

theorem planned_count {idText : Nat → String} {node : Option Node} {available : List GpuResource}
    {placement : Placement}
    (planned : plan idText (requestFor spec model node) available = .ok placement) :
    placement.gpuIndices.length = gpuCountFor spec model := by
  rw [plan_counted planned, explicit_requestFor]
  cases named : spec.gpuIds.filter fun indices => !indices.isEmpty with
  | none => rfl
  | some indices =>
      have some : indices ≠ [] := by
        simpa using (Option.filter_eq_some_iff.mp named).2
      rw [Option.getD_some, if_neg some, gpuCountFor, named]
      rfl

theorem schedule_counted {node : Option Node} {nodeIds : List Nat} {placement : Placement}
    (plays : Plays ok i (gpuResourcesFor nodeIds >>= fun resources =>
        match plan settings.idText (requestFor spec model node) resources with
        | .error failure => raise (.app (conflictError failure.reason failure.details))
        | .ok placement => return placement) state shared (some placement) final store) :
    placement.gpuIndices.length = gpuCountFor spec model := by
  obtain ⟨resources, _, _, _, rest⟩ := plays_then plays
  split at rest
  · exact (not_raised rest).elim
  · rename_i planned
    obtain ⟨rfl, _⟩ := plays_pure rest
    exact planned_count planned

theorem place_counted {node : Option Node} {runtime : String} {placement : Placement}
    (plays : Plays ok i (place settings model spec node runtime) state shared (some placement)
      final store) :
    placement.gpuIndices = [] ∨ placement.gpuIndices.length = gpuCountFor spec model := by
  unfold place at plays
  by_cases mock : runtime = "mock"
  · rw [if_pos mock] at plays
    left
    cases node with
    | some node =>
        obtain ⟨rfl, _⟩ := plays_pure plays
        rfl
    | none =>
        obtain ⟨target, _, _, _, last⟩ := plays_then plays
        obtain ⟨rfl, _⟩ := plays_pure last
        rfl
  · rw [if_neg mock] at plays
    right
    cases node with
    | some node => exact schedule_counted plays
    | none =>
        obtain ⟨nodes, _, _, _, rest⟩ := plays_then plays
        exact schedule_counted rest

def Reserved (final : Session) (nodeId reservation : Nat) (indices : List Int) : Prop :=
  ∃ rows : List GpuAllocation,
    (∀ row ∈ rows, row ∈ inserted final.allocations ∧ row.reservationId = reservation ∧
      row.nodeId = nodeId ∧ row.active = true) ∧ rows.map (·.gpuIndex) = indices

theorem devicesOf_indices {gpus : List Gpu} {indices : List Int} {devices : List (Int × Nat)}
    (found : devicesOf gpus indices = .ok devices) : devices.map (·.1) = indices := by
  induction indices generalizing devices with
  | nil =>
      cases found
      rfl
  | cons index rest ih =>
      rw [devicesOf] at found
      split at found
      · cases found
      · split at found
        · cases found
        · rename_i others listed
          cases found
          rw [List.map_cons, ih listed]

theorem reservedRows_indices (nodeId : Nat) (devices : List (Int × Nat)) (purpose : String)
    (reservedBy : Option Nat) :
    (shared.reservedRows nodeId devices purpose reservedBy).map (·.gpuIndex) =
      devices.map (·.1) := by
  have listed : devices.zipIdx.map Prod.fst = devices := List.zipIdx_map_fst 0 devices
  conv_rhs => rw [← listed]
  rw [Shared.reservedRows, List.map_map, List.map_map]
  rfl

theorem claim_reserves {nodeId reservation : Nat} {devices : List (Int × Nat)} {purpose : String}
    {reservedBy : Option Nat} {claimed : List GpuAllocation}
    (plays : Plays ok i (claim nodeId devices purpose reservedBy) state shared
      (some (some (reservation, claimed))) final store) :
    Reserved final nodeId reservation (devices.map (·.1)) := by
  have replies : Nonempty (Reply (.claim nodeId devices purpose reservedBy)) := ⟨none⟩
  obtain ⟨answer, reply, after, _, reacts, rest⟩ :=
    (Machine.plays_perform (M := deploymentMachine) replies).mp plays
  obtain ⟨same, rfl, rfl⟩ := plays_pure rest
  subst same
  replace reacts : Shared.react i state shared (.claim nodeId devices purpose reservedBy) answer =
      some (some (reservation, claimed), store) := reacts
  simp only [Shared.react] at reacts
  split at reacts
  · split at reacts
    · cases reacts
    · cases reacts
      refine ⟨shared.reservedRows nodeId devices purpose reservedBy, ?_, reservedRows_indices ..⟩
      intro row member
      refine ⟨?_, ?_⟩
      · exact mem_inserted.mpr ⟨_, List.mem_append_right _ (List.mem_map_of_mem member), rfl, rfl⟩
      · obtain ⟨⟨device, position⟩, _, rfl⟩ := List.mem_map.mp member
        exact ⟨rfl, rfl, rfl⟩
  · cases reacts

theorem reserve_reserves {nodeId reservation : Nat} {indices : List Int} {purpose : String}
    {reservedBy : Option Nat}
    (plays : Plays ok i (reserve nodeId indices purpose reservedBy) state shared
      (some reservation) final store) : Reserved final nodeId reservation indices := by
  unfold reserve at plays
  split at plays
  · exact (not_raised plays).elim
  · split at plays
    · exact (not_raised plays).elim
    · obtain ⟨gpus, _, _, _, rest⟩ := plays_then plays
      split at rest
      · exact (not_raised rest).elim
      · rename_i devices found
        obtain ⟨claimed, _, _, claims, last⟩ := plays_then rest
        split at last
        · obtain ⟨rfl, rfl, rfl⟩ := plays_pure last
          rw [← devicesOf_indices found]
          exact claim_reserves claims
        · exact (not_raised last).elim

theorem reservePlacement_reserves {placement reserved : Placement}
    (some : placement.gpuIndices ≠ [])
    (plays : Plays ok i (reservePlacement model placement) state shared (.some reserved) final
      store) :
    reserved.nodeId = placement.nodeId ∧ reserved.gpuIndices = placement.gpuIndices ∧
      ∃ reservation, reserved.reservationId = .some reservation ∧
        Reserved final placement.nodeId reservation placement.gpuIndices := by
  unfold reservePlacement at plays
  split at plays
  · rename_i empty
    exact absurd (List.isEmpty_iff.mp empty) some
  · obtain ⟨reservation, _, _, reserves, last⟩ := plays_then plays
    obtain ⟨rfl, rfl, rfl⟩ := plays_pure last
    exact ⟨rfl, rfl, reservation, rfl, reserve_reserves reserves⟩

theorem imageFor_keeps {runtime image : String}
    (plays : Plays ok i (imageFor settings runtime) state shared (some image) final store) :
    final = state := by
  unfold imageFor at plays
  split at plays
  · exact (plays_pure plays).2.1
  · exact (not_raised plays).elim

end Placing

/-- Every container that a program creates is as `fits` says. -/
def launching (fits : ContainerSpec → Prop) : Protocol deploymentSignature Unit where
  allowed
    | _, .agent _ (.command (.create spec)) => fits spec
    | _, _ => True
  trusted _ _ _ := True
  after _ _ _ := ()

/-- The container is created with the size and the GPUs of the row. -/
def LaunchedWith (settings : Settings) (row : ModelDeployment) (spec : ContainerSpec) : Prop :=
  ∃ request, spec = containerSpec settings request ∧
    request.tensorParallelSize = row.tensorParallelSize ∧ request.gpuIndices = row.gpuIndices

section Launches

variable {fits : ContainerSpec → Prop} {settings : Settings} {row : ModelDeployment}

theorem launches_bind {α β : Type} {program : DeploymentProgram α} {rest : α → DeploymentProgram β}
    (first : (launching fits).Follows program () fun _ _ => True)
    (second : ∀ value, (launching fits).Follows (rest value) () fun _ _ => True) :
    (launching fits).Follows (program >>= rest) () fun _ _ => True :=
  (launching fits).follows_bind first fun value _ _ => second value

theorem launches_done {α : Type} (value : α) :
    (launching fits).Follows (.done value) () fun _ _ => True := trivial

theorem launches_read {query : Query} :
    (launching fits).Follows (read query) () fun _ _ => True := ⟨trivial, fun _ _ => trivial⟩

theorem launches_write {write : Write} :
    (launching fits).Follows (Deployments.write write) () fun _ _ => True :=
  ⟨trivial, fun _ _ => trivial⟩

theorem launches_nodeFor : (launching fits).Follows (nodeFor row) () fun _ _ => True := by
  unfold nodeFor
  split
  · exact launches_done _
  · exact launches_read

theorem launches_releaseEach (allocations : List GpuAllocation) :
    (launching fits).Follows (releaseEach allocations) () fun _ _ => True := by
  induction allocations with
  | nil => exact launches_done _
  | cons allocation rest ih => exact launches_bind launches_write fun _ => ih

theorem launches_fail {message : String} {logs : Option String} :
    (launching fits).Follows (fail row message logs) () fun _ _ => True := by
  apply launches_bind launches_write
  intro _
  apply launches_bind launches_write
  intro _
  apply launches_bind launches_write
  intro _
  have released : (launching fits).Follows (releaseReservation row >>= fun _ =>
      pure DeploymentState.failed) () fun _ _ => True := by
    apply launches_bind
    · unfold releaseReservation
      split
      · exact launches_done _
      · apply launches_bind
        · exact launches_bind launches_read fun allocations =>
            launches_bind (launches_releaseEach _) fun _ => launches_done _
        · exact fun _ => launches_write
    · exact fun _ => launches_done _
  split
  · exact launches_bind launches_write fun _ => released
  · exact released

theorem launches_backendFor {node : Node} :
    (launching fits).Follows (backendFor node) () fun _ _ => True := by
  refine ⟨trivial, fun reply _ => ?_⟩
  cases reply with
  | error failure => exact trivial
  | ok value => exact trivial

theorem launches_deployModel {agentUrl : String} {request : DeploymentRequest}
    (fitting : fits (containerSpec settings request)) :
    (launching fits).Follows (deployModel settings agentUrl request) () fun _ _ => True := by
  refine ⟨fitting, fun reply _ => ?_⟩
  cases reply with
  | error failure => exact trivial
  | ok containerId =>
      refine ⟨trivial, fun reply _ => ?_⟩
      cases reply with
      | error failure => exact trivial
      | ok value => exact trivial

theorem createForDeployment_launches {other : ModelDeployment}
    (size : row.tensorParallelSize = other.tensorParallelSize)
    (indices : row.gpuIndices = other.gpuIndices) :
    (launching (LaunchedWith settings other)).Follows (createForDeployment settings row) ()
      fun _ _ => True := by
  apply launches_bind launches_read
  intro model
  apply launches_bind launches_nodeFor
  intro node
  cases model with
  | none => exact launches_bind launches_fail fun _ => launches_done _
  | some model =>
      cases node with
      | none => exact launches_bind launches_fail fun _ => launches_done _
      | some node =>
          apply launches_bind launches_write
          intro _
          apply launches_bind launches_backendFor
          intro reached
          cases reached with
          | error message => exact launches_done _
          | ok version =>
              apply launches_bind (launches_deployModel ⟨_, rfl, size, indices⟩)
              intro deployed
              cases deployed with
              | error message => exact launches_done _
              | ok handle =>
                  by_cases failed : handle.state = .failed
                  · simp only [if_pos failed]
                    exact launches_bind launches_fail fun _ => launches_done _
                  · simp only [if_neg failed]
                    exact launches_bind launches_write fun _ =>
                      launches_bind launches_write fun _ =>
                        launches_bind launches_write fun _ =>
                          launches_bind launches_write fun _ =>
                            launches_bind launches_write fun _ => launches_done _

end Launches

theorem replay_size (assigned : List DeploymentAssignment) (row : ModelDeployment) :
    (Tracked.replay (T := deploymentTable) assigned row).tensorParallelSize =
        row.tensorParallelSize ∧
      (Tracked.replay (T := deploymentTable) assigned row).gpuIndices = row.gpuIndices :=
  Tracked.replay_keeps (T := deploymentTable)
    (fun other => other.tensorParallelSize = row.tensorParallelSize ∧
      other.gpuIndices = row.gpuIndices) assigned row ⟨rfl, rfl⟩ fun assignment _ other same => by
    cases assignment <;> exact same

def SizeFits (spec : DeploymentRequestSpec) (model : Model) : Prop :=
  ∀ size, spec.tensorParallelSize = some size → size ≤ gpuCountFor spec model

theorem size_le_iff {spec : DeploymentRequestSpec} {model : Model} :
    orElseNat spec.tensorParallelSize (gpuCountFor spec model) ≤ gpuCountFor spec model ↔
      SizeFits spec model := by
  unfold SizeFits orElseNat
  cases spec.tensorParallelSize with
  | none => simp
  | some size =>
      by_cases zero : size = 0
      · simp [Option.filter, zero]
      · simp [Option.filter, zero]

/-- Where a request for GPUs is accepted, they are reserved for its deployment, each
container that is created from the row gets the recorded size and these GPUs, and the
size is at most their number if and only if the request asks for no more. -/
theorem tensor_parallel_fits_iff (ok : Session → Shared → Op → Answer → Prop) (settings : Settings)
    (spec : DeploymentRequestSpec) (actor : Nat) (model : Model) (shared : Shared)
    (found : shared.models.find? (fun model => model.id = spec.modelId) = some model)
    (managed : externalRuntimes.contains (runtimeFor settings spec model) = false) (i id : Nat)
    (final : Session) (store : Shared)
    (plays : Plays ok i (requestDeployment settings spec actor)
      (.opened ⟨settings, .deploy spec actor⟩) shared (some id) final store) :
    ∃ deployment ∈ inserted final.deployments, deployment.id = id ∧
      (deployment.gpuIndices ≠ [] →
        (∃ nodeId reservation, deployment.nodeId = some nodeId ∧
          deployment.reservationId = some reservation ∧
          Reserved final nodeId reservation deployment.gpuIndices) ∧
        (∀ assigned, (launching (LaunchedWith settings deployment)).Follows
          (createForDeployment settings
            (Tracked.replay (T := deploymentTable) assigned deployment)) () fun _ _ => True) ∧
        (deployment.tensorParallelSize ≤ deployment.gpuIndices.length ↔ SizeFits spec model)) := by
  obtain ⟨row, _, _, reads, body⟩ := plays_then plays
  obtain ⟨same, rfl, rfl⟩ := read_plays reads
  have row' : row = some model := same.trans found
  subst row'
  unfold runtimeFor at managed
  simp only [managed, Bool.false_eq_true, if_false] at body
  obtain ⟨_, _, _, validates, picking⟩ := plays_then body
  obtain ⟨node, _, _, picks, placing⟩ := plays_then picking
  obtain ⟨placement, _, _, places, reserving⟩ := plays_then placing
  obtain ⟨reserved, _, _, reserves, imaging⟩ := plays_then reserving
  obtain ⟨image, _, _, images, inserting⟩ := plays_then imaging
  have kept := imageFor_keeps images
  rw [insert_plays inserting]
  refine ⟨_, mem_inserted.mpr ⟨_, List.mem_append_right _ (.head _), rfl, rfl⟩, rfl, ?_⟩
  intro uses
  have some : placement.gpuIndices ≠ [] := by
    intro none'
    unfold reservePlacement at reserves
    rw [if_pos (List.isEmpty_iff.mpr none')] at reserves
    obtain ⟨rfl, _⟩ := plays_pure reserves
    exact uses none'
  obtain ⟨owner, indices, reservation, recorded, allocated⟩ :=
    reservePlacement_reserves some reserves
  have counted := (place_counted places).resolve_left some
  refine ⟨⟨reserved.nodeId, reservation, rfl, recorded, ?_⟩, fun assigned => ?_, ?_⟩
  · rw [kept]
    change Reserved _ reserved.nodeId reservation reserved.gpuIndices
    rw [owner, indices]
    exact allocated
  · obtain ⟨size, gpus⟩ := replay_size assigned _
    exact createForDeployment_launches size gpus
  · change orElseNat spec.tensorParallelSize
        (if reserved.gpuIndices.isEmpty then 1 else reserved.gpuIndices.length) ≤
      reserved.gpuIndices.length ↔ _
    rw [indices, if_neg (by simpa using some), counted]
    exact size_le_iff

theorem small_requests_are_served :
    ∃ id final store,
      Plays (Sampled []) 0 (requestDeployment twoRuntimes (askFor none "vllm") 7)
        (.opened ⟨twoRuntimes, .deploy (askFor none "vllm") 7⟩) (fleetOf .online false) (some id)
        final store ∧
      ∃ deployment ∈ inserted final.deployments,
        deployment.tensorParallelSize ≤ deployment.gpuIndices.length := by
  obtain ⟨id, final, store, plays, placed⟩ :=
    @accepted_plays (askFor none "vllm") (fleetOf .online false) 1 [0] (by decide +kernel)
  obtain ⟨deployment, added, _, served⟩ :=
    tensor_parallel_fits_iff (Sampled []) twoRuntimes (askFor none "vllm") 7 qwen
      (fleetOf .online false) rfl (by decide) 0 id final store plays
  have uses : deployment.gpuIndices = [0] := by
    have member : (deployment.nodeId, deployment.gpuIndices) ∈ placesOf final :=
      List.mem_map_of_mem added
    rw [placed, List.mem_singleton] at member
    exact congrArg Prod.snd member
  have some : deployment.gpuIndices ≠ [] := by simp [uses]
  have modest : SizeFits (askFor none "vllm") qwen := by simp [SizeFits, askFor]
  exact ⟨id, final, store, plays, deployment, added, (served some).2.2.mpr modest⟩

def fourWay : DeploymentRequestSpec := { askFor none "vllm" with tensorParallelSize := some 4 }

/-- The row has one GPU and a size of four. -/
theorem oversized_requests_are_accepted :
    ∃ id final store,
      Plays (Sampled []) 0 (requestDeployment twoRuntimes fourWay 7)
        (.opened ⟨twoRuntimes, .deploy fourWay 7⟩) (fleetOf .online false) (some id) final store ∧
      ∃ deployment ∈ inserted final.deployments,
        deployment.gpuIndices = [0] ∧ deployment.tensorParallelSize = 4 ∧
          ¬ deployment.tensorParallelSize ≤ deployment.gpuIndices.length := by
  have rows : (accepted fourWay (fleetOf .online false)).map (fun run =>
      (inserted run.2.1.deployments).map fun deployment =>
        (deployment.gpuIndices, deployment.tensorParallelSize)) = some [([0], 4)] := by
    decide +kernel
  obtain ⟨⟨id, final, store⟩, ends, listed⟩ := Option.map_eq_some_iff.mp rows
  refine ⟨id, final, store, ?_, ?_⟩
  · apply Machine.plays_solo (M := deploymentMachine) ?_ ends
    intro session shared op
    cases op <;> trivial
  · have member : ([0], 4) ∈ (inserted final.deployments).map fun deployment =>
        (deployment.gpuIndices, deployment.tensorParallelSize) := by
      simp [listed]
    obtain ⟨deployment, added, shape⟩ := List.mem_map.mp member
    obtain ⟨indices, size⟩ := Prod.mk.inj shape
    exact ⟨deployment, added, indices, size, by simp [indices, size]⟩

end AiPlatform.Deployments
