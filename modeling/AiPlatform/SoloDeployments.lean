import AiPlatform.DeploymentSystem
import AiPlatform.SoloRuns

/-!
A deployment request on its own. What it reads are the rows as they are stored,
as long as its session has only loaded instances.
-/

namespace AiPlatform.Deployments

section Runs

variable {ok : Session → Shared → Op → Answer → Prop} {i : Nat} {α : Type} {state final : Session}
  {shared store : Shared} {result : Option α}

/-- One request on its own. -/
abbrev Plays (ok : Session → Shared → Op → Answer → Prop) (i : Nat) (program : DeploymentProgram α)
    (state : Session) (shared : Shared) (result : Option α) (final : Session) (store : Shared) :
    Prop :=
  Machine.Plays deploymentMachine ok i program state shared result final store

structure Quiet (ok : Session → Shared → Op → Answer → Prop) : Prop where
  read : ∀ state shared query, ok state shared (.read query) .nothing
  write : ∀ state shared write, ok state shared (.write write) .nothing
  insert : ∀ state shared draft, ok state shared (.insert draft) .nothing

theorem plays_read (quiet : Quiet ok) {query : Query} {next : Rows query → DeploymentProgram α} :
    Plays ok i (read query >>= next) state shared result final store ↔
      Plays ok i (next (shared.rows state query)) (state.loaded query (shared.rows state query))
        shared result final store :=
  Machine.plays_determined Answer.nothing (quiet.read state shared query) fun _ => rfl

theorem plays_assign (quiet : Quiet ok) {id : Nat} {assignment : GpuAssignment}
    {next : Unit → DeploymentProgram α} :
    Plays ok i (assignGpu id assignment >>= next) state shared result final store ↔
      Plays ok i (next ()) (state.written (.assignGpu id assignment)) shared result final store :=
  Machine.plays_determined Answer.nothing (quiet.write state shared _) fun _ => rfl

theorem plays_insert (quiet : Quiet ok) {draft : Draft} {next : Nat → DeploymentProgram α} :
    Plays ok i (insert draft >>= next) state shared result final store ↔
      Plays ok i (next shared.nextId) (state.drafted shared.nextId draft)
        { shared with nextId := shared.nextId + 1 } result final store :=
  Machine.plays_determined Answer.nothing (quiet.insert state shared draft) fun _ => rfl

theorem plays_raise {α : Type} {ok : Session → Shared → Op → Answer → Prop} {failure : Failure}
    {result : Option α} :
    Plays ok i (raise failure : DeploymentProgram α) state shared result final store ↔
      result = none ∧ final = state ∧ store = shared :=
  Machine.plays_silent (M := deploymentMachine) fun reply : Empty => nomatch reply

theorem plays_then {β : Type} {program : DeploymentProgram β} {rest : β → DeploymentProgram α}
    {value : α} (plays : Plays ok i (program >>= rest) state shared (some value) final store) :
    ∃ middle between after, Plays ok i program state shared (some middle) between after ∧
      Plays ok i (rest middle) between after (some value) final store := by
  rcases Machine.plays_bind.mp plays with parts | ⟨ended, _⟩
  · exact parts
  · cases ended

theorem plays_pure {value other : α}
    (plays : Plays ok i (pure value : DeploymentProgram α) state shared (some other) final store) :
    other = value ∧ final = state ∧ store = shared := by
  obtain ⟨same, rest⟩ := Machine.plays_done.mp plays
  exact ⟨Option.some.inj same, rest⟩

theorem read_plays {query : Query} {rows : Rows query}
    (plays : Plays ok i (read query) state shared (some rows) final store) :
    rows = shared.rows state query ∧ final = state.loaded query rows ∧ store = shared := by
  have replies : Nonempty (Reply (.read query)) := ⟨rows⟩
  obtain ⟨answer, reply, after, _, reacts, rest⟩ :=
    (Machine.plays_perform (M := deploymentMachine) replies).mp plays
  cases reacts
  obtain ⟨same, rfl, rfl⟩ := plays_pure rest
  exact ⟨same, by rw [same]; rfl, rfl⟩

theorem insert_plays {draft : Draft} {id : Nat}
    (plays : Plays ok i (insert draft) state shared (some id) final store) :
    final = state.drafted id draft := by
  have replies : Nonempty (Reply (.insert draft)) := ⟨id⟩
  obtain ⟨answer, reply, after, _, reacts, rest⟩ :=
    (Machine.plays_perform (M := deploymentMachine) replies).mp plays
  obtain ⟨same, rfl, rfl⟩ := plays_pure rest
  rw [same]
  rfl

theorem not_raised {failure : Failure} {value : α}
    (plays : Plays ok i (raise failure : DeploymentProgram α) state shared (some value) final store) :
    False := by
  cases (plays_raise.mp plays).1

end Runs

variable {nodeId : Nat} {stored : List Gpu}

/-- `list_for_node` -/
def rowsOn (nodeId : Nat) (gpus : List Gpu) : List Gpu :=
  (gpus.filter fun gpu => gpu.nodeId = nodeId).insertionSort fun left right =>
    left.index ≤ right.index

theorem mem_rowsOn {gpu : Gpu} : gpu ∈ rowsOn nodeId stored ↔ gpu ∈ stored ∧ gpu.nodeId = nodeId := by
  rw [rowsOn, List.mem_insertionSort, List.mem_filter, decide_eq_true_iff]

theorem rowsOn_distinct (distinct : (stored.map Gpu.id).Nodup) :
    ((rowsOn nodeId stored).map Gpu.id).Nodup :=
  ((List.perm_insertionSort _ _).map Gpu.id).nodup_iff.mpr
    (distinct.sublist (List.filter_sublist.map _))

theorem rows_gpusOf {state : Session} {shared : Shared} (fresh : state.gpus = []) :
    shared.rows state (.gpusOf nodeId) = rowsOn nodeId shared.gpus := by
  have seen : shared.gpusSeen state = shared.gpus := by
    unfold Shared.gpusSeen
    rw [fresh]
    exact Tracked.store_clean (T := gpuTable) _ fun _ member => (nomatch member)
  have same : instanceOf state.gpus = id := by
    rw [fresh]
    rfl
  change (((shared.gpusSeen state).filter fun gpu => gpu.nodeId = nodeId).insertionSort
    fun left right => left.index ≤ right.index).map (instanceOf state.gpus) = _
  rw [seen, same, List.map_id]
  rfl

theorem gpus_read {state : Session} {shared : Shared} (clean : AiPlatform.Clean state.gpus shared.gpus)
    (distinct : (shared.gpus.map Gpu.id).Nodup) :
    shared.rows state (.gpusOf nodeId) = rowsOn nodeId shared.gpus := by
  have seen : shared.gpusSeen state = shared.gpus := clean.store shared.gpus
  change (((shared.gpusSeen state).filter fun gpu => gpu.nodeId = nodeId).insertionSort
    fun left right => left.index ≤ right.index).map (instanceOf state.gpus) = _
  rw [seen]
  exact clean.instances distinct fun gpu listed => (mem_rowsOn.mp listed).1

/-- `active_for_node` -/
def activeOn (nodeId : Nat) (allocations : List GpuAllocation) : List GpuAllocation :=
  allocations.filter fun allocation => allocation.nodeId = nodeId && allocation.active

theorem allocations_read {state : Session} {shared : Shared}
    (clean : AiPlatform.Clean state.allocations shared.allocations)
    (distinct : (shared.allocations.map GpuAllocation.id).Nodup) :
    shared.rows state (.activeOn nodeId) = activeOn nodeId shared.allocations := by
  change ((shared.allocations ++ inserted state.allocations).filter fun allocation =>
    allocation.nodeId = nodeId && allocation.active).map (instanceOf state.allocations) = _
  rw [clean.inserted, List.append_nil]
  exact clean.instances distinct fun row listed => (List.mem_filter.mp listed).1

end AiPlatform.Deployments
