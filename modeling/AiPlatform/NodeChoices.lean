import AiPlatform.SoloDeployments
import Mathlib.Algebra.Order.Ring.Unbundled.Rat
import Mathlib.Data.List.Induction

/-!
The node that a deployment is placed on. A request that names a node, the GPU
scheduler and the runtime without GPUs each look at the fleet in their own way:
the first ignores whether the node is disabled, the second whether it is online,
the third again whether it is disabled, and none the runtime for containers.
-/

namespace AiPlatform.Deployments

open Agents (truthy)

section Choices

variable {Item : Type} {good : Item → Prop}

def Preceded (good : Item → Prop) (items : List Item) : Prop :=
  ∀ before bad after, items = before ++ bad :: after → ¬ good bad → ∃ other ∈ before, good other

theorem preceded_head {first : Item} {rest : List Item} :
    Preceded good (first :: rest) ↔ good first := by
  constructor
  · intro preceded
    by_contra bad
    obtain ⟨_, member, _⟩ := preceded [] first rest rfl bad
    cases member
  · intro holds before bad after split miss
    cases before with
    | nil =>
        obtain ⟨rfl, _⟩ := List.cons.inj split
        exact absurd holds miss
    | cons head tail =>
        obtain ⟨rfl, _⟩ := List.cons.inj split
        exact ⟨first, List.mem_cons_self, holds⟩

theorem preceded_find {items : List Item} {keep : Item → Bool} {first : Item}
    (found : items.find? keep = some first) : Preceded good (items.filter keep) ↔ good first := by
  rw [← List.head?_filter] at found
  cases kept : items.filter keep with
  | nil =>
      rw [kept] at found
      cases found
  | cons head rest =>
      rw [kept] at found
      cases found
      exact preceded_head

/-- Every item that is not good has a good one with less load, or with as much and
before it. -/
def Outdone (load : Item → Rat) (good : Item → Prop) (items : List Item) : Prop :=
  ∀ before bad after, items = before ++ bad :: after → ¬ good bad →
    (∃ other ∈ before, good other ∧ load other ≤ load bad) ∨
      ∃ other ∈ after, good other ∧ load other < load bad

theorem leastLoaded_split (load : Nat → Rat) (first : Nat) (rest : List Nat) :
    ∃ before after, first :: rest = before ++ leastLoaded load first rest :: after ∧
      (∀ other ∈ before, load (leastLoaded load first rest) < load other) ∧
      ∀ other ∈ after, load (leastLoaded load first rest) ≤ load other := by
  induction rest using List.reverseRecOn with
  | nil => exact ⟨[], [], rfl, List.forall_mem_nil _, List.forall_mem_nil _⟩
  | append_singleton rest next ih =>
      obtain ⟨before, after, split, less, least⟩ := ih
      have step : leastLoaded load first (rest ++ [next]) =
          if load next < load (leastLoaded load first rest) then next
          else leastLoaded load first rest := by
        rw [leastLoaded, List.foldl_append]
        rfl
      rw [step]
      by_cases better : load next < load (leastLoaded load first rest)
      · rw [if_pos better]
        refine ⟨first :: rest, [], rfl, ?_, List.forall_mem_nil _⟩
        intro other member
        rw [split] at member
        rcases List.mem_append.mp member with earlier | later
        · exact better.trans (less other earlier)
        · rcases List.mem_cons.mp later with rfl | later
          · exact better
          · exact better.trans_le (least other later)
      · rw [if_neg better]
        refine ⟨before, after ++ [next], ?_, less, ?_⟩
        · rw [← List.cons_append, split, List.append_assoc, List.cons_append]
        · intro other member
          rcases List.mem_append.mp member with later | own
          · exact least other later
          · rw [List.mem_singleton.mp own]
            exact le_of_not_gt better

theorem leastLoaded_good {load : Nat → Rat} {good : Nat → Prop} {first : Nat} {rest : List Nat} :
    good (leastLoaded load first rest) ↔ Outdone load good (first :: rest) := by
  obtain ⟨before, after, split, less, least⟩ := leastLoaded_split load first rest
  constructor
  · intro holds start bad last split' miss
    rw [split] at split'
    rcases List.append_eq_append_iff.mp split' with ⟨middle, rfl, tails⟩ | ⟨middle, rfl, tails⟩
    · cases middle with
      | nil =>
          obtain ⟨same, _⟩ := List.cons.inj tails
          exact absurd (same ▸ holds) miss
      | cons head middle =>
          obtain ⟨rfl, rest⟩ := List.cons.inj tails
          refine .inl ⟨_, List.mem_append_right _ List.mem_cons_self, holds, least bad ?_⟩
          rw [rest]
          exact List.mem_append_right _ List.mem_cons_self
    · cases middle with
      | nil =>
          obtain ⟨same, _⟩ := List.cons.inj tails
          exact absurd (same.symm ▸ holds) miss
      | cons head middle =>
          obtain ⟨rfl, rfl⟩ := List.cons.inj tails
          exact .inr ⟨_, List.mem_append_right _ List.mem_cons_self, holds,
            less bad (List.mem_append_right _ List.mem_cons_self)⟩
  · intro outdone
    by_contra bad
    rcases outdone before _ after split bad with
      ⟨other, earlier, _, bound⟩ | ⟨other, later, _, bound⟩
    · exact absurd (less other earlier) (not_lt.mpr bound)
    · exact absurd bound (not_lt.mpr (least other later))

theorem leastLoaded_mem (load : Nat → Rat) (first : Nat) (rest : List Nat) :
    leastLoaded load first rest ∈ first :: rest := by
  obtain ⟨before, after, split, _⟩ := leastLoaded_split load first rest
  rw [split]
  exact List.mem_append_right _ List.mem_cons_self

theorem leastLoaded_congr {load load' : Nat → Rat} {first : Nat} {rest : List Nat}
    (same : ∀ nodeId ∈ first :: rest, load nodeId = load' nodeId) :
    leastLoaded load first rest = leastLoaded load' first rest := by
  induction rest generalizing first with
  | nil => rfl
  | cons next rest ih =>
      have head := same first List.mem_cons_self
      have second := same next (List.mem_cons_of_mem _ List.mem_cons_self)
      have tail : ∀ nodeId ∈ rest, load nodeId = load' nodeId := fun nodeId member =>
        same nodeId (List.mem_cons_of_mem _ (List.mem_cons_of_mem _ member))
      change leastLoaded load (if load next < load first then next else first) rest =
        leastLoaded load' (if load' next < load' first then next else first) rest
      rw [head, second]
      apply ih
      intro nodeId member
      rcases List.mem_cons.mp member with rfl | later
      · split
        · exact second
        · exact head
      · exact tail nodeId later

end Choices

def resourcesOn (shared : Shared) (samples : List Sample) (nodeId : Nat) : List GpuResource :=
  (rowsOn nodeId shared.gpus).map fun gpu =>
    let sample := samples.find? fun sample => sample.gpuId = gpu.id
    { nodeId := nodeId
      index := gpu.index
      uuid := gpu.uuid
      memoryTotalMib := gpu.memoryTotalMib
      memoryUsedMib := (sample.map (·.memoryUsedMib)).getD 0
      utilizationPercent := (sample.map (·.utilizationPercent)).getD 0
      reserved := (activeOn nodeId shared.allocations).any fun allocation =>
        allocation.gpuIndex = gpu.index : GpuResource }

def eligibleOn (shared : Shared) (samples : List Sample) (required : Nat) (nodeId : Nat) :
    List GpuResource :=
  (resourcesOn shared samples nodeId).filter fun gpu =>
    !gpu.reserved && required ≤ gpu.memoryFreeMib

/-- The nodes among `nodeIds` with as many such GPUs as asked for. -/
def candidates (shared : Shared) (samples : List Sample) (count required : Nat)
    (nodeIds : List Nat) : List Nat :=
  nodeIds.filter fun nodeId =>
    !(eligibleOn shared samples required nodeId).isEmpty &&
      count ≤ (eligibleOn shared samples required nodeId).length

section Plans

variable {resources : Nat → List GpuResource} {nodeIds : List Nat}

theorem filter_nodes (own : ∀ nodeId, ∀ gpu ∈ resources nodeId, gpu.nodeId = nodeId)
    (distinct : nodeIds.Nodup) {nodeId : Nat} (listed : nodeId ∈ nodeIds) :
    (nodeIds.flatMap resources).filter (fun gpu => gpu.nodeId = nodeId) = resources nodeId := by
  have others : ∀ ids : List Nat, nodeId ∉ ids →
      (ids.flatMap resources).filter (fun gpu => gpu.nodeId = nodeId) = [] := by
    intro ids absent
    rw [List.filter_eq_nil_iff]
    intro gpu member same
    obtain ⟨other, there, within⟩ := List.mem_flatMap.mp member
    have node : gpu.nodeId = nodeId := by simpa using same
    exact absent ((own other gpu within).symm.trans node ▸ there)
  induction nodeIds with
  | nil => cases listed
  | cons first rest ih =>
      obtain ⟨new, distinct⟩ := List.nodup_cons.mp distinct
      rw [List.flatMap_cons, List.filter_append]
      by_cases same : first = nodeId
      · subst same
        rw [others rest new, List.append_nil, List.filter_eq_self.mpr]
        exact fun gpu member => decide_eq_true (own first gpu member)
      · have none : (resources first).filter (fun gpu => gpu.nodeId = nodeId) = [] := by
          rw [List.filter_eq_nil_iff]
          intro gpu member there
          exact same ((own first gpu member).symm.trans (by simpa using there))
        rw [none, List.nil_append]
        exact ih distinct (List.mem_of_ne_of_mem (Ne.symm same) listed)

-- The dictionary of the scheduler has its keys in the order of the nodes.
theorem eraseDups_nodes (own : ∀ nodeId, ∀ gpu ∈ resources nodeId, gpu.nodeId = nodeId)
    (distinct : nodeIds.Nodup) :
    ((nodeIds.flatMap resources).map (·.nodeId)).eraseDups =
      nodeIds.filter fun nodeId => !(resources nodeId).isEmpty := by
  induction nodeIds with
  | nil => rfl
  | cons first rest ih =>
      obtain ⟨new, distinct⟩ := List.nodup_cons.mp distinct
      rw [List.flatMap_cons, List.map_append]
      cases head : resources first with
      | nil => simpa [head] using ih distinct
      | cons gpu others =>
          have here : gpu.nodeId = first := own first gpu (head ▸ List.mem_cons_self)
          have same : others.filter (fun other => !other.nodeId == first) = [] := by
            rw [List.filter_eq_nil_iff]
            intro other member
            simp [own first other (head ▸ List.mem_cons_of_mem _ member)]
          have apart : ((rest.flatMap resources).map (·.nodeId)).filter (fun id => !id == first) =
              (rest.flatMap resources).map (·.nodeId) := by
            rw [List.filter_eq_self]
            intro id member
            obtain ⟨other, within, rfl⟩ := List.mem_map.mp member
            obtain ⟨node, there, within⟩ := List.mem_flatMap.mp within
            have unlike : other.nodeId ≠ first := fun clash =>
              new ((own node other within).symm.trans clash ▸ there)
            simpa using unlike
          rw [List.map_cons, List.cons_append, List.eraseDups_cons, here, List.filter_append, apart,
            List.filter_map, List.filter_cons]
          simp only [Function.comp_def, same, List.map_nil, List.nil_append, ih distinct, head,
            List.isEmpty_cons, Bool.not_false, if_true]

end Plans

section Scheduling

variable {shared : Shared} {samples : List Sample} {nodeIds : List Nat} {idText : Nat → String}
  {request : PlacementRequest} {placement : Placement}

theorem resourcesOn_node {required : Nat} (nodeId : Nat) :
    ∀ gpu ∈ eligibleOn shared samples required nodeId, gpu.nodeId = nodeId := by
  intro gpu member
  obtain ⟨row, _, rfl⟩ := List.mem_map.mp (List.mem_filter.mp member).1
  rfl

@[simp] theorem ascending_length (indices : List Int) :
    (ascending indices).length = indices.length := List.length_insertionSort _ _

def loadOn (shared : Shared) (samples : List Sample) (required nodeId : Nat) : Rat :=
  meanUtilization (eligibleOn shared samples required nodeId)

theorem plan_least (distinct : nodeIds.Nodup) (free : request.gpuIndices = none)
    (planned : plan idText request (nodeIds.flatMap (resourcesOn shared samples)) =
      .ok placement) :
    ∃ first rest,
      (candidates shared samples request.gpuCount request.requiredMemoryMibPerGpu nodeIds).filter
          (fun nodeId => request.nodeId.all (· = nodeId)) = first :: rest ∧
        placement.nodeId =
          leastLoaded (loadOn shared samples request.requiredMemoryMibPerGpu) first rest ∧
        (placement.gpuIndices ≠ [] ↔ 0 < request.gpuCount) := by
  have eligible : (nodeIds.flatMap (resourcesOn shared samples)).filter (fun gpu =>
      !gpu.reserved && request.requiredMemoryMibPerGpu ≤ gpu.memoryFreeMib) =
        nodeIds.flatMap (eligibleOn shared samples request.requiredMemoryMibPerGpu) := List.filter_flatMap
  have own : ∀ nodeId ∈ nodeIds, (nodeIds.flatMap (eligibleOn shared samples request.requiredMemoryMibPerGpu)).filter
      (fun gpu => gpu.nodeId = nodeId) = eligibleOn shared samples request.requiredMemoryMibPerGpu nodeId :=
    fun nodeId listed => filter_nodes resourcesOn_node distinct listed
  have nodes : (((nodeIds.flatMap (eligibleOn shared samples
      request.requiredMemoryMibPerGpu)).map (·.nodeId)).eraseDups.filter
      fun nodeId => request.nodeId.all (· = nodeId)).filter (fun nodeId => request.gpuCount ≤
        ((nodeIds.flatMap (eligibleOn shared samples request.requiredMemoryMibPerGpu)).filter
          fun gpu => gpu.nodeId = nodeId).length) =
      (candidates shared samples request.gpuCount request.requiredMemoryMibPerGpu nodeIds).filter
        fun nodeId => request.nodeId.all (· = nodeId) := by
    rw [eraseDups_nodes resourcesOn_node distinct, candidates, List.filter_filter,
      List.filter_filter, List.filter_filter]
    apply List.filter_congr
    intro nodeId listed
    rw [own nodeId listed]
    cases (eligibleOn shared samples request.requiredMemoryMibPerGpu nodeId).isEmpty <;>
      cases request.nodeId.all (· = nodeId) <;> simp
  unfold plan at planned
  rw [free] at planned
  simp only [eligible, nodes] at planned
  cases chosen : (candidates shared samples request.gpuCount request.requiredMemoryMibPerGpu
      nodeIds).filter fun nodeId => request.nodeId.all (· = nodeId) with
  | nil =>
      rw [chosen] at planned
      cases planned
  | cons first rest =>
      rw [chosen] at planned
      have known : ∀ nodeId ∈ first :: rest, nodeId ∈ nodeIds ∧
          0 < (eligibleOn shared samples request.requiredMemoryMibPerGpu nodeId).length := by
        intro nodeId member
        rw [← chosen] at member
        have listed := List.mem_filter.mp (List.mem_filter.mp member).1
        have some : (eligibleOn shared samples request.requiredMemoryMibPerGpu nodeId).isEmpty =
            false := by simpa using (Bool.and_eq_true_iff.mp listed.2).1
        exact ⟨listed.1, List.length_pos_iff.mpr (by simpa using some)⟩
      have loads : leastLoaded (fun nodeId => meanUtilization
          ((nodeIds.flatMap (eligibleOn shared samples request.requiredMemoryMibPerGpu)).filter
            fun gpu => gpu.nodeId = nodeId)) first rest =
          leastLoaded (loadOn shared samples request.requiredMemoryMibPerGpu) first rest :=
        leastLoaded_congr fun nodeId member => by rw [loadOn, own nodeId (known nodeId member).1]
      obtain ⟨listed, some⟩ := known _ (leastLoaded_mem
        (loadOn shared samples request.requiredMemoryMibPerGpu) first rest)
      simp only [loads, own _ listed] at planned
      cases planned
      refine ⟨first, rest, rfl, rfl, ?_⟩
      simp only [ne_eq, ← List.length_eq_zero_iff, ascending_length, List.length_map,
        List.length_take, List.length_insertionSort]
      omega

theorem plan_named {available : List GpuResource} {index : Int} {rest : List Int}
    (named : request.gpuIndices = some (index :: rest))
    (planned : plan idText request available = .ok placement) :
    request.nodeId = some placement.nodeId ∧ placement.gpuIndices ≠ [] := by
  unfold plan at planned
  rw [named] at planned
  simp only [planExplicit] at planned
  cases node : request.nodeId with
  | none =>
      rw [node] at planned
      cases planned
  | some nodeId =>
      rw [node] at planned
      simp only at planned
      split at planned
      · cases planned
      · split at planned
        · cases planned
        · split at planned
          · cases planned
          · cases planned
            exact ⟨rfl, by simp [← List.length_eq_zero_iff]⟩

end Scheduling

def Sampled (samples : List Sample) (_ : Session) (_ : Shared) : Op → Answer → Prop
  | .telemetry _, answer => answer = .samples samples
  | _, _ => True

structure Unchanged (state : Session) (shared : Shared) : Prop where
  gpus : AiPlatform.Clean state.gpus shared.gpus
  allocations : AiPlatform.Clean state.allocations shared.allocations

structure Identified (shared : Shared) : Prop where
  nodes : (shared.nodes.map Node.id).Nodup
  gpus : (shared.gpus.map Gpu.id).Nodup
  allocations : (shared.allocations.map GpuAllocation.id).Nodup

def runtimeFor (settings : Settings) (spec : DeploymentRequestSpec) (model : Model) : String :=
  (spec.runtime.filter truthy).getD
    (if truthy model.runtime then model.runtime else settings.defaultRuntime)

def gpuCountFor (spec : DeploymentRequestSpec) (model : Model) : Nat :=
  ((spec.gpuIds.filter fun indices => !indices.isEmpty).map List.length).getD model.minGpuCount

def pollableIds (shared : Shared) : List Nat :=
  (shared.nodes.filter fun node => !node.disabled).map (·.id)

/-- The node is ONLINE and not disabled, and GPUs are only used where containers
can have them. -/
def Serves (shared : Shared) (nvidiaRuntime : Nat → Bool) (usesGpus : Prop) (nodeId : Nat) : Prop :=
  ∃ node ∈ shared.nodes, node.id = nodeId ∧ node.status = .online ∧ node.disabled = false ∧
    (usesGpus → nvidiaRuntime nodeId = true)

/-- Nothing in the fleet is there to mislead the request. A node that it names is
not disabled and has the container runtime if it uses GPUs. Otherwise a candidate
that is not to be chosen is behind one that is: for the runtime without GPUs by its
name, for the scheduler by its load. -/
def Unmisled (shared : Shared) (samples : List Sample) (nvidiaRuntime : Nat → Bool)
    (settings : Settings) (spec : DeploymentRequestSpec) (model : Model) : Prop :=
  let usesGpus := runtimeFor settings spec model ≠ "mock" ∧ 0 < gpuCountFor spec model
  match spec.nodeId with
  | some nodeId => ∀ node ∈ shared.nodes, node.id = nodeId →
      node.disabled = false ∧ (usesGpus → nvidiaRuntime nodeId = true)
  | none =>
      if runtimeFor settings spec model = "mock" then
        Preceded (fun node => node.disabled = false)
          ((shared.nodesByName 100).filter fun node => node.status = .online)
      else
        Outdone (loadOn shared samples (model.requiredGpuMemoryMib.getD 0))
          (Serves shared nvidiaRuntime usesGpus)
          (candidates shared samples (gpuCountFor spec model)
            (model.requiredGpuMemoryMib.getD 0) (pollableIds shared))

def Chosen (rule : Nat → Prop) (nodeId : Nat) : Option Node → Prop
  | some node => nodeId = node.id
  | none => rule nodeId

def FirstOnline (shared : Shared) (nodeId : Nat) : Prop :=
  ∃ first, (shared.nodesByName 100).find? (fun node => node.status = .online) = some first ∧
    nodeId = first.id

def LeastLoaded (shared : Shared) (samples : List Sample) (spec : DeploymentRequestSpec)
    (model : Model) (nodeIds : List Nat) (nodeId : Nat) : Prop :=
  ∃ first rest,
    candidates shared samples (gpuCountFor spec model) (model.requiredGpuMemoryMib.getD 0) nodeIds =
      first :: rest ∧
    nodeId = leastLoaded (loadOn shared samples (model.requiredGpuMemoryMib.getD 0)) first rest

section Accepted

variable {samples : List Sample} {i : Nat} {state final : Session} {shared store : Shared}
  {settings : Settings} {spec : DeploymentRequestSpec} {model : Model}

theorem gpusOf_plays (unchanged : Unchanged state shared) (identified : Identified shared)
    {nodeId : Nat} {rows : List Gpu}
    (plays : Plays (Sampled samples) i (gpusOf nodeId) state shared (some rows) final store) :
    rows = rowsOn nodeId shared.gpus ∧ store = shared ∧ Unchanged final shared := by
  obtain ⟨same, rfl, rfl⟩ := read_plays plays
  rw [gpus_read unchanged.gpus identified.gpus] at same
  refine ⟨same, rfl, unchanged.gpus.loading fun gpu listed => ?_, unchanged.allocations⟩
  rw [same] at listed
  exact (mem_rowsOn.mp listed).1

theorem freeIndices_plays (unchanged : Unchanged state shared) (identified : Identified shared)
    {nodeId : Nat} {free : List Int}
    (plays : Plays (Sampled samples) i (freeIndices nodeId) state shared (some free) final store) :
    (∀ gpu ∈ rowsOn nodeId shared.gpus, (!free.contains gpu.index) =
      (activeOn nodeId shared.allocations).any fun allocation => allocation.gpuIndex = gpu.index) ∧
      store = shared ∧ Unchanged final shared := by
  obtain ⟨claimed, between, after, claims, rest⟩ := plays_then plays
  obtain ⟨same, rfl, rfl⟩ := read_plays claims
  rw [allocations_read unchanged.allocations identified.allocations] at same
  have loaded : Unchanged (state.loaded (.activeOn nodeId) claimed) after := by
    refine ⟨unchanged.gpus, unchanged.allocations.loading fun row listed => ?_⟩
    rw [same] at listed
    exact (List.mem_filter.mp listed).1
  obtain ⟨gpus, between, middle, lists, last⟩ := plays_then rest
  obtain ⟨rfl, rfl, loaded⟩ := gpusOf_plays loaded identified lists
  obtain ⟨rfl, rfl, rfl⟩ := plays_pure last
  refine ⟨fun gpu listed => ?_, rfl, loaded⟩
  have there : gpu.index ∈ (rowsOn nodeId store.gpus).map (·.index) := List.mem_map_of_mem listed
  rw [same, Bool.not_eq_eq_eq_not, Bool.eq_iff_iff]
  simp only [List.contains_iff_mem, ascending, List.mem_insertionSort, List.mem_filter, there,
    true_and]

theorem telemetry_plays {gpuIds : List Nat} {reply : List Sample}
    (plays : Plays (Sampled samples) i (telemetry gpuIds) state shared (some reply) final store) :
    reply = samples ∧ final = state ∧ store = shared := by
  have replies : Nonempty (Reply (.telemetry gpuIds)) := ⟨reply⟩
  obtain ⟨answer, got, after, rfl, reacts, rest⟩ :=
    (Machine.plays_perform (M := deploymentMachine) replies).mp plays
  cases reacts
  exact plays_pure rest

theorem resources_play (unchanged : Unchanged state shared) (identified : Identified shared)
    {nodeIds : List Nat} {resources : List GpuResource}
    (plays : Plays (Sampled samples) i (gpuResourcesFor nodeIds) state shared (some resources) final
      store) :
    resources = nodeIds.flatMap (resourcesOn shared samples) ∧ store = shared := by
  induction nodeIds generalizing state resources final store with
  | nil =>
      obtain ⟨rfl, rfl, rfl⟩ := plays_pure plays
      exact ⟨rfl, rfl⟩
  | cons nodeId nodeIds ih =>
      obtain ⟨gpus, between, after, lists, rest⟩ := plays_then plays
      obtain ⟨rfl, rfl, loaded⟩ := gpusOf_plays unchanged identified lists
      rw [List.flatMap_cons]
      split at rest
      · rename_i none
        obtain ⟨rfl, rfl⟩ := ih loaded rest
        rw [List.isEmpty_iff] at none
        exact ⟨by simp [resourcesOn, none], rfl⟩
      · obtain ⟨sampled, _, _, asks, freed⟩ := plays_then rest
        obtain ⟨rfl, rfl, rfl⟩ := telemetry_plays asks
        obtain ⟨free, _, _, frees, tail⟩ := plays_then freed
        obtain ⟨reserved, rfl, loaded⟩ := freeIndices_plays loaded identified frees
        obtain ⟨others, _, _, further, last⟩ := plays_then tail
        obtain ⟨rfl, rfl⟩ := ih loaded further
        obtain ⟨rfl, rfl, rfl⟩ := plays_pure last
        refine ⟨?_, rfl⟩
        congr 1
        apply List.map_congr_left
        intro gpu listed
        simp only [reserved gpu listed]

theorem pickNode_plays {node : Option Node}
    (plays : Plays (Sampled samples) i (pickNode spec) state shared (some node) final store) :
    final = state ∧ store = shared ∧ match spec.nodeId with
      | none => node = none
      | some nodeId => ∃ found, node = some found ∧ found ∈ shared.nodes ∧ found.id = nodeId ∧
          found.status = .online := by
  unfold pickNode at plays
  cases named : spec.nodeId with
  | none =>
      rw [named] at plays
      obtain ⟨rfl, rfl, rfl⟩ := plays_pure plays
      exact ⟨rfl, rfl, rfl⟩
  | some nodeId =>
      rw [named] at plays
      obtain ⟨found, _, _, reads, rest⟩ := plays_then plays
      obtain ⟨same, rfl, rfl⟩ := read_plays reads
      cases found with
      | none => exact (not_raised rest).elim
      | some found =>
          simp only at rest
          split at rest
          · exact (not_raised rest).elim
          · rename_i online
            obtain ⟨rfl, rfl, rfl⟩ := plays_pure rest
            have there : store.nodes.find? (fun node => node.id = nodeId) = some found := same.symm
            exact ⟨rfl, rfl, found, rfl, List.mem_of_find?_eq_some there,
              by simpa using List.find?_some there, by simpa using online⟩

theorem firstOnlineNode_plays {node : Node}
    (plays : Plays (Sampled samples) i firstOnlineNode state shared (some node) final store) :
    (shared.nodesByName 100).find? (fun node => node.status = .online) = some node := by
  obtain ⟨nodes, _, _, reads, rest⟩ := plays_then plays
  obtain ⟨same, rfl, rfl⟩ := read_plays reads
  have listed : nodes = Shared.nodesByName _ 100 := same
  rw [← listed]
  split at rest
  · rename_i found
    obtain ⟨rfl, rfl, rfl⟩ := plays_pure rest
    exact found
  · exact (not_raised rest).elim

theorem placeMock_plays {node : Option Node} {placement : Placement}
    (plays : Plays (Sampled samples) i (place settings model spec node "mock") state shared
      (some placement) final store) :
    placement.gpuIndices = [] ∧ Chosen (FirstOnline shared) placement.nodeId node := by
  rw [place, if_pos rfl] at plays
  cases node with
  | some node =>
      obtain ⟨rfl, rfl, rfl⟩ := plays_pure plays
      exact ⟨rfl, rfl⟩
  | none =>
      obtain ⟨first, _, _, finds, last⟩ := plays_then plays
      have found := firstOnlineNode_plays finds
      obtain ⟨rfl, rfl, rfl⟩ := plays_pure last
      exact ⟨rfl, first, found, rfl⟩

def requestFor (spec : DeploymentRequestSpec) (model : Model) (node : Option Node) :
    PlacementRequest where
  modelId := model.id
  gpuCount := gpuCountFor spec model
  requiredMemoryMibPerGpu := model.requiredGpuMemoryMib.getD 0
  nodeId := node.map (·.id)
  gpuIndices := spec.gpuIds.filter fun indices => !indices.isEmpty

theorem plan_places {idText : Nat → String} {node : Option Node} {nodeIds : List Nat}
    {placement : Placement} (distinct : nodeIds.Nodup)
    (planned : plan idText (requestFor spec model node)
      (nodeIds.flatMap (resourcesOn shared samples)) = .ok placement) :
    (placement.gpuIndices ≠ [] ↔ 0 < gpuCountFor spec model) ∧
      Chosen (LeastLoaded shared samples spec model nodeIds) placement.nodeId node := by
  cases named : (requestFor spec model node).gpuIndices with
  | none =>
      obtain ⟨first, rest, listed, chosen, uses⟩ := plan_least distinct named planned
      refine ⟨uses, ?_⟩
      cases node with
      | some node =>
          have member := leastLoaded_mem
            (loadOn shared samples (requestFor spec model (some node)).requiredMemoryMibPerGpu)
            first rest
          rw [← chosen, ← listed] at member
          have own := (List.mem_filter.mp member).2
          exact Eq.symm (by simpa [requestFor] using own)
      | none =>
          have all : (candidates shared samples (gpuCountFor spec model)
              (model.requiredGpuMemoryMib.getD 0) nodeIds).filter (fun nodeId =>
                (requestFor spec model none).nodeId.all (· = nodeId)) =
              candidates shared samples (gpuCountFor spec model)
                (model.requiredGpuMemoryMib.getD 0) nodeIds :=
            List.filter_eq_self.mpr fun nodeId _ => rfl
          exact ⟨first, rest, all.symm.trans listed, chosen⟩
  | some indices =>
      have chosen : spec.gpuIds.filter (fun indices => !indices.isEmpty) = some indices := named
      cases indices with
      | nil => simp [Option.filter_eq_some_iff] at chosen
      | cons index others =>
          obtain ⟨owner, some⟩ := plan_named named planned
          have many : 0 < gpuCountFor spec model := by
            rw [gpuCountFor, chosen]
            exact Nat.succ_pos _
          refine ⟨⟨fun _ => many, fun _ => some⟩, ?_⟩
          cases node with
          | some node => exact (Option.some.inj owner).symm
          | none => cases owner

theorem schedule_plays {node : Option Node} {nodeIds : List Nat} {placement : Placement}
    (unchanged : Unchanged state shared) (identified : Identified shared)
    (plays : Plays (Sampled samples) i (gpuResourcesFor nodeIds >>= fun resources =>
        match plan settings.idText (requestFor spec model node) resources with
        | .error failure => raise (.app (conflictError failure.reason failure.details))
        | .ok placement => return placement) state shared (some placement) final store) :
    plan settings.idText (requestFor spec model node)
      (nodeIds.flatMap (resourcesOn shared samples)) = .ok placement := by
  obtain ⟨resources, _, _, gathers, rest⟩ := plays_then plays
  obtain ⟨rfl, rfl⟩ := resources_play unchanged identified gathers
  split at rest
  · exact (not_raised rest).elim
  · rename_i planned
    obtain ⟨rfl, _⟩ := plays_pure rest
    exact planned

theorem placeGpus_plays (unchanged : Unchanged state shared) (identified : Identified shared)
    {runtime : String} (gpus : runtime ≠ "mock") {node : Option Node} {placement : Placement}
    (plays : Plays (Sampled samples) i (place settings model spec node runtime) state shared
      (some placement) final store) :
    (placement.gpuIndices ≠ [] ↔ 0 < gpuCountFor spec model) ∧
      Chosen (LeastLoaded shared samples spec model (pollableIds shared)) placement.nodeId node := by
  rw [place, if_neg gpus] at plays
  cases node with
  | some node =>
      have planned := schedule_plays unchanged identified plays
      obtain ⟨uses, owner⟩ := plan_places (List.nodup_singleton node.id) planned
      exact ⟨uses, owner⟩
  | none =>
      have distinct : (pollableIds shared).Nodup :=
        identified.nodes.sublist (List.filter_sublist.map _)
      obtain ⟨nodes, _, _, reads, rest⟩ := plays_then plays
      obtain ⟨rfl, rfl, rfl⟩ := read_plays reads
      exact plan_places distinct (schedule_plays unchanged identified rest)

theorem serves_known (identified : Identified shared) {node : Node} (listed : node ∈ shared.nodes)
    (online : node.status = .online) {nvidiaRuntime : Nat → Bool} {usesGpus : Prop} :
    Serves shared nvidiaRuntime usesGpus node.id ↔
      node.disabled = false ∧ (usesGpus → nvidiaRuntime node.id = true) := by
  constructor
  · rintro ⟨other, member, same, _, enabled, runtime⟩
    exact ⟨List.inj_on_of_nodup_map identified.nodes member listed same ▸ enabled, runtime⟩
  · exact fun rest => ⟨node, listed, rfl, online, rest⟩

theorem named_iff (identified : Identified shared) {node : Node} (listed : node ∈ shared.nodes)
    {nvidiaRuntime : Nat → Bool} {usesGpus : Prop} :
    (∀ other ∈ shared.nodes, other.id = node.id →
        other.disabled = false ∧ (usesGpus → nvidiaRuntime node.id = true)) ↔
      node.disabled = false ∧ (usesGpus → nvidiaRuntime node.id = true) := by
  constructor
  · exact fun each => each node listed rfl
  · intro holds other member same
    rwa [List.inj_on_of_nodup_map identified.nodes member listed same]

theorem place_serves (unchanged : Unchanged state shared) (identified : Identified shared)
    {nvidiaRuntime : Nat → Bool} {node : Option Node} {placement : Placement}
    (picked : match spec.nodeId with
      | none => node = none
      | some nodeId => ∃ found, node = some found ∧ found ∈ shared.nodes ∧ found.id = nodeId ∧
          found.status = .online)
    (plays : Plays (Sampled samples) i
      (place settings model spec node (runtimeFor settings spec model)) state shared
      (some placement) final store) :
    Serves shared nvidiaRuntime (placement.gpuIndices ≠ []) placement.nodeId ↔
      Unmisled shared samples nvidiaRuntime settings spec model := by
  have chosen : ((placement.gpuIndices ≠ []) =
      (runtimeFor settings spec model ≠ "mock" ∧ 0 < gpuCountFor spec model)) ∧
      ∀ found, node = some found → placement.nodeId = found.id := by
    by_cases mock : runtimeFor settings spec model = "mock"
    · rw [mock] at plays
      obtain ⟨none', here⟩ := placeMock_plays plays
      refine ⟨by simp [none', mock], fun found same => ?_⟩
      rw [same] at here
      exact here
    · obtain ⟨uses, here⟩ := placeGpus_plays unchanged identified mock plays
      refine ⟨by simp [← uses, mock], fun found same => ?_⟩
      rw [same] at here
      exact here
  rw [chosen.1]
  cases named : spec.nodeId with
  | some nodeId =>
      rw [named] at picked
      obtain ⟨found, same, listed, rfl, online⟩ := picked
      rw [chosen.2 found same, serves_known identified listed online]
      simp only [Unmisled, named]
      exact (named_iff identified listed).symm
  | none =>
      rw [named] at picked
      subst picked
      simp only [Unmisled, named]
      split
      · rename_i mock
        rw [mock] at plays
        obtain ⟨_, first, found, same⟩ := placeMock_plays plays
        have online : first.status = .online := by simpa using List.find?_some found
        have listed : first ∈ shared.nodes :=
          (List.mem_insertionSort _).mp (List.mem_of_mem_take (List.mem_of_find?_eq_some found))
        rw [same, serves_known identified listed online, preceded_find found]
        simp [mock]
      · rename_i gpus
        obtain ⟨_, first, rest, listed, same⟩ := placeGpus_plays unchanged identified gpus plays
        rw [same, listed]
        exact leastLoaded_good

theorem imageFor_plays {runtime image : String}
    (plays : Plays (Sampled samples) i (imageFor settings runtime) state shared (some image) final
      store) : final = state ∧ store = shared := by
  unfold imageFor at plays
  split at plays
  · exact (plays_pure plays).2
  · exact (not_raised plays).elim

theorem validateModel_plays {runtime : String}
    (plays : Plays (Sampled samples) i (validateModel settings model runtime) state shared (some ())
      final store) : final = state ∧ store = shared := by
  unfold validateModel at plays
  split at plays
  · exact (not_raised plays).elim
  · split at plays
    · exact (not_raised plays).elim
    · obtain ⟨image, _, _, images, last⟩ := plays_then plays
      obtain ⟨rfl, rfl⟩ := imageFor_plays images
      exact (plays_pure last).2

theorem reservePlacement_plays {placement reserved : Placement}
    (plays : Plays (Sampled samples) i (reservePlacement model placement) state shared
      (some reserved) final store) :
    reserved.nodeId = placement.nodeId ∧ reserved.gpuIndices = placement.gpuIndices := by
  unfold reservePlacement at plays
  split at plays
  · obtain ⟨rfl, _⟩ := plays_pure plays
    exact ⟨rfl, rfl⟩
  · obtain ⟨reservation, _, _, _, last⟩ := plays_then plays
    obtain ⟨rfl, _⟩ := plays_pure last
    exact ⟨rfl, rfl⟩

end Accepted

theorem accepted_deployments_are_served (samples : List Sample) (nvidiaRuntime : Nat → Bool)
    (settings : Settings) (spec : DeploymentRequestSpec) (actor : Nat) (model : Model)
    (shared : Shared) (identified : Identified shared)
    (found : shared.models.find? (fun model => model.id = spec.modelId) = some model)
    (managed : externalRuntimes.contains (runtimeFor settings spec model) = false) (i id : Nat)
    (final : Session) (store : Shared)
    (plays : Plays (Sampled samples) i (requestDeployment settings spec actor)
      (.opened ⟨settings, .deploy spec actor⟩) shared (some id) final store) :
    ∃ deployment ∈ inserted final.deployments, ∃ nodeId, deployment.id = id ∧
      deployment.nodeId = some nodeId ∧
      (Serves shared nvidiaRuntime (deployment.gpuIndices ≠ []) nodeId ↔
        Unmisled shared samples nvidiaRuntime settings spec model) := by
  obtain ⟨row, _, _, reads, body⟩ := plays_then plays
  obtain ⟨same, rfl, rfl⟩ := read_plays reads
  have row' : row = some model := same.trans found
  subst row'
  unfold runtimeFor at managed
  simp only [managed, Bool.false_eq_true, if_false] at body
  obtain ⟨_, _, _, validates, picking⟩ := plays_then body
  obtain ⟨rfl, rfl⟩ := validateModel_plays validates
  obtain ⟨node, _, _, picks, placing⟩ := plays_then picking
  obtain ⟨rfl, rfl, picked⟩ := pickNode_plays picks
  obtain ⟨placement, _, _, places, reserving⟩ := plays_then placing
  obtain ⟨reserved, _, _, reserves, imaging⟩ := plays_then reserving
  obtain ⟨image, _, _, images, inserting⟩ := plays_then imaging
  obtain ⟨owner, indices⟩ := reservePlacement_plays reserves
  rw [insert_plays inserting]
  refine ⟨_, mem_inserted.mpr ⟨_, List.mem_append_right _ (.head _), rfl, rfl⟩, reserved.nodeId, rfl,
    rfl, ?_⟩
  have unchanged : ∀ stored, Unchanged ((Session.opened ⟨settings, .deploy spec actor⟩).loaded
      (.model spec.modelId) (some model)) stored := fun stored => ⟨.nil, .nil⟩
  change Serves _ nvidiaRuntime (reserved.gpuIndices ≠ []) reserved.nodeId ↔ _
  rw [owner, indices]
  exact place_serves (unchanged _) identified picked places

def twoRuntimes : Settings where
  idText := fun _ => ""
  numberText := fun _ => ""
  runtimeImages := [("mock", "platform/mock:1"), ("vllm", "vllm/vllm-openai:v0.6.3")]
  defaultRuntime := "vllm"
  network := ""
  managedLabel := ""
  healthTimeoutSeconds := 0
  healthIntervalSeconds := 0
  externalEndpoint := none
  externalApiKey := none
  runtimeHealthPaths := []

def qwen : Model := ⟨3, "qwen", .available, none, "vllm", "", none, none, 1, none, []⟩

def fleetOf (status : NodeStatus) (disabled : Bool) : Shared :=
  { Shared.empty with
    models := [qwen]
    nodes := [⟨1, "gpu-1", "http://gpu-1:9000", status, disabled⟩]
    gpus := [⟨2, 1, "GPU-a", 0, "NVIDIA H100", 81559⟩]
    nextId := 4 }

def askFor (nodeId : Option Nat) (runtime : String) : DeploymentRequestSpec :=
  ⟨3, nodeId, none, some runtime, none, none, none⟩

def accepted (spec : DeploymentRequestSpec) (shared : Shared) : Option (Nat × Session × Shared) :=
  deploymentMachine.solo 0
    (fun op => match op with
      | .telemetry _ => .samples []
      | _ => .nothing)
    (requestDeployment twoRuntimes spec 7) (.opened ⟨twoRuntimes, .deploy spec 7⟩) shared

def placesOf (final : Session) : List (Option Nat × List Int) :=
  (inserted final.deployments).map fun deployment => (deployment.nodeId, deployment.gpuIndices)

theorem accepted_plays {spec : DeploymentRequestSpec} {shared : Shared} {nodeId : Nat}
    {indices : List Int}
    (places : (accepted spec shared).map (fun run => placesOf run.2.1) =
      some [(some nodeId, indices)]) :
    ∃ id final store,
      Plays (Sampled []) 0 (requestDeployment twoRuntimes spec 7)
        (.opened ⟨twoRuntimes, .deploy spec 7⟩) shared (some id) final store ∧
      placesOf final = [(some nodeId, indices)] := by
  obtain ⟨⟨id, final, store⟩, ends, placed⟩ := Option.map_eq_some_iff.mp places
  refine ⟨id, final, store, ?_, placed⟩
  apply Machine.plays_solo (M := deploymentMachine) ?_ ends
  intro session shared op
  cases op <;> trivial

theorem fleetOf_identified (status : NodeStatus) (disabled : Bool) :
    Identified (fleetOf status disabled) := by
  constructor <;> simp [fleetOf, Shared.empty]

/-- The only node is ONLINE, enabled and has the container runtime. -/
theorem accepted_deployments_are_served_alone :
    ∃ id final store,
      Plays (Sampled []) 0 (requestDeployment twoRuntimes (askFor none "vllm") 7)
        (.opened ⟨twoRuntimes, .deploy (askFor none "vllm") 7⟩) (fleetOf .online false) (some id)
        final store ∧
      ∃ deployment ∈ inserted final.deployments, ∃ nodeId, deployment.nodeId = some nodeId ∧
        Serves (fleetOf .online false) (fun _ => true) (deployment.gpuIndices ≠ []) nodeId := by
  obtain ⟨id, final, store, plays, _⟩ :=
    @accepted_plays (askFor none "vllm") (fleetOf .online false) 1 [0] (by decide +kernel)
  obtain ⟨deployment, added, nodeId, _, owner, served⟩ :=
    accepted_deployments_are_served [] (fun _ => true) twoRuntimes (askFor none "vllm") 7 qwen
      (fleetOf .online false) (fleetOf_identified .online false) rfl (by decide) 0 id final store
      plays
  refine ⟨id, final, store, plays, deployment, added, nodeId, owner, served.mpr ?_⟩
  have alone : candidates (fleetOf .online false) [] 1 0 (pollableIds (fleetOf .online false)) =
      [1] := by decide
  have serves : Serves (fleetOf .online false) (fun _ => true)
      (runtimeFor twoRuntimes (askFor none "vllm") qwen ≠ "mock" ∧
        0 < gpuCountFor (askFor none "vllm") qwen) 1 :=
    ⟨_, .head _, rfl, rfl, rfl, fun _ => rfl⟩
  have outdone : Outdone (loadOn (fleetOf .online false) [] 0) _ [1] := leastLoaded_good.mp serves
  exact outdone

/-- The scheduler chooses a node that is OFFLINE, a runtime without GPUs one that is
disabled, also when the request names it, and GPUs are used where no container can
have them. -/
theorem misled_requests_are_accepted :
    (∃ id final store,
      Plays (Sampled []) 0 (requestDeployment twoRuntimes (askFor none "vllm") 7)
        (.opened ⟨twoRuntimes, .deploy (askFor none "vllm") 7⟩) (fleetOf .offline false) (some id)
        final store ∧
      placesOf final = [(some 1, [0])] ∧ ¬ Serves (fleetOf .offline false) (fun _ => true) True 1) ∧
    (∀ named : Bool, ∃ id final store,
      Plays (Sampled []) 0
        (requestDeployment twoRuntimes (askFor (if named then some 1 else none) "mock") 7)
        (.opened ⟨twoRuntimes, .deploy (askFor (if named then some 1 else none) "mock") 7⟩)
        (fleetOf .online true) (some id) final store ∧
      placesOf final = [(some 1, [])] ∧ ¬ Serves (fleetOf .online true) (fun _ => true) False 1) ∧
    ∃ id final store,
      Plays (Sampled []) 0 (requestDeployment twoRuntimes (askFor (some 1) "vllm") 7)
        (.opened ⟨twoRuntimes, .deploy (askFor (some 1) "vllm") 7⟩) (fleetOf .online false) (some id)
        final store ∧
      placesOf final = [(some 1, [0])] ∧ ¬ Serves (fleetOf .online false) (fun _ => false) True 1 := by
  have offline : ¬ Serves (fleetOf .offline false) (fun _ => true) True 1 := by
    simp [Serves, fleetOf]
  have disabled : ¬ Serves (fleetOf .online true) (fun _ => true) False 1 := by
    simp [Serves, fleetOf]
  have without : ¬ Serves (fleetOf .online false) (fun _ => false) True 1 := by
    simp [Serves, fleetOf]
  refine ⟨?_, fun named => ?_, ?_⟩
  · obtain ⟨id, final, store, plays, placed⟩ :=
      @accepted_plays (askFor none "vllm") (fleetOf .offline false) 1 [0] (by decide +kernel)
    exact ⟨id, final, store, plays, placed, offline⟩
  · obtain ⟨id, final, store, plays, placed⟩ :=
      @accepted_plays (askFor (if named then some 1 else none) "mock") (fleetOf .online true) 1 []
        (by cases named <;> decide +kernel)
    exact ⟨id, final, store, plays, placed, disabled⟩
  · obtain ⟨id, final, store, plays, placed⟩ :=
      @accepted_plays (askFor (some 1) "vllm") (fleetOf .online false) 1 [0] (by decide +kernel)
    exact ⟨id, final, store, plays, placed, without⟩

end AiPlatform.Deployments
