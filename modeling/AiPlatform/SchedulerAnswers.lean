import AiPlatform.NodeChoices
import AiPlatform.Rankings

/-!
What `SimpleGpuScheduler.plan` answers a request with. A placement fits the
request, a request is refused only where none fits, and the node that the
scheduler chooses for itself has the least load. GPUs that a request names are
taken on the node that it names or not at all.
-/

namespace AiPlatform.Deployments

def PlacementRequest.explicit (request : PlacementRequest) : List Int := request.gpuIndices.getD []

def PlacementRequest.usable (request : PlacementRequest) (gpu : GpuResource) : Bool :=
  !gpu.reserved && request.requiredMemoryMibPerGpu ≤ gpu.memoryFreeMib

def PlacementRequest.usableOn (request : PlacementRequest) (available : List GpuResource)
    (nodeId : Nat) : List GpuResource :=
  (available.filter request.usable).filter fun gpu => gpu.nodeId = nodeId

/-- What a placement is to be: distinct usable GPUs of one node, the named node and
the named GPUs where the request names them, else as many as it asks for. -/
structure Fits (request : PlacementRequest) (available : List GpuResource) (nodeId : Nat)
    (indices : List Int) : Prop where
  pinned : ∀ pin ∈ request.nodeId, nodeId = pin
  named : request.explicit ≠ [] → indices.Perm request.explicit
  counted : request.explicit = [] → indices.length = request.gpuCount
  distinct : indices.Nodup
  usable : ∀ index ∈ indices, ∃ gpu ∈ available,
    gpu.nodeId = nodeId ∧ gpu.index = index ∧ request.usable gpu

def Inventoried (available : List GpuResource) : Prop :=
  (available.map fun gpu => (gpu.nodeId, gpu.index)).Nodup

section Plans

variable {idText : Nat → String} {request : PlacementRequest} {available : List GpuResource}
  {nodeId : Nat} {indices : List Int}

theorem ascending_perm (indices : List Int) : (ascending indices).Perm indices :=
  List.perm_insertionSort _ _

theorem mem_usableOn {gpu : GpuResource} :
    gpu ∈ request.usableOn available nodeId ↔
      gpu ∈ available ∧ gpu.nodeId = nodeId ∧ request.usable gpu := by
  simp only [PlacementRequest.usableOn, List.mem_filter, decide_eq_true_eq]
  tauto

theorem Inventoried.distinct (inventoried : Inventoried available) (nodeId : Nat) :
    ((available.filter fun gpu => gpu.nodeId = nodeId).map (·.index)).Nodup := by
  have own : ((available.filter fun gpu => gpu.nodeId = nodeId).map
      fun gpu => (gpu.nodeId, gpu.index)).Nodup :=
    inventoried.sublist (List.filter_sublist.map _)
  rw [List.Nodup, List.pairwise_map] at own ⊢
  refine List.Pairwise.imp_of_mem (fun {one other} here there apart same => ?_) own
  have one' : one.nodeId = nodeId := by simpa using (List.mem_filter.mp here).2
  have other' : other.nodeId = nodeId := by simpa using (List.mem_filter.mp there).2
  exact apart (Prod.ext (one'.trans other'.symm) same)

theorem Inventoried.usable (inventoried : Inventoried available) :
    ((request.usableOn available nodeId).map (·.index)).Nodup := by
  refine (inventoried.distinct nodeId).sublist ?_
  rw [PlacementRequest.usableOn, List.filter_comm]
  exact List.filter_sublist.map _

def PlacementRequest.taken (request : PlacementRequest) (available : List GpuResource)
    (nodeId : Nat) : List Int :=
  (((request.usableOn available nodeId).insertionSort fun left right =>
    left.utilizationPercent < right.utilizationPercent ∨
      left.utilizationPercent = right.utilizationPercent ∧ left.index ≤ right.index).take
        request.gpuCount).map (·.index)

def PlacementRequest.candidates (request : PlacementRequest) (available : List GpuResource) :
    List Nat :=
  (((available.filter request.usable).map (·.nodeId)).eraseDups.filter fun nodeId =>
    request.nodeId.all (· = nodeId)).filter fun nodeId =>
      request.gpuCount ≤ (request.usableOn available nodeId).length

theorem plan_chosen (free : request.explicit = []) :
    plan idText request available =
      match request.candidates available with
      | [] => .error (explainFailure idText request available)
      | first :: rest =>
          let nodeId := leastLoaded (fun nodeId =>
            meanUtilization (request.usableOn available nodeId)) first rest
          .ok ⟨nodeId, ascending (request.taken available nodeId), none,
            s!"least-loaded node with {request.gpuCount} free GPU(s) of " ++
              s!">={request.requiredMemoryMibPerGpu} MiB"⟩ := by
  unfold plan
  split
  · rename_i named
    simp [PlacementRequest.explicit, named] at free
  · rfl

theorem candidates_fit (member : nodeId ∈ request.candidates available) :
    (∀ pin ∈ request.nodeId, nodeId = pin) ∧
      request.gpuCount ≤ (request.usableOn available nodeId).length := by
  simp only [PlacementRequest.candidates, List.mem_filter, decide_eq_true_eq] at member
  obtain ⟨⟨_, pinned⟩, enough⟩ := member
  refine ⟨fun pin here => ?_, enough⟩
  rw [Option.mem_def.mp here] at pinned
  exact (of_decide_eq_true pinned).symm

theorem mem_candidates (some : 0 < request.gpuCount) :
    nodeId ∈ request.candidates available ↔
      (∀ pin ∈ request.nodeId, nodeId = pin) ∧
        request.gpuCount ≤ (request.usableOn available nodeId).length := by
  constructor
  · exact candidates_fit
  · rintro ⟨pinned, enough⟩
    simp only [PlacementRequest.candidates, List.mem_filter, List.mem_eraseDups, List.mem_map,
      decide_eq_true_eq]
    refine ⟨⟨?_, ?_⟩, enough⟩
    · obtain ⟨gpu, member⟩ := List.exists_mem_of_length_pos (Nat.lt_of_lt_of_le some enough)
      obtain ⟨listed, own, usable⟩ := mem_usableOn.mp member
      exact ⟨gpu, ⟨listed, usable⟩, own⟩
    · cases named : request.nodeId with
      | none => rfl
      | some pin => simpa using (pinned pin named).symm

theorem taken_subperm (request : PlacementRequest) (available : List GpuResource) (nodeId : Nat) :
    (request.taken available nodeId).Subperm
      ((request.usableOn available nodeId).map (·.index)) := by
  rw [PlacementRequest.taken]
  exact ((List.take_sublist _ _).map _).subperm.trans
    ((List.perm_insertionSort _ _).map _).subperm

theorem taken_fits (inventoried : Inventoried available) (free : request.explicit = [])
    (pinned : ∀ pin ∈ request.nodeId, nodeId = pin)
    (enough : request.gpuCount ≤ (request.usableOn available nodeId).length) :
    Fits request available nodeId (ascending (request.taken available nodeId)) where
  pinned := pinned
  named := fun given => absurd free given
  counted := fun _ => by
    rw [ascending_length, PlacementRequest.taken, List.length_map, List.length_take,
      List.length_insertionSort]
    exact Nat.min_eq_left enough
  distinct := by
    obtain ⟨_, perm, sublist⟩ := taken_subperm request available nodeId
    exact (ascending_perm _).nodup_iff.mpr
      (perm.nodup_iff.mp (inventoried.usable.sublist sublist))
  usable := fun index member => by
    have listed := (taken_subperm request available nodeId).subset ((ascending_perm _).mem_iff.mp member)
    obtain ⟨gpu, own, rfl⟩ := List.mem_map.mp listed
    obtain ⟨known, here, usable⟩ := mem_usableOn.mp own
    exact ⟨gpu, known, here, rfl, usable⟩

theorem Fits.enough (fits : Fits request available nodeId indices) (free : request.explicit = []) :
    request.gpuCount ≤ (request.usableOn available nodeId).length := by
  have within : indices ⊆ (request.usableOn available nodeId).map (·.index) := by
    intro index member
    obtain ⟨gpu, listed, own, rfl, usable⟩ := fits.usable index member
    exact List.mem_map_of_mem (mem_usableOn.mpr ⟨listed, own, usable⟩)
  calc request.gpuCount = indices.length := (fits.counted free).symm
    _ ≤ ((request.usableOn available nodeId).map (·.index)).length :=
        (List.subperm_of_subset fits.distinct within).length_le
    _ = (request.usableOn available nodeId).length := List.length_map _

theorem candidates_iff (inventoried : Inventoried available) (free : request.explicit = [])
    (some : 0 < request.gpuCount) :
    nodeId ∈ request.candidates available ↔ ∃ indices, Fits request available nodeId indices := by
  rw [mem_candidates some]
  constructor
  · rintro ⟨pinned, enough⟩
    exact ⟨_, taken_fits inventoried free pinned enough⟩
  · rintro ⟨indices, fits⟩
    exact ⟨fits.pinned, fits.enough free⟩

theorem leastLoaded_le (load : Nat → Rat) {first : Nat} {rest : List Nat} :
    ∀ other ∈ first :: rest, load (leastLoaded load first rest) ≤ load other := by
  obtain ⟨before, after, split, less, least⟩ := leastLoaded_split load first rest
  intro other member
  rw [split] at member
  rcases List.mem_append.mp member with earlier | own
  · exact (less other earlier).le
  · cases own with
    | head => exact le_refl _
    | tail _ later => exact least other later

/-- The GPU of an index on a node, as the source looks it up: the last one of a
repeated index. -/
def deviceOn (available : List GpuResource) (nodeId : Nat) (index : Int) : Option GpuResource :=
  (available.filter fun gpu => gpu.nodeId = nodeId).reverse.find? fun gpu => gpu.index = index

theorem deviceOn_iff (inventoried : Inventoried available) {index : Int} {gpu : GpuResource} :
    deviceOn available nodeId index = some gpu ↔
      gpu ∈ available ∧ gpu.nodeId = nodeId ∧ gpu.index = index := by
  have distinct : (((available.filter fun gpu => gpu.nodeId = nodeId).reverse).map
      (·.index)).Nodup := by
    rw [List.map_reverse, List.nodup_reverse]
    exact inventoried.distinct nodeId
  rw [deviceOn, Rankings.find_key_iff distinct, List.mem_reverse, List.mem_filter,
    decide_eq_true_eq, and_assoc]

theorem deviceOn_usable (inventoried : Inventoried available) {index : Int} :
    (deviceOn available nodeId index).any request.usable = true ↔
      ∃ gpu ∈ available, gpu.nodeId = nodeId ∧ gpu.index = index ∧ request.usable gpu := by
  simp only [Option.any_eq_true, deviceOn_iff inventoried, and_assoc]

theorem planExplicit_takes (pinned : request.nodeId = some nodeId)
    (usable : ∀ index ∈ indices, (deviceOn available nodeId index).any request.usable = true) :
    planExplicit request indices available =
      .ok ⟨nodeId, ascending indices, none, "explicit GPU selection"⟩ := by
  have known {index : Int} (member : index ∈ indices) :
      ∃ gpu, deviceOn available nodeId index = some gpu ∧ gpu.reserved = false ∧
        request.requiredMemoryMibPerGpu ≤ gpu.memoryFreeMib := by
    obtain ⟨gpu, found, fine⟩ := Option.any_eq_true _ _ |>.mp (usable index member)
    rw [PlacementRequest.usable, Bool.and_eq_true, Bool.not_eq_true', decide_eq_true_eq] at fine
    exact ⟨gpu, found, fine⟩
  have missing : (indices.filter fun index => (deviceOn available nodeId index).isNone) = [] := by
    rw [List.filter_eq_nil_iff]
    intro index member
    obtain ⟨gpu, found, _⟩ := known member
    simp [found]
  have held : (indices.filter fun index =>
      (deviceOn available nodeId index).any (·.reserved)) = [] := by
    rw [List.filter_eq_nil_iff]
    intro index member
    obtain ⟨gpu, found, free, _⟩ := known member
    simp [found, free]
  have short : (indices.filter fun index => (deviceOn available nodeId index).any fun gpu =>
      gpu.memoryFreeMib < request.requiredMemoryMibPerGpu) = [] := by
    rw [List.filter_eq_nil_iff]
    intro index member
    obtain ⟨gpu, found, _, enough⟩ := known member
    simpa [found] using enough
  simp only [deviceOn] at missing held short
  simp [planExplicit, pinned, missing, held, short]

theorem planExplicit_refuses (pinned : request.nodeId = some nodeId) {index : Int}
    (member : index ∈ indices)
    (unusable : (deviceOn available nodeId index).any request.usable = false) :
    ∃ failure, planExplicit request indices available = .error failure := by
  simp only [planExplicit, pinned]
  split
  · exact ⟨_, rfl⟩
  · rename_i present
    split
    · exact ⟨_, rfl⟩
    · rename_i free
      split
      · exact ⟨_, rfl⟩
      · rename_i enough
        -- No list of refused indices has this one, so its GPU is usable.
        simp only [Bool.not_eq_true', Bool.not_eq_false, List.isEmpty_iff,
          List.filter_eq_nil_iff] at present free enough
        have present := present index member
        have free := free index member
        have enough := enough index member
        cases found : deviceOn available nodeId index with
        | none =>
            rw [deviceOn] at found
            simp [found] at present
        | some gpu =>
            rw [found] at unusable
            rw [deviceOn] at found
            simp only [found, Option.any_some, decide_eq_true_eq, not_lt] at free enough
            simp [PlacementRequest.usable, free, enough] at unusable

theorem plan_explicit (given : request.explicit ≠ []) :
    plan idText request available = planExplicit request request.explicit available := by
  unfold plan PlacementRequest.explicit
  split
  · rename_i named
    rw [named]
    rfl
  · rename_i unnamed
    cases named : request.gpuIndices with
    | none => simp [PlacementRequest.explicit, named] at given
    | some indices =>
        cases indices with
        | nil => simp [PlacementRequest.explicit, named] at given
        | cons index rest => exact absurd named (unnamed index rest)

theorem plan_fits (inventoried : Inventoried available) (distinct : request.explicit.Nodup)
    {placement : Placement} (planned : plan idText request available = .ok placement) :
    Fits request available placement.nodeId placement.gpuIndices := by
  by_cases free : request.explicit = []
  · rw [plan_chosen free] at planned
    cases listed : request.candidates available with
    | nil =>
        rw [listed] at planned
        cases planned
    | cons first rest =>
        rw [listed] at planned
        cases planned
        obtain ⟨pinned, enough⟩ := candidates_fit (listed ▸ leastLoaded_mem (fun nodeId =>
          meanUtilization (request.usableOn available nodeId)) first rest)
        exact taken_fits inventoried free pinned enough
  · rw [plan_explicit free] at planned
    cases pinned : request.nodeId with
    | none =>
        rw [planExplicit, pinned] at planned
        cases planned
    | some nodeId =>
        have usable : ∀ index ∈ request.explicit,
            (deviceOn available nodeId index).any request.usable = true := by
          intro index member
          by_contra unusable
          obtain ⟨failure, refused⟩ := planExplicit_refuses pinned member (by simpa using unusable)
          rw [refused] at planned
          cases planned
        rw [planExplicit_takes pinned usable] at planned
        cases planned
        have perm := ascending_perm request.explicit
        exact {
          pinned := fun pin here => by
            rw [pinned] at here
            exact Option.some.inj here
          named := fun _ => perm
          counted := fun given => absurd given free
          distinct := perm.nodup_iff.mpr distinct
          usable := fun index member =>
            (deviceOn_usable inventoried).mp (usable index (perm.mem_iff.mp member)) }

theorem fitting_is_placed (idText : Nat → String) (inventoried : Inventoried available)
    (counted : request.explicit = [] → 0 < request.gpuCount)
    (pinned : request.explicit ≠ [] → request.nodeId ≠ none)
    (fits : Fits request available nodeId indices) :
    ∃ placement, plan idText request available = .ok placement := by
  by_cases free : request.explicit = []
  · have member := (candidates_iff inventoried free (counted free)).mpr ⟨indices, fits⟩
    rw [plan_chosen free]
    cases listed : request.candidates available with
    | nil =>
        rw [listed] at member
        cases member
    | cons first rest => exact ⟨_, rfl⟩
  · obtain ⟨pin, here⟩ := Option.ne_none_iff_exists'.mp (pinned free)
    have own : nodeId = pin := fits.pinned pin here
    rw [plan_explicit free, planExplicit_takes here]
    · exact ⟨_, rfl⟩
    · intro index member
      obtain rfl := own
      exact (deviceOn_usable inventoried).mpr
        (fits.usable index ((fits.named free).mem_iff.mpr member))

theorem plan_is_least_loaded (inventoried : Inventoried available)
    (counted : request.explicit = [] → 0 < request.gpuCount) (unpinned : request.nodeId = none)
    {placement : Placement} (planned : plan idText request available = .ok placement)
    {other : Nat} (fits : Fits request available other indices) :
    meanUtilization (request.usableOn available placement.nodeId) ≤
      meanUtilization (request.usableOn available other) := by
  by_cases free : request.explicit = []
  · have member := (candidates_iff inventoried free (counted free)).mpr ⟨indices, fits⟩
    rw [plan_chosen free] at planned
    cases listed : request.candidates available with
    | nil =>
        rw [listed] at member
        cases member
    | cons first rest =>
        rw [listed] at planned member
        cases planned
        exact leastLoaded_le (fun nodeId => meanUtilization (request.usableOn available nodeId))
          other member
  · rw [plan_explicit free, planExplicit, unpinned] at planned
    cases planned

/-- A plan is sound and complete. GPUs that are named without a node are refused,
and a request for no GPU at all is left out of what is said of refusals. -/
theorem plan_is_sound_and_complete (idText : Nat → String) (request : PlacementRequest)
    (available : List GpuResource) (inventoried : Inventoried available)
    (distinct : request.explicit.Nodup) :
    (∀ placement, plan idText request available = .ok placement →
      Fits request available placement.nodeId placement.gpuIndices) ∧
    ((request.explicit = [] → 0 < request.gpuCount) →
      ((∃ failure, plan idText request available = .error failure) ↔
        request.explicit ≠ [] ∧ request.nodeId = none ∨
          ¬ ∃ nodeId indices, Fits request available nodeId indices) ∧
      ∀ placement, plan idText request available = .ok placement → request.nodeId = none →
        ∀ other indices, Fits request available other indices →
          meanUtilization (request.usableOn available placement.nodeId) ≤
            meanUtilization (request.usableOn available other)) := by
  refine ⟨fun placement planned => plan_fits inventoried distinct planned, fun counted =>
    ⟨⟨?_, ?_⟩, fun placement planned unpinned other indices fits =>
      plan_is_least_loaded inventoried counted unpinned planned fits⟩⟩
  · rintro ⟨failure, refused⟩
    by_contra placed
    rw [not_or, not_and, not_not] at placed
    obtain ⟨pinned, nodeId, indices, fits⟩ := placed
    obtain ⟨placement, planned⟩ := fitting_is_placed idText inventoried counted pinned fits
    rw [refused] at planned
    cases planned
  · intro unmet
    cases planned : plan idText request available with
    | error failure => exact ⟨failure, rfl⟩
    | ok placement =>
        exfalso
        rcases unmet with ⟨given, unpinned⟩ | none'
        · rw [plan_explicit given, planExplicit, unpinned] at planned
          cases planned
        · exact none' ⟨_, _, plan_fits inventoried distinct planned⟩

end Plans

def smallFleet : List GpuResource :=
  [⟨7, 0, "GPU-70", 80000, 1000, 90, false⟩, ⟨8, 0, "GPU-80", 80000, 0, 10, false⟩,
    ⟨8, 1, "GPU-81", 80000, 0, 0, true⟩]

theorem small_plan_is_sound_and_complete :
    (plan (fun id => s!"{id}") ⟨1, 1, 40000, none, none⟩ smallFleet).toOption.map
        (fun placement => (placement.nodeId, placement.gpuIndices)) = some (8, [0]) ∧
      ¬ ∃ nodeId indices, Fits ⟨1, 2, 40000, none, none⟩ smallFleet nodeId indices := by
  have inventoried : Inventoried smallFleet := by simp [Inventoried, smallFleet]
  refine ⟨by decide +kernel, ?_⟩
  have complete := (plan_is_sound_and_complete (fun id => s!"{id}") ⟨1, 2, 40000, none, none⟩
    smallFleet inventoried .nil).2 (fun _ => Nat.zero_lt_two)
  rcases complete.1.mp ⟨_, rfl⟩ with ⟨given, _⟩ | unmet
  · exact absurd rfl given
  · exact unmet

/-- One GPU is named and there is one, but the request names no node. -/
theorem indices_without_a_node_are_refused :
    (∃ nodeId indices, Fits ⟨1, 1, 40000, none, some [1]⟩
      [⟨7, 1, "GPU-71", 80000, 0, 0, false⟩] nodeId indices ∧ indices.length = 1) ∧
    ∃ failure, plan (fun id => s!"{id}") ⟨1, 1, 40000, none, some [1]⟩
      [⟨7, 1, "GPU-71", 80000, 0, 0, false⟩] = .error failure := by
  refine ⟨⟨7, [1], ?_, rfl⟩, _, rfl⟩
  exact {
    pinned := fun pin here => nomatch here
    named := fun _ => .refl _
    counted := fun given => nomatch given
    distinct := List.nodup_singleton 1
    usable := fun index member => by
      obtain rfl := List.mem_singleton.mp member
      exact ⟨_, List.mem_singleton.mpr rfl, rfl, rfl, by decide⟩ }

end AiPlatform.Deployments
