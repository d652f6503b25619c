import AiPlatform.DeploymentSystem

/-!
Keys over whole runs. Stored rows have distinct keys, and all their keys are
settled; what a session inserted nobody else has drawn; what it loaded is
settled.
-/

namespace AiPlatform.Deployments

section Keys

variable {system next : DeploymentSystem} {label : DeploymentLabel} {id : Nat}

theorem commit_some {i : Nat} {session : Session} {shared after : Shared}
    (commits : shared.commit i session = some after) :
    shared.storable session = true ∧ (shared.stored session).consistent = true ∧
      after = { shared.stored session with locks := shared.locks.release i } := by
  simp only [Shared.commit, Bool.and_eq_true] at commits
  split at commits
  · rename_i checks
    cases commits
    exact ⟨checks.1, checks.2, rfl⟩
  · cases commits

theorem nextId_le (transition : System.Transition system label next) :
    system.shared.nextId ≤ next.shared.nextId := by
  cases transition with
  | begin | stop | abort => exact Nat.le_refl _
  | perform i answer op rest session reply shared found reacts =>
      exact (reaction reacts).untouched.nextId
  | commit i session shared ending commits =>
      obtain ⟨_, _, rfl⟩ := commit_some commits
      exact Nat.le_refl _
  | change edit => cases edit <;> exact Nat.le_refl _

theorem live_before (transition : System.Transition system label next) {i : Nat}
    {session : Session} (live : next.Live i session) :
    session = Session.opened session.request ∨ system.Live i session ∨
      ∃ before op reply answer, label = .perform i answer ∧ system.Performing i op before ∧
        Reaction i before system.shared op reply next.shared ∧ session = before.after op reply := by
  cases transition with
  | begin j request fresh =>
      rcases Invariant.live_put live with ⟨rfl, same, _⟩ | ⟨_, before⟩
      · exact .inl (by rw [← same]; rfl)
      · exact .inr (.inl before)
  | perform j answer op rest own reply shared found reacts =>
      rcases Invariant.live_put live with ⟨rfl, rfl, _⟩ | ⟨_, before⟩
      · exact .inr (.inr ⟨own, op, reply, answer, rfl, ⟨rest, found⟩, reaction reacts, rfl⟩)
      · exact .inr (.inl before)
  | stop j op rest own found awaits =>
      rcases Invariant.live_put live with ⟨rfl, rfl, _⟩ | ⟨_, before⟩
      · exact .inr (.inl (System.Performing.live ⟨rest, found⟩))
      · exact .inr (.inl before)
  | commit j own shared ending commits =>
      rcases Invariant.live_put live with ⟨_, _, ended⟩ | ⟨_, before⟩
      · rcases ended with ended | ended <;> cases ended
      · exact .inr (.inl before)
  | abort j own was =>
      rcases Invariant.live_put live with ⟨_, _, ended⟩ | ⟨_, before⟩
      · rcases ended with ended | ended <;> cases ended
      · exact .inr (.inl before)
  | change edit => exact .inr (.inl live)

theorem Settled.step (settled : Settled system id)
    (transition : System.Transition system label next) : Settled next id := by
  refine ⟨Nat.lt_of_lt_of_le settled.below (nextId_le transition), fun i session live => ?_⟩
  rcases live_before transition live with opened | before |
    ⟨before, op, reply, _, _, was, reacts, rfl⟩
  · rw [opened]
    exact fun member => nomatch member
  · exact settled.unclaimed i session before
  · intro member
    rcases drawn_after reacts id member with old | ⟨low, _⟩
    · exact settled.unclaimed i before was.live old
    · exact absurd settled.below (Nat.not_lt.mpr low)

end Keys

structure Tracking (shared next : Shared) (before after : Session) : Prop where
  gpus : Tracks shared.gpus shared.nextId next.nextId before.gpus after.gpus
  allocations :
    Tracks shared.allocations shared.nextId next.nextId before.allocations after.allocations
  deployments :
    Tracks shared.deployments shared.nextId next.nextId before.deployments after.deployments

structure Apart (shared : Shared) (session : Session) : Prop where
  gpus : ((shared.gpusSeen session).map (·.id)).Nodup
  allocations : ((shared.allocationsSeen session).map (·.id)).Nodup
  deployments : ((shared.deploymentsSeen session).map (·.id)).Nodup

section Instances

variable {i : Nat} {session : Session} {shared next : Shared}

theorem tracking_loaded (apart : Apart shared session) (query : Query) :
    Tracking shared next session (session.loaded query (shared.rows session query)) := by
  cases query with
  | model id =>
      simp only [Shared.rows]
      cases shared.findModel session id <;> exact ⟨.same, .same, .same⟩
  | node id | nodeNamed name | nodes limit | pollable => exact ⟨.same, .same, .same⟩
  | gpusOf nodeId =>
      let found := ((shared.gpusSeen session).filter fun gpu => gpu.nodeId = nodeId).insertionSort
        fun left right => left.index ≤ right.index
      have order := List.perm_insertionSort (fun (left right : Gpu) => left.index ≤ right.index)
        ((shared.gpusSeen session).filter fun gpu => gpu.nodeId = nodeId)
      refine ⟨Tracks.finds (T := gpuTable) found ?_ fun row member new => ?_, .same, .same⟩
      · exact (order.map (·.id)).nodup_iff.mpr
          (apart.gpus.sublist (List.filter_sublist.map _))
      · exact stored_of_seen (T := gpuTable) (List.mem_of_mem_filter (order.mem_iff.mp member)) new
  | gpuByUuid uuid =>
      simp only [Shared.rows]
      cases found : (shared.gpusSeen session).find? fun gpu => gpu.uuid = uuid with
      | none => exact ⟨.same, .same, .same⟩
      | some gpu =>
          refine ⟨Tracks.finds (T := gpuTable) [gpu] (List.nodup_singleton _)
            fun row member new => ?_, .same, .same⟩
          rw [List.mem_singleton.mp member] at new ⊢
          exact stored_of_seen (T := gpuTable) (List.mem_of_find?_eq_some found) new
  | activeOn nodeId | reservation id =>
      refine ⟨.same, Tracks.finds (T := allocationTable) _ ?_ fun row member new => ?_, .same⟩
      · exact apart.allocations.sublist (List.filter_sublist.map _)
      · exact stored_of_found (T := allocationTable) (List.mem_of_mem_filter member) new
  | deployment id =>
      simp only [Shared.rows]
      cases found : (shared.deploymentsSeen session).find? fun row => row.id = id with
      | none => exact ⟨.same, .same, .same⟩
      | some row =>
          refine ⟨.same, .same, Tracks.finds (T := deploymentTable) [row] (List.nodup_singleton _)
            fun other member new => ?_⟩
          rw [List.mem_singleton.mp member] at new ⊢
          exact stored_of_found (T := deploymentTable) (List.mem_of_find?_eq_some found) new
  | pending =>
      have rows : ((shared.rows session .pending : List (ModelDeployment × Option Model)).map
          (·.1)) = ((shared.deploymentsSeen session).filter fun row => row.state.pending).map
            (instanceOf session.deployments) := by
        simp only [Shared.rows, List.map_map]
        rfl
      refine ⟨.same, .same, ?_⟩
      simp only [Session.loaded, rows]
      refine Tracks.finds (T := deploymentTable) _ ?_ fun row member new => ?_
      · exact apart.deployments.sublist (List.filter_sublist.map _)
      · exact stored_of_found (T := deploymentTable) (List.mem_of_mem_filter member) new
  | deployments =>
      refine ⟨.same, .same, Tracks.finds (T := deploymentTable) _ ?_ fun row member new => ?_⟩
      · exact apart.deployments
      · exact stored_of_found (T := deploymentTable) member new

theorem tracking_written (write : Write) :
    Tracking shared next session (session.written write) := by
  cases write with
  | assignNode node assignment => exact ⟨.same, .same, .same⟩
  | assignGpu gpuId assignment =>
      exact ⟨Tracks.assigns (T := gpuTable) gpuId assignment .same, .same, .same⟩
  | releaseAllocation allocationId =>
      exact ⟨.same, Tracks.assigns (T := allocationTable) allocationId .released .same, .same⟩
  | assignDeployment deploymentId assignment =>
      exact ⟨.same, .same, Tracks.assigns (T := deploymentTable) deploymentId assignment .same⟩
  | recordFailure deploymentId =>
      exact ⟨.same, .same, Tracks.assigns (T := deploymentTable) deploymentId _
        (Tracks.assigns (T := deploymentTable) deploymentId _ .same)⟩
  | deleteDeployment deploymentId => exact ⟨.same, .same, .same⟩
  | deleteNode nodeId => exact ⟨.same, .same, .same⟩

theorem ids_reservedRows (shared : Shared) (nodeId : Nat) (devices : List (Int × Nat))
    (purpose : String) (reservedBy : Option Nat) :
    ((shared.reservedRows nodeId devices purpose reservedBy).map (·.id)).Nodup := by
  have ids : (shared.reservedRows nodeId devices purpose reservedBy).map (·.id) =
      (List.range' 0 devices.length).map (shared.nextId + 1 + ·) := by
    rw [← List.zipIdx_map_snd, Shared.reservedRows, List.map_map, List.map_map]
    rfl
  rw [ids]
  have distinct : (List.range' 0 devices.length 1).Nodup := List.nodup_range'
  exact distinct.map fun left right same => by omega

theorem tracking {op : Op} {reply : Reply op} (reacts : Reaction i session shared op reply next)
    (apart : Apart shared session) : Tracking shared next session (session.after op reply) := by
  cases reacts with
  | read query => exact tracking_loaded apart query
  | write write => exact tracking_written write
  | telemetry | refused | flush | called | serving => exact ⟨.same, .same, .same⟩
  | insert draft =>
      cases draft with
      | node draft => exact ⟨.same, .same, .same⟩
      | gpu draft =>
          refine ⟨Tracks.inserts (T := gpuTable) [{ draft with id := shared.nextId }]
            (List.nodup_singleton _) fun row member => ?_, .same, .same⟩
          rw [List.mem_singleton.mp member]
          exact ⟨Nat.le_refl _, Nat.lt_succ_self _⟩
      | deployment draft =>
          refine ⟨.same, .same, Tracks.inserts (T := deploymentTable)
            [{ draft with id := shared.nextId }] (List.nodup_singleton _) fun row member => ?_⟩
          rw [List.mem_singleton.mp member]
          exact ⟨Nat.le_refl _, Nat.lt_succ_self _⟩
  | claimed nodeId devices purpose reservedBy free accepts =>
      refine ⟨.same, Tracks.inserts (T := allocationTable) _ (ids_reservedRows ..)
        fun row member => ?_, .same⟩
      obtain ⟨_, _, _, low, high, _⟩ := mem_reservedRows member
      exact ⟨Nat.le_of_lt low, high⟩

end Instances

def Session.seen (session : Session) : List Nat :=
  (session.gpus.filter fun tracked => !tracked.inserted).map (·.key) ++
    (session.allocations.filter fun tracked => !tracked.inserted).map (·.key) ++
      (session.deployments.filter fun tracked => !tracked.inserted).map (·.key)

structure Session.Distinct (session : Session) : Prop where
  gpus : (session.gpus.map (·.key)).Nodup
  allocations : (session.allocations.map (·.key)).Nodup
  deployments : (session.deployments.map (·.key)).Nodup

structure Shared.Distinct (shared : Shared) : Prop where
  gpus : (shared.gpus.map (·.id)).Nodup
  allocations : (shared.allocations.map (·.id)).Nodup
  deployments : (shared.deployments.map (·.id)).Nodup

structure Fresh (system : DeploymentSystem) : Prop where
  stored : ∀ id ∈ system.shared.ids, Settled system id
  distinct : system.shared.Distinct
  drawn : ∀ i session, system.Live i session → ∀ id ∈ session.drawn, id < system.shared.nextId ∧
    ∀ j other, system.Live j other → id ∈ other.drawn → j = i
  seen : ∀ i session, system.Live i session → ∀ id ∈ session.seen, Settled system id
  sessions : ∀ i session, system.Live i session → session.Distinct

section Fresh

variable {system next : DeploymentSystem} {label : DeploymentLabel}

theorem mem_ids_gpu {shared : Shared} {gpu : Gpu} (member : gpu ∈ shared.gpus) :
    gpu.id ∈ shared.ids := by
  simp only [Shared.ids, List.mem_append]
  exact .inl (.inl (.inl (List.mem_map_of_mem member)))

theorem mem_ids_allocation {shared : Shared} {allocation : GpuAllocation}
    (member : allocation ∈ shared.allocations) : allocation.id ∈ shared.ids := by
  simp only [Shared.ids, List.mem_append]
  exact .inl (.inl (.inr (List.mem_map_of_mem member)))

theorem mem_ids_reservation {shared : Shared} {allocation : GpuAllocation}
    (member : allocation ∈ shared.allocations) : allocation.reservationId ∈ shared.ids := by
  simp only [Shared.ids, List.mem_append]
  exact .inl (.inr (List.mem_map_of_mem member))

theorem mem_ids_deployment {shared : Shared} {row : ModelDeployment}
    (member : row ∈ shared.deployments) : row.id ∈ shared.ids := by
  simp only [Shared.ids, List.mem_append]
  exact .inr (List.mem_map_of_mem member)

theorem mem_drawn_gpu {session : Session} {gpu : Gpu} (member : gpu ∈ inserted session.gpus) :
    gpu.id ∈ session.drawn := by
  simp only [Session.drawn, List.mem_append]
  exact .inl (.inl (.inl (List.mem_map_of_mem member)))

theorem mem_drawn_allocation {session : Session} {allocation : GpuAllocation}
    (member : allocation ∈ inserted session.allocations) : allocation.id ∈ session.drawn := by
  simp only [Session.drawn, List.mem_append]
  exact .inl (.inl (.inr (List.mem_map_of_mem member)))

theorem mem_drawn_reservation {session : Session} {allocation : GpuAllocation}
    (member : allocation ∈ inserted session.allocations) :
    allocation.reservationId ∈ session.drawn := by
  simp only [Session.drawn, List.mem_append]
  exact .inl (.inr (List.mem_map_of_mem member))

theorem mem_drawn_deployment {session : Session} {row : ModelDeployment}
    (member : row ∈ inserted session.deployments) : row.id ∈ session.drawn := by
  simp only [Session.drawn, List.mem_append]
  exact .inr (List.mem_map_of_mem member)

theorem mem_seen_gpu {session : Session} {tracked : Tracked gpuTable}
    (member : tracked ∈ session.gpus) (loaded : tracked.inserted = false) :
    tracked.key ∈ session.seen := by
  simp only [Session.seen, List.mem_append]
  exact .inl (.inl (List.mem_map_of_mem (List.mem_filter.mpr ⟨member, by simp [loaded]⟩)))

theorem mem_seen_allocation {session : Session} {tracked : Tracked allocationTable}
    (member : tracked ∈ session.allocations) (loaded : tracked.inserted = false) :
    tracked.key ∈ session.seen := by
  simp only [Session.seen, List.mem_append]
  exact .inl (.inr (List.mem_map_of_mem (List.mem_filter.mpr ⟨member, by simp [loaded]⟩)))

theorem mem_seen_deployment {session : Session} {tracked : Tracked deploymentTable}
    (member : tracked ∈ session.deployments) (loaded : tracked.inserted = false) :
    tracked.key ∈ session.seen := by
  simp only [Session.seen, List.mem_append]
  exact .inr (List.mem_map_of_mem (List.mem_filter.mpr ⟨member, by simp [loaded]⟩))

theorem Fresh.unloaded (fresh : Fresh system) {i j : Nat} {session other : Session}
    (live : system.Live i session) (inserts : system.Live j other) {id drawn : Nat}
    (seen : id ∈ session.seen) (own : drawn ∈ other.drawn) : drawn ≠ id := by
  intro same
  exact (fresh.seen i session live id seen).unclaimed j other inserts (same ▸ own)

theorem Fresh.foreign (fresh : Fresh system) {i : Nat} {session : Session}
    (live : system.Live i session) {drawn id : Nat} (own : drawn ∈ session.drawn)
    (stored : id ∈ system.shared.ids) : id ≠ drawn := by
  intro same
  exact (fresh.stored id stored).unclaimed i session live (same ▸ own)

theorem Fresh.apart (fresh : Fresh system) {i : Nat} {session : Session}
    (live : system.Live i session) : Apart system.shared session := by
  have own := fresh.sessions i session live
  constructor
  · refine Tracked.store_nodup (T := gpuTable) fresh.distinct.gpus own.gpus ?_
    intro tracked member new row stored
    rw [← Tracked.key_row tracked]
    exact fresh.foreign live
      (mem_drawn_gpu (mem_inserted (T := gpuTable).mpr ⟨tracked, member, new, rfl⟩))
      (mem_ids_gpu stored)
  · exact found_distinct (T := allocationTable) fresh.distinct.allocations own.allocations
      fun row listed other stored =>
        fresh.foreign live (mem_drawn_allocation listed) (mem_ids_allocation stored)
  · exact found_distinct (T := deploymentTable) fresh.distinct.deployments own.deployments
      fun row listed other stored =>
        fresh.foreign live (mem_drawn_deployment listed) (mem_ids_deployment stored)

theorem Fresh.key_below (fresh : Fresh system) {i : Nat} {session : Session}
    (live : system.Live i session) :
    (∀ tracked ∈ session.gpus, tracked.key < system.shared.nextId) ∧
      (∀ tracked ∈ session.allocations, tracked.key < system.shared.nextId) ∧
        ∀ tracked ∈ session.deployments, tracked.key < system.shared.nextId := by
  refine ⟨fun tracked member => ?_, fun tracked member => ?_, fun tracked member => ?_⟩
  · cases kind : tracked.inserted with
    | true =>
        have row := mem_inserted (T := gpuTable).mpr ⟨tracked, member, kind, rfl⟩
        rw [← Tracked.key_row tracked]
        exact (fresh.drawn i session live _ (mem_drawn_gpu row)).1
    | false => exact (fresh.seen i session live _ (mem_seen_gpu member kind)).below
  · cases kind : tracked.inserted with
    | true =>
        have row := mem_inserted (T := allocationTable).mpr ⟨tracked, member, kind, rfl⟩
        rw [← Tracked.key_row tracked]
        exact (fresh.drawn i session live _ (mem_drawn_allocation row)).1
    | false => exact (fresh.seen i session live _ (mem_seen_allocation member kind)).below
  · cases kind : tracked.inserted with
    | true =>
        have row := mem_inserted (T := deploymentTable).mpr ⟨tracked, member, kind, rfl⟩
        rw [← Tracked.key_row tracked]
        exact (fresh.drawn i session live _ (mem_drawn_deployment row)).1
    | false => exact (fresh.seen i session live _ (mem_seen_deployment member kind)).below

theorem seen_after {shared after : Shared} {before session : Session}
    (tracking : Tracking shared after before session) :
    ∀ id ∈ session.seen, id ∈ before.seen ∨ id ∈ shared.ids := by
  intro id member
  simp only [Session.seen, List.mem_append, List.mem_map, List.mem_filter] at member ⊢
  rcases member with (⟨tracked, ⟨listed, kind⟩, rfl⟩ | ⟨tracked, ⟨listed, kind⟩, rfl⟩) |
    ⟨tracked, ⟨listed, kind⟩, rfl⟩
  · rcases tracking.gpus.origin tracked listed with ⟨old, was, original, same⟩ | ⟨_, stored⟩ |
      ⟨new, _⟩
    · exact .inl (.inl (.inl ⟨old, ⟨was, same ▸ kind⟩, by rw [Tracked.key, original, Tracked.key]⟩))
    · exact .inr (mem_ids_gpu stored)
    · simp [new] at kind
  · rcases tracking.allocations.origin tracked listed with ⟨old, was, original, same⟩ |
      ⟨_, stored⟩ | ⟨new, _⟩
    · exact .inl (.inl (.inr ⟨old, ⟨was, same ▸ kind⟩, by rw [Tracked.key, original, Tracked.key]⟩))
    · exact .inr (mem_ids_allocation stored)
    · simp [new] at kind
  · rcases tracking.deployments.origin tracked listed with ⟨old, was, original, same⟩ |
      ⟨_, stored⟩ | ⟨new, _⟩
    · exact .inl (.inr ⟨old, ⟨was, same ▸ kind⟩, by rw [Tracked.key, original, Tracked.key]⟩)
    · exact .inr (mem_ids_deployment stored)
    · simp [new] at kind

theorem drawn_before (transition : System.Transition system label next) {i : Nat}
    {session : Session} (live : next.Live i session) {id : Nat} (member : id ∈ session.drawn) :
    (∃ before, system.Live i before ∧ id ∈ before.drawn) ∨
      (system.shared.nextId ≤ id ∧ id < next.shared.nextId ∧ ∃ answer, label = .perform i answer) := by
  rcases live_before transition live with opened | before |
    ⟨before, op, reply, answer, performed, was, reacts, rfl⟩
  · rw [opened] at member
    cases member
  · exact .inl ⟨session, before, member⟩
  · rcases drawn_after reacts id member with old | ⟨low, high⟩
    · exact .inl ⟨before, was.live, old⟩
    · exact .inr ⟨low, high, answer, performed⟩

theorem ids_stored {shared : Shared} {session : Session} :
    ∀ id ∈ (shared.stored session).ids, id ∈ shared.ids ∨ id ∈ session.drawn := by
  intro id member
  simp only [Shared.ids, Shared.stored, List.mem_append, List.mem_map] at member
  rcases member with ((⟨gpu, listed, rfl⟩ | ⟨row, listed, rfl⟩) | ⟨row, listed, rfl⟩) |
    ⟨row, listed, rfl⟩
  · rcases mem_gpusAfter listed with ⟨old, stored, same, _⟩ | own
    · exact .inl (same ▸ mem_ids_gpu stored)
    · exact .inr (mem_drawn_gpu own)
  · rcases (mem_allocationsAfter listed).2.2 with ⟨old, stored, same, _⟩ | ⟨new, own, same, _⟩
    · exact .inl (same.id ▸ mem_ids_allocation stored)
    · exact .inr (same.id ▸ mem_drawn_allocation own)
  · rcases (mem_allocationsAfter listed).2.2 with ⟨old, stored, same, _⟩ | ⟨new, own, same, _⟩
    · exact .inl (same.reservationId ▸ mem_ids_reservation stored)
    · exact .inr (same.reservationId ▸ mem_drawn_reservation own)
  · rcases (mem_deploymentsAfter listed).2.2 with ⟨old, stored, same, _⟩ | own
    · exact .inl (same ▸ mem_ids_deployment stored)
    · exact .inr (mem_drawn_deployment own)

theorem Fresh.stored_distinct (fresh : Fresh system) {i : Nat} {session : Session}
    (live : system.Live i session) : (system.shared.stored session).Distinct := by
  have own := fresh.sessions i session live
  constructor
  · exact AiPlatform.stored_distinct (T := gpuTable) fresh.distinct.gpus own.gpus
      (fun row listed other stored => fresh.foreign live (mem_drawn_gpu listed)
        (mem_ids_gpu stored)) _
  · simp only [Shared.stored, Shared.allocationsAfter, List.map_map]
    exact AiPlatform.stored_distinct (T := allocationTable) fresh.distinct.allocations
      own.allocations (fun row listed other stored =>
        fresh.foreign live (mem_drawn_allocation listed) (mem_ids_allocation stored)) _
  · exact AiPlatform.stored_distinct (T := deploymentTable) fresh.distinct.deployments
      own.deployments (fun row listed other stored =>
        fresh.foreign live (mem_drawn_deployment listed) (mem_ids_deployment stored)) _

theorem stored_before (fresh : Fresh system) (transition : System.Transition system label next) :
    next.shared.Distinct ∧ ∀ id ∈ next.shared.ids, id ∈ system.shared.ids ∨
      ∃ i session, system.Live i session ∧ id ∈ session.drawn ∧
        ∀ j other, next.Live j other → j ≠ i := by
  cases transition with
  | begin | stop | abort =>
      exact ⟨⟨fresh.distinct.gpus, fresh.distinct.allocations, fresh.distinct.deployments⟩,
        fun id member => .inl member⟩
  | perform i answer op rest session reply shared found reacts =>
      have same := (reaction reacts).untouched
      refine ⟨?_, fun id member => .inl ?_⟩
      · exact ⟨by rw [System.put_shared, same.gpus]; exact fresh.distinct.gpus,
          by rw [System.put_shared, same.allocations]; exact fresh.distinct.allocations,
          by rw [System.put_shared, same.deployments]; exact fresh.distinct.deployments⟩
      · simpa [Shared.ids, same.gpus, same.allocations, same.deployments] using member
  | commit i session shared ending commits =>
      obtain ⟨_, _, rfl⟩ := commit_some commits
      refine ⟨?_, fun id member => ?_⟩
      · have distinct := fresh.stored_distinct ending.live
        exact ⟨distinct.gpus, distinct.allocations, distinct.deployments⟩
      · rcases ids_stored id member with old | drawn
        · exact .inl old
        · refine .inr ⟨i, session, ending.live, drawn, fun j other live same => ?_⟩
          rcases Invariant.live_put live with ⟨_, _, ended⟩ | ⟨different, _⟩
          · rcases ended with ended | ended <;> cases ended
          · exact different same
  | change edit =>
      cases edit <;>
        exact ⟨⟨fresh.distinct.gpus, fresh.distinct.allocations, fresh.distinct.deployments⟩,
          fun id member => .inl member⟩

theorem Fresh.settles (fresh : Fresh system) (transition : System.Transition system label next)
    {i : Nat} {session : Session} (live : system.Live i session) {id : Nat}
    (drawn : id ∈ session.drawn) (gone : ∀ j other, next.Live j other → j ≠ i) :
    Settled next id := by
  obtain ⟨below, own⟩ := fresh.drawn i session live id drawn
  refine ⟨Nat.lt_of_lt_of_le below (nextId_le transition), fun j other alive claimed => ?_⟩
  rcases drawn_before transition alive claimed with ⟨before, was, held⟩ | ⟨low, _⟩
  · exact gone j other alive (own j before was held)
  · exact absurd below (Nat.not_lt.mpr low)

theorem Fresh.step (fresh : Fresh system) (transition : System.Transition system label next) :
    Fresh next := by
  obtain ⟨distinct, ids⟩ := stored_before fresh transition
  constructor
  · intro id member
    rcases ids id member with old | ⟨i, session, live, drawn, gone⟩
    · exact (fresh.stored id old).step transition
    · exact fresh.settles transition live drawn gone
  · exact distinct
  · intro i session live id member
    rcases drawn_before transition live member with ⟨before, was, held⟩ | ⟨low, high, answer, rfl⟩
    · obtain ⟨below, own⟩ := fresh.drawn i before was id held
      refine ⟨Nat.lt_of_lt_of_le below (nextId_le transition), fun j other alive claimed => ?_⟩
      rcases drawn_before transition alive claimed with ⟨earlier, there, has⟩ | ⟨low, _⟩
      · exact own j earlier there has
      · exact absurd below (Nat.not_lt.mpr low)
    · refine ⟨high, fun j other alive claimed => ?_⟩
      rcases drawn_before transition alive claimed with ⟨earlier, there, has⟩ |
        ⟨_, _, answer', same⟩
      · exact absurd (fresh.drawn j earlier there id has).1 (Nat.not_lt.mpr low)
      · cases same
        rfl
  · intro i session live id member
    rcases live_before transition live with opened | before |
      ⟨before, op, reply, answer, performed, was, reacts, rfl⟩
    · rw [opened] at member
      cases member
    · exact (fresh.seen i session before id member).step transition
    · rcases seen_after (tracking reacts (fresh.apart was.live)) id member with old | stored
      · exact (fresh.seen i before was.live id old).step transition
      · exact (fresh.stored id stored).step transition
  · intro i session live
    rcases live_before transition live with opened | before |
      ⟨before, op, reply, answer, performed, was, reacts, rfl⟩
    · rw [opened]
      exact ⟨List.nodup_nil, List.nodup_nil, List.nodup_nil⟩
    · exact fresh.sessions i session before
    · have own := fresh.sessions i before was.live
      have tracks := tracking reacts (fresh.apart was.live)
      obtain ⟨gpus, allocations, deployments⟩ := fresh.key_below was.live
      exact ⟨tracks.gpus.distinct own.gpus gpus,
        tracks.allocations.distinct own.allocations allocations,
        tracks.deployments.distinct own.deployments deployments⟩

def start : DeploymentSystem := ⟨Shared.empty, fun _ => none⟩

theorem fresh_reached {ok : DeploymentSystem → DeploymentLabel → Prop} (system : DeploymentSystem)
    (reached : System.Reaches ok start system) : Fresh system := by
  refine System.reaches_induction Fresh ?_ ?_ system reached
  · have idle : ∀ i session, ¬start.Live i session := by
      rintro i session ⟨process, found, _⟩
      cases found
    exact ⟨fun _ member => (nomatch member), ⟨List.nodup_nil, List.nodup_nil, List.nodup_nil⟩,
      fun i session live => absurd live (idle i session),
      fun i session live => absurd live (idle i session),
      fun i session live => absurd live (idle i session)⟩
  · exact fun system label next _ fresh _ transition => fresh.step transition

end Fresh

end AiPlatform.Deployments
