import AiPlatform.GpuReservations

/-!
Placements and containers. A deployment is stored with the GPUs that were
claimed for it, and a container is created for the GPUs of a stored deployment.
The allocations of a placement stay active until a transaction ends the
deployment, whatever happens to the container.
-/

namespace AiPlatform.Deployments

def Placed.Of (placed : Placed) (row : ModelDeployment) : Prop :=
  placed.deploymentId = row.id ∧ row.nodeId = some placed.nodeId ∧
    placed.gpuIndices = row.gpuIndices ∧
      ∀ reservation, row.reservationId = some reservation → reservation = placed.reservationId

def PlacedIn (placements : List Placed) (row : ModelDeployment) : Prop :=
  (row.gpuIndices = [] ∧ row.reservationId = none) ∨ ∃ placed ∈ placements, placed.Of row

def Session.Backs (session : Session) (row : ModelDeployment) : Prop :=
  (row.gpuIndices = [] ∧ row.reservationId = none) ∨ ∃ nodeId reservation,
    row.nodeId = some nodeId ∧ row.reservationId = some reservation ∧ row.gpuIndices ≠ [] ∧
      taken reservation (inserted session.allocations) = row.gpuIndices.map (Prod.mk nodeId)

structure PlacementBooks (system : DeploymentSystem) : Prop where
  settled : ∀ placed ∈ system.shared.placements,
    Settled system placed.deploymentId ∧ Settled system placed.reservationId
  nonempty : ∀ placed ∈ system.shared.placements, placed.gpuIndices ≠ []
  unique : ∀ placed ∈ system.shared.placements, ∀ other ∈ system.shared.placements,
    placed.deploymentId = other.deploymentId ∨ placed.reservationId = other.reservationId →
      placed = other
  rows : ∀ row ∈ system.shared.deployments, PlacedIn system.shared.placements row
  originals : ∀ i session, System.Live system i session → ∀ tracked ∈ session.deployments,
    tracked.inserted = false → PlacedIn system.shared.placements tracked.original
  backed : ∀ i session, System.Live system i session → ∀ row ∈ inserted session.deployments,
    row.state.ended = false ∧ session.Backs row

section Books

variable {system next : DeploymentSystem} {label : DeploymentLabel} {i : Nat} {session : Session}
  {shared after : Shared} {op : Op} {reply : Reply op}

theorem PlacedIn.grow {placements later : List Placed} {row : ModelDeployment}
    (placed : PlacedIn placements row) (more : ∀ placed ∈ placements, placed ∈ later) :
    PlacedIn later row :=
  placed.imp_right fun ⟨placed, member, own⟩ => ⟨placed, more placed member, own⟩

theorem placements_grow (transition : System.Transition system label next) :
    ∀ placed ∈ system.shared.placements, placed ∈ next.shared.placements := by
  intro placed member
  cases transition with
  | begin | stop | abort => exact member
  | perform i answer op rest session reply shared found reacts =>
      rw [System.put_shared, (reaction reacts).untouched.placements]
      exact member
  | commit i session shared ending commits =>
      obtain ⟨_, _, rfl⟩ := commit_some commits
      exact List.mem_append_left _ member
  | change edit => cases edit <;> exact member

theorem mem_placed {placed : Placed} (member : placed ∈ Shared.placed session) :
    ∃ row ∈ inserted session.deployments, row.id = placed.deploymentId ∧
      row.nodeId = some placed.nodeId ∧ row.gpuIndices = placed.gpuIndices ∧
        row.reservationId = some placed.reservationId := by
  obtain ⟨row, listed, same⟩ := List.mem_filterMap.mp member
  refine ⟨row, listed, ?_⟩
  split at same
  · rename_i nodeId reservation node holds
    cases same
    exact ⟨rfl, node, rfl, holds⟩
  · cases same

theorem placed_of {row : ModelDeployment} (member : row ∈ inserted session.deployments)
    {nodeId reservation : Nat} (node : row.nodeId = some nodeId)
    (holds : row.reservationId = some reservation) :
    ⟨row.id, nodeId, row.gpuIndices, reservation⟩ ∈ Shared.placed session := by
  refine List.mem_filterMap.mpr ⟨row, member, ?_⟩
  simp only [node, holds]

theorem placedIn_update (orderly : session.Orderly) {placements : List Placed}
    {row : ModelDeployment} (placed : PlacedIn placements row) :
    PlacedIn placements (Tracked.update (T := deploymentTable) session.deployments row) := by
  have kept : ∀ assigned : List DeploymentAssignment,
      ModelDeployment.id (Tracked.replay (T := deploymentTable) assigned row) = row.id ∧
        ModelDeployment.nodeId (Tracked.replay (T := deploymentTable) assigned row) = row.nodeId ∧
          ModelDeployment.gpuIndices (Tracked.replay (T := deploymentTable) assigned row) =
            row.gpuIndices := by
    intro assigned
    refine Tracked.replay_keeps (T := deploymentTable) (fun other : ModelDeployment =>
      other.id = row.id ∧ other.nodeId = row.nodeId ∧ other.gpuIndices = row.gpuIndices) assigned
        row ⟨rfl, rfl, rfl⟩ ?_
    rintro assignment _ other ⟨id, node, indices⟩
    exact ⟨(deploymentTable.key_apply assignment other).trans id,
      (apply_nodeId assignment other).trans node,
      (apply_gpuIndices assignment other).trans indices⟩
  have reservation := update_reservation orderly row
  rcases Tracked.update_cases (T := deploymentTable) session.deployments row with
    ⟨same, _⟩ | ⟨tracked, _, _, _, written⟩
  · rwa [same]
  · obtain ⟨id, node, indices⟩ := kept tracked.assigned
    rw [written] at reservation ⊢
    rcases placed with ⟨none, unreserved⟩ | ⟨placed, member, own, onNode, same, holds⟩
    · refine .inl ⟨indices.trans none, ?_⟩
      rcases reservation with kept | dropped
      · exact kept.trans unreserved
      · exact dropped
    · refine .inr ⟨placed, member, own.trans id.symm, node.trans onNode, same.trans indices.symm,
        fun other held => holds other ?_⟩
      rcases reservation with kept | dropped
      · exact kept.symm.trans held
      · cases dropped.symm.trans held

theorem backs_after (orderly : session.Orderly) (permitted : session.Permits op)
    (reacts : Reaction i session shared op reply after)
    (below : ∀ row ∈ inserted session.allocations, row.reservationId < shared.nextId)
    {row : ModelDeployment} (backs : session.Backs row) :
    (session.after op reply).Backs row := by
  refine backs.imp_right ?_
  rintro ⟨nodeId, reservation, node, holds, nonempty, same⟩
  refine ⟨nodeId, reservation, node, holds, nonempty, ?_⟩
  cases claiming orderly permitted reacts with
  | kept held rows locks claims =>
      rw [rows]
      exact same
  | claimed claimedNode devices purpose reservedBy claims free accepts held rows =>
      rw [rows, taken_append, same]
      rw [taken_none fun other member own => ?_, List.append_nil]
      have nonempty : taken reservation (inserted session.allocations) ≠ [] := by
        rw [same]
        exact fun none => nonempty (List.map_eq_nil_iff.mp none)
      obtain ⟨key, listed⟩ := List.exists_mem_of_ne_nil _ nonempty
      obtain ⟨old, found, _⟩ := List.mem_map.mp listed
      obtain ⟨own', keyed⟩ := List.mem_filter.mp found
      have low := below old own'
      rw [of_decide_eq_true keyed, ← own, (mem_reservedRows member).2.1] at low
      exact absurd low (Nat.lt_irrefl _)

theorem placeable_backs {draft : ModelDeployment} (placeable : session.Placeable draft) (id : Nat) :
    session.Backs { draft with id := id } := by
  have backed := placeable.2
  cases holds : draft.reservationId with
  | none =>
      rw [holds] at backed
      exact .inl ⟨backed, rfl⟩
  | some reservation =>
      rw [holds] at backed
      obtain ⟨nonempty, nodeId, node, indices, own⟩ := backed
      refine .inr ⟨nodeId, reservation, node, rfl, nonempty, ?_⟩
      rw [taken_all fun row listed => (own row listed).2.1]
      simp only
      rw [← indices, List.map_map]
      exact List.map_congr_left fun row listed => Prod.ext (own row listed).1 rfl

theorem PlacementBooks.backed_step (books : PlacementBooks system) (ordered : Ordered system)
    (transition : System.Transition system label next) (live : System.Live next i session) :
    ∀ row ∈ inserted session.deployments, row.state.ended = false ∧ session.Backs row := by
  intro row member
  rcases live_before transition live with new | before |
    ⟨before, op, reply, answer, performed, performing, reacts, rfl⟩
  · rw [new] at member
    cases member
  · exact books.backed i session before row member
  · have orderly := ordered.orderly i before performing.live
    have permitted := ordered.permits performing
    have stays {row : ModelDeployment} (backs : before.Backs row) :
        (Session.after before op reply).Backs row :=
      backs_after orderly permitted reacts (fun row listed =>
        (ordered.fresh.drawn i before performing.live _ (mem_drawn_reservation listed)).1) backs
    rcases drafted_after orderly permitted reacts row member with old | ⟨draft, inserts, rfl⟩
    · obtain ⟨alive, backs⟩ := books.backed i before performing.live row old
      exact ⟨alive, stays backs⟩
    · subst inserts
      exact ⟨permitted.2.2.1, stays (placeable_backs permitted.2.2 _)⟩

theorem PlacementBooks.loaded_step (books : PlacementBooks system)
    (transition : System.Transition system label next) (live : System.Live next i session) :
    ∀ tracked ∈ session.deployments, tracked.inserted = false →
      PlacedIn next.shared.placements tracked.original := by
  intro tracked member kind
  have more := placements_grow transition
  rcases live_before transition live with new | before |
    ⟨before, op, reply, answer, performed, performing, reacts, rfl⟩
  · rw [new] at member
    cases member
  · exact (books.originals i session before tracked member kind).grow more
  · cases turned reacts tracked member with
    | kept old _ there altered =>
        rw [altered.original]
        exact (books.originals i before performing.live old there
          (altered.inserted.symm.trans kind)).grow more
    | loaded row query stored => exact (books.rows row stored).grow more
    | inserted draft inserts => cases kind

theorem placed_single (orderly : session.Orderly) (distinct : session.Distinct)
    {placed other : Placed} (here : placed ∈ Shared.placed session)
    (there : other ∈ Shared.placed session) : placed = other := by
  obtain ⟨row, listed, id, node, indices, holds⟩ := mem_placed here
  obtain ⟨row', listed', id', node', indices', holds'⟩ := mem_placed there
  obtain ⟨tracked, member, kind, rfl⟩ := mem_inserted (T := deploymentTable).mp listed
  obtain ⟨tracked', member', kind', rfl⟩ := mem_inserted (T := deploymentTable).mp listed'
  have one : tracked = tracked' := List.inj_on_of_nodup_map distinct.deployments member member'
    (orderly.single tracked member tracked' member' kind kind')
  subst one
  rw [node] at node'
  rw [holds] at holds'
  cases placed
  cases other
  cases node'
  cases holds'
  simp only at id id' indices indices'
  subst id id' indices indices'
  rfl

theorem PlacementBooks.commits (books : PlacementBooks system) (ordered : Ordered system)
    (live : System.Live system i session) (transition : System.Transition system label next)
    (gone : ∀ j other, System.Live next j other → j ≠ i) :
    (∀ placed ∈ system.shared.placements ++ Shared.placed session,
        Settled next placed.deploymentId ∧ Settled next placed.reservationId) ∧
      (∀ placed ∈ system.shared.placements ++ Shared.placed session, placed.gpuIndices ≠ []) ∧
        ∀ placed ∈ system.shared.placements ++ Shared.placed session,
          ∀ other ∈ system.shared.placements ++ Shared.placed session,
            placed.deploymentId = other.deploymentId ∨ placed.reservationId = other.reservationId →
              placed = other := by
  have backed (placed : Placed) (member : placed ∈ Shared.placed session) :
      placed.deploymentId ∈ session.drawn ∧ placed.reservationId ∈ session.drawn ∧
        placed.gpuIndices ≠ [] := by
    obtain ⟨row, listed, id, node, indices, holds⟩ := mem_placed member
    rcases (books.backed i session live row listed).2 with ⟨_, none⟩ |
      ⟨nodeId, reservation, _, own, nonempty, same⟩
    · rw [none] at holds
      cases holds
    · cases own.symm.trans holds
      have claimed : taken placed.reservationId (inserted session.allocations) ≠ [] := by
        rw [same]
        exact fun none => nonempty (List.map_eq_nil_iff.mp none)
      obtain ⟨key, found⟩ := List.exists_mem_of_ne_nil _ claimed
      obtain ⟨allocation, filtered, _⟩ := List.mem_map.mp found
      obtain ⟨there, keyed⟩ := List.mem_filter.mp filtered
      refine ⟨id ▸ mem_drawn_deployment listed, ?_, indices ▸ nonempty⟩
      exact of_decide_eq_true keyed ▸ mem_drawn_reservation there
  have apart (old : Placed) (before : old ∈ system.shared.placements) (new : Placed)
      (member : new ∈ Shared.placed session) :
      old.deploymentId ≠ new.deploymentId ∧ old.reservationId ≠ new.reservationId := by
    obtain ⟨deployment, reservation⟩ := books.settled old before
    obtain ⟨id, claimed, _⟩ := backed new member
    exact ⟨fun same => deployment.unclaimed i session live (same ▸ id),
      fun same => reservation.unclaimed i session live (same ▸ claimed)⟩
  refine ⟨fun placed member => ?_, fun placed member => ?_, fun placed member other listed same => ?_⟩
  · rcases List.mem_append.mp member with old | new
    · obtain ⟨deployment, reservation⟩ := books.settled placed old
      exact ⟨deployment.step transition, reservation.step transition⟩
    · obtain ⟨id, claimed, _⟩ := backed placed new
      exact ⟨ordered.fresh.settles transition live id gone,
        ordered.fresh.settles transition live claimed gone⟩
  · rcases List.mem_append.mp member with old | new
    · exact books.nonempty placed old
    · exact (backed placed new).2.2
  · rcases List.mem_append.mp member with old | new <;>
      rcases List.mem_append.mp listed with before | drawn
    · exact books.unique placed old other before same
    · have different := apart placed old other drawn
      exact absurd same (by simp [different])
    · have different := apart other before placed new
      exact absurd same (by simp [different.1.symm, different.2.symm])
    · exact placed_single (ordered.orderly i session live) (ordered.fresh.sessions i session live)
        new drawn

theorem books_reached {ok : DeploymentSystem → DeploymentLabel → Prop}
    (system : DeploymentSystem) (reached : System.Reaches ok start system) :
    PlacementBooks system := by
  refine System.reaches_induction (M := deploymentMachine) PlacementBooks ?_ ?_ system reached
  · have idle : ∀ i session, ¬System.Live start i session := by
      rintro i session ⟨process, found, _⟩
      cases found
    exact ⟨by rintro _ ⟨⟩, by rintro _ ⟨⟩, by rintro _ ⟨⟩, by rintro _ ⟨⟩,
      fun i session live => absurd live (idle i session),
      fun i session live => absurd live (idle i session)⟩
  intro system label next reached books _ transition
  have ordered := ordered_reached system reached
  have loaded : ∀ i session, System.Live next i session → ∀ tracked ∈ session.deployments,
      tracked.inserted = false → PlacedIn next.shared.placements tracked.original :=
    fun i session live => books.loaded_step transition live
  have backed : ∀ i session, System.Live next i session → ∀ row ∈ inserted session.deployments,
      row.state.ended = false ∧ session.Backs row :=
    fun i session live => books.backed_step ordered transition live
  have unchanged (placements : next.shared.placements = system.shared.placements)
      (rows : next.shared.deployments = system.shared.deployments) : PlacementBooks next := by
    refine ⟨?_, ?_, ?_, ?_, loaded, backed⟩
    · rw [placements]
      exact fun placed member => ⟨(books.settled placed member).1.step transition,
        (books.settled placed member).2.step transition⟩
    · rw [placements]
      exact books.nonempty
    · rw [placements]
      exact books.unique
    · rw [placements, rows]
      exact books.rows
  cases transition with
  | begin | stop | abort => exact unchanged rfl rfl
  | perform i answer op rest session reply shared found reacts =>
      have same := (reaction reacts).untouched
      exact unchanged same.placements same.deployments
  | change edit => cases edit <;> exact unchanged rfl rfl
  | commit i session shared ending commits =>
      have transition : System.Transition system (.commit i)
          (System.put system i ⟨.done (), session, .committed⟩ shared) :=
        .commit i session shared ending commits
      obtain ⟨settled, nonempty, unique⟩ := books.commits ordered ending.live transition
        fun j other live same => by
          rcases Invariant.live_put live with ⟨_, _, ended⟩ | ⟨different, _⟩
          · rcases ended with ended | ended <;> cases ended
          · exact different same
      obtain ⟨_, _, rfl⟩ := commit_some commits
      refine ⟨settled, nonempty, unique, fun row member => ?_, loaded, backed⟩
      rcases (mem_deploymentsAfter member).2.2 with ⟨old, before, _, written⟩ | own
      · rw [written]
        exact placedIn_update (ordered.orderly i session ending.live)
          ((books.rows old before).grow fun placed listed => List.mem_append_left _ listed)
      · refine (books.backed i session ending.live row own).2.imp_right ?_
        rintro ⟨nodeId, reservation, node, holds, _, _⟩
        refine ⟨_, List.mem_append_right _ (placed_of own node holds), rfl, node, rfl, ?_⟩
        exact fun other held => Option.some.inj (held.symm.trans holds)

end Books

def activeOf (reservation : Nat) (rows : List GpuAllocation) : List (Nat × Int) :=
  taken reservation (rows.filter (·.active))

def Placed.Covered (placed : Placed) (rows : List GpuAllocation) : Prop :=
  activeOf placed.reservationId rows = placed.gpuIndices.map (Prod.mk placed.nodeId)

section Coverage

variable {reservation : Nat} {rows : List GpuAllocation} {placed : Placed}

theorem activeOf_append (reservation : Nat) (left right : List GpuAllocation) :
    activeOf reservation (left ++ right) =
      activeOf reservation left ++ activeOf reservation right := by
  rw [activeOf, List.filter_append, taken_append, activeOf, activeOf]

theorem activeOf_none (foreign : ∀ row ∈ rows, row.active = true → row.reservationId ≠ reservation) :
    activeOf reservation rows = [] := by
  refine taken_none fun row member => ?_
  obtain ⟨listed, active⟩ := List.mem_filter.mp member
  exact foreign row listed active

theorem mem_activeOf {device : Nat × Int} :
    device ∈ activeOf reservation rows ↔
      ∃ row ∈ rows, row.active = true ∧ row.reservationId = reservation ∧ row.device = device := by
  simp only [activeOf, taken, List.mem_map, List.mem_filter, decide_eq_true_eq, and_assoc]

theorem activeOf_map (f : GpuAllocation → GpuAllocation)
    (owner : ∀ row, (f row).reservationId = row.reservationId)
    (keeps : ∀ row ∈ rows, row.reservationId = reservation →
      (f row).device = row.device ∧ (f row).active = row.active) :
    activeOf reservation (rows.map f) = activeOf reservation rows := by
  induction rows with
  | nil => rfl
  | cons row rest ih =>
      have tail := ih fun other member => keeps other (List.mem_cons_of_mem row member)
      have head : activeOf reservation [f row] = activeOf reservation [row] := by
        by_cases own : row.reservationId = reservation
        · obtain ⟨device, active⟩ := keeps row List.mem_cons_self own
          cases alive : row.active <;>
            simp [activeOf, taken, owner, own, device, active, alive]
        · simp [activeOf, taken, List.filter_filter, owner, own]
      have both := congrArg₂ (· ++ ·) head tail
      simp only [← activeOf_append, List.singleton_append] at both
      exact both

theorem activeOf_filter (keep : GpuAllocation → Bool)
    (all : ∀ row ∈ rows, row.reservationId = reservation → row.active = true →
      keep row = true) : activeOf reservation (rows.filter keep) = activeOf reservation rows := by
  simp only [activeOf, taken, List.filter_filter]
  refine congrArg (List.map GpuAllocation.device) (List.filter_congr fun row member => ?_)
  have kept := all row member
  cases active : row.active with
  | false => simp
  | true =>
      by_cases own : row.reservationId = reservation
      · simp [own, kept own active]
      · simp [own]

theorem Placed.Covered.node (covered : placed.Covered rows) {row : GpuAllocation}
    (member : row ∈ rows) (active : row.active = true)
    (own : row.reservationId = placed.reservationId) : row.nodeId = placed.nodeId := by
  have listed := mem_activeOf.mpr ⟨row, member, active, own, rfl⟩
  rw [covered] at listed
  obtain ⟨index, _, same⟩ := List.mem_map.mp listed
  exact (congrArg Prod.fst same).symm

theorem Placed.Covered.exists (covered : placed.Covered rows) (nonempty : placed.gpuIndices ≠ []) :
    ∃ row ∈ rows, row.active = true ∧ row.reservationId = placed.reservationId := by
  obtain ⟨index, member⟩ := List.exists_mem_of_ne_nil _ nonempty
  have listed := List.mem_map_of_mem (f := Prod.mk placed.nodeId) member
  rw [← covered] at listed
  obtain ⟨row, stored, active, own, _⟩ := mem_activeOf.mp listed
  exact ⟨row, stored, active, own⟩

variable {session : Session} {shared : Shared}

theorem Placed.Covered.kept (covered : placed.Covered shared.allocations)
    (accounts : Accounts session shared) (distinct : session.Distinct)
    (finished : session.Finished) (alive : placed.nodeId ∉ session.deletedNodes)
    (keeps : session.frees placed.reservationId = false)
    (foreign : ∀ row ∈ inserted session.allocations,
      row.reservationId ≠ placed.reservationId) :
    placed.Covered (shared.allocationsAfter session) := by
  have none : activeOf placed.reservationId (inserted session.allocations) = [] :=
    activeOf_none fun row member _ => foreign row member
  have freed : activeOf placed.reservationId (shared.allocations.map session.freed) =
      activeOf placed.reservationId shared.allocations := by
    refine activeOf_map _ (fun _ => rfl) fun row _ own => ⟨rfl, ?_⟩
    simp only [GpuAllocation.active, Session.freed, own, keeps, Bool.or_false]
  rw [Placed.Covered, allocations_stored accounts distinct finished,
    activeOf_map (shared.detached session) (fun _ => rfl) fun _ _ _ => ⟨rfl, rfl⟩,
    activeOf_filter _ ?_, activeOf_append, none, List.append_nil, freed]
  · exact covered
  · intro row member own active
    have node : row.nodeId = placed.nodeId := by
      rcases List.mem_append.mp member with stored | new
      · obtain ⟨old, before, rfl⟩ := List.mem_map.mp stored
        simp only [GpuAllocation.active, Session.freed, Bool.not_eq_true', Bool.or_eq_false_iff]
          at active
        have node : old.nodeId = placed.nodeId :=
          covered.node before (by simp [GpuAllocation.active, active.1]) own
        exact node
      · exact absurd own (foreign row new)
    simp [node, alive]

theorem placed_covered (orderly : session.Orderly)
    (active : ∀ row ∈ inserted session.allocations, row.active = true)
    (fresh : ∀ row ∈ inserted session.allocations, ∀ old ∈ shared.allocations,
      old.reservationId ≠ row.reservationId)
    (backed : ∀ row ∈ inserted session.deployments, session.Backs row)
    (member : placed ∈ Shared.placed session) :
    placed.Covered (shared.allocationsAfter session) := by
  obtain ⟨row, listed, id, node, indices, holds⟩ := mem_placed member
  rcases backed row listed with ⟨_, none⟩ | ⟨nodeId, reservation, onNode, own, nonempty, same⟩
  · rw [none] at holds
    cases holds
  cases own.symm.trans holds
  cases onNode.symm.trans node
  have reserves : session.action.reserves = true := by
    obtain ⟨tracked, there, kind, _⟩ := mem_inserted (T := deploymentTable).mp listed
    cases reserves : session.action.reserves with
    | true => rfl
    | false =>
        rw [(orderly.other reserves).1 tracked there] at kind
        cases kind
  have none := undeleted orderly fun nodeId same => by
    rw [same] at reserves
    cases reserves
  have claimed : ∃ first ∈ inserted session.allocations,
      first.reservationId = placed.reservationId := by
    have some : taken placed.reservationId (inserted session.allocations) ≠ [] := by
      rw [same]
      exact fun none => nonempty (List.map_eq_nil_iff.mp none)
    obtain ⟨key, found⟩ := List.exists_mem_of_ne_nil _ some
    obtain ⟨first, filtered, _⟩ := List.mem_map.mp found
    obtain ⟨there, keyed⟩ := List.mem_filter.mp filtered
    exact ⟨first, there, of_decide_eq_true keyed⟩
  obtain ⟨first, there, keyed⟩ := claimed
  have foreign : ∀ old ∈ shared.allocations, old.reservationId ≠ placed.reservationId :=
    fun old stored => keyed ▸ fresh first there old stored
  rw [Placed.Covered, activeOf, taken_active fun row stored own => ?_]
  · rw [taken_stored, filter_alive none, taken_append, taken_none foreign, List.nil_append, same,
      indices]
  · rcases (mem_allocationsAfter stored).2.2 with ⟨old, before, claim, _⟩ | ⟨new, listed, _, kept⟩
    · exact absurd (claim.reservationId.symm.trans own) (foreign old before)
    · rw [GpuAllocation.active, kept]
      exact active new listed

end Coverage

section Ended

variable {ok : DeploymentSystem → DeploymentLabel → Prop} {system : DeploymentSystem} {i : Nat}
  {session : Session}

structure Followed (system : DeploymentSystem) : Prop
    extends Traced system, PlacementBooks system where
  accounts : ∀ i session, System.Live system i session → Accounts session system.shared
  active : ∀ i session, System.Live system i session →
    ∀ row ∈ inserted session.allocations, row.active = true

theorem followed_reached (system : DeploymentSystem) (reached : System.Reaches ok start system) :
    Followed system := by
  have empty : (devices : Invariant discipline ok Ordered).shared start.shared := List.nodup_nil
  have holding := (devices.reached (fun _ => rfl) empty (fun system => ordered_reached system)
    system reached).2
  have accounts := (accounts.reached (fun _ => rfl) trivial (fun system => traced_reached system)
    system reached).2
  exact { traced_reached system reached, books_reached system reached with
    accounts := accounts
    active := fun i session live row member => ((holding i session live).rows row member).1 }

theorem Followed.vacates (followed : Followed system) (live : System.Live system i session)
    {placed : Placed} (member : placed ∈ system.shared.placements)
    (vacates : session.Vacates placed.reservationId) :
    ∃ tracked ∈ session.deployments, tracked.inserted = false ∧
      tracked.key = placed.deploymentId ∧
        tracked.original.reservationId = some placed.reservationId ∧
          tracked.row.reservationId = none ∧ tracked.row.state.ended = true := by
  obtain ⟨tracked, there, loaded, held, dropped, ended⟩ := vacates
  refine ⟨tracked, there, loaded, ?_, held, dropped, ended⟩
  rcases followed.originals i session live tracked there loaded with ⟨_, none⟩ |
    ⟨other, listed, own, _, _, same⟩
  · rw [none] at held
    cases held
  · have one := followed.unique placed member other listed (.inr (same _ held))
    rw [one, own]
    rfl

theorem Followed.keeps (followed : Followed system) (ending : System.Ending system i session)
    {placed : Placed} (member : placed ∈ system.shared.placements)
    (covered : placed.Covered system.shared.allocations)
    (goesOn : placed.deploymentId ∉ Shared.ends system.shared session) :
    session.frees placed.reservationId = false ∧ placed.nodeId ∉ session.deletedNodes := by
  simp only [Shared.ends, List.mem_append, List.mem_map, List.mem_filter, not_or, not_exists,
    not_and] at goesOn
  obtain ⟨⟨unended, _⟩, listed⟩ := goesOn
  have cause := listed placed
  simp only [member, Bool.or_eq_true, List.contains_eq_mem, decide_eq_true_eq, true_and, not_true,
    imp_false, not_or] at cause
  refine ⟨?_, cause.1⟩
  by_contra frees
  rw [Bool.not_eq_false] at frees
  obtain ⟨row, stored, active, own⟩ := covered.exists (followed.nonempty placed member)
  rw [← own] at frees
  have live := ending.live
  rcases freed_cause (followed.accounts i session live) (followed.fresh.sessions i session live)
    (followed.finished ending) stored active frees with byHand | vacates
  · have action : session.request.action = .release row.reservationId := byHand
    rw [action] at cause
    exact cause.2 (decide_eq_true own.symm)
  · rw [own] at vacates
    obtain ⟨tracked, there, loaded, keyed, held, dropped, ended⟩ :=
      followed.vacates live member vacates
    refine unended tracked ⟨there, ?_⟩ keyed
    have changed : tracked.assigned ≠ [] := by
      intro clean
      rw [Tracked.row, clean, Tracked.replay_nil, held] at dropped
      cases dropped
    simp [Tracked.dirty, loaded, changed, ended]

theorem covered_reached (system : DeploymentSystem) (reached : System.Reaches ok start system) :
    ∀ placed ∈ system.shared.placements, placed.deploymentId ∉ system.shared.ended →
      placed.Covered system.shared.allocations := by
  refine System.reaches_induction (M := deploymentMachine) (fun system =>
    ∀ placed ∈ system.shared.placements, placed.deploymentId ∉ system.shared.ended →
      placed.Covered system.shared.allocations) (by rintro _ ⟨⟩) ?_ system reached
  intro system label next reached covered _ transition
  have followed := followed_reached system reached
  cases transition with
  | begin | stop | abort => exact covered
  | perform i answer op rest session reply shared found reacts =>
      have same := (reaction reacts).untouched
      rw [System.put_shared, same.placements, same.ended, same.allocations]
      exact covered
  | change edit => cases edit <;> exact covered
  | commit i session shared ending commits =>
      obtain ⟨_, _, rfl⟩ := commit_some commits
      have live := ending.live
      have orderly := followed.orderly i session live
      intro placed member goesOn
      rcases List.mem_append.mp member with old | new
      · obtain ⟨before, now⟩ := not_or.mp (mt List.mem_append.mpr goesOn)
        have holds := covered placed old before
        obtain ⟨keeps, alive⟩ := followed.keeps ending old holds now
        refine holds.kept (followed.accounts i session live)
          (followed.fresh.sessions i session live) (followed.finished ending) alive keeps ?_
        intro row listed same
        exact (followed.settled placed old).2.unclaimed i session live
          (same ▸ mem_drawn_reservation listed)
      · refine placed_covered orderly (followed.active i session live)
          (fun row listed old before => ?_) (fun row listed => ?_) new
        · exact followed.fresh.foreign live (mem_drawn_reservation listed)
            (mem_ids_reservation before)
        · exact (followed.backed i session live row listed).2

theorem container_placed (system : DeploymentSystem) (reached : System.Reaches ok start system) :
    ∀ container ∈ system.shared.fleet.containers, ∀ indices, container.spec.gpus = some indices →
      indices ≠ [] → ∃ placed ∈ system.shared.placements,
        placed.deploymentId = container.spec.deploymentId ∧
          placed.nodeId = container.spec.nodeId ∧ placed.gpuIndices = indices := by
  refine System.reaches_induction (M := deploymentMachine) (fun system =>
    ∀ container ∈ system.shared.fleet.containers, ∀ indices,
      container.spec.gpus = some indices → indices ≠ [] → ∃ placed ∈ system.shared.placements,
        placed.deploymentId = container.spec.deploymentId ∧
          placed.nodeId = container.spec.nodeId ∧ placed.gpuIndices = indices)
    (by rintro _ ⟨⟩) ?_ system reached
  intro system label next reached known _ transition container present indices pinned nonempty
  have more := placements_grow transition
  cases came transition container present with
  | survived old listed survives =>
      rw [survives.2.2] at pinned ⊢
      obtain ⟨placed, member, own⟩ := known old listed indices pinned nonempty
      exact ⟨placed, more placed member, own⟩
  | created i answer session performed performing fresh =>
      have followed := followed_reached system reached
      obtain ⟨_, tracked, there, loaded, keyed, onNode, gpus⟩ := followed.permits performing
      have same := gpus indices pinned
      rcases followed.originals i session performing.live tracked there loaded with
        ⟨none, _⟩ | ⟨placed, member, own, node, gpuIndices, _⟩
      · exact absurd (same.trans none) nonempty
      · refine ⟨placed, more placed member, own.trans keyed, ?_, gpuIndices.trans same.symm⟩
        exact Option.some.inj (node.symm.trans onNode)

end Ended

end AiPlatform.Deployments
