import AiPlatform.DeploymentRuns

/-!
The ledger of allocations. A claim holds its keys of the unique index until its
transaction ends, so the active allocations have distinct devices in every run.
Which rows a commit releases is read off the reservations that its session
looked up.
-/

namespace AiPlatform.Deployments

/-- Requests that take GPUs work on rows of their own, other requests on stored rows. -/
structure Session.Orderly (session : Session) : Prop where
  reserving : session.action.reserves = true →
    (∀ tracked ∈ session.deployments, tracked.inserted = true ∧ tracked.assigned = []) ∧
      (∀ tracked ∈ session.allocations, tracked.assigned = []) ∧ session.deletedDeployments = []
  other : session.action.reserves = false →
    (∀ tracked ∈ session.deployments, tracked.inserted = false) ∧
      ∀ tracked ∈ session.allocations, tracked.inserted = false
  single : ∀ left ∈ session.deployments, ∀ right ∈ session.deployments,
    left.inserted = true → right.inserted = true → left.key = right.key
  nodes : session.deletedNodes ≠ [] → ∃ nodeId, session.action = .deleteNode nodeId
  drops : ∀ tracked ∈ session.deployments, ∀ value,
    DeploymentAssignment.reservationId value ∈ tracked.assigned → value = none
  releases : ∀ reservation, session.action = .release reservation →
    session.deployments = [] ∧ ∀ entry ∈ session.found, entry.1 = reservation

section Orderly

variable {i : Nat} {session : Session} {shared next : Shared} {op : Op} {reply : Reply op}

def Shared.lookup (shared : Shared) (session : Session) (reservation : Nat) : Nat × List Nat :=
  (reservation, ((shared.allocationsSeen session).filter fun allocation =>
    allocation.reservationId = reservation).map (·.id))

theorem found_after (reacts : Reaction i session shared op reply next) :
    (session.after op reply).found = session.found ∨
      ∃ reservation, op = .read (.reservation reservation) ∧
        (session.after op reply).found =
          session.found ++ [shared.lookup session reservation] := by
  cases reacts with
  | read query =>
      cases query with
      | reservation id =>
          refine .inr ⟨id, rfl, congrArg (session.found ++ [·]) ?_⟩
          simp only [Shared.lookup, Shared.rows, List.map_map]
          refine congrArg (Prod.mk id) (List.map_congr_left fun row _ => ?_)
          exact key_instanceOf (T := allocationTable) _ row
      | model id =>
          simp only [Session.after, Shared.rows]
          cases shared.findModel session id <;> exact .inl rfl
      | gpuByUuid uuid =>
          simp only [Session.after, Shared.rows]
          cases (shared.gpusSeen session).find? fun gpu => gpu.uuid = uuid <;> exact .inl rfl
      | deployment id =>
          simp only [Session.after, Shared.rows]
          cases (shared.deploymentsSeen session).find? fun row => row.id = id <;> exact .inl rfl
      | node id | nodeNamed name | nodes limit | pollable | gpusOf nodeId | activeOn nodeId
      | pending | deployments => exact .inl rfl
  | write write => cases write <;> exact .inl rfl
  | insert draft => cases draft <;> exact .inl rfl
  | telemetry | refused | claimed | flush | called | serving => exact .inl rfl

theorem assigns_permitted (permitted : session.Permits op) {key : Nat}
    (assigns : op.assignments key ≠ []) :
    session.action.steers = true ∨ session.action.ticks = true := by
  cases op with
  | write write =>
      cases write with
      | assignDeployment deploymentId assignment =>
          cases assignment with
          | reservationId value => exact permitted.2.1
          | _ => exact permitted
      | recordFailure deploymentId => exact .inr permitted
      | _ => exact absurd rfl assigns
  | _ => exact absurd rfl assigns

theorem Altered.clean {assignments : List DeploymentAssignment}
    {old tracked : Tracked deploymentTable} (altered : Altered assignments old tracked)
    (none : assignments = []) (clean : old.assigned = []) : tracked.assigned = [] := by
  refine List.eq_nil_iff_forall_not_mem.mpr fun assignment listed => ?_
  rcases altered.assigned assignment listed with before | now
  · rw [clean] at before
    cases before
  · rw [none] at now
    cases now

theorem Session.Orderly.reserving_after (orderly : session.Orderly)
    (permitted : session.Permits op) (reacts : Reaction i session shared op reply next)
    (reserves : session.action.reserves = true) :
    (∀ tracked ∈ (session.after op reply).deployments,
        tracked.inserted = true ∧ tracked.assigned = []) ∧
      (∀ tracked ∈ (session.after op reply).allocations, tracked.assigned = []) ∧
        (session.after op reply).deletedDeployments = [] := by
  obtain ⟨deployments, allocations, deleted⟩ := orderly.reserving reserves
  have calm : session.action.steers = false ∧ session.action.ticks = false := by
    cases action : session.action <;> simp_all [Action.reserves, Action.steers, Action.ticks]
  refine ⟨fun tracked member => ?_, fun tracked member => ?_, ?_⟩
  · cases turned reacts tracked member with
    | kept old _ there altered =>
        obtain ⟨own, clean⟩ := deployments old there
        refine ⟨altered.inserted.trans own, altered.clean ?_ clean⟩
        by_contra assigns
        simpa [calm] using assigns_permitted permitted assigns
    | loaded row query stored reads deploys pending =>
        subst reads
        cases query with
        | deployment id => simp [Session.Permits, calm] at permitted
        | pending => simp [Session.Permits, calm] at permitted
        | deployments =>
            obtain ⟨⟨remove, reconciles⟩, _⟩ := permitted
            rw [reconciles] at reserves
            cases reserves
        | _ => cases deploys
    | inserted draft inserts => exact ⟨rfl, rfl⟩
  · cases turnedAllocation reacts tracked member with
    | kept _ there => exact allocations tracked there
    | released old there releases =>
        subst releases
        obtain ⟨entry, _, _, byHand | ⟨other, held, loaded, _⟩⟩ := permitted
        · rw [byHand] at reserves
          cases reserves
        · rw [(deployments other held).1] at loaded
          cases loaded
    | loaded | claimed => rfl
  · rw [(after_deleted op reply).1, deleted, List.nil_append]
    cases op with
    | write write =>
        cases write with
        | deleteDeployment id =>
            obtain ⟨⟨other, deletes⟩, _⟩ := permitted
            rw [deletes] at reserves
            cases reserves
        | _ => rfl
    | _ => rfl

theorem Session.Orderly.other_after (orderly : session.Orderly)
    (permitted : session.Permits op) (reacts : Reaction i session shared op reply next)
    (other : session.action.reserves = false) :
    (∀ tracked ∈ (session.after op reply).deployments, tracked.inserted = false) ∧
      ∀ tracked ∈ (session.after op reply).allocations, tracked.inserted = false := by
  obtain ⟨deployments, allocations⟩ := orderly.other other
  refine ⟨fun tracked member => ?_, fun tracked member => ?_⟩
  · cases turned reacts tracked member with
    | kept old _ there altered => exact altered.inserted.trans (deployments old there)
    | loaded => rfl
    | inserted draft inserts =>
        subst inserts
        obtain ⟨⟨spec, actor, deploys⟩, _⟩ := permitted
        rw [deploys] at other
        cases other
  · cases turnedAllocation reacts tracked member with
    | kept _ there => exact allocations tracked there
    | released old there _ => exact allocations old there
    | loaded => rfl
    | claimed nodeId devices purpose reservedBy row claims =>
        subst claims
        rw [permitted.1] at other
        cases other

theorem Session.Orderly.single_after (orderly : session.Orderly)
    (permitted : session.Permits op) (reacts : Reaction i session shared op reply next) :
    ∀ left ∈ (session.after op reply).deployments, ∀ right ∈ (session.after op reply).deployments,
      left.inserted = true → right.inserted = true → left.key = right.key := by
  have undrafted {draft : ModelDeployment} (inserts : op = .insert (.deployment draft))
      {tracked : Tracked deploymentTable} (member : tracked ∈ session.deployments) :
      tracked.inserted = false := by
    subst inserts
    cases kind : tracked.inserted with
    | false => rfl
    | true =>
        have own := mem_inserted (T := deploymentTable).mpr ⟨tracked, member, kind, rfl⟩
        rw [permitted.2.1] at own
        cases own
  intro left there right here first second
  cases turned reacts left there with
  | loaded => cases first
  | kept old _ member altered =>
      cases turned reacts right here with
      | loaded => cases second
      | kept other _ found changed =>
          rw [altered.key, changed.key]
          exact orderly.single old member other found (altered.inserted.symm.trans first)
            (changed.inserted.symm.trans second)
      | inserted draft inserts =>
          have loaded := altered.inserted.trans (undrafted inserts member)
          rw [loaded] at first
          cases first
  | inserted draft inserts =>
      cases turned reacts right here with
      | loaded => cases second
      | kept other _ found changed =>
          have loaded := changed.inserted.trans (undrafted inserts found)
          rw [loaded] at second
          cases second
      | inserted other again =>
          rw [inserts] at again
          cases again
          rfl

theorem Session.Orderly.drops_after (orderly : session.Orderly)
    (permitted : session.Permits op) (reacts : Reaction i session shared op reply next) :
    ∀ tracked ∈ (session.after op reply).deployments, ∀ value,
      DeploymentAssignment.reservationId value ∈ tracked.assigned → value = none := by
  intro tracked member value listed
  cases turned reacts tracked member with
  | loaded | inserted => cases listed
  | kept old _ there altered =>
      rcases altered.assigned _ listed with before | now
      · exact orderly.drops old there value before
      · cases op with
        | write write =>
            cases write with
            | assignDeployment deploymentId assignment =>
                simp only [Op.assignments] at now
                split at now
                · cases List.mem_singleton.mp now
                  exact permitted.1
                · cases now
            | recordFailure deploymentId =>
                simp only [Op.assignments] at now
                split at now
                · simp at now
                · cases now
            | _ => cases now
        | _ => cases now

theorem Session.Orderly.releases_after (orderly : session.Orderly)
    (permitted : session.Permits op) (reacts : Reaction i session shared op reply next)
    {reservation : Nat} (releases : session.action = .release reservation) :
    (session.after op reply).deployments = [] ∧
      ∀ entry ∈ (session.after op reply).found, entry.1 = reservation := by
  obtain ⟨none, own⟩ := orderly.releases reservation releases
  refine ⟨List.eq_nil_iff_forall_not_mem.mpr fun tracked member => ?_, fun entry member => ?_⟩
  · cases turned reacts tracked member with
    | kept old _ there _ =>
        rw [none] at there
        cases there
    | loaded row query stored reads deploys pending =>
        subst reads
        cases query with
        | deployment id => simp [Session.Permits, releases, Action.steers] at permitted
        | pending => simp [Session.Permits, releases, Action.ticks] at permitted
        | deployments => simp [Session.Permits, releases] at permitted
        | _ => cases deploys
    | inserted draft inserts =>
        subst inserts
        simp [Session.Permits, releases] at permitted
  · rcases found_after reacts with same | ⟨looked, rfl, found⟩
    · rw [same] at member
      exact own entry member
    · rw [found] at member
      rcases List.mem_append.mp member with old | new
      · exact own entry old
      · rw [List.mem_singleton.mp new]
        rcases permitted with byHand | ⟨tracked, held, _⟩
        · rw [releases] at byHand
          cases byHand
          rfl
        · rw [none] at held
          cases held

theorem Session.Orderly.after (orderly : session.Orderly) (permitted : session.Permits op)
    (reacts : Reaction i session shared op reply next) : (session.after op reply).Orderly := by
  have action : (session.after op reply).action = session.action := after_action op reply
  refine ⟨fun reserves => ?_, fun other => ?_, orderly.single_after permitted reacts,
    fun deletes => ?_, orderly.drops_after permitted reacts, fun reservation releases => ?_⟩
  · exact orderly.reserving_after permitted reacts (action ▸ reserves)
  · exact orderly.other_after permitted reacts (action ▸ other)
  · rw [action]
    by_cases before : session.deletedNodes = []
    · rw [(after_deleted op reply).2, before, List.nil_append] at deletes
      cases op with
      | write write =>
          cases write with
          | deleteNode id => exact ⟨id, permitted⟩
          | _ => exact absurd rfl deletes
      | _ => exact absurd rfl deletes
    · exact orderly.nodes before
  · exact orderly.releases_after permitted reacts (action ▸ releases)

end Orderly

theorem orderly_opened (request : Request) : (Session.opened request).Orderly where
  reserving _ := ⟨fun _ member => (nomatch member), fun _ member => (nomatch member), rfl⟩
  other _ := ⟨fun _ member => (nomatch member), fun _ member => nomatch member⟩
  single _ member := nomatch member
  nodes deletes := absurd rfl deletes
  drops _ member := nomatch member
  releases _ _ := ⟨rfl, fun _ member => nomatch member⟩

theorem orderly_reached {ok : DeploymentSystem → DeploymentLabel → Prop}
    (system : DeploymentSystem) (reached : System.Reaches ok start system) :
    ∀ i session, System.Live system i session → session.Orderly :=
  sessions_reached Session.Orderly orderly_opened
    (fun _ _ _ _ _ _ permitted reacts orderly => orderly.after permitted reacts) system reached

/-- What is known of every system that a run reaches, with the kinds of its requests. -/
structure Ordered (system : DeploymentSystem) : Prop extends Sound system where
  orderly : ∀ i session, System.Live system i session → session.Orderly

theorem ordered_reached {ok : DeploymentSystem → DeploymentLabel → Prop}
    (system : DeploymentSystem) (reached : System.Reaches ok start system) : Ordered system :=
  ⟨sound_reached system reached, orderly_reached system reached⟩

theorem inserted_none {T : Table} {session : List (Tracked T)}
    (none : ∀ tracked ∈ session, tracked.inserted = false) : inserted session = [] := by
  refine List.eq_nil_iff_forall_not_mem.mpr fun row member => ?_
  obtain ⟨tracked, listed, kind, _⟩ := mem_inserted.mp member
  rw [none tracked listed] at kind
  cases kind

inductive Claiming (i : Nat) (session : Session) (shared : Shared) (op : Op) (after : Session)
    (next : Shared) : Prop
  | kept (held : after.held = session.held)
      (rows : inserted after.allocations = inserted session.allocations)
      (locks : next.locks = shared.locks) (claims : next.claims = shared.claims)
  | claimed (nodeId : Nat) (devices : List (Int × Nat)) (purpose : String)
      (reservedBy : Option Nat) (claims : op = .claim nodeId devices purpose reservedBy)
      (free : ∀ device ∈ devices, shared.locks.free i (nodeId, device.1) = true)
      (accepts : shared.refuses session nodeId devices = false)
      (held : after.held = session.held ++ devices.map fun device => (nodeId, device.1))
      (rows : inserted after.allocations = inserted session.allocations ++
        shared.reservedRows nodeId devices purpose reservedBy)
      (locks : next.locks = shared.locks.acquire i (devices.map fun device => (nodeId, device.1)))
      (recorded : next.claims = shared.claims ++ [⟨shared.nextId, nodeId, devices⟩])
      (drawn : shared.nextId < next.nextId)

section Claims

variable {i : Nat} {session : Session} {shared next : Shared} {op : Op} {reply : Reply op}

theorem claiming (orderly : session.Orderly) (permitted : session.Permits op)
    (reacts : Reaction i session shared op reply next) :
    Claiming i session shared op (session.after op reply) next := by
  have still {after : Session} (held : after.held = session.held)
      (same : after.allocations = session.allocations) (locks : next.locks = shared.locks)
      (claims : next.claims = shared.claims) : Claiming i session shared op after next :=
    .kept held (by rw [same]) locks claims
  cases reacts with
  | read query =>
      cases query with
      | activeOn nodeId | reservation id =>
          exact .kept rfl (inserted_loading (T := allocationTable) _ _) rfl rfl
      | model id =>
          simp only [Session.after, Shared.rows]
          cases shared.findModel session id <;> exact still rfl rfl rfl rfl
      | gpuByUuid uuid =>
          simp only [Session.after, Shared.rows]
          cases (shared.gpusSeen session).find? fun gpu => gpu.uuid = uuid <;>
            exact still rfl rfl rfl rfl
      | deployment id =>
          simp only [Session.after, Shared.rows]
          cases (shared.deploymentsSeen session).find? fun row => row.id = id <;>
            exact still rfl rfl rfl rfl
      | node id | nodeNamed name | nodes limit | pollable | gpusOf nodeId | pending
      | deployments => exact still rfl rfl rfl rfl
  | write write =>
      cases write with
      | releaseAllocation id =>
          have reacts : Reaction i session shared (.write (.releaseAllocation id)) () shared :=
            .write _
          refine .kept rfl ?_ rfl rfl
          cases reserves : session.action.reserves with
          | false =>
              rw [inserted_none (orderly.other reserves).2]
              exact inserted_none (T := allocationTable)
                (orderly.other_after permitted reacts reserves).2
          | true =>
              obtain ⟨entry, _, _, byHand | ⟨tracked, held, loaded, _⟩⟩ := permitted
              · rw [byHand] at reserves
                cases reserves
              · rw [((orderly.reserving reserves).1 tracked held).1] at loaded
                cases loaded
      | assignNode node assignment | assignGpu gpuId assignment | assignDeployment id assignment
      | recordFailure id | deleteDeployment id | deleteNode id => exact still rfl rfl rfl rfl
  | insert draft => cases draft <;> exact still rfl rfl rfl rfl
  | claimed nodeId devices purpose reservedBy free accepts =>
      exact .claimed nodeId devices purpose reservedBy rfl free accepts rfl
        (inserted_append (T := allocationTable) _ _) rfl rfl (by simp only []; omega)
  | telemetry | refused | flush | called | serving => exact still rfl rfl rfl rfl

end Claims

/-- The devices that are taken, under the unique index. -/
def Shared.activeDevices (shared : Shared) : List (Nat × Int) :=
  (shared.allocations.filter (·.active)).map GpuAllocation.device

structure Holding (i : Nat) (session : Session) (shared : Shared) : Prop where
  held : Locks.Held shared.locks i session.held
  rows : ∀ row ∈ inserted session.allocations, row.active = true ∧ row.device ∈ session.held
  distinct : ((inserted session.allocations).map GpuAllocation.device).Nodup
  free : ∀ row ∈ shared.allocations, row.active = true → row.device ∉ session.held

theorem sublist_active {Row Key : Type} (active : Row → Bool) (key : Row → Key) (f : Row → Row)
    (keeps : ∀ row, key (f row) = key row ∧ (active (f row) = true → active row = true))
    (rows : List Row) :
    (((rows.map f).filter active).map key).Sublist ((rows.filter active).map key) := by
  induction rows with
  | nil => exact List.Sublist.refl _
  | cons row rest ih =>
      obtain ⟨same, before⟩ := keeps row
      simp only [List.map_cons, List.filter_cons]
      by_cases now : active (f row) = true
      · rw [if_pos now, if_pos (before now), List.map_cons, List.map_cons, same]
        exact ih.cons_cons _
      · rw [if_neg now]
        split
        · exact ih.cons _
        · exact ih

section Devices

variable {i : Nat} {session : Session} {shared : Shared}

theorem active_update (allocations : List (Tracked allocationTable)) (row : GpuAllocation) :
    GpuAllocation.device (Tracked.update allocations row) = row.device ∧
      (GpuAllocation.active (Tracked.update allocations row) = true → row.active = true) := by
  rcases update_allocation allocations row with same | ⟨same, _⟩
  · rw [same]
    exact ⟨rfl, id⟩
  · rw [same]
    exact ⟨rfl, fun active => by simp [GpuAllocation.active] at active⟩

def Shared.detached (shared : Shared) (session : Session) (allocation : GpuAllocation) :
    GpuAllocation :=
  { allocation with
    gpuId := allocation.gpuId.filter fun id =>
      (shared.gpusAfter session).any fun gpu => gpu.id = id }

theorem allocationsAfter_eq (shared : Shared) (session : Session) :
    shared.allocationsAfter session =
      ((Tracked.store session.allocations shared.allocations).filter fun allocation =>
        !session.deletedNodes.contains allocation.nodeId).map (shared.detached session) := rfl

theorem activeDevices_stored (shared : Shared) (session : Session) :
    (shared.stored session).activeDevices.Sublist
      (shared.activeDevices ++ (inserted session.allocations).map GpuAllocation.device) := by
  have detached := sublist_active GpuAllocation.active GpuAllocation.device
    (shared.detached session) (fun _ => ⟨rfl, id⟩)
    ((Tracked.store session.allocations shared.allocations).filter fun allocation =>
      !session.deletedNodes.contains allocation.nodeId)
  refine detached.trans (((List.filter_sublist.filter _).map _).trans ?_)
  rw [Tracked.store, List.filter_append, List.map_append]
  refine List.Sublist.append ?_ (List.filter_sublist.map _)
  exact sublist_active GpuAllocation.active GpuAllocation.device _ (active_update _) _

theorem refused_free {nodeId : Nat} {devices : List (Int × Nat)}
    (accepts : shared.refuses session nodeId devices = false) {device : Int × Nat}
    (member : device ∈ devices) {row : GpuAllocation} (seen : row ∈ shared.allocationsSeen session)
    (active : row.active = true) : row.device ≠ (nodeId, device.1) := by
  intro same
  simp only [Shared.refuses, Bool.or_eq_false_iff, List.any_eq_false] at accepts
  have clear := accepts.2 device member
  simp only [Bool.or_eq_true, List.any_eq_true, Bool.and_eq_true, decide_eq_true_eq, not_or,
    not_exists, not_and] at clear
  exact clear.2 row seen active same

theorem devices_reservedRows (shared : Shared) (nodeId : Nat) (devices : List (Int × Nat))
    (purpose : String) (reservedBy : Option Nat) :
    (shared.reservedRows nodeId devices purpose reservedBy).map GpuAllocation.device =
      devices.map fun device => (nodeId, device.1) := by
  rw [Shared.reservedRows, List.map_map]
  conv_rhs => rw [← List.zipIdx_map_fst 0 devices, List.map_map]
  rfl

theorem Holding.claimed (holding : Holding i session shared) {after : Session} {next : Shared}
    {nodeId : Nat} {devices : List (Int × Nat)} {purpose : String} {reservedBy : Option Nat}
    (indices : (devices.map (·.1)).Nodup) (accepts : shared.refuses session nodeId devices = false)
    (held : after.held = session.held ++ devices.map fun device => (nodeId, device.1))
    (rows : inserted after.allocations = inserted session.allocations ++
      shared.reservedRows nodeId devices purpose reservedBy)
    (locks : next.locks = shared.locks.acquire i (devices.map fun device => (nodeId, device.1)))
    (same : next.allocations = shared.allocations) : Holding i after next := by
  have keyed {row : GpuAllocation}
      (member : row ∈ shared.reservedRows nodeId devices purpose reservedBy) :
      ∃ device ∈ devices, row.device = (nodeId, device.1) := by
    obtain ⟨own, _, _, _, _, device, listed, index, _⟩ := mem_reservedRows member
    exact ⟨device, listed, by rw [GpuAllocation.device, own, index]⟩
  constructor
  · rw [locks, held]
    exact Locks.held_acquire _ holding.held
  · rw [rows, held]
    intro row member
    rcases List.mem_append.mp member with old | new
    · obtain ⟨active, own⟩ := holding.rows row old
      exact ⟨active, List.mem_append_left _ own⟩
    · obtain ⟨device, listed, at_device⟩ := keyed new
      refine ⟨by simp [GpuAllocation.active, (mem_reservedRows new).2.2.1], ?_⟩
      exact List.mem_append_right _ (List.mem_map.mpr ⟨device, listed, at_device.symm⟩)
  · rw [rows, List.map_append, devices_reservedRows]
    refine holding.distinct.append ?_ fun key old new => ?_
    · have keys : devices.map (fun device => (nodeId, device.1)) =
          (devices.map (·.1)).map (Prod.mk nodeId) := by
        rw [List.map_map]
        rfl
      rw [keys]
      exact indices.map fun left right same => (Prod.mk.inj same).2
    · obtain ⟨row, member, rfl⟩ := List.mem_map.mp old
      obtain ⟨device, listed, same⟩ := List.mem_map.mp new
      exact refused_free accepts listed (List.mem_append_right _ member)
        (holding.rows row member).1 same.symm
  · rw [same, held]
    intro row stored active member
    rcases List.mem_append.mp member with old | new
    · exact holding.free row stored active old
    · obtain ⟨device, listed, keyed⟩ := List.mem_map.mp new
      exact refused_free accepts listed (List.mem_append_left _ stored) active keyed.symm

end Devices

section Runs

variable {ok : DeploymentSystem → DeploymentLabel → Prop}

def devices : Invariant discipline ok Ordered where
  shared shared := shared.activeDevices.Nodup
  session := Holding
  begins system i request _ _ _ :=
    ⟨fun _ member => (nomatch member), fun _ member => (nomatch member), List.nodup_nil,
      fun _ _ _ member => nomatch member⟩
  performs system i answer op session reply after ordered _ performing _ distinct own reacts := by
    have permitted := ordered.permits performing
    have reacts := reaction reacts
    have same := reacts.untouched.allocations
    have kept : Shared.activeDevices after = Shared.activeDevices system.shared :=
      congrArg (fun rows => (List.filter GpuAllocation.active rows).map GpuAllocation.device) same
    refine ⟨by rw [kept]; exact distinct, ?_⟩
    cases claiming (ordered.orderly i session performing.live) permitted reacts with
    | kept held rows locks claims =>
        have kept {j : Nat} {before now : Session} (sameHeld : now.held = before.held)
            (sameRows : inserted now.allocations = inserted before.allocations)
            (holding : Holding j before system.shared) : Holding j now after := by
          obtain ⟨own, active, apart, free⟩ := holding
          refine ⟨?_, ?_, ?_, ?_⟩
          · rw [sameHeld, locks]
            exact own
          · rw [sameHeld, sameRows]
            exact active
          · rw [sameRows]
            exact apart
          · rw [sameHeld, same]
            exact free
        exact ⟨kept held rows own, fun _ _ _ _ other => kept rfl rfl other⟩
    | claimed nodeId devices purpose reservedBy claims free accepts held rows locks recorded high =>
        subst claims
        refine ⟨own.claimed permitted.2.1 accepts held rows locks same, ?_⟩
        intro j other different _ holding
        refine ⟨?_, holding.rows, holding.distinct, ?_⟩
        · rw [locks]
          refine Locks.held_acquire_other different holding.held fun key member => ?_
          obtain ⟨device, listed, rfl⟩ := List.mem_map.mp member
          exact free device listed
        · rw [same]
          exact holding.free
  commits system i session after ordered _ ending _ distinct own commits := by
    obtain ⟨_, _, rfl⟩ := commit_some commits
    refine ⟨?_, fun j other different _ holding => ?_⟩
    · refine List.Nodup.sublist (activeDevices_stored system.shared session) ?_
      refine distinct.append own.distinct fun device old new => ?_
      obtain ⟨row, listed, rfl⟩ := List.mem_map.mp old
      obtain ⟨claimed, member, same⟩ := List.mem_map.mp new
      obtain ⟨stored, active⟩ := List.mem_filter.mp listed
      have held := (own.rows claimed member).2
      rw [same] at held
      exact own.free row stored active held
    · refine ⟨Locks.held_release_other different holding.held, holding.rows, holding.distinct, ?_⟩
      intro row stored active
      rcases (mem_allocationsAfter stored).2.2 with ⟨old, before, same, _⟩ | ⟨new, member, same, _⟩
      · rw [same.device]
        refine holding.free old before ?_
        cases gone : old.released with
        | false => simp [GpuAllocation.active, gone]
        | true => simp [GpuAllocation.active, same.released gone] at active
      · rw [same.device]
        intro held
        exact different
          (Locks.held_exclusive holding.held own.held held (own.rows new member).2)
  aborts system i session ordered _ live distinct own :=
    ⟨distinct, fun j other different _ holding =>
      ⟨Locks.held_release_other different holding.held, holding.rows, holding.distinct,
        holding.free⟩⟩
  changes system edit ordered _ distinct := by
    cases edit <;>
      exact ⟨distinct, fun _ _ _ holding =>
        ⟨holding.held, holding.rows, holding.distinct, holding.free⟩⟩

theorem devices_distinct (system : DeploymentSystem) (reached : System.Reaches ok start system) :
    system.shared.activeDevices.Nodup :=
  have empty : (devices : Invariant discipline ok Ordered).shared start.shared := List.nodup_nil
  (devices.reached (fun _ => rfl) empty (fun system => ordered_reached system) system reached).1

end Runs

def taken (reservation : Nat) (rows : List GpuAllocation) : List (Nat × Int) :=
  (rows.filter fun row => row.reservationId = reservation).map GpuAllocation.device

def Claimed.keys (claimed : Claimed) : List (Nat × Int) :=
  claimed.devices.map fun device => (claimed.nodeId, device.1)

structure Whole (claims : List Claimed) (rows : List GpuAllocation) : Prop where
  whole : ∀ claimed ∈ claims, taken claimed.reservationId rows = [] ∨
    taken claimed.reservationId rows = claimed.keys
  claimed : ∀ row ∈ rows, ∃ claimed ∈ claims, claimed.reservationId = row.reservationId

theorem taken_append (reservation : Nat) (left right : List GpuAllocation) :
    taken reservation (left ++ right) = taken reservation left ++ taken reservation right := by
  simp [taken, List.filter_append]

theorem taken_none {reservation : Nat} {rows : List GpuAllocation}
    (foreign : ∀ row ∈ rows, row.reservationId ≠ reservation) : taken reservation rows = [] := by
  rw [taken, List.filter_eq_nil_iff.mpr fun row member => by simpa using foreign row member]
  rfl

theorem taken_all {reservation : Nat} {rows : List GpuAllocation}
    (own : ∀ row ∈ rows, row.reservationId = reservation) :
    taken reservation rows = rows.map GpuAllocation.device := by
  rw [taken, List.filter_eq_self.mpr fun row member => by simpa using own row member]

theorem taken_map (reservation : Nat) (f : GpuAllocation → GpuAllocation)
    (keeps : ∀ row, (f row).reservationId = row.reservationId ∧ (f row).device = row.device)
    (rows : List GpuAllocation) : taken reservation (rows.map f) = taken reservation rows := by
  induction rows with
  | nil => rfl
  | cons row rest ih =>
      obtain ⟨same, device⟩ := keeps row
      simp only [taken, List.map_cons, List.filter_cons, same] at ih ⊢
      split
      · simp only [List.map_cons, device, ih]
      · exact ih

theorem taken_alive {claimed : Claimed} {rows : List GpuAllocation}
    (whole : taken claimed.reservationId rows = claimed.keys) (deleted : List Nat) :
    taken claimed.reservationId (rows.filter fun row => !deleted.contains row.nodeId) = [] ∨
      taken claimed.reservationId (rows.filter fun row => !deleted.contains row.nodeId) =
        claimed.keys := by
  have placed (row : GpuAllocation)
      (member : row ∈ rows.filter fun row => row.reservationId = claimed.reservationId) :
      row.nodeId = claimed.nodeId := by
    have listed : row.device ∈ taken claimed.reservationId rows := List.mem_map_of_mem member
    rw [whole] at listed
    obtain ⟨device, _, same⟩ := List.mem_map.mp listed
    exact (congrArg Prod.fst same).symm
  rw [taken, List.filter_comm]
  by_cases gone : claimed.nodeId ∈ deleted
  · left
    rw [List.filter_eq_nil_iff.mpr fun row member => ?_]
    · rfl
    · simp [placed row member, gone]
  · right
    rw [List.filter_eq_self.mpr fun row member => ?_]
    · exact whole
    · simp [placed row member, gone]

theorem Whole.grow {claims : List Claimed} {rows : List GpuAllocation} (whole : Whole claims rows)
    {claimed : Claimed} (foreign : ∀ row ∈ rows, row.reservationId ≠ claimed.reservationId) :
    Whole (claims ++ [claimed]) rows := by
  refine ⟨fun other member => ?_, fun row member => ?_⟩
  · rcases List.mem_append.mp member with old | new
    · exact whole.whole other old
    · rw [List.mem_singleton.mp new]
      exact .inl (taken_none foreign)
  · obtain ⟨other, listed, same⟩ := whole.claimed row member
    exact ⟨other, List.mem_append_left _ listed, same⟩

section Runs

variable {i : Nat} {session : Session} {shared : Shared}

theorem Whole.claim {claims : List Claimed} {rows : List GpuAllocation} (whole : Whole claims rows)
    (earlier : ∀ claimed ∈ claims, claimed.reservationId < shared.nextId)
    (foreign : ∀ row ∈ rows, row.reservationId ≠ shared.nextId) (nodeId : Nat)
    (devices : List (Int × Nat)) (purpose : String) (reservedBy : Option Nat) :
    Whole (claims ++ [⟨shared.nextId, nodeId, devices⟩])
      (rows ++ shared.reservedRows nodeId devices purpose reservedBy) := by
  have own : ∀ row ∈ shared.reservedRows nodeId devices purpose reservedBy,
      row.reservationId = shared.nextId := fun row member => (mem_reservedRows member).2.1
  refine ⟨fun claimed member => ?_, fun row member => ?_⟩
  · rw [taken_append]
    rcases List.mem_append.mp member with old | new
    · have before := earlier claimed old
      rw [taken_none fun row listed same => absurd (own row listed) (by omega), List.append_nil]
      exact whole.whole claimed old
    · rw [List.mem_singleton.mp new, taken_none foreign, taken_all own, List.nil_append]
      exact .inr (devices_reservedRows ..)
  · rcases List.mem_append.mp member with old | new
    · obtain ⟨claimed, listed, same⟩ := whole.claimed row old
      exact ⟨claimed, List.mem_append_left _ listed, same⟩
    · exact ⟨_, List.mem_append_right _ (List.mem_singleton.mpr rfl), (own row new).symm⟩

theorem update_claim (allocations : List (Tracked allocationTable)) (row : GpuAllocation) :
    GpuAllocation.reservationId (Tracked.update allocations row) = row.reservationId ∧
      GpuAllocation.device (Tracked.update allocations row) = row.device := by
  rcases update_allocation allocations row with same | ⟨same, _⟩
  · rw [same]
    exact ⟨rfl, rfl⟩
  · rw [same]
    exact ⟨rfl, rfl⟩

theorem taken_stored (reservation : Nat) (shared : Shared) (session : Session) :
    taken reservation (shared.allocationsAfter session) =
      taken reservation ((shared.allocations ++ inserted session.allocations).filter fun row =>
        !session.deletedNodes.contains row.nodeId) := by
  rw [allocationsAfter_eq, taken_map _ (shared.detached session) fun _ => ⟨rfl, rfl⟩,
    Tracked.store, List.filter_append, taken_append, List.filter_append, taken_append]
  refine congrArg (· ++ _) ?_
  have same : (shared.allocations.map (Tracked.update session.allocations)).filter
      (fun row => !session.deletedNodes.contains (GpuAllocation.nodeId row)) =
        (shared.allocations.filter fun row => !session.deletedNodes.contains row.nodeId).map
          (Tracked.update session.allocations) := by
    rw [List.filter_map]
    refine congrArg _ (List.filter_congr fun row _ => ?_)
    have kept := congrArg Prod.fst (update_claim session.allocations row).2
    simp only [Function.comp_apply]
    exact congrArg (fun nodeId => !session.deletedNodes.contains nodeId) kept
  rw [same]
  exact taken_map _ _ (update_claim session.allocations) _

theorem Whole.stored {claims : List Claimed} (stored : Whole claims shared.allocations)
    (own : Whole claims (inserted session.allocations))
    (fresh : ∀ row ∈ inserted session.allocations, ∀ old ∈ shared.allocations,
      old.reservationId ≠ row.reservationId) :
    Whole claims (shared.allocationsAfter session) := by
  refine ⟨fun claimed member => ?_, fun row member => ?_⟩
  · rw [taken_stored]
    have both : taken claimed.reservationId (shared.allocations ++ inserted session.allocations) =
        [] ∨ taken claimed.reservationId (shared.allocations ++ inserted session.allocations) =
          claimed.keys := by
      rw [taken_append]
      rcases own.whole claimed member with none | all
      · rw [none, List.append_nil]
        exact stored.whole claimed member
      · by_cases some : ∃ row ∈ inserted session.allocations,
            row.reservationId = claimed.reservationId
        · obtain ⟨row, listed, same⟩ := some
          rw [taken_none fun old before => same ▸ fresh row listed old before, all]
          exact .inr rfl
        · have none := taken_none fun row listed same => some ⟨row, listed, same⟩
          rw [none, List.append_nil]
          exact stored.whole claimed member
    rcases both with none | all
    · left
      have sublist := (List.filter_sublist (p := fun row : GpuAllocation =>
        !session.deletedNodes.contains row.nodeId)
          (l := shared.allocations ++ inserted session.allocations))
      have shorter := (sublist.filter fun row =>
        decide (row.reservationId = claimed.reservationId)).map GpuAllocation.device
      change (taken _ _).Sublist (taken _ _) at shorter
      rw [none] at shorter
      exact List.sublist_nil.mp shorter
    · exact taken_alive all session.deletedNodes
  · rcases (mem_allocationsAfter member).2.2 with ⟨old, before, same, _⟩ | ⟨new, listed, same, _⟩
    · rw [same.reservationId]
      exact stored.claimed old before
    · rw [same.reservationId]
      exact own.claimed new listed

variable {ok : DeploymentSystem → DeploymentLabel → Prop}

def claims : Invariant discipline ok Ordered where
  shared shared := Whole shared.claims shared.allocations ∧
    ∀ claimed ∈ shared.claims, claimed.reservationId < shared.nextId
  session _ session shared := Whole shared.claims (inserted session.allocations)
  begins system i request _ _ _ :=
    ⟨fun _ _ => .inl rfl, fun _ member => nomatch member⟩
  performs system i answer op session reply after ordered _ performing _ stored own reacts := by
    obtain ⟨stored, earlier⟩ := stored
    have permitted := ordered.permits performing
    have reacts := reaction reacts
    have same := reacts.untouched.allocations
    have later := reacts.untouched.nextId
    cases claiming (ordered.orderly i session performing.live) permitted reacts with
    | kept held rows locks claims =>
        have now : Whole system.shared.claims (inserted (Session.after session op reply).allocations) := by
          rw [rows]
          exact own
        rw [same, claims]
        exact ⟨⟨stored, fun claimed member => Nat.lt_of_lt_of_le (earlier claimed member) later⟩, now,
          fun _ _ _ _ other => other⟩
    | claimed nodeId devices purpose reservedBy claims free accepts held rows locks recorded high =>
        have drawn {j : Nat} {other : Session} (live : System.Live system j other) :
            ∀ row ∈ inserted other.allocations, row.reservationId ≠ system.shared.nextId :=
          fun row member => Nat.ne_of_lt
            (ordered.fresh.drawn j other live _ (mem_drawn_reservation member)).1
        have now : Whole (system.shared.claims ++ [⟨system.shared.nextId, nodeId, devices⟩])
            (inserted (Session.after session op reply).allocations) := by
          rw [rows]
          exact own.claim earlier (drawn performing.live) nodeId devices purpose reservedBy
        rw [same, recorded]
        refine ⟨⟨stored.grow fun row member => Nat.ne_of_lt
          (ordered.fresh.stored _ (mem_ids_reservation member)).below, fun claimed member => ?_⟩,
          now, fun j other _ live whole => whole.grow (drawn live)⟩
        rcases List.mem_append.mp member with old | new
        · exact Nat.lt_of_lt_of_le (earlier claimed old) later
        · rw [List.mem_singleton.mp new]
          exact high
  commits system i session after ordered _ ending _ stored own commits := by
    obtain ⟨_, _, rfl⟩ := commit_some commits
    refine ⟨⟨stored.1.stored own fun row listed old before => ?_, stored.2⟩,
      fun _ _ _ _ other => other⟩
    exact ordered.fresh.foreign ending.live (mem_drawn_reservation listed)
      (mem_ids_reservation before)
  aborts _ _ _ _ _ _ stored _ := ⟨stored, fun _ _ _ _ other => other⟩
  changes _ edit _ _ stored := by
    cases edit <;> exact ⟨stored, fun _ _ _ other => other⟩

theorem claims_whole (system : DeploymentSystem) (reached : System.Reaches ok start system) :
    Whole system.shared.claims system.shared.allocations :=
  ((claims : Invariant discipline ok Ordered).reached (fun _ => rfl)
    ⟨⟨by rintro _ ⟨⟩, by rintro _ ⟨⟩⟩, by rintro _ ⟨⟩⟩ (fun system => ordered_reached system) system
      reached).1.1

end Runs

end AiPlatform.Deployments
