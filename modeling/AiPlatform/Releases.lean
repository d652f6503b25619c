import AiPlatform.GpuLedger

/-!
What a commit does to the allocations. It releases those of the reservations
that its session looked up and found allocations of, and no others. This needs
to know where the reservations come from that a session works with: they are
settled, so that no allocation of them is still to come.
-/

namespace AiPlatform.Deployments

structure Sources (system : DeploymentSystem) : Prop where
  stored : ∀ row ∈ system.shared.deployments, ∀ reservation,
    row.reservationId = some reservation → Settled system reservation
  drafted : ∀ i session, System.Live system i session →
    ∀ row ∈ inserted session.deployments, ∀ reservation, row.reservationId = some reservation →
      ∃ claimed ∈ inserted session.allocations, claimed.reservationId = reservation
  held : ∀ i session, System.Live system i session →
    ∀ tracked ∈ session.deployments, tracked.inserted = false → ∀ reservation,
      tracked.original.reservationId = some reservation → Settled system reservation
  loaded : ∀ i session, System.Live system i session →
    ∀ tracked ∈ session.allocations, tracked.inserted = false →
      Settled system tracked.original.reservationId
  found : ∀ i session, System.Live system i session → ∀ entry ∈ session.found,
    (session.action = .release entry.1 ∧ entry.2 = []) ∨ Settled system entry.1

structure Traced (system : DeploymentSystem) : Prop extends Ordered system, Sources system

theorem replay_reservation (assigned : List DeploymentAssignment)
    (drops : ∀ value, DeploymentAssignment.reservationId value ∈ assigned → value = none)
    (row : ModelDeployment) :
    (Tracked.replay (T := deploymentTable) assigned row).reservationId = row.reservationId ∨
      (Tracked.replay (T := deploymentTable) assigned row).reservationId = none := by
  refine Tracked.replay_keeps (T := deploymentTable) (fun other =>
    other.reservationId = row.reservationId ∨ other.reservationId = none) assigned row (.inl rfl) ?_
  intro assignment listed other holds
  cases assignment with
  | reservationId value => exact .inr (drops value listed)
  | _ => exact holds

section Sources

variable {system next : DeploymentSystem} {label : DeploymentLabel} {i : Nat} {session : Session}
  {shared after : Shared} {op : Op} {reply : Reply op}

theorem update_reservation (orderly : session.Orderly) (row : ModelDeployment) :
    ModelDeployment.reservationId (Tracked.update session.deployments row) = row.reservationId ∨
      ModelDeployment.reservationId (Tracked.update session.deployments row) = none := by
  rcases Tracked.update_cases (T := deploymentTable) session.deployments row with
    ⟨same, _⟩ | ⟨tracked, member, _, _, same⟩
  · rw [same]
    exact .inl rfl
  · rw [same]
    exact replay_reservation tracked.assigned (orderly.drops tracked member) row

theorem seen_stored (orderly : session.Orderly) (other : session.action.reserves = false)
    {row : GpuAllocation} (seen : row ∈ shared.allocationsSeen session) :
    row ∈ shared.allocations := by
  rcases List.mem_append.mp seen with stored | own
  · exact stored
  · rw [inserted_none (orderly.other other).2] at own
    cases own

theorem claimed_after (orderly : session.Orderly) (permitted : session.Permits op)
    (reacts : Reaction i session shared op reply after) :
    ∀ row ∈ inserted session.allocations,
      row ∈ inserted (session.after op reply).allocations := by
  intro row member
  cases claiming orderly permitted reacts with
  | kept held rows locks claims => rwa [rows]
  | claimed nodeId devices purpose reservedBy claims free accepts held rows locks recorded high =>
      rw [rows]
      exact List.mem_append_left _ member

theorem drafted_after (orderly : session.Orderly) (permitted : session.Permits op)
    (reacts : Reaction i session shared op reply after) :
    ∀ row ∈ inserted (session.after op reply).deployments,
      row ∈ inserted session.deployments ∨
        ∃ draft, op = .insert (.deployment draft) ∧ row = { draft with id := shared.nextId } := by
  intro row member
  obtain ⟨tracked, there, kind, rfl⟩ := mem_inserted (T := deploymentTable).mp member
  cases turned reacts tracked there with
  | loaded => cases kind
  | inserted draft inserts => exact .inr ⟨draft, inserts, rfl⟩
  | kept old _ before altered =>
      have own := altered.inserted.symm.trans kind
      refine .inl (mem_inserted.mpr ⟨old, before, own, ?_⟩)
      rw [altered.row]
      have none : op.assignments old.key = [] := by
        by_contra assigns
        cases reserves : session.action.reserves with
        | false =>
            rw [(orderly.other reserves).1 old before] at own
            cases own
        | true =>
            have calm := assigns_permitted permitted assigns
            cases action : session.action <;>
              simp_all [Action.reserves, Action.steers, Action.ticks]
      rw [none]
      rfl

theorem Sources.drafted_step (sources : Sources system) (ordered : Ordered system)
    (transition : System.Transition system label next) (live : System.Live next i session) :
    ∀ row ∈ inserted session.deployments, ∀ reservation, row.reservationId = some reservation →
      ∃ claimed ∈ inserted session.allocations, claimed.reservationId = reservation := by
  intro row member reservation holds
  rcases live_before transition live with new | before |
    ⟨before, op, reply, answer, performed, performing, reacts, rfl⟩
  · rw [new] at member
    cases member
  · exact sources.drafted i session before row member reservation holds
  · have orderly := ordered.orderly i before performing.live
    have permitted := ordered.permits performing
    rcases drafted_after orderly permitted reacts row member with old | ⟨draft, inserts, rfl⟩
    · obtain ⟨claimed, listed, same⟩ :=
        sources.drafted i before performing.live row old reservation holds
      exact ⟨claimed, claimed_after orderly permitted reacts claimed listed, same⟩
    · subst inserts
      have placeable := permitted.2.2.2
      simp only at holds
      rw [holds] at placeable
      obtain ⟨nonempty, nodeId, _, indices, own⟩ := placeable
      obtain ⟨claimed, listed⟩ := List.exists_mem_of_ne_nil (inserted before.allocations)
        fun none => nonempty (by rw [← indices, none]; rfl)
      exact ⟨claimed, claimed_after orderly permitted reacts claimed listed,
        (own claimed listed).2.1⟩

theorem Sources.stored_step (sources : Sources system) (ordered : Ordered system)
    (transition : System.Transition system label next) :
    ∀ row ∈ next.shared.deployments, ∀ reservation, row.reservationId = some reservation →
      Settled next reservation := by
  intro row member reservation holds
  cases transition with
  | begin j request fresh =>
      exact (sources.stored row member reservation holds).step (.begin j request fresh)
  | stop j op rest own found awaits =>
      exact (sources.stored row member reservation holds).step (.stop j op rest own found awaits)
  | abort j own live =>
      exact (sources.stored row member reservation holds).step (.abort j own live)
  | perform j answer op rest own reply shared found reacts =>
      rw [System.put_shared, (reaction reacts).untouched.deployments] at member
      exact (sources.stored row member reservation holds).step
        (.perform j answer op rest own reply shared found reacts)
  | change edit =>
      refine (sources.stored row ?_ reservation holds).step (.change edit)
      cases edit <;> exact member
  | commit j committer shared ending commits =>
      have transition : System.Transition system (.commit j)
          (System.put system j ⟨.done (), committer, .committed⟩ shared) :=
        .commit j committer shared ending commits
      obtain ⟨_, _, rfl⟩ := commit_some commits
      rcases (mem_deploymentsAfter member).2.2 with ⟨old, before, _, written⟩ | own
      · refine (sources.stored old before reservation ?_).step transition
        rcases update_reservation (ordered.orderly j committer ending.live) old with same | none
        · rw [← same, ← written]
          exact holds
        · rw [written, none] at holds
          cases holds
      · obtain ⟨claimed, listed, same⟩ :=
          sources.drafted j committer ending.live row own reservation holds
        rw [← same]
        refine ordered.fresh.settles transition ending.live (mem_drawn_reservation listed) ?_
        intro k other live same
        rcases Invariant.live_put live with ⟨_, _, ended⟩ | ⟨different, _⟩
        · rcases ended with ended | ended <;> cases ended
        · exact different same

theorem Sources.loaded_step (sources : Sources system) (ordered : Ordered system)
    (transition : System.Transition system label next) (live : System.Live next i session) :
    (∀ tracked ∈ session.deployments, tracked.inserted = false → ∀ reservation,
        tracked.original.reservationId = some reservation → Settled next reservation) ∧
      ∀ tracked ∈ session.allocations, tracked.inserted = false →
        Settled next tracked.original.reservationId := by
  rcases live_before transition live with new | before |
    ⟨before, op, reply, answer, performed, performing, reacts, rfl⟩
  · rw [new]
    exact ⟨fun _ member => (nomatch member), fun _ member => nomatch member⟩
  · exact ⟨fun tracked member kind reservation holds =>
      (sources.held i session before tracked member kind reservation holds).step transition,
      fun tracked member kind => (sources.loaded i session before tracked member kind).step transition⟩
  · refine ⟨fun tracked member kind reservation holds => ?_, fun tracked member kind => ?_⟩
    · cases turned reacts tracked member with
      | kept old _ there altered =>
          rw [altered.original] at holds
          exact (sources.held i before performing.live old there
            (altered.inserted.symm.trans kind) reservation holds).step transition
      | loaded row query stored => exact (sources.stored row stored reservation holds).step transition
      | inserted draft inserts => cases kind
    · cases turnedAllocation reacts tracked member with
      | kept _ there => exact (sources.loaded i before performing.live tracked there kind).step transition
      | released old there => exact (sources.loaded i before performing.live old there kind).step transition
      | loaded row stored =>
          exact (ordered.fresh.stored _ (mem_ids_reservation stored)).step transition
      | claimed nodeId devices purpose reservedBy row => cases kind

theorem Sources.found_step (sources : Sources system) (ordered : Ordered system)
    (transition : System.Transition system label next) (live : System.Live next i session) :
    ∀ entry ∈ session.found,
      (session.action = .release entry.1 ∧ entry.2 = []) ∨ Settled next entry.1 := by
  intro entry member
  have kept {before : Session} (was : System.Live system i before) (listed : entry ∈ before.found)
      (same : session.action = before.action) :
      (session.action = .release entry.1 ∧ entry.2 = []) ∨ Settled next entry.1 := by
    rw [same]
    exact (sources.found i before was entry listed).imp id fun settled => settled.step transition
  rcases live_before transition live with new | before |
    ⟨before, op, reply, answer, performed, performing, reacts, rfl⟩
  · rw [new] at member
    cases member
  · exact kept before member rfl
  · rcases found_after reacts with same | ⟨reservation, rfl, found⟩
    · rw [same] at member
      exact kept performing.live member (after_action op reply)
    · rw [found] at member
      rcases List.mem_append.mp member with old | new
      · exact kept performing.live old (after_action _ _)
      · rw [List.mem_singleton.mp new]
        rcases ordered.permits performing with byHand | ⟨tracked, there, kind, holds⟩
        · have action := (@after_action before (.read (.reservation reservation)) reply).trans byHand
          by_cases none : (system.shared.lookup before reservation).2 = []
          · exact .inl ⟨action, none⟩
          · right
            obtain ⟨id, listed⟩ := List.exists_mem_of_ne_nil _ none
            obtain ⟨row, found, _⟩ := List.mem_map.mp listed
            obtain ⟨seen, own⟩ := List.mem_filter.mp found
            have reserves : before.action.reserves = false := by rw [byHand]; rfl
            have orderly := ordered.orderly i before performing.live
            have settled := ordered.fresh.stored _
              (mem_ids_reservation (seen_stored orderly reserves seen))
            rw [of_decide_eq_true own] at settled
            exact settled.step transition
        · exact .inr ((sources.held i before performing.live tracked there kind reservation
            holds).step transition)

theorem sources_reached {ok : DeploymentSystem → DeploymentLabel → Prop}
    (system : DeploymentSystem) (reached : System.Reaches ok start system) : Sources system := by
  refine System.reaches_induction (M := deploymentMachine) Sources ?_ ?_ system reached
  · have idle : ∀ i session, ¬System.Live start i session := by
      rintro i session ⟨process, found, _⟩
      cases found
    exact ⟨fun _ member => (nomatch member), fun i session live => absurd live (idle i session),
      fun i session live => absurd live (idle i session),
      fun i session live => absurd live (idle i session),
      fun i session live => absurd live (idle i session)⟩
  · intro system label next reached sources _ transition
    have ordered := ordered_reached system reached
    exact ⟨sources.stored_step ordered transition,
      fun i session live => sources.drafted_step ordered transition live,
      fun i session live => (sources.loaded_step ordered transition live).1,
      fun i session live => (sources.loaded_step ordered transition live).2,
      fun i session live => sources.found_step ordered transition live⟩

theorem traced_reached {ok : DeploymentSystem → DeploymentLabel → Prop}
    (system : DeploymentSystem) (reached : System.Reaches ok start system) : Traced system :=
  { ordered_reached system reached, sources_reached system reached with }

end Sources

theorem SameClaim.refl (row : GpuAllocation) : SameClaim row row :=
  ⟨rfl, rfl, rfl, rfl, fun _ found => found, fun gone => gone⟩

theorem SameClaim.trans {first second third : GpuAllocation} (before : SameClaim first second)
    (after : SameClaim second third) : SameClaim first third :=
  ⟨after.id.trans before.id, after.nodeId.trans before.nodeId,
    after.gpuIndex.trans before.gpuIndex, after.reservationId.trans before.reservationId,
    fun gpuId found => before.gpuId gpuId (after.gpuId gpuId found),
    fun gone => after.released (before.released gone)⟩

/-- What a session loaded is stored as the same claims, and a lookup found all
the allocations of its reservation. -/
structure Accounts (session : Session) (shared : Shared) : Prop where
  same : ∀ tracked ∈ session.allocations, tracked.inserted = false →
    ∀ row ∈ shared.allocations, row.id = tracked.key → SameClaim tracked.original row
  listed : ∀ entry ∈ session.found, ∀ id ∈ entry.2, ∃ tracked ∈ session.allocations,
    tracked.key = id ∧ tracked.inserted = false ∧ tracked.original.reservationId = entry.1
  complete : ∀ entry ∈ session.found, ∀ row ∈ shared.allocations,
    row.reservationId = entry.1 →
      row.id ∈ entry.2 ∨ (session.action = .release entry.1 ∧ entry.2 = [])

section Lookups

variable {i : Nat} {session : Session} {shared next : Shared} {op : Op} {reply : Reply op}

theorem allocation_persists (op : Op) (reply : Reply op) {tracked : Tracked allocationTable}
    (member : tracked ∈ session.allocations) :
    ∃ now ∈ (session.after op reply).allocations,
      now.original = tracked.original ∧ now.inserted = tracked.inserted := by
  have stays {after : Session} (there : tracked ∈ after.allocations) :
      ∃ now ∈ after.allocations,
        now.original = tracked.original ∧ now.inserted = tracked.inserted :=
    ⟨tracked, there, rfl, rfl⟩
  cases op with
  | read query =>
      cases query with
      | activeOn nodeId | reservation id => exact stays (mem_loading.mpr (.inl member))
      | model id | gpuByUuid uuid | deployment id => cases reply <;> exact stays member
      | node id | nodeNamed name | nodes limit | pollable | gpusOf nodeId | pending
      | deployments => exact stays member
  | write write =>
      cases write with
      | releaseAllocation id =>
          by_cases keyed : tracked.key = id
          · obtain ⟨now, there, _, original, inserted, _⟩ :=
              @assigned_row allocationTable _ _ _ .released _ member keyed
            exact ⟨now, there, original, inserted⟩
          · exact stays (mem_assigning_other member keyed)
      | assignNode node assignment | assignGpu gpuId assignment | assignDeployment id assignment
      | recordFailure id | deleteDeployment id | deleteNode id => exact stays member
  | insert draft => cases draft <;> exact stays member
  | claim nodeId devices purpose reservedBy =>
      cases reply with
      | none => exact stays member
      | some claimed => exact stays (List.mem_append_left _ member)
  | telemetry | flush | agent | serving | raise => exact stays member

theorem looks_other (orderly : session.Orderly) {reservation : Nat}
    (looks : session.MayRelease reservation) : session.action.reserves = false := by
  rcases looks with byHand | ⟨tracked, there, loaded, _⟩
  · rw [byHand]
    rfl
  · cases reserves : session.action.reserves with
    | false => rfl
    | true =>
        rw [((orderly.reserving reserves).1 tracked there).1] at loaded
        cases loaded

theorem Accounts.after (accounts : Accounts session shared) (orderly : session.Orderly)
    (permitted : session.Permits op) (distinct : shared.Distinct)
    (reacts : Reaction i session shared op reply next) :
    Accounts (session.after op reply) shared := by
  have same : ∀ tracked ∈ (session.after op reply).allocations, tracked.inserted = false →
      ∀ row ∈ shared.allocations, row.id = tracked.key → SameClaim tracked.original row := by
    intro tracked member loaded row stored keyed
    cases turnedAllocation reacts tracked member with
    | kept _ there => exact accounts.same tracked there loaded row stored keyed
    | released old there => exact accounts.same old there loaded row stored keyed
    | loaded base known =>
        have one : row = base := List.inj_on_of_nodup_map distinct.allocations stored known keyed
        rw [one]
        exact .refl base
    | claimed => cases loaded
  have persists (entry : Nat × List Nat) (member : entry ∈ session.found) :
      ∀ id ∈ entry.2, ∃ tracked ∈ (session.after op reply).allocations,
        tracked.key = id ∧ tracked.inserted = false ∧
          tracked.original.reservationId = entry.1 := by
    intro id listed
    obtain ⟨tracked, there, keyed, loaded, own⟩ := accounts.listed entry member id listed
    obtain ⟨now, here, original, kind⟩ := allocation_persists op reply there
    refine ⟨now, here, ?_, kind.trans loaded, ?_⟩
    · rw [Tracked.key, original]
      exact keyed
    · rw [original]
      exact own
  have action : (session.after op reply).action = session.action := after_action op reply
  rcases found_after reacts with kept | ⟨reservation, rfl, found⟩
  · refine ⟨same, ?_, ?_⟩
    · rw [kept]
      exact persists
    · rw [kept, action]
      exact accounts.complete
  · have other := looks_other orderly permitted
    have loaded := (orderly.other_after permitted reacts other).2
    refine ⟨same, ?_, ?_⟩
    · rw [found]
      intro entry member
      rcases List.mem_append.mp member with old | new
      · exact persists entry old
      · rw [List.mem_singleton.mp new]
        intro id listed
        obtain ⟨row, looked, keyed⟩ := List.mem_map.mp listed
        obtain ⟨seen, own⟩ := List.mem_filter.mp looked
        cases reacts
        obtain ⟨tracked, there, rowed⟩ := @instance_loading allocationTable session.allocations _ _
          (List.mem_map_of_mem looked)
        have sameKey : tracked.key = row.id := by
          rw [← Tracked.key_row tracked, rowed]
          exact key_instanceOf (T := allocationTable) _ row
        have claim := same tracked there (loaded tracked there) row
          (seen_stored orderly other seen) sameKey.symm
        exact ⟨tracked, there, sameKey.trans keyed, loaded tracked there,
          claim.reservationId.symm.trans (of_decide_eq_true own)⟩
    · rw [found, action]
      intro entry member row stored own
      rcases List.mem_append.mp member with old | new
      · exact accounts.complete entry old row stored own
      · rw [List.mem_singleton.mp new] at own ⊢
        refine .inl (List.mem_map_of_mem (List.mem_filter.mpr ⟨?_, decide_eq_true own⟩))
        exact List.mem_append_left _ stored

def accounts {ok : DeploymentSystem → DeploymentLabel → Prop} :
    Invariant discipline ok Traced where
  shared _ := True
  session _ := Accounts
  begins _ _ _ _ _ _ :=
    ⟨fun _ member => (nomatch member), fun _ member => (nomatch member),
      fun _ member => nomatch member⟩
  performs system i answer op session reply after traced _ performing _ _ own reacts := by
    have reacts := reaction reacts
    have stays {other : Session} (accounts : Accounts other system.shared) :
        Accounts other after := by
      obtain ⟨same, listed, complete⟩ := accounts
      refine ⟨?_, listed, ?_⟩
      · rw [reacts.untouched.allocations]
        exact same
      · rw [reacts.untouched.allocations]
        exact complete
    exact ⟨trivial, stays (own.after (traced.orderly i session performing.live)
      (traced.permits performing) traced.fresh.distinct reacts), fun _ _ _ _ => stays⟩
  commits system i committer after traced _ ending _ _ _ commits := by
    refine ⟨trivial, fun j session different live accounts => ?_⟩
    obtain ⟨_, _, rfl⟩ := commit_some commits
    refine ⟨fun tracked member loaded row stored keyed => ?_, accounts.listed,
      fun entry member row stored own => ?_⟩
    · rcases (mem_allocationsAfter stored).2.2 with ⟨old, before, same, _⟩ | ⟨new, drawn, same, _⟩
      · exact (accounts.same tracked member loaded old before (same.id.symm.trans keyed)).trans same
      · exact absurd (same.id.symm.trans keyed) (traced.fresh.unloaded live ending.live
          (mem_seen_allocation member loaded) (mem_drawn_allocation drawn))
    · rcases (mem_allocationsAfter stored).2.2 with ⟨old, before, same, _⟩ | ⟨new, drawn, same, _⟩
      · rw [same.id]
        exact accounts.complete entry member old before (same.reservationId.symm.trans own)
      · rcases traced.found j session live entry member with byHand | settled
        · exact .inr byHand
        · have claimed := mem_drawn_reservation drawn
          rw [← same.reservationId, own] at claimed
          exact absurd claimed (settled.unclaimed i committer ending.live)
  aborts _ _ _ _ _ _ _ _ :=
    ⟨trivial, fun _ _ _ _ accounts => ⟨accounts.same, accounts.listed, accounts.complete⟩⟩
  changes _ edit _ _ _ := by
    refine ⟨trivial, fun _ _ _ accounts => ?_⟩
    cases edit <;> exact ⟨accounts.same, accounts.listed, accounts.complete⟩

end Lookups

def Session.frees (session : Session) (reservation : Nat) : Bool :=
  session.found.any fun entry => decide (entry.1 = reservation) && !entry.2.isEmpty

def Session.freed (session : Session) (allocation : GpuAllocation) : GpuAllocation :=
  { allocation with released := allocation.released || session.frees allocation.reservationId }

theorem Session.frees_iff {session : Session} {reservation : Nat} :
    session.frees reservation = true ↔
      ∃ entry ∈ session.found, entry.1 = reservation ∧ entry.2 ≠ [] := by
  simp [Session.frees, List.any_eq_true]

section Releases

variable {session : Session} {shared : Shared}

theorem update_released (distinct : session.Distinct) {tracked : Tracked allocationTable}
    (member : tracked ∈ session.allocations) (loaded : tracked.inserted = false)
    {row : GpuAllocation} (keyed : tracked.key = row.id)
    (same : SameClaim tracked.original row) (gone : tracked.row.released = true) :
    Tracked.update session.allocations row = { row with released := true } := by
  rw [Tracked.update_eq (T := allocationTable) distinct.allocations member loaded keyed,
    replay_allocation]
  rw [Tracked.row, replay_allocation, Bool.or_eq_true] at gone
  rcases gone with before | now
  · rw [same.released before, Bool.true_or]
  · rw [now, Bool.or_true]

theorem update_freed (accounts : Accounts session shared) (distinct : session.Distinct)
    (finished : session.Finished) {row : GpuAllocation} (stored : row ∈ shared.allocations) :
    Tracked.update session.allocations row = session.freed row := by
  cases frees : session.frees row.reservationId with
  | true =>
      obtain ⟨entry, member, own, nonempty⟩ := Session.frees_iff.mp frees
      have looked : row.id ∈ entry.2 :=
        (accounts.complete entry member row stored own.symm).resolve_right fun both =>
          nonempty both.2
      obtain ⟨tracked, there, keyed, loaded, _⟩ := accounts.listed entry member row.id looked
      obtain ⟨emptied, here, sameKey, gone⟩ := finished.emptied entry member row.id looked
      have one : emptied = tracked := List.inj_on_of_nodup_map distinct.allocations here there
        (sameKey.trans keyed.symm)
      rw [one] at gone
      rw [update_released distinct there loaded keyed
        (accounts.same tracked there loaded row stored keyed.symm) gone, Session.freed, frees,
        Bool.or_true]
  | false =>
      have unchanged : session.freed row = row := by rw [Session.freed, frees, Bool.or_false]
      rw [unchanged]
      refine Tracked.update_clean fun tracked member loaded keyed => ?_
      by_contra changed
      obtain ⟨entry, known, listed, _⟩ := finished.released tracked member changed
      obtain ⟨other, there, sameKey, _, own⟩ := accounts.listed entry known tracked.key listed
      have one : other = tracked :=
        List.inj_on_of_nodup_map distinct.allocations there member sameKey
      rw [one, ← (accounts.same tracked member loaded row stored keyed.symm).reservationId] at own
      have nonempty : entry.2 ≠ [] := List.ne_nil_of_mem listed
      rw [Session.frees_iff.mpr ⟨entry, known, own.symm, nonempty⟩] at frees
      cases frees

theorem freed_cause (accounts : Accounts session shared) (distinct : session.Distinct)
    (finished : session.Finished) {row : GpuAllocation} (stored : row ∈ shared.allocations)
    (active : row.active = true) (frees : session.frees row.reservationId = true) :
    session.action = .release row.reservationId ∨ session.Vacates row.reservationId := by
  have written := update_freed accounts distinct finished stored
  rcases update_allocation session.allocations row with same | ⟨_, tracked, member, loaded, keyed,
    changed⟩
  · -- The row would be written back as it is, but it is released.
    have gone := congrArg GpuAllocation.released (same.symm.trans written)
    simp only [Session.freed, frees, Bool.or_true] at gone
    simp [GpuAllocation.active, gone] at active
  · obtain ⟨entry, known, listed, cause⟩ := finished.released tracked member changed
    obtain ⟨other, there, sameKey, _, own⟩ := accounts.listed entry known tracked.key listed
    have one : other = tracked := List.inj_on_of_nodup_map distinct.allocations there member sameKey
    rw [one] at own
    rw [(accounts.same tracked member loaded row stored keyed.symm).reservationId, own]
    exact cause

theorem allocations_stored (accounts : Accounts session shared) (distinct : session.Distinct)
    (finished : session.Finished) :
    shared.allocationsAfter session =
      ((shared.allocations.map session.freed ++ inserted session.allocations).filter
        fun allocation => !session.deletedNodes.contains allocation.nodeId).map
          (shared.detached session) := by
  rw [allocationsAfter_eq, Tracked.store]
  refine congrArg (fun rows => List.map (shared.detached session) (List.filter _ (rows ++ _))) ?_
  exact List.map_congr_left fun row stored => update_freed accounts distinct finished stored

end Releases

end AiPlatform.Deployments
