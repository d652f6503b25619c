import AiPlatform.Releases

/-!
Reservations of GPUs. Indices are exclusive, reservations come whole and a
release frees what is its own in every run. That a card has one active
allocation at most needs more: an inventory that moves a card while an
allocation names it leaves the card free to be claimed under its new index.
-/

namespace AiPlatform.Deployments

def Shared.activeCards (shared : Shared) : List Nat :=
  (shared.allocations.filter (·.active)).filterMap (·.gpuId)

def Unclaimed (system : DeploymentSystem) (gpuId : Nat) : Prop :=
  (∀ allocation ∈ system.shared.allocations, allocation.active = true →
      allocation.gpuId ≠ some gpuId) ∧
    ∀ j session, System.Live system j session →
      ∀ allocation ∈ inserted session.allocations, allocation.gpuId ≠ some gpuId

/-- A claim names the cards that have the indices now, and no commit moves a
card that an allocation names. -/
def CardsStay (system : DeploymentSystem) : DeploymentLabel → Prop
  | .perform i _ => ∀ nodeId devices purpose reservedBy session,
      System.Performing system i (.claim nodeId devices purpose reservedBy) session →
        ∀ device ∈ devices, ∀ gpu ∈ system.shared.gpus, gpu.id = device.2 →
          gpu.device = (nodeId, device.1)
  | .commit i => ∀ session, System.Live system i session → ∀ gpu ∈ system.shared.gpus,
      Gpu.device (Tracked.update session.gpus gpu) ≠ gpu.device → Unclaimed system gpu.id
  | _ => True

section Cards

variable {ok : DeploymentSystem → DeploymentLabel → Prop}

theorem cards_settled (system : DeploymentSystem) (reached : System.Reaches ok start system) :
    ∀ i session, System.Live system i session → ∀ row ∈ inserted session.allocations, ∀ gpuId,
      row.gpuId = some gpuId → Settled system gpuId := by
  refine System.reaches_induction (M := deploymentMachine) (fun system =>
    ∀ i session, System.Live system i session → ∀ row ∈ inserted session.allocations, ∀ gpuId,
      row.gpuId = some gpuId → Settled system gpuId) ?_ ?_ system reached
  · rintro i session ⟨process, found, _⟩
    cases found
  intro system label next reached settled _ transition i session live row member gpuId names
  rcases live_before transition live with new | before |
    ⟨before, op, reply, answer, performed, performing, reacts, rfl⟩
  · rw [new] at member
    cases member
  · exact (settled i session before row member gpuId names).step transition
  · have ordered := ordered_reached system reached
    cases claiming (ordered.orderly i before performing.live) (ordered.permits performing) reacts with
    | kept held rows locks claims =>
        rw [rows] at member
        exact (settled i before performing.live row member gpuId names).step transition
    | claimed nodeId devices purpose reservedBy claims free accepts held rows locks recorded high =>
        rw [rows] at member
        rcases List.mem_append.mp member with old | new
        · exact (settled i before performing.live row old gpuId names).step transition
        · obtain ⟨_, _, _, _, _, device, listed, _, own⟩ := mem_reservedRows new
          cases own.symm.trans names
          simp only [Shared.refuses, Bool.or_eq_false_iff, List.any_eq_false] at accepts
          have known := accepts.2 device listed
          simp only [Bool.or_eq_true, Bool.not_eq_true', List.any_eq_false, decide_eq_true_eq,
            not_or, not_forall, not_not] at known
          obtain ⟨gpu, stored, keyed⟩ := known.1
          have stored := ordered.fresh.stored _ (mem_ids_gpu stored)
          rw [keyed] at stored
          exact stored.step transition

theorem cards_stored (system : DeploymentSystem) (reached : System.Reaches ok start system) :
    ∀ row ∈ system.shared.allocations, ∀ gpuId, row.gpuId = some gpuId →
      ∃ gpu ∈ system.shared.gpus, gpu.id = gpuId := by
  refine System.reaches_induction (M := deploymentMachine) (fun system =>
    ∀ row ∈ system.shared.allocations, ∀ gpuId, row.gpuId = some gpuId →
      ∃ gpu ∈ system.shared.gpus, gpu.id = gpuId) (by rintro _ ⟨⟩) ?_ system reached
  intro system label next _ known _ transition
  cases transition with
  | begin | stop | abort => exact known
  | perform i answer op rest session reply shared found reacts =>
      have same := (reaction reacts).untouched
      rw [System.put_shared, same.allocations, same.gpus]
      exact known
  | commit i session shared ending commits =>
      obtain ⟨_, _, rfl⟩ := commit_some commits
      exact fun row member => (mem_allocationsAfter member).2.1
  | change edit => cases edit <;> exact known

end Cards

def AtDevice (shared : Shared) (row : GpuAllocation) : Prop :=
  ∀ gpuId, row.gpuId = some gpuId → ∀ gpu ∈ shared.gpus, gpu.id = gpuId →
    gpu.device = row.device

structure Carded (system : DeploymentSystem) : Prop extends Ordered system where
  settled : ∀ i session, System.Live system i session → ∀ row ∈ inserted session.allocations,
    ∀ gpuId, row.gpuId = some gpuId → Settled system gpuId
  known : ∀ row ∈ system.shared.allocations, ∀ gpuId, row.gpuId = some gpuId →
    ∃ gpu ∈ system.shared.gpus, gpu.id = gpuId

theorem carded_reached {ok : DeploymentSystem → DeploymentLabel → Prop}
    (system : DeploymentSystem) (reached : System.Reaches ok start system) : Carded system :=
  ⟨ordered_reached system reached, cards_settled system reached, cards_stored system reached⟩

section Runs

variable {system : DeploymentSystem} {i : Nat} {session : Session}

theorem AtDevice.stored {row : GpuAllocation} (at_device : AtDevice system.shared row)
    (stays : ∀ gpu ∈ system.shared.gpus, row.gpuId = some gpu.id →
      Gpu.device (Tracked.update session.gpus gpu) = gpu.device)
    (foreign : ∀ gpuId, row.gpuId = some gpuId → gpuId ∉ session.drawn) :
    AtDevice (system.shared.stored session) row := by
  intro gpuId names gpu member keyed
  rcases mem_gpusAfter member with ⟨old, before, same, rfl⟩ | own
  · have known : row.gpuId = some old.id := by rw [names, ← keyed, same]
    rw [stays old before known]
    exact at_device gpuId names old before (same.symm.trans keyed)
  · rw [← keyed] at names
    exact absurd (mem_drawn_gpu own) (foreign gpu.id names)

def cards : Invariant discipline CardsStay Carded where
  shared shared := ∀ row ∈ shared.allocations, row.active = true → AtDevice shared row
  session _ session shared := ∀ row ∈ inserted session.allocations, AtDevice shared row
  begins _ _ _ _ _ _ := fun _ member => nomatch member
  performs system i answer op session reply after carded meets performing _ stored own reacts := by
    have reacts := reaction reacts
    have same := reacts.untouched
    have moved {row : GpuAllocation} (at_device : AtDevice system.shared row) :
        AtDevice after row := by
      intro gpuId names gpu member
      rw [same.gpus] at member
      exact at_device gpuId names gpu member
    refine ⟨?_, fun row member => ?_, fun _ _ _ _ other row member => moved (other row member)⟩
    · rw [same.allocations]
      exact fun row member active => moved (stored row member active)
    · have permitted := carded.permits performing
      have rows := claiming (carded.orderly i session performing.live) permitted reacts
      change row ∈ inserted (Session.after session op reply).allocations at member
      cases rows with
      | kept held rows locks claims =>
          rw [rows] at member
          exact moved (own row member)
      | claimed nodeId devices purpose reservedBy claims free accepts held rows =>
          rw [rows] at member
          rcases List.mem_append.mp member with old | new
          · exact moved (own row old)
          · obtain ⟨node, _, _, _, _, device, listed, index, names⟩ := mem_reservedRows new
            intro gpuId named gpu there keyed
            cases names.symm.trans named
            rw [same.gpus] at there
            subst claims
            rw [meets nodeId devices purpose reservedBy session performing device listed gpu there
              keyed, GpuAllocation.device, node, index]
  commits system i session after carded meets ending _ stored own commits := by
    obtain ⟨_, _, rfl⟩ := commit_some commits
    have stays {gpu : Gpu} (known : gpu ∈ system.shared.gpus) (named : ¬Unclaimed system gpu.id) :
        Gpu.device (Tracked.update session.gpus gpu) = gpu.device := by
      by_contra moves
      exact named (meets session ending.live gpu known moves)
    have claimed {j : Nat} {other : Session} (live : System.Live system j other)
        {row : GpuAllocation} (member : row ∈ inserted other.allocations)
        (at_device : AtDevice system.shared row) :
        AtDevice (system.shared.stored session) row :=
      at_device.stored
        (fun gpu known names => stays known fun unclaimed => unclaimed.2 j other live row member names)
        fun gpuId names => (carded.settled j other live row member gpuId names).unclaimed i session
          ending.live
    have narrowed {before after : GpuAllocation} (same : SameClaim before after)
        (at_device : AtDevice (system.shared.stored session) before) :
        AtDevice (system.shared.stored session) after := fun gpuId names gpu there keyed =>
      (at_device gpuId (same.gpuId gpuId names) gpu there keyed).trans same.device.symm
    refine ⟨fun row member active => ?_, fun j other _ live claims row member => ?_⟩
    · rcases (mem_allocationsAfter member).2.2 with ⟨old, before, same, _⟩ | ⟨new, drawn, same, _⟩
      · have was : old.active = true := by
          cases gone : old.released with
          | false => simp [GpuAllocation.active, gone]
          | true => simp [GpuAllocation.active, same.released gone] at active
        refine narrowed same ((stored old before was).stored (fun gpu known names => ?_)
          fun gpuId names => ?_)
        · exact stays known fun unclaimed => unclaimed.1 old before was names
        · obtain ⟨gpu, known, keyed⟩ := carded.known old before gpuId names
          intro drawn
          exact carded.fresh.foreign ending.live drawn (mem_ids_gpu known) keyed
      · exact narrowed same (claimed ending.live drawn (own new drawn))
    · exact claimed live member (claims row member)
  aborts _ _ _ _ _ _ stored _ := ⟨stored, fun _ _ _ _ other => other⟩
  changes _ edit _ _ stored := by
    cases edit <;> exact ⟨stored, fun _ _ _ other => other⟩

theorem activeCards_nodup {shared : Shared} (distinct : shared.activeDevices.Nodup)
    (known : ∀ row ∈ shared.allocations, ∀ gpuId, row.gpuId = some gpuId →
      ∃ gpu ∈ shared.gpus, gpu.id = gpuId)
    (at_device : ∀ row ∈ shared.allocations, row.active = true → AtDevice shared row) :
    shared.activeCards.Nodup := by
  rw [Shared.activeDevices, List.Nodup, List.pairwise_map] at distinct
  rw [Shared.activeCards, List.Nodup, List.pairwise_filterMap]
  refine distinct.imp_of_mem fun {left right} first second apart gpuId names other named same => ?_
  subst same
  obtain ⟨here, active⟩ := List.mem_filter.mp first
  obtain ⟨there, alive⟩ := List.mem_filter.mp second
  obtain ⟨gpu, stored, keyed⟩ := known left here gpuId names
  exact apart ((at_device left here active gpuId names gpu stored keyed).symm.trans
    (at_device right there alive gpuId named gpu stored keyed))

theorem cards_distinct (system : DeploymentSystem)
    (reached : System.Reaches CardsStay start system) :
    Shared.activeCards system.shared |>.Nodup :=
  activeCards_nodup (devices_distinct system reached) (cards_stored system reached)
    (cards.reached (fun _ => rfl) (by rintro _ ⟨⟩) (fun system => carded_reached system) system
      reached).1

end Runs

structure Settles (session : Session) (before after : Shared) : Prop where
  frees : ∀ old ∈ before.allocations, ∀ row ∈ after.allocations, row.id = old.id →
    row.released = (old.released || session.frees old.reservationId)
  /-- A release by hand changes the allocations of its reservation only. -/
  released : ∀ reservation, session.action = .release reservation →
    after.allocations = before.allocations.map session.freed ∧
      (∀ other, session.frees other = true → other = reservation) ∧
        (session.frees reservation = true ∨ (reservation, []) ∈ session.found)
  again : ∀ reservation, session.action = .release reservation →
    (∀ row ∈ before.allocations, row.reservationId = reservation → row.released = true) →
      after.allocations = before.allocations
  took : ∀ nodeId gpuIndices purpose reservedBy,
    session.action = .reserve nodeId gpuIndices purpose reservedBy → ∃ reservation,
      taken reservation before.allocations = [] ∧
        taken reservation (after.allocations.filter (·.active)) = gpuIndices.map (Prod.mk nodeId)

section Commits

variable {session : Session} {shared : Shared}

theorem detached_known (none : session.deletedNodes = []) {row : GpuAllocation}
    (known : ∀ gpuId, row.gpuId = some gpuId → ∃ gpu ∈ shared.gpus, gpu.id = gpuId) :
    shared.detached session row = row := by
  have kept : (row.gpuId.filter fun id => (shared.gpusAfter session).any fun gpu => gpu.id = id) =
      row.gpuId := by
    cases names : row.gpuId with
    | none => rfl
    | some gpuId =>
        obtain ⟨gpu, stored, keyed⟩ := known gpuId names
        refine Option.filter_eq_some_iff.mpr
          ⟨rfl, List.any_eq_true.mpr ⟨Tracked.update session.gpus gpu, ?_, ?_⟩⟩
        · refine List.mem_filter.mpr ⟨Tracked.update_stored stored, ?_⟩
          rw [none]
          rfl
        · rw [decide_eq_true_eq, ← keyed]
          exact Tracked.key_update (T := gpuTable) session.gpus gpu
  rw [Shared.detached, kept]

theorem undeleted (orderly : session.Orderly)
    (other : ∀ nodeId, session.action ≠ .deleteNode nodeId) : session.deletedNodes = [] := by
  by_contra deletes
  obtain ⟨nodeId, action⟩ := orderly.nodes deletes
  exact other nodeId action

theorem filter_alive (none : session.deletedNodes = []) (rows : List GpuAllocation) :
    (rows.filter fun row => !session.deletedNodes.contains row.nodeId) = rows := by
  rw [none]
  exact List.filter_eq_self.mpr fun row _ => rfl

theorem released_stored (accounts : Accounts session shared) (distinct : session.Distinct)
    (finished : session.Finished) (orderly : session.Orderly)
    (known : ∀ row ∈ shared.allocations, ∀ gpuId, row.gpuId = some gpuId →
      ∃ gpu ∈ shared.gpus, gpu.id = gpuId) {reservation : Nat}
    (releases : session.action = .release reservation) :
    shared.allocationsAfter session = shared.allocations.map session.freed := by
  have none := undeleted orderly fun nodeId same => nomatch releases.symm.trans same
  have reserves : session.action.reserves = false := by rw [releases]; rfl
  rw [allocations_stored accounts distinct finished, filter_alive none,
    inserted_none (orderly.other reserves).2, List.append_nil, List.map_map]
  exact List.map_congr_left fun row stored => detached_known none (known row stored)

theorem Session.frees_own (orderly : session.Orderly) {reservation : Nat}
    (releases : session.action = .release reservation) {other : Nat}
    (frees : session.frees other = true) : other = reservation := by
  obtain ⟨entry, member, own, _⟩ := Session.frees_iff.mp frees
  rw [← own]
  exact (orderly.releases reservation releases).2 entry member

theorem taken_active {reservation : Nat} {rows : List GpuAllocation}
    (active : ∀ row ∈ rows, row.reservationId = reservation → row.active = true) :
    taken reservation (rows.filter (·.active)) = taken reservation rows := by
  rw [taken, List.filter_comm, List.filter_eq_self.mpr fun row member => ?_]
  · rfl
  · obtain ⟨listed, own⟩ := List.mem_filter.mp member
    exact active row listed (of_decide_eq_true own)

theorem took_stored (orderly : session.Orderly) (finished : session.Finished)
    (fresh : ∀ row ∈ inserted session.allocations, ∀ old ∈ shared.allocations,
      old.reservationId ≠ row.reservationId) {nodeId : Nat} {gpuIndices : List Int}
    {purpose : String} {reservedBy : Nat}
    (reserves : session.action = .reserve nodeId gpuIndices purpose reservedBy) :
    ∃ reservation, taken reservation shared.allocations = [] ∧
      taken reservation ((shared.allocationsAfter session).filter (·.active)) =
        gpuIndices.map (Prod.mk nodeId) := by
  obtain ⟨nonempty, reservation, indices, own⟩ := finished.took _ _ _ _ reserves
  obtain ⟨first, member⟩ := List.exists_mem_of_ne_nil (inserted session.allocations)
    fun none => nonempty (by rw [← indices, none]; rfl)
  have foreign : ∀ old ∈ shared.allocations, old.reservationId ≠ reservation := fun old stored =>
    (own first member).2.1 ▸ fresh first member old stored
  have none := undeleted orderly fun nodeId same => nomatch reserves.symm.trans same
  refine ⟨reservation, taken_none foreign, ?_⟩
  rw [taken_active fun row stored same => ?_]
  · rw [taken_stored, filter_alive none, taken_append, taken_none foreign, List.nil_append,
      taken_all fun row listed => (own row listed).2.1, ← indices, List.map_map]
    exact List.map_congr_left fun row listed => Prod.ext (own row listed).1 rfl
  · rcases (mem_allocationsAfter stored).2.2 with ⟨old, before, claim, _⟩ | ⟨new, listed, _, kept⟩
    · exact absurd (claim.reservationId.symm.trans same) (foreign old before)
    · rw [GpuAllocation.active, kept, (own new listed).2.2]
      rfl

theorem freed_stored (accounts : Accounts session shared) (distinct : session.Distinct)
    (finished : session.Finished) (apart : (shared.allocations.map (·.id)).Nodup)
    (fresh : ∀ row ∈ inserted session.allocations, ∀ old ∈ shared.allocations, old.id ≠ row.id)
    {old row : GpuAllocation} (before : old ∈ shared.allocations)
    (after : row ∈ shared.allocationsAfter session) (same : row.id = old.id) :
    row.released = (old.released || session.frees old.reservationId) := by
  rw [allocations_stored accounts distinct finished] at after
  obtain ⟨written, kept, rfl⟩ := List.mem_map.mp after
  rcases List.mem_append.mp (List.mem_of_mem_filter kept) with stored | own
  · obtain ⟨other, listed, rfl⟩ := List.mem_map.mp stored
    have one : other = old := List.inj_on_of_nodup_map apart listed before same
    rw [one]
    rfl
  · exact absurd same.symm (fresh written own old before)

theorem settles (accounts : Accounts session shared) (distinct : session.Distinct)
    (finished : session.Finished) (orderly : session.Orderly) (apart : shared.Distinct)
    (known : ∀ row ∈ shared.allocations, ∀ gpuId, row.gpuId = some gpuId →
      ∃ gpu ∈ shared.gpus, gpu.id = gpuId)
    (fresh : ∀ row ∈ inserted session.allocations, ∀ old ∈ shared.allocations,
      old.id ≠ row.id ∧ old.reservationId ≠ row.reservationId) {after : Shared}
    (stored : after.allocations = shared.allocationsAfter session) :
    Settles session shared after := by
  refine ⟨fun old before row listed same => ?_, fun reservation releases => ?_,
    fun reservation releases gone => ?_, fun nodeId gpuIndices purpose reservedBy reserves => ?_⟩
  · rw [stored] at listed
    exact freed_stored accounts distinct finished apart.allocations
      (fun row own old before => (fresh row own old before).1) before listed same
  · refine ⟨stored.trans (released_stored accounts distinct finished orderly known releases),
      fun other => Session.frees_own orderly releases, ?_⟩
    obtain ⟨⟨looked, ids⟩, member, rfl⟩ := finished.looked reservation releases
    by_cases none : ids = []
    · exact .inr (none ▸ member)
    · exact .inl (Session.frees_iff.mpr ⟨_, member, rfl, none⟩)
  · rw [stored, released_stored accounts distinct finished orderly known releases]
    refine (List.map_congr_left fun row listed => ?_).trans (List.map_id _)
    have same : (row.released || session.frees row.reservationId) = row.released := by
      cases frees : session.frees row.reservationId with
      | false => exact Bool.or_false _
      | true => rw [gone row listed (Session.frees_own orderly releases frees), Bool.true_or]
    rw [Session.freed, same]
    rfl
  · rw [stored]
    exact took_stored orderly finished
      (fun row own old before => (fresh row own old before).2) reserves

end Commits

structure Ledger (shared : Shared) : Prop where
  devices : shared.activeDevices.Nodup
  cards : shared.activeCards.Nodup
  whole : ∀ claimed ∈ shared.claims, taken claimed.reservationId shared.allocations = [] ∨
    taken claimed.reservationId shared.allocations = claimed.keys

theorem commit_settles {ok : DeploymentSystem → DeploymentLabel → Prop}
    {system next : DeploymentSystem} (reached : System.Reaches ok start system) {i : Nat}
    {session : Session} (live : System.Live system i session)
    (committed : System.step system (.commit i) = some next) :
    Settles session system.shared next.shared := by
  have traced := traced_reached system reached
  have accounts := (accounts.reached (fun _ => rfl) trivial (fun system => traced_reached system)
    system reached).2 i session live
  cases System.step_transition committed with
  | commit _ other shared ending commits =>
      cases System.live_unique live ending.live
      obtain ⟨_, _, rfl⟩ := commit_some commits
      refine settles accounts (traced.fresh.sessions i session live) (traced.finished ending)
        (traced.orderly i session live) traced.fresh.distinct (cards_stored system reached)
        (fun row listed old before => ⟨?_, ?_⟩) rfl
      · exact traced.fresh.foreign live (mem_drawn_allocation listed) (mem_ids_allocation before)
      · exact traced.fresh.foreign live (mem_drawn_reservation listed) (mem_ids_reservation before)

/-- In every run whose claims and commits leave the cards where allocations name
them, active allocations have distinct devices and cards, a reservation is there
as a whole or not at all, and a release frees its reservation and nothing else. -/
theorem reservations_exclusive (system : DeploymentSystem)
    (reached : System.Reaches CardsStay start system) :
    Ledger system.shared ∧ ∀ i session next, System.Live system i session →
      System.step system (.commit i) = some next →
        Settles session system.shared next.shared :=
  ⟨⟨devices_distinct system reached, cards_distinct system reached,
    (claims_whole system reached).whole⟩,
    fun _ _ _ live committed => commit_settles reached live committed⟩

def cardsStay (system : DeploymentSystem) : DeploymentLabel → Bool
  | .perform i _ =>
      match System.op? system i with
      | some (.claim nodeId devices _ _) => devices.all fun device =>
          system.shared.gpus.all fun gpu => gpu.id ≠ device.2 || gpu.device = (nodeId, device.1)
      | _ => true
  | .commit i => (System.session? system i).all fun session => system.shared.gpus.all fun gpu =>
      Gpu.device (Tracked.update session.gpus gpu) = gpu.device
  | _ => true

theorem cardsStay_of (system : DeploymentSystem) (label : DeploymentLabel)
    (meets : cardsStay system label = true) : CardsStay system label := by
  cases label with
  | perform i answer =>
      intro nodeId devices purpose reservedBy session performing device listed gpu stored keyed
      simp only [cardsStay, performing.op?, List.all_eq_true, Bool.or_eq_true,
        decide_eq_true_eq] at meets
      exact (meets device listed gpu stored).resolve_left fun different => different keyed
  | commit i =>
      intro session live gpu stored moves
      simp only [cardsStay, live.session?, Option.all_some, List.all_eq_true,
        decide_eq_true_eq] at meets
      exact absurd (meets gpu stored) moves
  | begin i request | stop i | abort i | change edit => trivial

def card (index : Int) : Device := ⟨"card", index, "card", 1⟩

def reserves (i nodeId : Nat) (gpuIndices : List Int) : List DeploymentLabel :=
  [.begin i ⟨policy, .reserve nodeId gpuIndices "batch" 9⟩] ++ quiet i 2 ++ [.commit i]

def syncs (i nodeId : Nat) (devices : List Device) (changed : List Nat) : List DeploymentLabel :=
  [.begin i ⟨policy, .syncNode nodeId⟩] ++ quiet i 1 ++
    [calls i .nothing [], calls i .nothing []] ++ quiet i 1 ++
      [calls i .nothing [], calls i .nothing devices] ++ quiet i (1 + 3 * devices.length) ++
        [.perform i (.order changed), calls i .nothing [], .commit i]

def releasesSecond : Action → Bool
  | .release reservation => reservation = 2
  | _ => false

theorem reservations_exclusive_released : ∃ system next : DeploymentSystem, ∃ session : Session,
    Ledger system.shared ∧ session.action = .release 2 ∧
      System.step system (.commit 2) = some next ∧
        Settles session system.shared next.shared := by
  obtain ⟨system, reached, checked⟩ := System.reaches_checked
    (registers 0 [card 0] ++ reserves 1 0 [0] ++ [.begin 2 ⟨policy, .release 2⟩] ++ quiet 2 2)
    (fun system => (System.session? system 2).any fun session =>
      releasesSecond session.action && (System.step system (.commit 2)).isSome)
    (.start : System.Reaches CardsStay start start) cardsStay_of (by decide +kernel)
  obtain ⟨session, found, checked⟩ := (Option.any_eq_true _ _).mp checked
  obtain ⟨action, committed⟩ := Bool.and_eq_true_iff.mp checked
  obtain ⟨next, committed⟩ := Option.isSome_iff_exists.mp committed
  obtain ⟨ledger, settles⟩ := reservations_exclusive system reached
  refine ⟨system, next, session, ledger, ?_, committed,
    settles 2 session next (System.live_of_session? found) committed⟩
  unfold releasesSecond at action
  split at action
  · rename_i named
    rw [named, of_decide_eq_true action]
  · cases action

/-- A card is reserved, moves to another slot of its node, and is reserved again. -/
theorem card_reserved_twice : ∃ system : DeploymentSystem, System.Reaches anyStep start system ∧
    ∃ left ∈ system.shared.allocations, ∃ right ∈ system.shared.allocations,
      left.id ≠ right.id ∧ left.active = true ∧ right.active = true ∧ ∃ gpuId,
        left.gpuId = some gpuId ∧ right.gpuId = some gpuId := by
  obtain ⟨system, reached, checked⟩ := reached_checked
    (registers 0 [card 0] ++ reserves 1 0 [0] ++ syncs 2 0 [card 1] [1] ++ reserves 3 0 [1])
    (fun system => system.shared.allocations.any fun left =>
      system.shared.allocations.any fun right =>
        left.id ≠ right.id && left.active && right.active && decide (left.gpuId = some 1) &&
          decide (right.gpuId = some 1))
    (by decide +kernel)
  simp only [List.any_eq_true, Bool.and_eq_true, decide_eq_true_eq] at checked
  obtain ⟨left, here, right, there, ⟨⟨⟨apart, active⟩, alive⟩, names⟩, named⟩ := checked
  exact ⟨system, reached, left, here, right, there, apart, active, alive, 1, names, named⟩

end AiPlatform.Deployments
