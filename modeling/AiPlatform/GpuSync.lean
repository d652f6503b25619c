import AiPlatform.SoloDeployments

/-!
The GPUs of a node after its inventory was taken. A row is matched by its UUID
and is unique by node and index, and the constraint is checked after each row
that the flush writes, so a card can only take an index that no other row of the
node holds by then.
-/

namespace AiPlatform.Deployments

open Shared (updatesPass)

def Device.onto (nodeId : Nat) (device : Device) (gpu : Gpu) : Gpu :=
  { gpu with
    nodeId := nodeId, index := device.index, name := device.name
    memoryTotalMib := device.memoryTotalMib }

def cardOf (devices : List Device) (gpu : Gpu) : Option Device :=
  devices.find? fun device => device.uuid = gpu.uuid

def retarget (nodeId : Nat) (devices : List Device) (gpu : Gpu) : Gpu :=
  match cardOf devices gpu with
  | some device => device.onto nodeId gpu
  | none => gpu

def arrivals (stored : List Gpu) (devices : List Device) : List Device :=
  devices.filter fun device => stored.all fun gpu => gpu.uuid ≠ device.uuid

/-- The rows of the node are the reported cards, each at its index. -/
def Exact (nodeId : Nat) (devices : List Device) (gpus : List Gpu) : Prop :=
  ∀ uuid index, (∃ gpu ∈ gpus, gpu.nodeId = nodeId ∧ gpu.uuid = uuid ∧ gpu.index = index) ↔
    ∃ device ∈ devices, device.uuid = uuid ∧ device.index = index

/-- Every row of the node is reported, and a row is written to an index only after
the other row of the node that held it. -/
structure Unobstructed (nodeId : Nat) (devices : List Device) (stored : List Gpu)
    (order : List Nat) : Prop where
  reported : ∀ gpu ∈ stored, gpu.nodeId = nodeId → ∃ device ∈ devices, device.uuid = gpu.uuid
  vacated : ∀ gpu ∈ stored, ∀ device ∈ devices, device.uuid = gpu.uuid →
    ∀ other ∈ stored, other.id ≠ gpu.id → other.nodeId = nodeId → other.index = device.index →
      ∀ before rest, order = before ++ gpu.id :: rest → other.id ∈ before

structure Keyed (gpus : List Gpu) : Prop where
  ids : (gpus.map Gpu.id).Nodup
  uuids : (gpus.map Gpu.uuid).Nodup
  places : (gpus.map Gpu.device).Nodup

/-- An inventory that names no card and no index twice. -/
structure Unrepeated (devices : List Device) : Prop where
  uuids : (devices.map Device.uuid).Nodup
  indices : (devices.map Device.index).Nodup

variable {nodeId : Nat} {devices : List Device} {stored : List Gpu} {order : List Nat}

theorem distinctGpus_iff {gpus : List Gpu} :
    distinctGpus gpus = true ↔ (gpus.map Gpu.uuid).Nodup ∧ (gpus.map Gpu.device).Nodup := by
  simp [distinctGpus]

theorem cardOf_some {gpu : Gpu} {device : Device} (found : cardOf devices gpu = some device) :
    device ∈ devices ∧ device.uuid = gpu.uuid := by
  constructor
  · exact List.mem_of_find?_eq_some found
  · simpa using List.find?_some found

theorem cardOf_none {gpu : Gpu} :
    cardOf devices gpu = none ↔ ∀ device ∈ devices, device.uuid ≠ gpu.uuid := by
  simp [cardOf, List.find?_eq_none]

theorem cardOf_device (apart : Unrepeated devices) {gpu : Gpu} {device : Device}
    (member : device ∈ devices) (same : device.uuid = gpu.uuid) :
    cardOf devices gpu = some device := by
  cases found : cardOf devices gpu with
  | none => exact absurd same (cardOf_none.mp found device member)
  | some other =>
      obtain ⟨listed, match'⟩ := cardOf_some found
      rw [List.inj_on_of_nodup_map apart.uuids member listed (same.trans match'.symm)]

@[simp] theorem retarget_uuid (gpu : Gpu) : (retarget nodeId devices gpu).uuid = gpu.uuid := by
  unfold retarget
  split <;> rfl

@[simp] theorem retarget_id (gpu : Gpu) : (retarget nodeId devices gpu).id = gpu.id := by
  unfold retarget
  split <;> rfl

/-- The rows when those of `ids` are written. -/
def partway (session : List (Tracked gpuTable)) (ids : List Nat) (stored : List Gpu) : List Gpu :=
  stored.map fun row => if row.id ∈ ids then Tracked.update session row else row

theorem partway_next {session : List (Tracked gpuTable)} {ids : List Nat} {id : Nat}
    (fresh : id ∉ ids) :
    ((partway session ids stored).map fun row =>
      if row.id = id then Tracked.update session row else row) =
      partway session (ids ++ [id]) stored := by
  rw [partway, partway, List.map_map]
  apply List.map_congr_left
  intro row _
  have keyed : (Tracked.update session row).id = row.id := Tracked.key_update session row
  by_cases there : row.id ∈ ids
  · have other : row.id ≠ id := fun same => fresh (same ▸ there)
    simp [there, keyed, other]
  · by_cases same : row.id = id
    · simp [same, fresh]
    · simp [there, same]

theorem updatesPass_partway {session : List (Tracked gpuTable)} {ids : List Nat}
    (distinct : (ids ++ order).Nodup) :
    updatesPass session order (partway session ids stored) = true ↔
      (∀ before rest, order = before ++ rest → before ≠ [] →
        distinctGpus (partway session (ids ++ before) stored) = true) ∧
      distinctGpus (partway session (ids ++ order) stored ++ inserted session) = true := by
  induction order generalizing ids with
  | nil =>
      rw [updatesPass, List.append_nil]
      constructor
      · refine fun last => ⟨fun before rest whole some => ?_, last⟩
        exact absurd (List.append_eq_nil_iff.mp whole.symm).1 some
      · exact fun both => both.2
  | cons id rest ih =>
      have fresh : id ∉ ids := fun there =>
        List.disjoint_of_nodup_append distinct there List.mem_cons_self
      have shifted : ((ids ++ [id]) ++ rest).Nodup := by
        rw [List.append_assoc]
        exact distinct
      simp only [updatesPass, partway_next fresh, Bool.and_eq_true, ih shifted]
      constructor
      · rintro ⟨first, later, last⟩
        refine ⟨fun before others whole some => ?_, by simpa using last⟩
        cases before with
        | nil => exact absurd rfl some
        | cons head tail =>
            obtain ⟨rfl, tails⟩ := List.cons.inj whole
            by_cases empty : tail = []
            · rw [empty]
              exact first
            · simpa using later tail others tails empty
      · rintro ⟨each, last⟩
        refine ⟨each [id] rest rfl (List.cons_ne_nil _ _), fun before others whole some => ?_,
          by simpa using last⟩
        rw [List.append_assoc]
        exact each (id :: before) others (by rw [whole]; rfl) (List.cons_ne_nil _ _)

/-- What the loop leaves for the flush: the rows that were stored are to become
what the inventory says, and each card without a row has a new one. -/
structure Prepared (nodeId : Nat) (devices : List Device) (stored : List Gpu)
    (session : List (Tracked gpuTable)) (order : List Nat) : Prop where
  updates : ∀ gpu ∈ stored, Tracked.update session gpu = retarget nodeId devices gpu
  changed : ∀ gpu ∈ stored, gpu.id ∉ order → Tracked.update session gpu = gpu
  once : order.Nodup
  arrived : (inserted session).map (fun gpu => (gpu.uuid, gpu.nodeId, gpu.index)) =
    (arrivals stored devices).map fun device => (device.uuid, nodeId, device.index)

theorem Prepared.written {session : List (Tracked gpuTable)}
    (prepared : Prepared nodeId devices stored session order) (apart : Unrepeated devices) {gpu : Gpu}
    {device : Device} (member : gpu ∈ stored) (listed : device ∈ devices)
    (same : device.uuid = gpu.uuid) :
    Tracked.update session gpu = device.onto nodeId gpu := by
  rw [prepared.updates gpu member, retarget, cardOf_device apart listed same]

theorem Prepared.unreported {session : List (Tracked gpuTable)}
    (prepared : Prepared nodeId devices stored session order) {gpu : Gpu} (member : gpu ∈ stored)
    (unknown : ∀ device ∈ devices, device.uuid ≠ gpu.uuid) :
    Tracked.update session gpu = gpu := by
  rw [prepared.updates gpu member, retarget, cardOf_none.mpr unknown]

theorem Prepared.place {session : List (Tracked gpuTable)}
    (prepared : Prepared nodeId devices stored session order) (apart : Unrepeated devices)
    (ids : List Nat) {gpu : Gpu} (member : gpu ∈ stored) :
    (∃ device ∈ devices, device.uuid = gpu.uuid ∧ gpu.id ∈ ids ∧
      (if gpu.id ∈ ids then Tracked.update session gpu else gpu).device =
        (nodeId, device.index)) ∨
    ((gpu.id ∉ ids ∨ ∀ device ∈ devices, device.uuid ≠ gpu.uuid) ∧
      (if gpu.id ∈ ids then Tracked.update session gpu else gpu).device = gpu.device) := by
  by_cases written : gpu.id ∈ ids
  · rw [if_pos written]
    cases found : cardOf devices gpu with
    | some device =>
        obtain ⟨listed, same⟩ := cardOf_some found
        refine .inl ⟨device, listed, same, written, ?_⟩
        rw [prepared.written apart member listed same]
        rfl
    | none =>
        have unknown := cardOf_none.mp found
        rw [prepared.unreported member unknown]
        exact .inr ⟨.inr unknown, rfl⟩
  · rw [if_neg written]
    exact .inr ⟨.inl written, rfl⟩

theorem partway_uuids {session : List (Tracked gpuTable)}
    (prepared : Prepared nodeId devices stored session order) (ids : List Nat) :
    (partway session ids stored).map Gpu.uuid = stored.map Gpu.uuid := by
  rw [partway, List.map_map]
  apply List.map_congr_left
  intro gpu member
  simp only [Function.comp_apply]
  split
  · rw [prepared.updates gpu member, retarget_uuid]
  · rfl

-- A written row shares its place with no row that was written, because indices
-- are reported once, and with none that still stands, which has made way before.
theorem partway_places {session : List (Tracked gpuTable)}
    (prepared : Prepared nodeId devices stored session order) (keyed : Keyed stored)
    (apart : Unrepeated devices) (free : Unobstructed nodeId devices stored order)
    {before rest : List Nat} (whole : order = before ++ rest) :
    ((partway session before stored).map Gpu.device).Nodup := by
  have blocked : ∀ gpu ∈ stored, ∀ device ∈ devices, device.uuid = gpu.uuid → gpu.id ∈ before →
      ∀ other ∈ stored, (other.id ∉ before ∨ ∀ device ∈ devices, device.uuid ≠ other.uuid) →
        other.device = (nodeId, device.index) → gpu = other := by
    intro gpu member device listed same written other there still placed
    obtain ⟨there', index⟩ := Prod.mk.inj placed
    by_contra different
    have apartIds : other.id ≠ gpu.id := fun sameId =>
      different (List.inj_on_of_nodup_map keyed.ids member there sameId.symm)
    obtain ⟨first, second, split⟩ := List.append_of_mem written
    have earlier := free.vacated gpu member device listed same other there apartIds there' index
      first (second ++ rest) (by rw [whole, split, List.append_assoc, List.cons_append])
    rcases still with unwritten | unknown
    · exact unwritten (split ▸ List.mem_append_left _ earlier)
    · obtain ⟨card, known, named⟩ := free.reported other there there'
      exact unknown card known named
  rw [partway, List.map_map]
  refine List.Nodup.map_on ?_ keyed.ids.of_map
  intro left leftMember right rightMember same
  simp only [Function.comp_apply] at same
  rcases prepared.place apart before leftMember with
    ⟨device, listed, named, written, placed⟩ | ⟨still, placed⟩
  · rw [placed] at same
    rcases prepared.place apart before rightMember with
      ⟨other, listed', named', _, placed'⟩ | ⟨still', placed'⟩
    · rw [placed'] at same
      have card := List.inj_on_of_nodup_map apart.indices listed listed' (Prod.mk.inj same).2
      have uuid : left.uuid = right.uuid := by rw [← named, ← named', card]
      exact List.inj_on_of_nodup_map keyed.uuids leftMember rightMember uuid
    · rw [placed'] at same
      exact blocked left leftMember device listed named written right rightMember still' same.symm
  · rw [placed] at same
    rcases prepared.place apart before rightMember with
      ⟨other, listed', named', written', placed'⟩ | ⟨_, placed'⟩
    · rw [placed'] at same
      exact (blocked right rightMember other listed' named' written' left leftMember still same).symm
    · rw [placed'] at same
      exact List.inj_on_of_nodup_map keyed.places leftMember rightMember same

theorem mem_arrivals {device : Device} :
    device ∈ arrivals stored devices ↔
      device ∈ devices ∧ ∀ gpu ∈ stored, gpu.uuid ≠ device.uuid := by
  simp [arrivals]

theorem Prepared.new_row {session : List (Tracked gpuTable)}
    (prepared : Prepared nodeId devices stored session order) {device : Device}
    (arrives : device ∈ arrivals stored devices) :
    ∃ gpu ∈ inserted session, gpu.uuid = device.uuid ∧ gpu.nodeId = nodeId ∧
      gpu.index = device.index := by
  have listed : (device.uuid, nodeId, device.index) ∈
      (inserted session).map fun gpu => (gpu.uuid, gpu.nodeId, gpu.index) := by
    rw [prepared.arrived]
    exact List.mem_map_of_mem arrives
  obtain ⟨gpu, member, same⟩ := List.mem_map.mp listed
  simp only [Prod.mk.injEq] at same
  exact ⟨gpu, member, same⟩

theorem Prepared.new_card {session : List (Tracked gpuTable)}
    (prepared : Prepared nodeId devices stored session order) {gpu : Gpu}
    (member : gpu ∈ inserted session) :
    ∃ device ∈ arrivals stored devices, device.uuid = gpu.uuid ∧ gpu.nodeId = nodeId ∧
      device.index = gpu.index := by
  have listed : (gpu.uuid, gpu.nodeId, gpu.index) ∈
      (arrivals stored devices).map fun device => (device.uuid, nodeId, device.index) := by
    rw [← prepared.arrived]
    exact List.mem_map_of_mem member
  obtain ⟨device, arrives, same⟩ := List.mem_map.mp listed
  simp only [Prod.mk.injEq] at same
  exact ⟨device, arrives, same.1, same.2.1.symm, same.2.2⟩

theorem inserted_places {session : List (Tracked gpuTable)}
    (prepared : Prepared nodeId devices stored session order) (apart : Unrepeated devices) :
    ((inserted session).map Gpu.uuid).Nodup ∧ ((inserted session).map Gpu.device).Nodup := by
  have uuids : (inserted session).map Gpu.uuid = (arrivals stored devices).map Device.uuid := by
    have same := congrArg (List.map Prod.fst) prepared.arrived
    rwa [List.map_map, List.map_map] at same
  have places : (inserted session).map Gpu.device =
      (arrivals stored devices).map fun device => (nodeId, device.index) := by
    have same := congrArg (List.map Prod.snd) prepared.arrived
    rwa [List.map_map, List.map_map] at same
  constructor
  · rw [uuids]
    exact apart.uuids.sublist (List.filter_sublist.map _)
  · rw [places]
    have indices : ((arrivals stored devices).map Device.index).Nodup :=
      apart.indices.sublist (List.filter_sublist.map _)
    refine List.Nodup.map_on ?_ indices.of_map
    intro left leftMember right rightMember same
    exact List.inj_on_of_nodup_map indices leftMember rightMember (Prod.mk.inj same).2

theorem store_distinct {session : List (Tracked gpuTable)}
    (prepared : Prepared nodeId devices stored session order) (keyed : Keyed stored)
    (apart : Unrepeated devices) (free : Unobstructed nodeId devices stored order) :
    distinctGpus (partway session order stored ++ inserted session) = true := by
  obtain ⟨newUuids, newPlaces⟩ := inserted_places prepared apart
  rw [distinctGpus_iff, List.map_append, List.map_append, partway_uuids prepared]
  constructor
  · refine keyed.uuids.append newUuids fun uuid old new => ?_
    obtain ⟨gpu, member, rfl⟩ := List.mem_map.mp old
    obtain ⟨fresh, added, same⟩ := List.mem_map.mp new
    obtain ⟨device, arrives, named, _⟩ := prepared.new_card added
    exact (mem_arrivals.mp arrives).2 gpu member (same.symm.trans named.symm)
  · refine (partway_places prepared keyed apart free (List.append_nil order).symm).append newPlaces
      fun place old new => ?_
    obtain ⟨row, partial', rfl⟩ := List.mem_map.mp old
    obtain ⟨gpu, member, rfl⟩ := List.mem_map.mp partial'
    obtain ⟨fresh, added, same⟩ := List.mem_map.mp new
    obtain ⟨device, arrives, _, there, index⟩ := prepared.new_card added
    obtain ⟨listed, unknown⟩ := mem_arrivals.mp arrives
    have taken : fresh.device = (nodeId, device.index) := by rw [Gpu.device, there, index]
    rw [taken] at same
    rcases prepared.place apart order member with
      ⟨card, known, named, _, placed⟩ | ⟨still, placed⟩
    · rw [placed] at same
      have card' := List.inj_on_of_nodup_map apart.indices known listed (Prod.mk.inj same).2.symm
      exact unknown gpu member (by rw [← named, card'])
    · rw [placed] at same
      obtain ⟨card, known, named⟩ := free.reported gpu member (Prod.mk.inj same).1.symm
      rcases still with unwritten | unreported
      · have kept := prepared.changed gpu member unwritten
        rw [prepared.written apart member known named] at kept
        have index' : card.index = gpu.index := congrArg Gpu.index kept
        have card' := List.inj_on_of_nodup_map apart.indices known listed
          (index'.trans (Prod.mk.inj same).2.symm)
        exact unknown gpu member (by rw [← named, card'])
      · exact unreported card known named

theorem store_exact {session : List (Tracked gpuTable)}
    (prepared : Prepared nodeId devices stored session order) (apart : Unrepeated devices)
    (reported : ∀ gpu ∈ stored, gpu.nodeId = nodeId → ∃ device ∈ devices, device.uuid = gpu.uuid) :
    Exact nodeId devices (Tracked.store session stored) := by
  intro uuid index
  constructor
  · rintro ⟨row, member, there, rfl, rfl⟩
    rcases Tracked.mem_store.mp member with ⟨gpu, old, rfl⟩ | ⟨tracked, listed, new, rfl⟩
    · by_cases known : ∃ device ∈ devices, device.uuid = gpu.uuid
      · obtain ⟨device, listed, same⟩ := known
        rw [prepared.written apart old listed same]
        exact ⟨device, listed, same, rfl⟩
      · have unknown : ∀ device ∈ devices, device.uuid ≠ gpu.uuid :=
          fun device listed same => known ⟨device, listed, same⟩
        rw [prepared.unreported old unknown] at there
        exact absurd (reported gpu old there) known
    · obtain ⟨device, arrives, same, _, index⟩ :=
        prepared.new_card (mem_inserted.mpr ⟨tracked, listed, new, rfl⟩)
      exact ⟨device, (mem_arrivals.mp arrives).1, same, index⟩
  · rintro ⟨device, listed, rfl, rfl⟩
    by_cases known : ∃ gpu ∈ stored, gpu.uuid = device.uuid
    · obtain ⟨gpu, member, same⟩ := known
      have written := prepared.written apart member listed same.symm
      refine ⟨Tracked.update session gpu, Tracked.update_stored member, ?_⟩
      rw [written]
      exact ⟨rfl, same, rfl⟩
    · have arrives : device ∈ arrivals stored devices :=
        mem_arrivals.mpr ⟨listed, fun gpu member same => known ⟨gpu, member, same⟩⟩
      obtain ⟨gpu, added, same, there, index⟩ := prepared.new_row arrives
      obtain ⟨tracked, own, new, rfl⟩ := mem_inserted.mp added
      exact ⟨_, Tracked.inserted_stored stored own new, there, same, index⟩

theorem flush_exact {session : List (Tracked gpuTable)}
    (prepared : Prepared nodeId devices stored session order) (keyed : Keyed stored)
    (apart : Unrepeated devices) :
    (updatesPass session order stored = true ∧
        Exact nodeId devices (Tracked.store session stored)) ↔
      Unobstructed nodeId devices stored order := by
  have start : partway session [] stored = stored := by
    simp [partway]
  have passes : updatesPass session order (partway session [] stored) = true ↔ _ :=
    updatesPass_partway prepared.once
  rw [start] at passes
  rw [passes]
  constructor
  · rintro ⟨⟨each, _⟩, exact'⟩
    constructor
    · intro gpu member there
      have kept : (Tracked.update session gpu).nodeId = nodeId := by
        rw [prepared.updates gpu member, retarget]
        split
        · rfl
        · exact there
      obtain ⟨device, listed, same, _⟩ := (exact' _ _).mp
        ⟨_, Tracked.update_stored member, kept, rfl, rfl⟩
      rw [prepared.updates gpu member, retarget_uuid] at same
      exact ⟨device, listed, same⟩
    · intro gpu member device listed same other there apartIds there' index before rest whole
      by_contra late
      have distinct := (distinctGpus_iff.mp (each (before ++ [gpu.id]) rest (by simp [whole])
        (by simp))).2
      rw [List.nil_append, partway, List.map_map] at distinct
      have clash : other = gpu := by
        apply List.inj_on_of_nodup_map distinct there member
        simp only [Function.comp_apply, List.mem_append, List.mem_singleton, late, apartIds,
          or_self, or_true, if_true, if_false]
        rw [prepared.written apart member listed same]
        exact Prod.ext there' index
      exact apartIds (congrArg Gpu.id clash)
  · intro free
    refine ⟨⟨fun before rest whole _ => ?_, ?_⟩, store_exact prepared apart free.reported⟩
    · rw [List.nil_append, distinctGpus_iff, partway_uuids prepared]
      exact ⟨keyed.uuids, partway_places prepared keyed apart free whole⟩
    · rw [List.nil_append]
      exact store_distinct prepared keyed apart free

/-- Instances of stored rows, and of new ones whose ids come after those of the
stored rows. -/
structure Instances (stored : List Gpu) (low high : Nat) (session : List (Tracked gpuTable)) :
    Prop where
  distinct : (session.map (·.key)).Nodup
  originals : ∀ tracked ∈ session, tracked.inserted = false → tracked.original ∈ stored
  fresh : ∀ tracked ∈ session, tracked.inserted = true → low ≤ tracked.key
  below : ∀ tracked ∈ session, tracked.key < high

variable {low high : Nat} {session : List (Tracked gpuTable)}

theorem assigning_origin {id : Nat} {assignment : GpuAssignment} {tracked : Tracked gpuTable}
    (member : tracked ∈ assigning (T := gpuTable) session id assignment) :
    ∃ old ∈ session, old.original = tracked.original ∧ old.inserted = tracked.inserted := by
  rcases mem_assigning (T := gpuTable) member with old | ⟨old, listed, _, rfl⟩
  · exact ⟨tracked, old, rfl, rfl⟩
  · exact ⟨old, listed, rfl, rfl⟩

theorem Instances.assigned (instances : Instances stored low high session) (id : Nat)
    (assignment : GpuAssignment) :
    Instances stored low high (assigning (T := gpuTable) session id assignment) := by
  constructor
  · rw [keys_assigning (T := gpuTable)]
    exact instances.distinct
  · intro tracked member loaded
    obtain ⟨old, listed, same, kind⟩ := assigning_origin member
    exact same ▸ instances.originals old listed (kind.trans loaded)
  · intro tracked member new
    obtain ⟨old, listed, same, kind⟩ := assigning_origin member
    have later := instances.fresh old listed (kind.trans new)
    rwa [Tracked.key, same] at later
  · intro tracked member
    obtain ⟨old, listed, same, _⟩ := assigning_origin member
    have later := instances.below old listed
    rwa [Tracked.key, same] at later

theorem Instances.loaded (instances : Instances stored low high session) {gpu : Gpu}
    (member : gpu ∈ stored) (bound : gpu.id < high) (new : ∀ tracked ∈ session, tracked.key ≠ gpu.id) :
    Instances stored low high (session ++ [Tracked.load (T := gpuTable) gpu]) := by
  constructor
  · rw [List.map_append]
    refine instances.distinct.append (List.nodup_singleton _) fun key old fresh => ?_
    obtain ⟨tracked, listed, rfl⟩ := List.mem_map.mp old
    exact new tracked listed (List.mem_singleton.mp fresh)
  · intro tracked listed loaded
    rcases List.mem_append.mp listed with old | fresh
    · exact instances.originals tracked old loaded
    · rw [List.mem_singleton.mp fresh]
      exact member
  · intro tracked listed added
    rcases List.mem_append.mp listed with old | fresh
    · exact instances.fresh tracked old added
    · rw [List.mem_singleton.mp fresh] at added
      cases added
  · intro tracked listed
    rcases List.mem_append.mp listed with old | fresh
    · exact instances.below tracked old
    · rw [List.mem_singleton.mp fresh]
      exact bound

theorem Instances.drafted (instances : Instances stored low high session) (gpu : Gpu)
    (drawn : gpu.id = high) (later : low ≤ high) :
    Instances stored low (high + 1) (session ++ [Tracked.insert (T := gpuTable) gpu]) := by
  constructor
  · rw [List.map_append]
    refine instances.distinct.append (List.nodup_singleton _) fun key old fresh => ?_
    obtain ⟨tracked, listed, rfl⟩ := List.mem_map.mp old
    have same : tracked.key = high := (List.mem_singleton.mp fresh).trans drawn
    exact absurd same (instances.below tracked listed).ne
  · intro tracked listed loaded
    rcases List.mem_append.mp listed with old | fresh
    · exact instances.originals tracked old loaded
    · rw [List.mem_singleton.mp fresh] at loaded
      cases loaded
  · intro tracked listed added
    rcases List.mem_append.mp listed with old | fresh
    · exact instances.fresh tracked old added
    · rw [List.mem_singleton.mp fresh]
      exact later.trans (Nat.le_of_eq drawn.symm)
  · intro tracked listed
    rcases List.mem_append.mp listed with old | fresh
    · exact Nat.lt_succ_of_lt (instances.below tracked old)
    · rw [List.mem_singleton.mp fresh]
      exact Nat.lt_succ_of_le (Nat.le_of_eq drawn)

def placing (session : List (Tracked gpuTable)) (id : Nat) (device : Device) :
    List (Tracked gpuTable) :=
  assigning (T := gpuTable)
    (assigning (T := gpuTable) (assigning (T := gpuTable) session id (.index device.index)) id
      (.name device.name)) id (.memoryTotalMib device.memoryTotalMib)

theorem Instances.placed (instances : Instances stored low high session) (id : Nat)
    (device : Device) : Instances stored low high (placing session id device) :=
  ((instances.assigned id _).assigned id _).assigned id _

@[simp] theorem keys_placing (id : Nat) (device : Device) :
    (placing session id device).map (·.key) = session.map (·.key) := by
  unfold placing
  rw [keys_assigning (T := gpuTable), keys_assigning (T := gpuTable),
    keys_assigning (T := gpuTable)]

theorem there_of_keys {first second : List (Tracked gpuTable)} {id : Nat}
    (same : second.map (·.key) = first.map (·.key)) (there : ∃ tracked ∈ first, tracked.key = id) :
    ∃ tracked ∈ second, tracked.key = id := by
  obtain ⟨tracked, member, keyed⟩ := there
  have listed : id ∈ second.map (·.key) := by
    rw [same]
    exact List.mem_map.mpr ⟨tracked, member, keyed⟩
  obtain ⟨other, own, same'⟩ := List.mem_map.mp listed
  exact ⟨other, own, same'⟩

theorem instanceOf_placing (distinct : (session.map (·.key)).Nodup) (device : Device) {gpu : Gpu}
    (there : ∃ tracked ∈ session, tracked.key = gpu.id) :
    instanceOf (placing session gpu.id device) gpu =
      { (instanceOf session gpu) with
        index := device.index, name := device.name
        memoryTotalMib := device.memoryTotalMib } := by
  have first := keys_assigning (T := gpuTable) session gpu.id (.index device.index)
  have second := keys_assigning (T := gpuTable)
    (assigning (T := gpuTable) session gpu.id (.index device.index)) gpu.id (.name device.name)
  unfold placing
  have last := instanceOf_assigning (T := gpuTable) (second ▸ first ▸ distinct)
    (.memoryTotalMib device.memoryTotalMib) (there_of_keys (second.trans first) there)
  have middle := instanceOf_assigning (T := gpuTable) (first ▸ distinct) (.name device.name)
    (there_of_keys first there)
  have start := instanceOf_assigning (T := gpuTable) distinct (.index device.index) there
  rw [last, middle, start]
  rfl

theorem instanceOf_placing_other (device : Device) {id : Nat} {gpu : Gpu} (other : gpu.id ≠ id) :
    instanceOf (placing session id device) gpu = instanceOf session gpu := by
  unfold placing
  rw [instanceOf_assigning_other (T := gpuTable) _ _ other,
    instanceOf_assigning_other (T := gpuTable) _ _ other,
    instanceOf_assigning_other (T := gpuTable) _ _ other]

/-- The instances while the cards `reported` have been taken. -/
structure Loop (nodeId : Nat) (stored : List Gpu) (low high : Nat) (reported : List Device)
    (session : List (Tracked gpuTable)) (existing : List (String × Nat)) : Prop where
  instances : Instances stored low high session
  rows : ∀ gpu ∈ stored, instanceOf session gpu = retarget nodeId reported gpu
  arrived : (inserted session).map (fun gpu => (gpu.uuid, gpu.nodeId, gpu.index)) =
    (arrivals stored reported).map fun device => (device.uuid, nodeId, device.index)
  known : ∀ tracked ∈ session, tracked.inserted = false →
    (existing.lookup tracked.original.uuid).isSome
  entries : ∀ uuid id, existing.lookup uuid = some id →
    (∀ device ∈ reported, device.uuid ≠ uuid) →
      ∃ gpu ∈ stored, gpu.id = id ∧ gpu.uuid = uuid ∧ gpu.nodeId = nodeId ∧
        ∃ tracked ∈ session, tracked.key = id

theorem retarget_unreported {reported : List Device} {gpu : Gpu}
    (unknown : ∀ device ∈ reported, device.uuid ≠ gpu.uuid) :
    retarget nodeId reported gpu = gpu := by
  rw [retarget, cardOf_none.mpr unknown]

theorem retarget_concat_other {reported : List Device} {device : Device} {gpu : Gpu}
    (other : device.uuid ≠ gpu.uuid) :
    retarget nodeId (reported ++ [device]) gpu = retarget nodeId reported gpu := by
  unfold retarget cardOf
  rw [List.find?_append, List.find?_singleton]
  simp [other]

theorem retarget_concat_own {reported : List Device} {device : Device} {gpu : Gpu}
    (new : ∀ other ∈ reported, other.uuid ≠ device.uuid) (own : device.uuid = gpu.uuid) :
    retarget nodeId (reported ++ [device]) gpu = device.onto nodeId gpu := by
  have missing : reported.find? (fun other => other.uuid = gpu.uuid) = none := by
    rw [← own]
    simpa [List.find?_eq_none] using new
  unfold retarget cardOf
  rw [List.find?_append, missing, List.find?_singleton]
  simp [own]

theorem arrivals_concat {reported : List Device} {device : Device} :
    arrivals stored (reported ++ [device]) = arrivals stored reported ++
      if stored.all fun gpu => gpu.uuid ≠ device.uuid then [device] else [] := by
  unfold arrivals
  rw [List.filter_append, List.filter_singleton]
  cases stored.all fun gpu => gpu.uuid ≠ device.uuid <;> rfl

theorem lookup_cons_other {existing : List (String × Nat)} {uuid other : String} {id : Nat}
    (different : other ≠ uuid) :
    ((uuid, id) :: existing).lookup other = existing.lookup other := by
  have miss : (other == uuid) = false := by simpa using different
  simp [List.lookup_cons, miss]

theorem lookup_cons_isSome {existing : List (String × Nat)} {uuid other : String} {id : Nat}
    (found : (existing.lookup other).isSome) :
    (((uuid, id) :: existing).lookup other).isSome := by
  by_cases same : other = uuid
  · simp [List.lookup_cons, same]
  · rwa [lookup_cons_other same]

theorem placing_origin {id : Nat} {device : Device} {tracked : Tracked gpuTable}
    (member : tracked ∈ placing session id device) :
    ∃ old ∈ session, old.original = tracked.original ∧ old.inserted = tracked.inserted := by
  obtain ⟨third, listed, same, kind⟩ := assigning_origin member
  obtain ⟨second, listed', same', kind'⟩ := assigning_origin listed
  obtain ⟨first, own, same'', kind''⟩ := assigning_origin listed'
  exact ⟨first, own, (same''.trans same').trans same, (kind''.trans kind').trans kind⟩

theorem Instances.inserted_placing (instances : Instances stored low high session) {id : Nat}
    (old : id < low) (device : Device) : inserted (placing session id device) = inserted session := by
  have apart : ∀ {session : List (Tracked gpuTable)} {assignment : GpuAssignment},
      Instances stored low high session →
        inserted (assigning (T := gpuTable) session id assignment) = inserted session := by
    intro session assignment instances
    apply inserted_unchanged (T := gpuTable)
    intro tracked member new keyed
    exact absurd (instances.fresh tracked member new) (Nat.not_le.mpr (keyed ▸ old))
  unfold placing
  rw [apart ((instances.assigned id _).assigned id _), apart (instances.assigned id _),
    apart instances]

-- The row of the card has its instance: one of the node, or one that moved here.
theorem Loop.took {reported : List Device} {existing : List (String × Nat)} {device : Device}
    {high' : Nat} {taken : List (Tracked gpuTable)}
    (loop : Loop nodeId stored low high reported session existing) (keyed : Keyed stored)
    (old : ∀ gpu ∈ stored, gpu.id < low) (new : ∀ other ∈ reported, other.uuid ≠ device.uuid)
    {gpu : Gpu} (member : gpu ∈ stored) (own : device.uuid = gpu.uuid)
    (instances : Instances stored low high' taken) (there : ∃ tracked ∈ taken, tracked.key = gpu.id)
    (row : instanceOf taken gpu = { gpu with nodeId := nodeId })
    (others : ∀ other ∈ stored, other.id ≠ gpu.id → instanceOf taken other = instanceOf session other)
    (same : inserted taken = inserted session)
    (known : ∀ tracked ∈ taken, tracked.inserted = false →
      tracked.original.uuid = device.uuid ∨ (existing.lookup tracked.original.uuid).isSome)
    (keys : ∀ tracked ∈ session, ∃ other ∈ taken, other.key = tracked.key) :
    Loop nodeId stored low high' (reported ++ [device]) (placing taken gpu.id device)
      ((device.uuid, gpu.id) :: existing) where
  instances := instances.placed gpu.id device
  rows := by
    intro other listed
    by_cases sameId : other.id = gpu.id
    · obtain rfl := List.inj_on_of_nodup_map keyed.ids listed member sameId
      rw [instanceOf_placing instances.distinct device there, row,
        retarget_concat_own new own]
      rfl
    · have apart : device.uuid ≠ other.uuid := fun match' =>
        sameId (congrArg Gpu.id (List.inj_on_of_nodup_map keyed.uuids listed member
          (match'.symm.trans own)))
      rw [instanceOf_placing_other device sameId, others other listed sameId,
        retarget_concat_other apart]
      exact loop.rows other listed
  arrived := by
    have there : (stored.all fun gpu => gpu.uuid ≠ device.uuid) = false := by
      rw [List.all_eq_false]
      exact ⟨gpu, member, by simp [own]⟩
    rw [instances.inserted_placing (old gpu member), same, loop.arrived, arrivals_concat, there]
    simp
  known := by
    intro tracked listed loaded
    obtain ⟨before, inTaken, original, kind⟩ := placing_origin listed
    rw [← original]
    rcases known before inTaken (kind.trans loaded) with named | found
    · simp [named, List.lookup_cons]
    · exact lookup_cons_isSome found
  entries := by
    intro uuid id found unreported
    have apart : uuid ≠ device.uuid := fun match' =>
      unreported device (List.mem_append_right _ List.mem_cons_self) match'.symm
    rw [lookup_cons_other apart] at found
    obtain ⟨other, listed, sameId, named, node, tracked, inSession, keyed'⟩ :=
      loop.entries uuid id found fun before known =>
        unreported before (List.mem_append_left _ known)
    obtain ⟨next, inTaken, same'⟩ := keys tracked inSession
    exact ⟨other, listed, sameId, named, node,
      there_of_keys (keys_placing gpu.id device) ⟨next, inTaken, same'.trans keyed'⟩⟩

theorem Loop.found {reported : List Device} {existing : List (String × Nat)} {device : Device}
    {id : Nat} (loop : Loop nodeId stored low high reported session existing) (keyed : Keyed stored)
    (old : ∀ gpu ∈ stored, gpu.id < low) (new : ∀ other ∈ reported, other.uuid ≠ device.uuid)
    (found : existing.lookup device.uuid = some id) :
    Loop nodeId stored low high (reported ++ [device]) (placing session id device)
      ((device.uuid, id) :: existing) := by
  obtain ⟨gpu, member, rfl, named, node, there⟩ := loop.entries _ _ found new
  apply loop.took keyed old new member named.symm loop.instances there
  · rw [loop.rows gpu member, retarget_unreported fun other listed => named ▸ new other listed,
      ← node]
  · exact fun other _ _ => rfl
  · rfl
  · exact fun tracked listed loaded => .inr (loop.known tracked listed loaded)
  · exact fun tracked listed => ⟨tracked, listed, rfl⟩

theorem Loop.moved {reported : List Device} {existing : List (String × Nat)} {device : Device}
    (loop : Loop nodeId stored low high reported session existing) (keyed : Keyed stored)
    (old : ∀ gpu ∈ stored, gpu.id < low) (bound : low ≤ high)
    (new : ∀ other ∈ reported, other.uuid ≠ device.uuid)
    (missing : existing.lookup device.uuid = none) {gpu : Gpu} (member : gpu ∈ stored)
    (own : gpu.uuid = device.uuid) :
    Loop nodeId stored low high (reported ++ [device])
      (placing (assigning (T := gpuTable) (loading (T := gpuTable) session [gpu]) gpu.id
        (.nodeId nodeId)) gpu.id device)
      ((device.uuid, gpu.id) :: existing) := by
  have absent : ∀ tracked ∈ session, tracked.key ≠ gpu.id := by
    intro tracked listed same
    cases kind : tracked.inserted with
    | true =>
        have later := loop.instances.fresh tracked listed kind
        rw [same] at later
        exact absurd (old gpu member) (Nat.not_lt.mpr later)
    | false =>
        have original := loop.instances.originals tracked listed kind
        have row := List.inj_on_of_nodup_map keyed.ids original member same
        have known := loop.known tracked listed kind
        rw [row, own, missing] at known
        cases known
  have found : loading (T := gpuTable) session [gpu] =
      session ++ [Tracked.load (T := gpuTable) gpu] := by
    have all : (session.all fun tracked => tracked.key ≠ gpu.id) = true := by
      simpa [List.all_eq_true] using absent
    simp only [loading, List.filter_cons, all, if_true, List.filter_nil, List.map_cons,
      List.map_nil]
  rw [found]
  have loaded := loop.instances.loaded member (Nat.lt_of_lt_of_le (old gpu member) bound) absent
  have there : ∃ tracked ∈ session ++ [Tracked.load (T := gpuTable) gpu],
      tracked.key = gpu.id := ⟨_, List.mem_append_right _ List.mem_cons_self, rfl⟩
  have kept : ∀ other ∈ stored,
      instanceOf (session ++ [Tracked.load (T := gpuTable) gpu]) other =
        instanceOf session other := by
    intro other listed
    apply instanceOf_concat
    intro same
    exact .inr (List.inj_on_of_nodup_map keyed.ids member listed same)
  have keys := keys_assigning (T := gpuTable)
    (session ++ [Tracked.load (T := gpuTable) gpu]) gpu.id (.nodeId nodeId)
  apply loop.took keyed old new member own.symm (loaded.assigned gpu.id (.nodeId nodeId))
  · exact there_of_keys keys there
  · have row := instanceOf_assigning (T := gpuTable) loaded.distinct (.nodeId nodeId) there
    rw [row, kept gpu member, loop.rows gpu member,
      retarget_unreported fun other listed => own ▸ new other listed]
    rfl
  · intro other listed different
    rw [instanceOf_assigning_other (T := gpuTable) _ _ different, kept other listed]
  · rw [inserted_unchanged (T := gpuTable)]
    · simp [inserted, List.filter_append]
    · intro tracked listed kind same
      have later := loaded.fresh tracked listed kind
      rw [same] at later
      exact absurd (old gpu member) (Nat.not_lt.mpr later)
  · intro tracked listed kind
    obtain ⟨before, inLoaded, original, same⟩ := assigning_origin listed
    rw [← original]
    rcases List.mem_append.mp inLoaded with earlier | fresh
    · exact .inr (loop.known before earlier (same.trans kind))
    · rw [List.mem_singleton.mp fresh]
      exact .inl own
  · intro tracked listed
    exact there_of_keys keys ⟨tracked, List.mem_append_left _ listed, rfl⟩

theorem Loop.arrives {reported : List Device} {existing : List (String × Nat)} {device : Device}
    (loop : Loop nodeId stored low high reported session existing)
    (old : ∀ gpu ∈ stored, gpu.id < low) (bound : low ≤ high)
    (unknown : ∀ gpu ∈ stored, gpu.uuid ≠ device.uuid) :
    Loop nodeId stored low (high + 1) (reported ++ [device])
      (placing (session ++ [Tracked.insert (T := gpuTable)
        ⟨high, nodeId, device.uuid, device.index, device.name, device.memoryTotalMib⟩]) high device)
      ((device.uuid, high) :: existing) := by
  let row : Gpu := ⟨high, nodeId, device.uuid, device.index, device.name, device.memoryTotalMib⟩
  have settled : ∀ assignment : GpuAssignment, assignment.apply row = row →
      assigning (T := gpuTable) (session ++ [Tracked.insert (T := gpuTable) row]) high assignment =
        session ++ [Tracked.insert (T := gpuTable) row] := by
    intro assignment same
    apply assigning_same (T := gpuTable)
    intro tracked listed keyed
    rcases List.mem_append.mp listed with earlier | fresh
    · exact absurd keyed (loop.instances.below tracked earlier).ne
    · rw [List.mem_singleton.mp fresh]
      exact same
  have still : placing (session ++ [Tracked.insert (T := gpuTable) row]) high device =
      session ++ [Tracked.insert (T := gpuTable) row] := by
    unfold placing
    rw [settled (.index device.index) rfl, settled (.name device.name) rfl,
      settled (.memoryTotalMib device.memoryTotalMib) rfl]
  rw [still]
  constructor
  · exact loop.instances.drafted row rfl bound
  · intro gpu member
    have apart : (Tracked.insert (T := gpuTable) row).key ≠ gpu.id :=
      ((old gpu member).trans_le bound).ne'
    rw [instanceOf_concat fun same => absurd same apart, loop.rows gpu member,
      retarget_concat_other fun same => unknown gpu member same.symm]
  · have all : (stored.all fun gpu => gpu.uuid ≠ device.uuid) = true := by
      simpa [List.all_eq_true] using unknown
    have one : inserted (session ++ [Tracked.insert (T := gpuTable) row]) =
        inserted session ++ [row] := inserted_append session [row]
    rw [one, List.map_append, loop.arrived, arrivals_concat, all, List.map_append]
    rfl
  · intro tracked listed loaded
    rcases List.mem_append.mp listed with earlier | fresh
    · exact lookup_cons_isSome (loop.known tracked earlier loaded)
    · rw [List.mem_singleton.mp fresh] at loaded
      cases loaded
  · intro uuid id found unreported
    have apart : uuid ≠ device.uuid := fun same =>
      unreported device (List.mem_append_right _ List.mem_cons_self) same.symm
    rw [lookup_cons_other apart] at found
    obtain ⟨gpu, member, sameId, named, node, tracked, listed, keyed⟩ :=
      loop.entries uuid id found fun before known =>
        unreported before (List.mem_append_left _ known)
    exact ⟨gpu, member, sameId, named, node, tracked, List.mem_append_left _ listed, keyed⟩

theorem Instances.update (instances : Instances stored low high session) (keyed : Keyed stored)
    (old : ∀ gpu ∈ stored, gpu.id < low) {gpu : Gpu} (member : gpu ∈ stored) :
    Tracked.update session gpu = instanceOf session gpu := by
  rcases Tracked.update_cases session gpu with
    ⟨same, unloaded⟩ | ⟨tracked, listed, loaded, keys, written⟩
  · rw [same, instanceOf_new]
    intro tracked listed keys
    cases kind : tracked.inserted with
    | false => exact unloaded tracked listed kind keys
    | true =>
        have later := instances.fresh tracked listed kind
        rw [keys] at later
        exact absurd (old gpu member) (Nat.not_lt.mpr later)
  · have original : tracked.original = gpu :=
      List.inj_on_of_nodup_map keyed.ids (instances.originals tracked listed loaded) member keys
    rw [written, instanceOf_member instances.distinct listed keys, Tracked.row, original]

theorem update_uuid (session : List (Tracked gpuTable)) (gpu : Gpu) :
    (Tracked.update session gpu).uuid = gpu.uuid := by
  have kept : ∀ tracked ∈ session, tracked.inserted = false → tracked.key = gpuTable.key gpu →
      ∀ assignment ∈ tracked.assigned, ∀ row : Gpu, row.uuid = gpu.uuid →
        (assignment.apply row).uuid = gpu.uuid := by
    intro tracked _ _ _ assignment _ row same
    cases assignment <;> exact same
  exact Tracked.update_keeps (T := gpuTable) (fun row : Gpu => row.uuid = gpu.uuid) rfl kept

theorem Loop.seen {reported : List Device} {existing : List (String × Nat)} {device : Device}
    {state : Session} {shared : Shared}
    (loop : Loop nodeId stored low high reported state.gpus existing) (keyed : Keyed stored)
    (old : ∀ gpu ∈ stored, gpu.id < low) (new : ∀ other ∈ reported, other.uuid ≠ device.uuid)
    (same : shared.gpus = stored) :
    shared.rows state (.gpuByUuid device.uuid) =
      stored.find? fun gpu => gpu.uuid = device.uuid := by
  have still : ∀ gpu ∈ stored, gpu.uuid = device.uuid → instanceOf state.gpus gpu = gpu := by
    intro gpu member own
    rw [loop.rows gpu member]
    exact retarget_unreported fun other listed => own ▸ new other listed
  have stays : ∀ gpu ∈ stored, gpu.uuid = device.uuid → Tracked.update state.gpus gpu = gpu := by
    intro gpu member own
    rw [loop.instances.update keyed old member, still gpu member own]
  have origin : ∀ gpu ∈ Tracked.store state.gpus stored, gpu.uuid = device.uuid → gpu ∈ stored := by
    intro gpu member own
    rcases Tracked.mem_store.mp member with ⟨row, listed, rfl⟩ | ⟨tracked, listed, added, rfl⟩
    · rw [update_uuid] at own
      rw [stays row listed own]
      exact listed
    · have triple : (tracked.row.uuid, tracked.row.nodeId, tracked.row.index) ∈
          (arrivals stored reported).map fun device => (device.uuid, nodeId, device.index) := by
        rw [← loop.arrived]
        exact List.mem_map_of_mem (mem_inserted.mpr ⟨tracked, listed, added, rfl⟩)
      obtain ⟨other, arrives, triple⟩ := List.mem_map.mp triple
      exact absurd ((Prod.mk.inj triple).1.trans own) (new other (mem_arrivals.mp arrives).1)
  change ((Tracked.store state.gpus shared.gpus).find? fun gpu => gpu.uuid = device.uuid).map
    (instanceOf state.gpus) = _
  rw [same]
  cases card : stored.find? fun gpu => gpu.uuid = device.uuid with
  | none =>
      have unknown : ∀ gpu ∈ stored, gpu.uuid ≠ device.uuid := by
        simpa [List.find?_eq_none] using card
      have none : (Tracked.store state.gpus stored).find? (fun gpu => gpu.uuid = device.uuid) =
          none := by
        rw [List.find?_eq_none]
        intro gpu member own
        have named : gpu.uuid = device.uuid := of_decide_eq_true own
        exact unknown gpu (origin gpu member named) named
      rw [none]
      rfl
  | some gpu =>
      have member := List.mem_of_find?_eq_some card
      have own : gpu.uuid = device.uuid := by simpa using List.find?_some card
      have listed : Tracked.update state.gpus gpu ∈ Tracked.store state.gpus stored :=
        Tracked.update_stored member
      rw [stays gpu member own] at listed
      cases hit : (Tracked.store state.gpus stored).find? fun gpu => gpu.uuid = device.uuid with
      | none => exact absurd own (by simpa using List.find?_eq_none.mp hit gpu listed)
      | some row =>
          have named : row.uuid = device.uuid := by simpa using List.find?_some hit
          have there := origin row (List.mem_of_find?_eq_some hit) named
          obtain rfl := List.inj_on_of_nodup_map keyed.uuids there member (named.trans own.symm)
          rw [Option.map_some, still _ member own]

section Runs

variable {ok : Session → Shared → Op → Answer → Prop} {i : Nat} {α : Type} {state final : Session}
  {shared store : Shared} {result : Option α}

def Comes (i : Nat) (program : DeploymentProgram α) (state : Session) (shared : Shared)
    (rest : DeploymentProgram α) (next : Session) (after : Shared) : Prop :=
  ∀ ok, Quiet ok → ∀ result final store,
    Plays ok i program state shared result final store ↔ Plays ok i rest next after result final store

theorem Comes.trans {first second third : DeploymentProgram α} {next last : Session}
    {between after : Shared} (one : Comes i first state shared second next between)
    (two : Comes i second next between third last after) :
    Comes i first state shared third last after :=
  fun ok quiet result final store =>
    (one ok quiet result final store).trans (two ok quiet result final store)

theorem comes_placing {id : Nat} {device : Device} {next : Unit → DeploymentProgram α} :
    ∃ after : Session, after.gpus = placing state.gpus id device ∧
      Comes i (assignGpu id (.index device.index) >>= fun _ =>
        assignGpu id (.name device.name) >>= fun _ =>
          assignGpu id (.memoryTotalMib device.memoryTotalMib) >>= next) state shared
        (next ()) after shared := by
  refine ⟨((state.written (.assignGpu id (.index device.index))).written
    (.assignGpu id (.name device.name))).written
      (.assignGpu id (.memoryTotalMib device.memoryTotalMib)), rfl, ?_⟩
  intro ok quiet result final store
  rw [plays_assign quiet, plays_assign quiet, plays_assign quiet]

def Reaches (i : Nat) (nodeId : Nat) (stored : List Gpu) (low : Nat) (reported : List Device)
    (program : DeploymentProgram α) (state : Session) (shared : Shared)
    (rest : List (String × Nat) → DeploymentProgram α) : Prop :=
  ∃ existing after between, between.gpus = stored ∧ low ≤ between.nextId ∧
    Loop nodeId stored low between.nextId reported after.gpus existing ∧
    Comes i program state shared (rest existing) after between

theorem Reaches.after {reported : List Device} {first second : DeploymentProgram α}
    {next : Session} {between : Shared} {rest : List (String × Nat) → DeploymentProgram α}
    (comes : Comes i first state shared second next between)
    (reaches : Reaches i nodeId stored low reported second next between rest) :
    Reaches i nodeId stored low reported first state shared rest := by
  obtain ⟨existing, last, after, same, bound, loop, later⟩ := reaches
  exact ⟨existing, last, after, same, bound, loop, comes.trans later⟩

theorem device_reaches {reported : List Device} {device : Device}
    {existing : List (String × Nat)} {rest : List Device} {next : Unit → DeploymentProgram α}
    (keyed : Keyed stored) (old : ∀ gpu ∈ stored, gpu.id < low) (same : shared.gpus = stored)
    (bound : low ≤ shared.nextId) (new : ∀ other ∈ reported, other.uuid ≠ device.uuid)
    (loop : Loop nodeId stored low shared.nextId reported state.gpus existing) :
    Reaches i nodeId stored low (reported ++ [device])
      (syncDevices nodeId (device :: rest) existing >>= next) state shared
      fun existing => syncDevices nodeId rest existing >>= next := by
  simp only [syncDevices]
  cases found : existing.lookup device.uuid with
  | some id =>
      simp only [Program.bind_assoc, Program.pure_eq, Program.done_bind]
      obtain ⟨after, rows, comes⟩ := comes_placing
      refine ⟨_, after, shared, same, bound, ?_, comes⟩
      rw [rows]
      exact loop.found keyed old new found
  | none =>
      simp only [adoptDevice, gpuByUuid, Program.bind_assoc]
      have seen := loop.seen keyed old new same
      cases card : stored.find? fun gpu => gpu.uuid = device.uuid with
      | some gpu =>
          have member := List.mem_of_find?_eq_some card
          have own : gpu.uuid = device.uuid := by simpa using List.find?_some card
          have row : shared.rows state (.gpuByUuid device.uuid) = some gpu := seen.trans card
          apply Reaches.after fun ok quiet result final store => plays_read quiet
          rw [row]
          apply Reaches.after fun ok quiet result final store => plays_assign quiet
          obtain ⟨after, rows, comes⟩ := comes_placing
          refine ⟨_, after, shared, same, bound, ?_, comes⟩
          rw [rows]
          exact loop.moved keyed old bound new found member own
      | none =>
          have unknown : ∀ gpu ∈ stored, gpu.uuid ≠ device.uuid := by
            simpa [List.find?_eq_none] using card
          have row : shared.rows state (.gpuByUuid device.uuid) = none := seen.trans card
          apply Reaches.after fun ok quiet result final store => plays_read quiet
          rw [row]
          apply Reaches.after fun ok quiet result final store => plays_insert quiet
          obtain ⟨after, rows, comes⟩ := comes_placing
          refine ⟨_, after, { shared with nextId := shared.nextId + 1 }, same,
            Nat.le_succ_of_le bound, ?_, comes⟩
          rw [rows]
          exact loop.arrives old bound unknown

theorem devices_reach {reported devices : List Device} {existing : List (String × Nat)}
    {next : Unit → DeploymentProgram α} (keyed : Keyed stored)
    (old : ∀ gpu ∈ stored, gpu.id < low) (same : shared.gpus = stored) (bound : low ≤ shared.nextId)
    (apart : ((reported ++ devices).map Device.uuid).Nodup)
    (loop : Loop nodeId stored low shared.nextId reported state.gpus existing) :
    Reaches i nodeId stored low (reported ++ devices)
      (syncDevices nodeId devices existing >>= next) state shared fun _ => next () := by
  induction devices generalizing reported existing state shared with
  | nil =>
      rw [List.append_nil]
      exact ⟨existing, state, shared, same, bound, loop, fun ok quiet result final store => Iff.rfl⟩
  | cons device rest ih =>
      have new : ∀ other ∈ reported, other.uuid ≠ device.uuid := by
        intro other member clash
        rw [List.map_append] at apart
        exact List.disjoint_of_nodup_append apart (List.mem_map_of_mem member)
          (List.mem_map.mpr ⟨device, List.mem_cons_self, clash.symm⟩)
      have first : Reaches i nodeId stored low (reported ++ [device])
          (syncDevices nodeId (device :: rest) existing >>= next) state shared
          fun existing => syncDevices nodeId rest existing >>= next :=
        device_reaches keyed old same bound new loop
      obtain ⟨known, after, between, still, bound', looped, comes⟩ := first
      have shifted : (((reported ++ [device]) ++ rest).map Device.uuid).Nodup := by
        rw [List.append_assoc]
        exact apart
      have whole : reported ++ device :: rest = (reported ++ [device]) ++ rest := by simp
      rw [whole]
      exact Reaches.after comes (ih still bound' shifted looped)

end Runs

theorem lookup_rows (rows : List Gpu) (uuid : String) :
    (rows.map fun gpu => (gpu.uuid, gpu.id)).lookup uuid =
      (rows.find? fun gpu => gpu.uuid = uuid).map Gpu.id := by
  induction rows with
  | nil => rfl
  | cons gpu rest ih =>
      rw [List.map_cons, List.lookup_cons, List.find?_cons, ih]
      by_cases same : uuid = gpu.uuid
      · simp [same]
      · have miss : (uuid == gpu.uuid) = false := by simpa using same
        simp [miss, Ne.symm same]

theorem loaded_gpusOf {state : Session} (fresh : state.gpus = []) (rows : List Gpu) :
    (state.loaded (.gpusOf nodeId) rows).gpus = rows.map (Tracked.load (T := gpuTable)) := by
  change loading (T := gpuTable) state.gpus rows = _
  rw [fresh]
  have all : (rows.filter fun row =>
      ([] : List (Tracked gpuTable)).all fun tracked => tracked.key ≠ gpuTable.key row) = rows :=
    List.filter_eq_self.mpr fun gpu _ => rfl
  rw [loading, all]
  rfl

theorem Loop.start (keyed : Keyed stored) (old : ∀ gpu ∈ stored, gpu.id < low) :
    Loop nodeId stored low low [] ((rowsOn nodeId stored).map (Tracked.load (T := gpuTable)))
      ((rowsOn nodeId stored).map fun gpu => (gpu.uuid, gpu.id)) := by
  constructor
  · constructor
    · rw [List.map_map]
      exact rowsOn_distinct keyed.ids
    · intro tracked member _
      obtain ⟨gpu, listed, rfl⟩ := List.mem_map.mp member
      exact (mem_rowsOn.mp listed).1
    · intro tracked member added
      obtain ⟨gpu, listed, rfl⟩ := List.mem_map.mp member
      cases added
    · intro tracked member
      obtain ⟨gpu, listed, rfl⟩ := List.mem_map.mp member
      exact old gpu (mem_rowsOn.mp listed).1
  · intro gpu member
    rw [retarget_unreported (List.forall_mem_nil _)]
    unfold instanceOf
    split
    · rename_i tracked hit
      obtain ⟨row, listed, rfl⟩ := List.mem_map.mp (List.mem_of_find?_eq_some hit)
      have found := List.find?_some hit
      have keys : row.id = gpu.id := of_decide_eq_true found
      exact List.inj_on_of_nodup_map keyed.ids (mem_rowsOn.mp listed).1 member keys
    · rfl
  · have none : ((rowsOn nodeId stored).map (Tracked.load (T := gpuTable))).filter (·.inserted) =
        [] := by
      rw [List.filter_eq_nil_iff]
      intro tracked member added
      obtain ⟨gpu, listed, rfl⟩ := List.mem_map.mp member
      cases added
    rw [inserted, none]
    rfl
  · intro tracked member _
    obtain ⟨gpu, listed, rfl⟩ := List.mem_map.mp member
    rw [lookup_rows, Option.isSome_map, List.find?_isSome]
    exact ⟨gpu, listed, decide_eq_true rfl⟩
  · intro uuid id hit _
    rw [lookup_rows] at hit
    obtain ⟨gpu, there, rfl⟩ := Option.map_eq_some_iff.mp hit
    have listed := List.mem_of_find?_eq_some there
    obtain ⟨member, node⟩ := mem_rowsOn.mp listed
    have named := List.find?_some there
    exact ⟨gpu, member, rfl, of_decide_eq_true named, node, _, List.mem_map_of_mem listed, rfl⟩

theorem Loop.prepared {reported : List Device} {existing : List (String × Nat)}
    (loop : Loop nodeId stored low high reported session existing) (keyed : Keyed stored)
    (old : ∀ gpu ∈ stored, gpu.id < low) (listed : Shared.ordered session order = true) :
    Prepared nodeId reported stored session order where
  updates := by
    intro gpu member
    rw [loop.instances.update keyed old member, loop.rows gpu member]
  changed := by
    intro gpu member absent
    rcases Tracked.update_cases session gpu with ⟨same, _⟩ | ⟨tracked, own, loaded, keys, written⟩
    · exact same
    · have clean : tracked.assigned = [] := by
        by_contra assigned
        have dirty : tracked.dirty = true := by simp [Tracked.dirty, loaded, assigned]
        have there : tracked.key ∈ (session.filter (·.dirty)).map (·.key) :=
          List.mem_map_of_mem (List.mem_filter.mpr ⟨own, dirty⟩)
        have perm := List.isPerm_iff.mp listed
        have keyId : tracked.key = gpu.id := keys
        rw [keyId] at there
        exact absent (perm.mem_iff.mpr there)
      rw [written, clean]
      rfl
  once := (List.isPerm_iff.mp listed).nodup_iff.mpr
    (loop.instances.distinct.sublist (List.filter_sublist.map _))
  arrived := loop.arrived

def Answers (payload : Inventory) (order : List Nat) (_ : Session) (_ : Shared) :
    Op → Answer → Prop
  | .agent _ .gpus, answer =>
      ∃ logs degraded, answer = .agent .nothing none ⟨logs, degraded, payload⟩
  | .flush, answer => answer = .order order
  | _, _ => True

def Inventory.reported (payload : Inventory) : List Device :=
  if payload.available then payload.devices else []

section Sync

variable {payload : Inventory} {i : Nat} {state final : Session} {shared store : Shared}

theorem quiet_answers : Quiet (Answers payload order) :=
  ⟨fun _ _ _ => trivial, fun _ _ _ => trivial, fun _ _ _ => trivial⟩

theorem plays_inventory {α : Type} {agentUrl : String} {result : Option α}
    {next : Except AgentFailure Inventory → DeploymentProgram α} :
    Plays (Answers payload order) i (inventory agentUrl >>= next) state shared result final store ↔
      Plays (Answers payload order) i (next (.ok payload)) state shared result final store := by
  have replies : Nonempty (Reply (.agent agentUrl .gpus)) := ⟨.ok payload⟩
  refine (Machine.plays_perform (M := deploymentMachine) replies).trans ⟨?_, ?_⟩
  · rintro ⟨answer, reply, middle, ⟨logs, degraded, rfl⟩, reacts, rest⟩
    cases reacts
    exact rest
  · exact fun rest => ⟨.agent .nothing none ⟨"", false, payload⟩, .ok payload, shared,
      ⟨"", false, rfl⟩, rfl, rest⟩

theorem plays_flush {α : Type} {result : Option α} {next : Bool → DeploymentProgram α} :
    Plays (Answers payload order) i (flush >>= next) state shared result final store ↔
      Shared.ordered state.gpus order = true ∧
        Plays (Answers payload order) i (next (updatesPass state.gpus order shared.gpus)) state
          shared result final store := by
  have replies : Nonempty (Reply .flush) := ⟨true⟩
  refine (Machine.plays_perform (M := deploymentMachine) replies).trans ⟨?_, ?_⟩
  · rintro ⟨answer, reply, middle, rfl, reacts, rest⟩
    change (if Shared.ordered state.gpus order = true then
      some (updatesPass state.gpus order shared.gpus, shared) else none) = some (reply, middle)
        at reacts
    split at reacts
    · rename_i listed
      cases reacts
      exact ⟨listed, rest⟩
    · cases reacts
  · rintro ⟨listed, rest⟩
    exact ⟨.order order, updatesPass state.gpus order shared.gpus, shared, rfl, if_pos listed, rest⟩

def checked (passed : Bool) : DeploymentProgram (Option AgentFailure) :=
  if passed then return none else raise .integrity

theorem plays_checked {passed : Bool} {result : Option (Option AgentFailure)} :
    Plays (Answers payload order) i (checked passed) state shared result final store ↔
      result = (if passed then some none else none) ∧ final = state ∧ store = shared := by
  cases passed with
  | true => exact Machine.plays_done
  | false => exact plays_raise

theorem plays_gpusOf {α : Type} {nodeId : Nat} {next : List Gpu → DeploymentProgram α}
    {result : Option α} (fresh : state.gpus = []) :
    Plays (Answers payload order) i (gpusOf nodeId >>= next) state shared result final store ↔
      Plays (Answers payload order) i (next (rowsOn nodeId shared.gpus))
        (state.loaded (.gpusOf nodeId) (rowsOn nodeId shared.gpus)) shared result final store := by
  rw [← rows_gpusOf fresh]
  exact plays_read quiet_answers

theorem sync_runs {node : Node} (available : payload.available = true) (fresh : state.gpus = [])
    (keyed : Keyed shared.gpus) (old : ∀ gpu ∈ shared.gpus, gpu.id < shared.nextId)
    (apart : Unrepeated payload.devices) :
    ∃ (after : Session) (between : Shared), between.gpus = shared.gpus ∧
      (∃ existing, Loop node.id shared.gpus shared.nextId between.nextId payload.devices after.gpus
        existing) ∧
      ∀ order result final store,
        Plays (Answers payload order) i (syncGpus node) state shared result final store ↔
          Shared.ordered after.gpus order = true ∧
            result = (if updatesPass after.gpus order between.gpus then some none else none) ∧
            final = after ∧ store = between := by
  let loaded := state.loaded (.gpusOf node.id) (rowsOn node.id shared.gpus)
  have start : Loop node.id shared.gpus shared.nextId shared.nextId [] loaded.gpus
      ((rowsOn node.id shared.gpus).map fun gpu => (gpu.uuid, gpu.id)) := by
    rw [loaded_gpusOf fresh]
    exact .start keyed old
  have reached : Reaches i node.id shared.gpus shared.nextId ([] ++ payload.devices)
      (syncDevices node.id payload.devices
          ((rowsOn node.id shared.gpus).map fun gpu => (gpu.uuid, gpu.id)) >>=
        fun _ => flush >>= checked)
      loaded shared fun _ => flush >>= checked :=
    devices_reach keyed old rfl (Nat.le_refl _) apart.uuids start
  obtain ⟨existing, after, between, same, _, loop, comes⟩ := reached
  refine ⟨after, between, same, ⟨existing, loop⟩, fun order result final store => ?_⟩
  rw [syncGpus, plays_inventory]
  simp only [available, Bool.not_true, Bool.false_eq_true, if_false]
  refine (plays_gpusOf fresh).trans ((comes _ quiet_answers result final store).trans ?_)
  rw [plays_flush, plays_checked]

theorem exact_nil {nodeId : Nat} {stored : List Gpu} :
    Exact nodeId [] stored ↔ Unobstructed nodeId [] stored order := by
  constructor
  · intro exact'
    refine ⟨fun gpu member there => ?_, fun gpu _ device listed => (nomatch listed)⟩
    obtain ⟨device, listed, _⟩ := (exact' _ _).mp ⟨gpu, member, there, rfl, rfl⟩
    cases listed
  · intro free uuid index
    constructor
    · rintro ⟨gpu, member, there, _⟩
      obtain ⟨device, listed, _⟩ := free.reported gpu member there
      cases listed
    · rintro ⟨device, listed, _⟩
      cases listed

/-- `_sync_gpus` succeeds and leaves the rows exact where, and only where, nothing is
in the way of what its flush writes. -/
theorem sync_exact {node : Node} (fresh : state.gpus = []) (keyed : Keyed shared.gpus)
    (old : ∀ gpu ∈ shared.gpus, gpu.id < shared.nextId) (apart : Unrepeated payload.devices) :
    (∃ order result final store,
        Plays (Answers payload order) i (syncGpus node) state shared result final store) ∧
      ∀ order result final store,
        Plays (Answers payload order) i (syncGpus node) state shared result final store →
          (result = some none ∧ Exact node.id payload.reported (store.gpusSeen final) ↔
            Unobstructed node.id payload.reported shared.gpus order) := by
  cases available : payload.available with
  | true =>
      have prepared : ∃ (after : Session) (between : Shared), between.gpus = shared.gpus ∧
          (∃ existing, Loop node.id shared.gpus shared.nextId between.nextId payload.devices
            after.gpus existing) ∧
          ∀ order result final store,
            Plays (Answers payload order) i (syncGpus node) state shared result final store ↔
              Shared.ordered after.gpus order = true ∧
                result = (if updatesPass after.gpus order between.gpus then some none else none) ∧
                final = after ∧ store = between := sync_runs available fresh keyed old apart
      obtain ⟨after, between, same, ⟨existing, loop⟩, runs⟩ := prepared
      constructor
      · exact ⟨(after.gpus.filter (·.dirty)).map (·.key), _, after, between,
          (runs _ _ _ _).mpr ⟨List.isPerm_iff.mpr (.refl _), rfl, rfl, rfl⟩⟩
      · intro order result final store plays
        obtain ⟨listed, rfl, rfl, rfl⟩ := (runs _ _ _ _).mp plays
        have prepared := loop.prepared keyed old listed
        have passes := flush_exact prepared keyed apart
        rw [Inventory.reported, if_pos available, ← passes, same]
        have seen : store.gpusSeen final = Tracked.store final.gpus shared.gpus := by
          rw [Shared.gpusSeen, same]
        rw [seen]
        cases updatesPass final.gpus order shared.gpus <;> simp
  | false =>
      have runs : ∀ order result final store,
          Plays (Answers payload order) i (syncGpus node) state shared result final store ↔
            result = some none ∧ final = state ∧ store = shared := by
        intro order result final store
        rw [syncGpus, plays_inventory]
        simp only [available, Bool.not_false, if_true]
        exact Machine.plays_done
      constructor
      · exact ⟨[], some none, state, shared, (runs _ _ _ _).mpr ⟨rfl, rfl, rfl⟩⟩
      · intro order result final store plays
        obtain ⟨rfl, rfl, rfl⟩ := (runs _ _ _ _).mp plays
        have seen : store.gpusSeen final = store.gpus := by
          unfold Shared.gpusSeen
          rw [fresh]
          exact Tracked.store_clean (T := gpuTable) _ fun _ member => (nomatch member)
        rw [Inventory.reported, available, seen]
        exact (and_iff_right rfl).trans exact_nil

end Sync

section Sweep

variable {ok : Session → Shared → Op → Answer → Prop} {i : Nat} {state final : Session}
  {shared store : Shared}

theorem sweep_raises {nodes : List Node} :
    Plays ok i (syncEach nodes) state shared none final store ↔
      ∃ before node rest between middle, nodes = before ++ node :: rest ∧
        Plays ok i (syncEach before) state shared (some ()) between middle ∧
        Plays ok i (syncNode node) between middle none final store := by
  induction nodes generalizing state shared with
  | nil =>
      constructor
      · intro plays
        have ended : (none : Option Unit) = some () := (Machine.plays_done.mp plays).1
        cases ended
      · rintro ⟨before, node, rest, between, middle, whole, _⟩
        cases before <;> cases whole
  | cons head tail ih =>
      refine Machine.plays_bind.trans ⟨?_, ?_⟩
      · rintro (⟨_, between, middle, first, second⟩ | ⟨_, raised⟩)
        · obtain ⟨before, node, rest, between', middle', whole, begun, raised⟩ := ih.mp second
          exact ⟨head :: before, node, rest, between', middle', congrArg (head :: ·) whole,
            Machine.plays_bind.mpr (.inl ⟨(), between, middle, first, begun⟩), raised⟩
        · exact ⟨[], head, tail, state, shared, rfl, .done .., raised⟩
      · rintro ⟨before, node, rest, between, middle, whole, begun, raised⟩
        cases before with
        | nil =>
            obtain ⟨rfl, rfl⟩ := List.cons.inj whole
            obtain ⟨_, rfl, rfl⟩ := Machine.plays_done.mp begun
            exact .inr ⟨rfl, raised⟩
        | cons first others =>
            obtain ⟨rfl, tails⟩ := List.cons.inj whole
            rcases Machine.plays_bind.mp begun with ⟨_, one, other, own, later⟩ | ⟨impossible, _⟩
            · exact .inl ⟨(), one, other, own,
                ih.mpr ⟨others, node, rest, between, middle, tails, later, raised⟩⟩
            · cases impossible

theorem plays_untouched {α : Type} {program : DeploymentProgram α} {result : Option α}
    (plays : Plays ok i program state shared result final store) :
    store.gpus = shared.gpus ∧ store.nodes = shared.nodes := by
  refine Machine.Plays.keeps (M := deploymentMachine)
    (fun _ (now : Shared) => now.gpus = shared.gpus ∧ now.nodes = shared.nodes) plays ?_ ⟨rfl, rfl⟩
  rintro session before op answer reply middle _ reacts ⟨gpus, nodes⟩
  have untouched := (reaction reacts).untouched
  exact ⟨untouched.gpus.trans gpus, untouched.nodes.trans nodes⟩

/-- Agents fail with a `NodeAgentError` if they fail, and what a flush writes passes. -/
def Steady (state : Session) (shared : Shared) : Op → Answer → Prop
  | .agent _ _, .agent _ (some (.raised _)) _ => False
  | .flush, .order order => updatesPass state.gpus order shared.gpus = true
  | _, _ => True

abbrev Yields {α : Type} (i : Nat) (program : DeploymentProgram α) (post : α → Prop) : Prop :=
  Machine.Yields deploymentMachine Steady i program post

theorem rows_nonempty (query : Query) : Nonempty (Rows query) := by
  cases query <;> first | exact ⟨none⟩ | exact ⟨[]⟩

theorem yields_read {query : Query} : Yields i (read query) fun _ => True :=
  Machine.yields_request (M := deploymentMachine) (rows_nonempty query)
    fun _ _ _ _ _ _ _ => trivial

theorem yields_write {write : Write} : Yields i (Deployments.write write) fun _ => True := by
  have replies : Nonempty (Reply (.write write)) := ⟨()⟩
  exact Machine.yields_request (M := deploymentMachine) replies fun _ _ _ _ _ _ _ => trivial

theorem yields_insert {draft : Draft} : Yields i (insert draft) fun _ => True := by
  have replies : Nonempty (Reply (.insert draft)) := ⟨(0 : Nat)⟩
  exact Machine.yields_request (M := deploymentMachine) replies fun _ _ _ _ _ _ _ => trivial

theorem yields_flush : Yields i flush (· = true) := by
  have replies : Nonempty (Reply .flush) := ⟨true⟩
  apply Machine.yields_request (M := deploymentMachine) replies
  intro session before answer reply middle passes reacts
  cases answer with
  | order order =>
      change (if Shared.ordered session.gpus order = true then
        some (updatesPass session.gpus order before.gpus, before) else none) = some (reply, middle)
          at reacts
      split at reacts
      · cases reacts
        exact passes
      · cases reacts
  | _ => cases reacts

theorem yields_agent {agentUrl : String} {call : AgentCall} :
    Yields i (agent agentUrl call) fun reply => ∀ message, reply ≠ .error (.raised message) := by
  have replies : Nonempty (Reply (.agent agentUrl call)) := ⟨.error (.error "")⟩
  apply Machine.yields_request (M := deploymentMachine) replies
  intro session before answer reply middle steady reacts message same
  cases answer with
  | agent event failure report =>
      simp only [deploymentMachine, Shared.react] at reacts
      split at reacts
      · cases reacts
      · cases failure with
        | some failure =>
            cases reacts
            cases Except.error.inj same
            exact steady
        | none =>
            obtain ⟨value, _, pair⟩ := Option.map_eq_some_iff.mp reacts
            cases pair
            cases same
  | _ => cases reacts

theorem yields_devices {nodeId : Nat} {devices : List Device} {existing : List (String × Nat)} :
    Yields i (syncDevices nodeId devices existing) fun _ => True := by
  induction devices generalizing existing with
  | nil => exact Machine.yields_done trivial
  | cons device rest ih =>
      have adopts : Yields i (adoptDevice nodeId device) fun _ => True := by
        apply Machine.yields_bind yields_read
        intro found _
        cases found with
        | none => exact yields_insert
        | some gpu => exact Machine.yields_bind yields_write fun _ _ => Machine.yields_done trivial
      have places : ∀ id, Yields i (assignGpu id (.index device.index) >>= fun _ =>
          assignGpu id (.name device.name) >>= fun _ =>
            assignGpu id (.memoryTotalMib device.memoryTotalMib) >>= fun _ =>
              syncDevices nodeId rest ((device.uuid, id) :: existing)) fun _ => True := by
        intro id
        apply Machine.yields_bind yields_write
        intro _ _
        apply Machine.yields_bind yields_write
        intro _ _
        exact Machine.yields_bind yields_write fun _ _ => ih
      simp only [syncDevices]
      cases existing.lookup device.uuid with
      | some id => exact places id
      | none => exact Machine.yields_bind adopts fun id _ => places id

theorem yields_failed {α : Type} {failure : AgentFailure}
    (caught : ∀ message, (.error failure : Except AgentFailure α) ≠ .error (.raised message)) :
    Yields i (.done (some failure)) fun result => ∀ message, result ≠ some (.raised message) := by
  apply Machine.yields_done
  intro message same
  exact caught message (congrArg Except.error (Option.some.inj same))

theorem yields_gpus {node : Node} :
    Yields i (syncGpus node) fun result => ∀ message, result ≠ some (.raised message) := by
  apply Machine.yields_bind yields_agent
  intro reply caught
  cases reply with
  | error failure => exact yields_failed caught
  | ok payload =>
      simp only
      split
      · exact Machine.yields_done fun message => (Option.some_ne_none _).symm
      · apply Machine.yields_bind yields_read
        intro existing _
        apply Machine.yields_bind yields_devices
        intro _ _
        apply Machine.yields_bind yields_flush
        rintro passed rfl
        exact Machine.yields_done fun message => (Option.some_ne_none _).symm

theorem yields_section {node : Node} {call : AgentCall} :
    Yields i (syncSection node call) fun result => ∀ message, result ≠ some (.raised message) := by
  apply Machine.yields_bind yields_agent
  intro reply caught
  cases reply with
  | error failure => exact yields_failed caught
  | ok value => exact Machine.yields_done fun message => (Option.some_ne_none _).symm

theorem yields_ended {node : Node} {result : Option AgentFailure}
    (caught : ∀ message, result ≠ some (.raised message)) :
    Yields i (sectionEnded node result) fun _ => True := by
  cases result with
  | none => exact Machine.yields_done trivial
  | some failure =>
      cases failure with
      | raised message => exact absurd rfl (caught message)
      | unreachable message => exact yields_write
      | error message => exact yields_write

theorem yields_node {node : Node} : Yields i (syncNode node) fun _ => True := by
  apply Machine.yields_bind yields_agent
  intro connected _
  cases connected with
  | error failure => exact yields_write
  | ok _ =>
      apply Machine.yields_bind yields_agent
      intro healthy caught
      cases healthy with
      | error failure =>
          cases failure with
          | raised message => exact absurd rfl (caught message)
          | unreachable message => exact yields_write
          | error message => exact yields_write
      | ok degraded =>
          apply Machine.yields_bind yields_write
          intro _ _
          apply Machine.yields_bind yields_section
          intro system caughtSystem
          apply Machine.yields_bind (yields_ended caughtSystem)
          intro _ _
          apply Machine.yields_bind yields_gpus
          intro gpus caughtGpus
          apply Machine.yields_bind (yields_ended caughtGpus)
          intro _ _
          exact Machine.yields_bind yields_section fun _ caughtContainers =>
            yields_ended caughtContainers

theorem yields_sweep {nodes : List Node} : Yields i (syncEach nodes) fun _ => True := by
  induction nodes with
  | nil => exact Machine.yields_done trivial
  | cons node rest ih => exact Machine.yields_bind yields_node fun _ _ => ih

end Sweep

def gpuCard (uuid : String) (index : Int) : Device := ⟨uuid, index, "NVIDIA H100", 81559⟩

def row (id : Nat) (device : Device) : Gpu :=
  ⟨id, 1, device.uuid, device.index, device.name, device.memoryTotalMib⟩

def gpuNode : Node := ⟨1, "gpu-1", "http://gpu-1:9000", .online, false⟩

def otherNode : Node := ⟨0, "gpu-0", "http://gpu-0:9000", .online, false⟩

def inventoried (gpus : List Gpu) : Shared :=
  { Shared.empty with nodes := [otherNode, gpuNode], gpus := gpus, nextId := 4 }

def sweeping : Session :=
  .opened ⟨⟨fun _ => "", fun _ => "", [], "", "", "", 0, 0, none, none, []⟩, .syncNodes⟩

theorem keyed_inventoried (left right : Device) (uuids : left.uuid ≠ right.uuid)
    (indices : left.index ≠ right.index) : Keyed [row 2 left, row 3 right] := by
  constructor
  · simp [row]
  · simpa [row] using uuids
  · simp [row, Gpu.device, indices]

def swapped : Inventory := ⟨true, [gpuCard "GPU-a" 1, gpuCard "GPU-b" 0]⟩

def standing : Shared := inventoried [row 2 (gpuCard "GPU-a" 0), row 3 (gpuCard "GPU-b" 1)]

-- Each card would have to be written after the other.
theorem swapped_obstructed {session : List (Tracked gpuTable)} {order : List Nat}
    (prepared : Prepared 1 swapped.devices standing.gpus session order) :
    ¬ Unobstructed 1 swapped.devices standing.gpus order := by
  intro free
  have first : row 2 (gpuCard "GPU-a" 0) ∈ standing.gpus := .head _
  have second : row 3 (gpuCard "GPU-b" 1) ∈ standing.gpus := .tail _ (.head _)
  have written : 2 ∈ order := by
    by_contra absent
    have kept := prepared.changed _ first absent
    rw [prepared.updates _ first] at kept
    exact absurd kept (by decide)
  obtain ⟨before, rest, whole⟩ := List.append_of_mem written
  have earlier : 3 ∈ before :=
    free.vacated _ first (gpuCard "GPU-a" 1) (.head _) rfl _ second (by decide) rfl rfl before rest whole
  obtain ⟨start, middle, split⟩ := List.append_of_mem earlier
  have parted : order = start ++ 3 :: (middle ++ 2 :: rest) := by
    rw [whole, split, List.append_assoc, List.cons_append]
  have later : 2 ∈ start :=
    free.vacated _ second (gpuCard "GPU-b" 0) (.tail _ (.head _)) rfl _ first (by decide) rfl rfl start
      (middle ++ 2 :: rest) parted
  have once := prepared.once
  rw [whole, split] at once
  exact List.disjoint_of_nodup_append once (List.mem_append_left _ later) List.mem_cons_self

theorem swapped_refused {state : Session} (fresh : state.gpus = []) :
    ∃ order final store,
      Plays (Answers swapped order) 0 (syncGpus gpuNode) state standing none final store := by
  have keyed : Keyed standing.gpus := keyed_inventoried _ _ (by decide) (by decide)
  have apart : Unrepeated swapped.devices := by
    constructor <;> simp [swapped, gpuCard]
  have old : ∀ gpu ∈ standing.gpus, gpu.id < standing.nextId := by decide
  obtain ⟨after, between, same, ⟨existing, loop⟩, runs⟩ :=
    @sync_runs swapped 0 state standing gpuNode rfl fresh keyed old apart
  have listed : Shared.ordered after.gpus ((after.gpus.filter (·.dirty)).map (·.key)) = true :=
    List.isPerm_iff.mpr (.refl _)
  have prepared : Prepared 1 swapped.devices standing.gpus after.gpus
      ((after.gpus.filter (·.dirty)).map (·.key)) := loop.prepared keyed old listed
  have reported : ∀ gpu ∈ standing.gpus, gpu.nodeId = 1 →
      ∃ device ∈ swapped.devices, device.uuid = gpu.uuid := by decide
  have refused : ¬ updatesPass after.gpus ((after.gpus.filter (·.dirty)).map (·.key))
      standing.gpus = true := by
    intro passed
    have exact' := store_exact prepared apart reported
    exact swapped_obstructed prepared ((flush_exact prepared keyed apart).mp ⟨passed, exact'⟩)
  refine ⟨_, after, between, (runs _ none after between).mpr ⟨listed, ?_, rfl, rfl⟩⟩
  rw [same, if_neg refused]

theorem swapped_raises {state : Session} (fresh : state.gpus = []) :
    ∃ final store,
      Plays (fun _ _ _ _ => True) 0 (syncNode gpuNode) state standing none final store := by
  let online := state.written (.assignNode gpuNode (.status .online))
  obtain ⟨order, final, store, refused⟩ := @swapped_refused online fresh
  have raised : Plays (fun _ _ _ _ => True) 0 (syncGpus gpuNode) online standing none final store :=
    Machine.Plays.weaken refused fun _ _ _ _ _ => trivial
  have connects : deploymentMachine.react 0 state standing (.agent gpuNode.agentUrl .connect)
      (.agent .nothing none ⟨"", false, swapped⟩) = some (.ok (), standing) := rfl
  have answers : deploymentMachine.react 0 state standing (.agent gpuNode.agentUrl .health)
      (.agent .nothing none ⟨"", false, swapped⟩) = some (.ok false, standing) := rfl
  have writes : deploymentMachine.react 0 state standing
      (.write (.assignNode gpuNode (.status .online))) .nothing = some ((), standing) := rfl
  have reports : deploymentMachine.react 0 online standing (.agent gpuNode.agentUrl .system)
      (.agent .nothing none ⟨"", false, swapped⟩) = some (.ok (), standing) := rfl
  refine ⟨final, store, .perform trivial connects (.perform trivial answers
    (.perform trivial writes (.perform trivial reports ?_)))⟩
  change Plays _ 0 (syncGpus gpuNode >>= _) online standing none final store
  exact Machine.plays_bind.mpr (.inr ⟨rfl, raised⟩)

def listed : Session := sweeping.loaded .pollable [otherNode, gpuNode]

-- The agent of the first node cannot be connected to.
def unknown : Session := listed.written (.assignNode otherNode (.status .unknown))

theorem unreachable_recorded :
    Plays (fun _ _ _ _ => True) 0 (syncNode otherNode) listed standing (some ()) unknown standing ∧
      Tracked.store unknown.nodes standing.nodes = [{ otherNode with status := .unknown }, gpuNode] := by
  have connects : deploymentMachine.react 0 listed standing (.agent otherNode.agentUrl .connect)
      (.agent .nothing (some (.error "no token")) ⟨"", false, swapped⟩) =
        some (.error (.error "no token"), standing) := rfl
  have writes : deploymentMachine.react 0 listed standing
      (.write (.assignNode otherNode (.status .unknown))) .nothing = some ((), standing) := rfl
  exact ⟨.perform trivial connects (.perform trivial writes (.done ..)), by decide⟩

end AiPlatform.Deployments
