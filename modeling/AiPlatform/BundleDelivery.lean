import AiPlatform.ImageBundles

/-!
Whether a bundle that was built without complaint, and is accepted on the target, delivers
every service that was requested, under a name of its image.
-/

namespace AiPlatform.Bundles

variable {Content Name : Type} [DecidableEq Name]

/-- `docker save`, `docker load` and the names of an image, as Docker documents them. -/
structure Documented (daemon : Daemon Content) (engine : Engine Content Name) : Prop where
  byDigest : ∀ {image found reference}, daemon.inspect image = some found →
    reference ∈ found.repoDigests → daemon.inspect reference = some found
  byId : ∀ {image found}, daemon.inspect image = some found →
    daemon.inspect found.id = some found
  holds : ∀ {reference found content}, daemon.inspect reference = some found →
    daemon.save reference = some content →
    ∃ loaded, engine.load content = some loaded ∧ found.id ∈ loaded.ids

/-- The directory on the target: what of the bundle is there may have changed. -/
structure Carried (bundle media : Bundle Content) : Prop where
  manifest : media.manifest = bundle.manifest
  archives : ∀ name ∈ media.archives.map Prod.fst, name ∈ bundle.archives.map Prod.fst
  distinct : (media.archives.map Prod.fst).Nodup

/-- No changed archive has the SHA-256 of the one that was saved. -/
def CollisionFree (sha256 : Content → String) (bundle media : Bundle Content) : Prop :=
  ∀ name content changed, (name, content) ∈ bundle.archives → (name, changed) ∈ media.archives →
    sha256 changed = sha256 content → changed = content

/-- There is an archive of every service, and once the images are loaded and named the
name that a service is given denotes the image that was recorded for it. -/
structure Delivers (engine : Engine Content Name) (media : Bundle Content)
    (requested : List String) (store : Store Name) : Prop where
  archived : ∀ service ∈ requested, service ∈ media.archives.map Prod.fst
  named : ∃ after, install engine media store = some after ∧
    ∀ service entry, (service, entry) ∈ media.manifest.images →
      ∃ given, (service, given) ∈ writeOverride media ∧
        after.denotes engine given.image = some entry.imageId

def Present (daemon : Daemon Content) (resolved : List (String × String)) (service : String) :
    Prop :=
  ((resolved.lookup service).bind daemon.resolveDigest).isSome = true

instance (daemon : Daemon Content) (resolved : List (String × String)) (service : String) :
    Decidable (Present daemon resolved service) := inferInstanceAs (Decidable (_ = true))

structure Deliverable (daemon : Daemon Content) (engine : Engine Content Name)
    (resolved : List (String × String)) (requested : List String) : Prop where
  present : ∀ service ∈ requested, Present daemon resolved service
  -- The local tag of the image is a name that Docker takes.
  taken : ∀ service ∈ requested, ∀ image ∈ resolved.lookup service,
    (engine.reference (localTagFor image)).isSome = true
  -- Images whose local tags are one name are one image.
  apart : ∀ service ∈ requested, ∀ other ∈ requested,
    ∀ image ∈ resolved.lookup service, ∀ twin ∈ resolved.lookup other,
    engine.reference (localTagFor image) = engine.reference (localTagFor twin) →
    daemon.imageId image = daemon.imageId twin

section Saving

variable {daemon : Daemon Content} {sha256 : Content → String} {resolved : List (String × String)}
  {service : String} {services : List String} {saved : List (String × ImageEntry × Content)}

structure SavedAs (daemon : Daemon Content) (sha256 : Content → String)
    (resolved : List (String × String)) (service : String) (entry : ImageEntry)
    (content : Content) : Prop where
  composed : resolved.lookup service = some entry.image
  digest : daemon.resolveDigest entry.image = some entry.digest
  id : daemon.imageId entry.image = some entry.imageId
  saved : daemon.save entry.digest = some content
  tag : entry.localTag = localTagFor entry.image
  archive : entry.archive = archivePath service
  sum : entry.sha256 = sha256 content

theorem saveImage_some {name : String} {entry : ImageEntry} {content : Content}
    (done : saveImage daemon sha256 resolved service = .ok (some (name, entry, content))) :
    name = service ∧ SavedAs daemon sha256 resolved service entry content := by
  unfold saveImage at done
  split at done
  · cases done
  rename_i image composed
  split at done
  · cases done
  rename_i digest resolvedAs
  split at done
  · cases done
  rename_i identifier identified
  split at done
  · cases done
  rename_i archived written
  cases done
  exact ⟨rfl, composed, resolvedAs, identified, written, rfl, rfl, rfl⟩

theorem saveImage_none (skipped : saveImage daemon sha256 resolved service = .ok none) :
    ¬ Present daemon resolved service := by
  intro present
  obtain ⟨digest, found⟩ := Option.isSome_iff_exists.mp present
  obtain ⟨image, composed, resolvedAs⟩ := Option.bind_eq_some_iff.mp found
  unfold saveImage at skipped
  simp only [composed, resolvedAs] at skipped
  split at skipped
  · cases skipped
  split at skipped <;> cases skipped

theorem SavedAs.present {entry : ImageEntry} {content : Content}
    (kept : SavedAs daemon sha256 resolved service entry content) :
    Present daemon resolved service := by
  rw [Present, kept.composed, Option.bind_some, kept.digest]
  rfl

theorem saveEach_cons {rest : List String}
    (done : saveEach daemon sha256 resolved (service :: rest) = .ok saved) :
    ∃ first later, saveImage daemon sha256 resolved service = .ok first ∧
      saveEach daemon sha256 resolved rest = .ok later ∧ saved = first.toList ++ later := by
  unfold saveEach at done
  split at done
  · cases done
  rename_i first saves
  cases tail : saveEach daemon sha256 resolved rest with
  | error message => rw [tail] at done; cases done
  | ok later =>
      rw [tail] at done
      cases done
      exact ⟨first, later, saves, rfl, rfl⟩

theorem saveEach_entries (done : saveEach daemon sha256 resolved services = .ok saved) :
    ∀ name entry content, (name, entry, content) ∈ saved →
      SavedAs daemon sha256 resolved name entry content := by
  induction services generalizing saved with
  | nil =>
      cases done
      exact fun _ _ _ member => nomatch member
  | cons service rest ih =>
      obtain ⟨first, later, saves, tail, rfl⟩ := saveEach_cons done
      intro name entry content member
      rcases List.mem_append.mp member with here | there
      · cases Option.mem_toList.mp here
        obtain ⟨rfl, kept⟩ := saveImage_some saves
        exact kept
      · exact ih tail name entry content there

theorem saveEach_sublist (done : saveEach daemon sha256 resolved services = .ok saved) :
    (saved.map Prod.fst).Sublist services := by
  induction services generalizing saved with
  | nil =>
      cases done
      exact .slnil
  | cons service rest ih =>
      obtain ⟨first, later, saves, tail, rfl⟩ := saveEach_cons done
      cases first with
      | none => exact (ih tail).cons _
      | some found =>
          obtain ⟨rfl, _⟩ := saveImage_some saves
          exact (ih tail).cons_cons _

theorem saveEach_present (done : saveEach daemon sha256 resolved services = .ok saved)
    (member : service ∈ services) (present : Present daemon resolved service) :
    ∃ entry content, (service, entry, content) ∈ saved := by
  induction services generalizing saved with
  | nil => cases member
  | cons head rest ih =>
      obtain ⟨first, later, saves, tail, rfl⟩ := saveEach_cons done
      rcases List.mem_cons.mp member with rfl | there
      · cases first with
        | none => exact absurd present (saveImage_none saves)
        | some found =>
            obtain ⟨rfl, _⟩ := saveImage_some saves
            exact ⟨found.2.1, found.2.2, List.mem_append_left _ (Option.mem_toList.mpr rfl)⟩
      · obtain ⟨entry, content, found⟩ := ih tail there
        exact ⟨entry, content, List.mem_append_right _ found⟩

theorem wanted_nodup (options : Options) : (wanted options.extra).Nodup := by
  have groups : options.extra.Sublist (chatGroup ++ monitoringGroup) := by
    apply List.Sublist.append
    · split
      · exact List.Sublist.refl _
      · exact List.nil_sublist _
    · split
      · exact List.Sublist.refl _
      · exact List.nil_sublist _
  have extra : options.extra.Nodup := groups.nodup (by decide +kernel)
  refine List.Nodup.append (by decide +kernel) (extra.filter _) fun service bundled other => ?_
  have apart := List.of_mem_filter other
  simp only [bundled, not_true_eq_false, decide_false, Bool.false_eq_true] at apart

structure Built (daemon : Daemon Content) (sha256 : Content → String)
    (resolved : List (String × String)) (requested : List String) (bundle : Bundle Content)
    (saved : List (String × ImageEntry × Content)) : Prop where
  saves : saveEach daemon sha256 resolved requested = .ok saved
  images : bundle.manifest.images = saved.map fun entry => (entry.1, entry.2.1)
  archives : bundle.archives = saved.map fun entry => (entry.1, entry.2.2)

theorem main_built {config : ComposeConfig} {options : Options} {others : Except String Unit}
    {models : List (String × List (String × Content))} {bundle : Bundle Content}
    (built : main daemon sha256 config options others models = .ok bundle) :
    ∃ saved, Built daemon sha256 (composeImages config) (wanted options.extra) bundle saved := by
  unfold main at built
  split at built
  · cases built
  · cases built
  rename_i saved saves
  cases built
  refine ⟨saved, ?_, rfl, rfl⟩
  unfold saveImages at saves
  dsimp only at saves
  split at saves
  · cases saves
  split at saves
  · cases saves
  · exact saves

end Saving

section Loading

variable {engine : Engine Content Name} {sha256 : Content → String} {media : Bundle Content}
  {store after : Store Name}

theorem archivePath_inj {name other : String} :
    archivePath name = archivePath other ↔ name = other := by
  refine ⟨fun same => ?_, congrArg archivePath⟩
  change "images/" ++ name ++ ".tar" = "images/" ++ other ++ ".tar" at same
  simpa using same

theorem archive_of_mem (distinct : (media.archives.map Prod.fst).Nodup) {name : String}
    {content : Content} (member : (name, content) ∈ media.archives) :
    media.archive (archivePath name) = some content := by
  unfold Bundle.archive
  cases found : media.archives.find? fun file => archivePath file.1 = archivePath name with
  | none =>
      have missing := List.find?_eq_none.mp found _ member
      simp at missing
  | some file =>
      have same := List.find?_some found
      have there := List.mem_of_find?_eq_some found
      simp only [archivePath_inj, decide_eq_true_eq] at same
      rw [Rows.key_unique distinct member there same]
      rfl

theorem mem_of_archive {name : String} {content : Content}
    (found : media.archive (archivePath name) = some content) :
    (name, content) ∈ media.archives := by
  obtain ⟨file, there, rfl⟩ := Option.map_eq_some_iff.mp found
  have same := List.find?_some there
  simp only [archivePath_inj, decide_eq_true_eq] at same
  subst same
  exact List.mem_of_find?_eq_some there

theorem verified_archive (accepted : verifyBundle sha256 media [] = []) {service : String}
    {entry : ImageEntry} (listed : (service, entry) ∈ media.manifest.images) :
    ∃ content, media.archive entry.archive = some content ∧ sha256 content = entry.sha256 := by
  have fine : imageProblem sha256 media service entry = none := by
    have clear := (List.append_eq_nil_iff.mp accepted).1
    exact List.filterMap_eq_nil_iff.mp clear _ listed
  unfold imageProblem at fine
  split at fine
  · cases fine
  rename_i content found
  split at fine
  · cases fine
  · rename_i same
    exact ⟨content, found, not_not.mp same⟩

theorem loadEach_ok {files : List (String × Content)}
    (loads : ∀ file ∈ files, (engine.load file.2).isSome = true) (store : Store Name) :
    ∃ after, loadEach engine [] files store = some after ∧
      (∀ id ∈ store.ids, id ∈ after.ids) ∧
      ∀ file ∈ files, ∀ loaded, engine.load file.2 = some loaded →
        ∀ id ∈ loaded.ids, id ∈ after.ids := by
  induction files generalizing store with
  | nil => exact ⟨store, rfl, fun _ there => there, fun _ member => nomatch member⟩
  | cons file rest ih =>
      obtain ⟨loaded, done⟩ := Option.isSome_iff_exists.mp (loads file List.mem_cons_self)
      obtain ⟨after, same, kept, held⟩ :=
        ih (fun later member => loads later (List.mem_cons_of_mem file member))
          ⟨store.ids ++ loaded.ids, Assignments.assign store.names loaded.tags⟩
      refine ⟨after, ?_, fun id there => kept id (List.mem_append_left _ there), ?_⟩
      · simp only [loadEach, chosen, List.isEmpty_nil, Bool.true_or, if_true, dockerLoad, done,
          Option.map_some]
        exact same
      · intro later member its reads id there
        rcases List.mem_cons.mp member with rfl | behind
        · cases done.symm.trans reads
          exact kept id (List.mem_append_right _ there)
        · exact held later behind its reads id there

/-- The assignments that `name_images` makes. -/
def tags (engine : Engine Content Name) (entries : List (String × ImageEntry)) :
    List (Name × String) :=
  entries.filterMap fun entry =>
    (engine.reference entry.2.localTag).map fun name => (name, entry.2.imageId)

theorem dockerTag_some {imageId tag : String}
    (done : dockerTag engine imageId tag store = some after) :
    ∃ name, engine.reference tag = some name ∧
      after = { store with names := Function.update store.names name (some imageId) } := by
  unfold dockerTag at done
  split at done
  · cases done
  rename_i name named
  split at done
  · cases done
    exact ⟨name, named, rfl⟩
  · cases done

theorem nameEach_some {entries : List (String × ImageEntry)}
    (done : nameEach engine [] entries store = some after) :
    (∀ entry ∈ entries, (engine.reference entry.2.localTag).isSome = true) ∧
      after.names = Assignments.assign store.names (tags engine entries) := by
  induction entries generalizing store with
  | nil =>
      cases done
      exact ⟨fun _ member => (nomatch member), rfl⟩
  | cons entry rest ih =>
      simp only [nameEach, chosen, List.isEmpty_nil, Bool.true_or, if_true] at done
      split at done
      · cases done
      rename_i tagged
      obtain ⟨name, named, rfl⟩ := dockerTag_some tagged
      obtain ⟨taken, names⟩ := ih done
      constructor
      · intro other member
        rcases List.mem_cons.mp member with rfl | there
        · rw [named]
          rfl
        · exact taken other there
      · have first : tags engine (entry :: rest) = (name, entry.2.imageId) :: tags engine rest := by
          rw [tags, List.filterMap_cons, named]
          rfl
        rw [names, first]
        rfl

theorem nameEach_ok {entries : List (String × ImageEntry)}
    (taken : ∀ entry ∈ entries, (engine.reference entry.2.localTag).isSome = true)
    (loaded : ∀ entry ∈ entries, entry.2.imageId ∈ store.ids) :
    ∃ after, nameEach engine [] entries store = some after := by
  induction entries generalizing store with
  | nil => exact ⟨store, rfl⟩
  | cons entry rest ih =>
      obtain ⟨name, named⟩ := Option.isSome_iff_exists.mp (taken entry List.mem_cons_self)
      have there := loaded entry List.mem_cons_self
      simp only [nameEach, chosen, List.isEmpty_nil, Bool.true_or, if_true, dockerTag, named,
        if_pos there]
      apply ih
      · exact fun other member => taken other (List.mem_cons_of_mem entry member)
      · exact fun other member => loaded other (List.mem_cons_of_mem entry member)

end Loading

section Delivery

variable {daemon : Daemon Content} {engine : Engine Content Name} {sha256 : Content → String}
  {resolved : List (String × String)} {requested : List String} {bundle media : Bundle Content}
  {saved : List (String × ImageEntry × Content)}

theorem Built.keys (built : Built daemon sha256 resolved requested bundle saved)
    (distinct : requested.Nodup) : (saved.map Prod.fst).Nodup :=
  (saveEach_sublist built.saves).nodup distinct

theorem Built.listed (built : Built daemon sha256 resolved requested bundle saved)
    (carried : Carried bundle media) {service : String} {entry : ImageEntry} :
    (service, entry) ∈ media.manifest.images ↔ ∃ content, (service, entry, content) ∈ saved := by
  rw [carried.manifest, built.images, List.mem_map]
  constructor
  · rintro ⟨⟨name, its, content⟩, member, same⟩
    cases same
    exact ⟨content, member⟩
  · rintro ⟨content, member⟩
    exact ⟨_, member, rfl⟩

theorem Built.given (built : Built daemon sha256 resolved requested bundle saved)
    (distinct : requested.Nodup) (carried : Carried bundle media) {service : String}
    {entry : ImageEntry} (listed : (service, entry) ∈ media.manifest.images)
    {given : ServiceOverride} :
    (service, given) ∈ writeOverride media ↔ given = ⟨entry.localTag, "never"⟩ := by
  constructor
  · intro written
    obtain ⟨⟨name, other⟩, member, same⟩ := List.mem_map.mp written
    cases same
    obtain ⟨content, first⟩ := (built.listed carried).mp listed
    obtain ⟨content', second⟩ := (built.listed carried).mp member
    cases Rows.key_unique (built.keys distinct) first second rfl
    rfl
  · rintro rfl
    exact List.mem_map.mpr ⟨_, listed, rfl⟩

theorem imageId_some {image identifier : String}
    (identified : daemon.imageId image = some identifier) :
    ∃ found, daemon.inspect image = some found ∧ found.id = identifier := by
  obtain ⟨found, inspected, id⟩ := Option.bind_eq_some_iff.mp identified
  refine ⟨found, inspected, ?_⟩
  split at id
  · exact Option.some.inj id
  · cases id

omit [DecidableEq Name] in
theorem Documented.digest_denotes (documented : Documented daemon engine) {image digest : String}
    {found : Image} (inspected : daemon.inspect image = some found)
    (digested : daemon.resolveDigest image = some digest) :
    daemon.inspect digest = some found := by
  have byId : daemon.imageId image = some digest → daemon.inspect digest = some found := by
    intro identified
    obtain ⟨other, inspected', rfl⟩ := imageId_some identified
    cases inspected.symm.trans inspected'
    exact documented.byId inspected
  unfold Daemon.resolveDigest at digested
  split at digested
  · cases digested
    exact inspected
  split at digested
  · rename_i reference rest digests
    rw [inspected, Option.map_some] at digests
    split at digested
    · cases digested
      apply documented.byDigest inspected
      rw [Option.some.inj digests]
      exact List.mem_cons_self
    · exact byId digested
  · exact byId digested

theorem Delivers.deliverable {store : Store Name}
    (built : Built daemon sha256 resolved requested bundle saved) (distinct : requested.Nodup)
    (carried : Carried bundle media) (delivers : Delivers engine media requested store) :
    Deliverable daemon engine resolved requested := by
  have kept : ∀ service ∈ requested, ∃ entry content, (service, entry, content) ∈ saved := by
    intro service asked
    have there := carried.archives service (delivers.archived service asked)
    rw [built.archives, List.map_map] at there
    obtain ⟨⟨name, entry, content⟩, member, rfl⟩ := List.mem_map.mp there
    exact ⟨entry, content, member⟩
  have entries := saveEach_entries built.saves
  obtain ⟨after, _, named⟩ := delivers.named
  -- Every requested service has an entry, whose name denotes its image.
  have denotes : ∀ service ∈ requested, ∀ image, resolved.lookup service = some image →
      ∃ name id, engine.reference (localTagFor image) = some name ∧ after.names name = some id ∧
        daemon.imageId image = some id := by
    intro service asked image composed
    obtain ⟨entry, content, member⟩ := kept service asked
    have its := entries service entry content member
    cases its.composed.symm.trans composed
    have listed := (built.listed carried).mpr ⟨content, member⟩
    obtain ⟨given, written, same⟩ := named service entry listed
    cases (built.given distinct carried listed).mp written
    obtain ⟨name, taken, held⟩ := Option.bind_eq_some_iff.mp same
    exact ⟨name, entry.imageId, its.tag ▸ taken, held, its.id⟩
  constructor
  · intro service asked
    obtain ⟨entry, content, member⟩ := kept service asked
    exact (entries service entry content member).present
  · intro service asked image composed
    obtain ⟨name, id, taken, _⟩ := denotes service asked image composed
    rw [taken]
    rfl
  · intro service asked other there image composed twin composed' same
    obtain ⟨name, id, taken, held, identified⟩ := denotes service asked image composed
    obtain ⟨name', id', taken', held', identified'⟩ := denotes other there twin composed'
    rw [taken, taken'] at same
    cases Option.some.inj same
    rw [identified, identified', ← held, held']

omit [DecidableEq Name] in
theorem Built.loads (documented : Documented daemon engine)
    (built : Built daemon sha256 resolved requested bundle saved)
    (carried : Carried bundle media) (apart : CollisionFree sha256 bundle media)
    (accepted : verifyBundle sha256 media [] = []) {service : String} {entry : ImageEntry}
    {content : Content} (member : (service, entry, content) ∈ saved) :
    (service, content) ∈ media.archives ∧
      ∃ loaded, engine.load content = some loaded ∧ entry.imageId ∈ loaded.ids := by
  have its := saveEach_entries built.saves service entry content member
  constructor
  · obtain ⟨found, there, same⟩ := verified_archive accepted
      ((built.listed carried).mpr ⟨content, member⟩)
    rw [its.archive] at there
    have held := mem_of_archive there
    have original : (service, content) ∈ bundle.archives := by
      rw [built.archives]
      exact List.mem_map.mpr ⟨_, member, rfl⟩
    rw [apart service content found original held (same.trans its.sum)] at held
    exact held
  · obtain ⟨found, inspected, same⟩ := imageId_some its.id
    obtain ⟨loaded, reads, there⟩ :=
      documented.holds (documented.digest_denotes inspected its.digest) its.saved
    exact ⟨loaded, reads, same ▸ there⟩

theorem Deliverable.delivers (documented : Documented daemon engine)
    (built : Built daemon sha256 resolved requested bundle saved) (distinct : requested.Nodup)
    (some : requested ≠ []) (carried : Carried bundle media)
    (apart : CollisionFree sha256 bundle media) (accepted : verifyBundle sha256 media [] = [])
    (store : Store Name) (deliverable : Deliverable daemon engine resolved requested) :
    Delivers engine media requested store := by
  have entries := saveEach_entries built.saves
  have archived : ∀ service ∈ requested, service ∈ media.archives.map Prod.fst := by
    intro service asked
    obtain ⟨entry, content, member⟩ :=
      saveEach_present built.saves asked (deliverable.present service asked)
    exact List.mem_map.mpr
      ⟨_, (built.loads documented carried apart accepted member).1, rfl⟩
  have asked : ∀ service entry content, (service, entry, content) ∈ saved → service ∈ requested :=
    fun service entry content member =>
      (saveEach_sublist built.saves).subset (List.mem_map.mpr ⟨_, member, rfl⟩)
  refine ⟨archived, ?_⟩
  -- Whatever archive is there is one that was saved.
  have loads : ∀ file ∈ media.archives, (engine.load file.2).isSome = true := by
    rintro ⟨name, changed⟩ there
    have its := carried.archives name (List.mem_map.mpr ⟨_, there, rfl⟩)
    rw [built.archives, List.map_map] at its
    obtain ⟨⟨service, entry, content⟩, member, same⟩ := List.mem_map.mp its
    cases same
    obtain ⟨original, loaded, reads, _⟩ :=
      built.loads documented carried apart accepted member
    cases Rows.key_unique carried.distinct original there rfl
    rw [reads]
    rfl
  obtain ⟨loaded, done, _, held⟩ := loadEach_ok loads store
  have taken : ∀ entry ∈ media.manifest.images,
      (engine.reference entry.2.localTag).isSome = true := by
    rintro ⟨service, entry⟩ listed
    obtain ⟨content, member⟩ := (built.listed carried).mp listed
    have its := entries service entry content member
    rw [its.tag]
    exact deliverable.taken service (asked service entry content member) entry.image its.composed
  have present : ∀ entry ∈ media.manifest.images, entry.2.imageId ∈ loaded.ids := by
    rintro ⟨service, entry⟩ listed
    obtain ⟨content, member⟩ := (built.listed carried).mp listed
    obtain ⟨there, images, reads, id⟩ := built.loads documented carried apart accepted member
    exact held _ there images reads _ id
  obtain ⟨after, named⟩ := nameEach_ok taken present
  obtain ⟨_, names⟩ := nameEach_some named
  refine ⟨after, ?_, ?_⟩
  · have filled : media.archives ≠ [] := by
      obtain ⟨service, rest, rfl⟩ := List.exists_cons_of_ne_nil some
      obtain ⟨file, there, _⟩ := List.mem_map.mp (archived service List.mem_cons_self)
      exact List.ne_nil_of_mem there
    rw [install, loadImages, if_neg (by simpa using filled), done]
    exact named
  · intro service entry listed
    refine ⟨_, (built.given distinct carried listed).mpr rfl, ?_⟩
    obtain ⟨name, named⟩ := Option.isSome_iff_exists.mp (taken _ listed)
    rw [Store.denotes, named, Option.bind_some, names]
    -- Another entry that is given the name has the same image.
    refine Assignments.assign_of_agrees ?_ (.inl ⟨(name, entry.imageId), ?_, rfl⟩)
    · rintro ⟨_, id⟩ assigned rfl
      obtain ⟨⟨other, twin⟩, listed', same⟩ := List.mem_filterMap.mp assigned
      obtain ⟨name', named', same⟩ := Option.map_eq_some_iff.mp same
      cases same
      obtain ⟨content, member⟩ := (built.listed carried).mp listed
      obtain ⟨content', member'⟩ := (built.listed carried).mp listed'
      have its := entries _ _ _ member
      have its' := entries _ _ _ member'
      have one := deliverable.apart _ (asked _ _ _ member') _ (asked _ _ _ member) _
        its'.composed _ its.composed (by rw [← its.tag, ← its'.tag, named, named'])
      rw [its.id, its'.id] at one
      exact Option.some.inj one
    · refine List.mem_filterMap.mpr ⟨_, listed, ?_⟩
      rw [named]
      rfl

end Delivery

/-- A bundle that was built without complaint and is accepted on the target delivers what
was requested if and only if the daemon had an image of every service, and no two services
have different images whose local tags are one name, nor one that is no name. -/
theorem delivers_iff {daemon : Daemon Content} {engine : Engine Content Name}
    {sha256 : Content → String} {config : ComposeConfig} {options : Options}
    {others : Except String Unit} {models : List (String × List (String × Content))}
    {bundle media : Bundle Content} (documented : Documented daemon engine)
    (built : main daemon sha256 config options others models = .ok bundle)
    (carried : Carried bundle media) (apart : CollisionFree sha256 bundle media)
    (accepted : verifyBundle sha256 media [] = []) (store : Store Name) :
    Delivers engine media (wanted options.extra) store ↔
      Deliverable daemon engine (composeImages config) (wanted options.extra) := by
  obtain ⟨saved, built⟩ := main_built built
  constructor
  · exact fun delivers => delivers.deliverable built (wanted_nodup options) carried
  · exact fun deliverable => deliverable.delivers documented built (wanted_nodup options)
      (List.cons_ne_nil _ _) carried apart accepted store

section Unchanged

variable {daemon : Daemon Content} {sha256 : Content → String} {config : ComposeConfig}
  {options : Options} {others : Except String Unit}
  {models : List (String × List (String × Content))} {bundle : Bundle Content}

theorem carried_unchanged
    (built : main daemon sha256 config options others models = .ok bundle) :
    Carried bundle bundle := by
  obtain ⟨saved, saves, _, archives⟩ := main_built built
  refine ⟨rfl, fun _ there => there, ?_⟩
  rw [archives, List.map_map]
  exact (saveEach_sublist saves).nodup (wanted_nodup options)

theorem collisionFree_unchanged (distinct : (bundle.archives.map Prod.fst).Nodup) :
    CollisionFree sha256 bundle bundle := by
  intro name content changed here there _
  cases Rows.key_unique distinct here there rfl
  rfl

theorem lookup_of_mem {files : List (String × Content)} (distinct : (files.map Prod.fst).Nodup)
    {path : String} {content : Content} (member : (path, content) ∈ files) :
    files.lookup path = some content := by
  obtain ⟨before, after, rfl⟩ := List.append_of_mem member
  refine List.lookup_eq_some_iff.mpr ⟨before, after, rfl, fun file there => ?_⟩
  rw [List.map_append] at distinct
  refine bne_iff_ne.mpr fun same => ?_
  apply List.disjoint_of_nodup_append distinct (List.mem_map_of_mem there)
  rw [← same]
  exact List.mem_cons_self

theorem main_models (built : main daemon sha256 config options others models = .ok bundle) :
    ∃ root, bundle.manifest.models = (copyModels sha256 root).1 ∧
      bundle.weights = (copyModels sha256 root).2 := by
  unfold main at built
  split at built
  · cases built
  · cases built
  cases built
  dsimp only
  split
  · exact ⟨models, rfl, rfl⟩
  · exact ⟨[], rfl, rfl⟩

theorem accepted_unchanged
    (built : main daemon sha256 config options others models = .ok bundle)
    (distinct : (bundle.weights.map Prod.fst).Nodup) : verifyBundle sha256 bundle [] = [] := by
  obtain ⟨saved, saves, images, archives⟩ := main_built built
  have carried := carried_unchanged built
  refine List.append_eq_nil_iff.mpr ⟨List.filterMap_eq_nil_iff.mpr ?_, ?_⟩
  · rintro ⟨service, entry⟩ listed
    rw [images] at listed
    obtain ⟨⟨name, its, content⟩, member, same⟩ := List.mem_map.mp listed
    cases same
    have kept := saveEach_entries saves name its content member
    have there : (name, content) ∈ bundle.archives := by
      rw [archives]
      exact List.mem_map.mpr ⟨_, member, rfl⟩
    change imageProblem sha256 bundle name its = none
    rw [imageProblem, kept.archive, archive_of_mem carried.distinct there]
    exact if_neg (not_not.mpr kept.sum.symm)
  · obtain ⟨root, same, weights⟩ := main_models built
    refine List.flatMap_eq_nil_iff.mpr ?_
    rintro ⟨name, entry⟩ listed
    rw [same] at listed
    obtain ⟨⟨_, files⟩, member, same⟩ := List.mem_map.mp listed
    cases same
    refine List.filterMap_eq_nil_iff.mpr ?_
    rintro ⟨_, recorded⟩ there
    obtain ⟨⟨relative, content⟩, held, same⟩ := List.mem_map.mp there
    cases same
    have stored : (s!"models/{name}/{relative}", content) ∈ bundle.weights := by
      rw [weights]
      exact List.mem_flatMap.mpr ⟨_, member, List.mem_map.mpr ⟨_, held, rfl⟩⟩
    have path : s!"models/{name}/{relative}" = "models/" ++ name ++ "/" ++ relative := rfl
    have found := lookup_of_mem distinct stored
    rw [path] at found
    change weightProblem sha256 bundle name ("models/" ++ name) (relative, sha256 content) = none
    unfold weightProblem
    dsimp only
    split
    · rename_i absent
      exact absurd (absent.symm.trans found) (by simp)
    · rename_i held present
      cases Option.some.inj (found.symm.trans present)
      exact if_neg (not_not.mpr rfl)

theorem Delivers.deliverable_unchanged {engine : Engine Content Name} {store : Store Name}
    (built : main daemon sha256 config options others models = .ok bundle)
    (delivers : Delivers engine bundle (wanted options.extra) store) :
    Deliverable daemon engine (composeImages config) (wanted options.extra) := by
  obtain ⟨saved, parts⟩ := main_built built
  exact delivers.deliverable parts (wanted_nodup options) (carried_unchanged built)

end Unchanged

omit [DecidableEq Name] in
theorem apart_of_nodup {daemon : Daemon Content} {engine : Engine Content Name}
    {resolved : List (String × String)} {requested : List String}
    (distinct : ((requested.filterMap (List.lookup · resolved)).map fun image =>
      engine.reference (localTagFor image)).Nodup) :
    ∀ service ∈ requested, ∀ other ∈ requested,
      ∀ image ∈ resolved.lookup service, ∀ twin ∈ resolved.lookup other,
        engine.reference (localTagFor image) = engine.reference (localTagFor twin) →
        daemon.imageId image = daemon.imageId twin := by
  intro service asked other there image composed twin composed' same
  have first : image ∈ requested.filterMap (List.lookup · resolved) :=
    List.mem_filterMap.mpr ⟨service, asked, composed⟩
  have second : twin ∈ requested.filterMap (List.lookup · resolved) :=
    List.mem_filterMap.mpr ⟨other, there, composed'⟩
  rw [List.inj_on_of_nodup_map distinct first second same]

/-- The references and the IDs of the images on a build machine. -/
abbrev Shelf := List (String × String)

def Shelf.find (shelf : Shelf) (text : String) : Option (String × String) :=
  shelf.find? fun image => image.1 = text ∨ image.2 = text

def Shelf.daemon (shelf : Shelf) : Daemon String where
  inspect text := (shelf.find text).map fun image =>
    ⟨image.2, if pinned image.1 then [image.1] else []⟩
  save text := (shelf.find text).map Prod.snd

def host : Engine String String where
  load content := some ⟨[content], []⟩
  reference text :=
    if '@' ∈ text.toList then none
    else if '/' ∈ text.toList then some ("docker.io/" ++ text)
    else some ("docker.io/library/" ++ text)

theorem Shelf.documented {shelf : Shelf}
    (exact : ∀ image ∈ shelf, shelf.find image.1 = some image ∧ shelf.find image.2 = some image) :
    Documented shelf.daemon host := by
  constructor
  · intro image found reference inspected digest
    obtain ⟨entry, there, rfl⟩ := Option.map_eq_some_iff.mp inspected
    dsimp only at digest
    split at digest
    · rw [List.mem_singleton.mp digest]
      exact Option.map_eq_some_iff.mpr
        ⟨entry, (exact entry (List.mem_of_find?_eq_some there)).1, rfl⟩
    · cases digest
  · intro image found inspected
    obtain ⟨entry, there, rfl⟩ := Option.map_eq_some_iff.mp inspected
    exact Option.map_eq_some_iff.mpr
      ⟨entry, (exact entry (List.mem_of_find?_eq_some there)).2, rfl⟩
  · intro reference found content inspected saves
    obtain ⟨entry, there, rfl⟩ := Option.map_eq_some_iff.mp inspected
    obtain ⟨other, there', rfl⟩ := Option.map_eq_some_iff.mp saves
    cases there.symm.trans there'
    exact ⟨_, rfl, List.mem_singleton.mpr rfl⟩

def sum (content : String) : String := (sums.lookup content).getD ""
where
  sums : List (String × String) :=
  [("sha256:01", "43dd5005e4e5e16b8b1eb787e5e0b40dc963e6b382fd515d4e5d2fa556a66536"),
    ("sha256:02", "8b9d619c45640aa7ba8451bf3c0240162ac0e4db125007d08645b005fad10a33"),
    ("sha256:03", "ff40502297a3028ce98aaac7b562619f0a46e4afc21e0bf441303db7db5c73a3"),
    ("sha256:04", "3c513a18e53efe0cd5d86a1cb2f3431eeaf735173b350dccb556c4b920735083"),
    ("sha256:05", "706f706793d6602fbec05798ca67a57ad11cdefd1e01faa02b7aee07626ded4b"),
    ("sha256:06", "c82e9b67277f69cb624fd8237305328049a8279dbcef1ce76b70b45784dce04d"),
    ("sha256:07", "22e038f2ca2e3a1b381d7b036be06a0866ed3b388244cb124d04b5bb714d2e22"),
    ("sha256:08", "a982eab539e10388903c240f6857aeb273818153fd72e751b51bbe50a32acad3"),
    ("sha256:09", "9cf7986f7c3278d384fb6728ba26fd885821b2182dfcd224b6ffcf2f3468e0a0")]

def machine : Shelf :=
  [("postgres@sha256:742f", "sha256:01"), ("valkey/valkey@sha256:a038", "sha256:02"),
    ("qdrant/qdrant@sha256:057e", "sha256:03"), ("minio/minio@sha256:14ce", "sha256:04"),
    ("nginx@sha256:6564", "sha256:05"), ("ai-platform/backend:0.1.0", "sha256:06"),
    ("ai-platform/node-agent:0.1.0", "sha256:07"), ("ai-platform/mock-vllm:0.1.0", "sha256:08"),
    ("ai-platform/ldap-mcp:0.1.0", "sha256:09")]

/-- The images of the services in the order of `bundledServices`. -/
def composed (images : Shelf) : ComposeConfig :=
  some (bundledServices.zip (images.map fun image => some image.1))

def plain : Options := ⟨false, false, false⟩

def builtFrom (machine images : Shelf) : Bundle String :=
  ((main machine.daemon sum (composed images) plain (.ok ()) []).toOption).getD ⟨⟨[], []⟩, [], []⟩

theorem machine_is_delivered :
    Delivers host (builtFrom machine machine) (wanted plain.extra) ⟨[], fun _ => none⟩ := by
  have built : main machine.daemon sum (composed machine) plain (.ok ()) [] =
      .ok (builtFrom machine machine) := rfl
  have carried := carried_unchanged built
  exact (delivers_iff (Shelf.documented (by decide +kernel)) built carried
    (collisionFree_unchanged carried.distinct) (accepted_unchanged built .nil) _).mpr
    ⟨by decide +kernel, by decide +kernel, apart_of_nodup (by decide +kernel)⟩

def twice : Shelf := ("postgres@sha256:a038", "sha256:02") :: machine.eraseIdx 1

/-- A configuration of one service builds without complaint and is accepted, and so does one
with two images of a repository. -/
theorem partial_and_shared_are_not_delivered :
    (main machine.daemon sum (composed (machine.take 1)) plain (.ok ()) [] =
        .ok (builtFrom machine (machine.take 1)) ∧
      verifyBundle sum (builtFrom machine (machine.take 1)) [] = [] ∧
      ¬ Delivers host (builtFrom machine (machine.take 1)) (wanted plain.extra)
        ⟨[], fun _ => none⟩) ∧
    main twice.daemon sum (composed twice) plain (.ok ()) [] = .ok (builtFrom twice twice) ∧
      verifyBundle sum (builtFrom twice twice) [] = [] ∧
      ¬ Delivers host (builtFrom twice twice) (wanted plain.extra) ⟨[], fun _ => none⟩ := by
  constructor
  · have built : main machine.daemon sum (composed (machine.take 1)) plain (.ok ()) [] =
        .ok (builtFrom machine (machine.take 1)) := rfl
    refine ⟨built, accepted_unchanged built .nil, fun delivers => ?_⟩
    have missing := (delivers.deliverable_unchanged built).present "valkey" (by decide)
    exact absurd missing (by decide)
  · have built : main twice.daemon sum (composed twice) plain (.ok ()) [] =
        .ok (builtFrom twice twice) := rfl
    refine ⟨built, accepted_unchanged built .nil, fun delivers => ?_⟩
    have one := (delivers.deliverable_unchanged built).apart "postgres" (by decide) "valkey"
      (by decide) _ rfl _ rfl (by decide +kernel)
    exact absurd one (by decide +kernel)

end AiPlatform.Bundles
