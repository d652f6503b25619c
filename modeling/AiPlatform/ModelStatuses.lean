import AiPlatform.ExternalModels

/-!
Which models are deployed, and what becomes of a withdrawn one. Beside the
platform stand the ids of the models that were DISABLED in some state so far. A
deployment row is one that a step appends.
-/

namespace AiPlatform.Serving

open Agents (Json Dict strip clip truthy)
open Deployments (ModelStatus DeploymentState DeploymentRequestSpec Placement externalRuntimes)

structure Supervised where
  platform : Platform
  withdrawn : List Nat

def Catalogue.disabledModels (catalogue : Catalogue) : List Nat :=
  (catalogue.models.filter fun model => model.status = .disabled).map Model.id

def Supervised.of (platform : Platform) : Supervised :=
  ⟨platform, platform.catalogue.disabledModels⟩

def Supervised.step (settings : Settings) (supervised : Supervised) (action : Action) :
    Supervised :=
  let platform := supervised.platform.step settings action
  ⟨platform, supervised.withdrawn ++ platform.catalogue.disabledModels⟩

def Catalogue.Inserts (before after : Catalogue) (row : DeploymentRow) : Prop :=
  after.deployments = before.deployments ++ [row]

def Catalogue.statusBehind (catalogue : Catalogue) (row : DeploymentRow) : Option ModelStatus :=
  (catalogue.modelById row.modelId).map Model.status

def Attaches (model : Model) (runtime : String) (probe : Bool × String) : Prop :=
  externalRuntimes.contains runtime = true ∧ strip (model.endpointUrl.getD "") ≠ "" ∧
    probe.1 = true

def Model.Found (model : Model) (scan : String → DirectoryScan) : Prop :=
  (scannedStatus model (scan model.storagePath)).1 = .available

/-- Where a model is attached to an external runtime it is AVAILABLE, and a model
was not withdrawn where an import finds its weights. -/
def Supervised.Meets (settings : Settings) (supervised : Supervised) : Action → Prop
  | .deploy spec _ probe _ _ =>
      ∀ model, supervised.platform.catalogue.modelById spec.modelId = some model →
        Attaches model (runtimeFor settings spec model) probe → model.status = .available
  | .externalImport options probe _ _ =>
      ∀ model, supervised.platform.catalogue.modelByName
          (platformName settings options.model) = some model →
        supervised.platform.catalogue.servingForModel model.id = [] →
        Attaches (options.change settings model) "external" probe → model.status = .available
  | .registry (.importFromDisk modelId scan) =>
      ∀ model ∈ supervised.platform.catalogue.models, model.id = modelId → model.Found scan →
        model.id ∉ supervised.withdrawn
  | .registry (.loadManifests manifests scan _) =>
      ∀ manifest ∈ manifests, ∀ spec, manifest.content = .mapping spec →
        ∀ model ∈ supervised.platform.catalogue.models,
          spec.name.filter truthy = some model.name → model.Found scan →
          model.id ∉ supervised.withdrawn
  | _ => True

variable {settings : Settings} {catalogue after : Catalogue} {withdrawn : List Nat}

structure Catalogue.Withholds (catalogue : Catalogue) (withdrawn : List Nat) : Prop where
  modelIds : (catalogue.models.map Model.id).Nodup
  below : ∀ model ∈ catalogue.models, model.id < catalogue.nextId
  past : ∀ id ∈ withdrawn, id < catalogue.nextId
  held : ∀ model ∈ catalogue.models, model.id ∈ withdrawn → model.status ≠ .available

namespace Catalogue.Withholds

theorem unchanged (withholds : catalogue.Withholds withdrawn)
    (same : after.models = catalogue.models) (later : catalogue.nextId ≤ after.nextId) :
    after.Withholds withdrawn := by
  constructor
  · rw [same]
    exact withholds.modelIds
  · rw [same]
    exact fun model member => Nat.lt_of_lt_of_le (withholds.below model member) later
  · exact fun id member => Nat.lt_of_lt_of_le (withholds.past id member) later
  · rw [same]
    exact withholds.held

theorem registered (withholds : catalogue.Withholds withdrawn) (spec : ModelSpec) :
    (catalogue.addModel spec).Withholds withdrawn := by
  constructor
  · exact distinct_concat Model.id withholds.modelIds fun other member =>
      (withholds.below other member).ne
  · intro model member
    rcases List.mem_append.mp member with old | new
    · exact Nat.lt_succ_of_lt (withholds.below model old)
    · rw [List.mem_singleton.mp new]
      exact Nat.lt_succ_self _
  · exact fun id member => Nat.lt_succ_of_lt (withholds.past id member)
  · intro model member listed
    rcases List.mem_append.mp member with old | new
    · exact withholds.held model old listed
    · rw [List.mem_singleton.mp new] at listed
      exact absurd (withholds.past _ listed) (Nat.lt_irrefl _)

theorem amended (withholds : catalogue.Withholds withdrawn) {id : Nat} {change : Model → Model}
    (ids : ∀ model, (change model).id = model.id)
    (held : ∀ model ∈ catalogue.models, model.id = id → model.id ∈ withdrawn →
      (change model).status ≠ .available) :
    (catalogue.amendModel id change).Withholds withdrawn := by
  constructor
  · rw [Catalogue.amendModel, Rows.keys_amend ids]
    exact withholds.modelIds
  · intro model member
    rcases Rows.mem_amend.mp member with ⟨old, listed, _, rfl⟩ | ⟨listed, _⟩
    · rw [ids]
      exact withholds.below old listed
    · exact withholds.below model listed
  · exact withholds.past
  · intro model member listed
    rcases Rows.mem_amend.mp member with ⟨old, there, keyed, rfl⟩ | ⟨there, _⟩
    · rw [ids] at listed
      exact held old there keyed listed
    · exact withholds.held model there listed

theorem adjusted (withholds : catalogue.Withholds withdrawn) {id : Nat} {change : Model → Model}
    (ids : ∀ model, (change model).id = model.id)
    (statuses : ∀ model, (change model).status = model.status) :
    (catalogue.amendModel id change).Withholds withdrawn := by
  apply withholds.amended ids
  intro model member _ listed
  rw [statuses]
  exact withholds.held model member listed

theorem extended (withholds : catalogue.Withholds withdrawn) :
    catalogue.Withholds (withdrawn ++ catalogue.disabledModels) := by
  refine ⟨withholds.modelIds, withholds.below, fun id member => ?_, fun model member listed => ?_⟩
  · rcases List.mem_append.mp member with old | new
    · exact withholds.past id old
    · obtain ⟨model, disabled, rfl⟩ := List.mem_map.mp new
      exact withholds.below model (List.mem_of_mem_filter disabled)
  · rcases List.mem_append.mp listed with old | new
    · exact withholds.held model member old
    · obtain ⟨other, disabled, same⟩ := List.mem_map.mp new
      obtain ⟨there, status⟩ := List.mem_filter.mp disabled
      rw [Rows.key_unique withholds.modelIds there member same.symm, of_decide_eq_true status]
      exact fun impossible => nomatch impossible

end Catalogue.Withholds

theorem registerModel_withholds {spec : ModelSpec} {model : Model}
    (withholds : catalogue.Withholds withdrawn)
    (done : registerModel settings catalogue spec = .ok (model, after)) :
    after.Withholds withdrawn := by
  obtain ⟨_, _, _, rfl⟩ := registerModel_ok done
  exact withholds.registered spec

theorem importTags_withholds {base : String} {tags : List Dict} {entries : List ImportEntry}
    (withholds : catalogue.Withholds withdrawn)
    (done : importTags settings base tags catalogue = .ok (entries, after)) :
    after.Withholds withdrawn := by
  induction tags generalizing catalogue entries with
  | nil =>
      cases done
      exact withholds
  | cons tag rest ih =>
      unfold importTags at done
      obtain ⟨⟨head, middle⟩, first, done⟩ := bind_ok.mp done
      obtain ⟨⟨others, last⟩, later, done⟩ := bind_ok.mp done
      cases done
      apply ih _ later
      unfold importTag at first
      simp only at first
      split at first
      · cases first
        exact withholds
      · obtain ⟨details, _, first⟩ := bind_ok.mp first
        split at first
        · cases first
          exact withholds.adjusted (fun model => rfl) (fun model => rfl)
        · obtain ⟨⟨model, next⟩, registered, first⟩ := bind_ok.mp first
          cases first
          exact registerModel_withholds withholds registered

theorem importFromDisk_scans {modelId : Nat} {scan : String → DirectoryScan}
    {result : ImportResult} (modelIds : (catalogue.models.map Model.id).Nodup)
    (done : importFromDisk catalogue modelId scan = .ok (result, after)) :
    ∃ change : Model → Model, after = catalogue.amendModel modelId change ∧
      (∀ model : Model, model.Alike (change model)) ∧
      ∀ model ∈ catalogue.models, model.id = modelId →
        ((change model).status = .available ↔ model.Found scan) := by
  unfold importFromDisk at done
  split at done
  · cases done
  · rename_i existing found
    obtain ⟨there, rfl⟩ := Rows.get_some found
    cases done
    refine ⟨_, rfl, fun model => ⟨rfl, rfl, rfl, rfl, rfl, rfl⟩, fun model member same => ?_⟩
    rw [Rows.key_unique modelIds there member same]
    exact Iff.rfl

theorem importFromDisk_withholds {modelId : Nat} {scan : String → DirectoryScan}
    {result : ImportResult} (withholds : catalogue.Withholds withdrawn)
    (spared : ∀ model ∈ catalogue.models, model.id = modelId → model.Found scan →
      model.id ∉ withdrawn)
    (done : importFromDisk catalogue modelId scan = .ok (result, after)) :
    after.Withholds withdrawn := by
  obtain ⟨change, rfl, alike, scanned⟩ := importFromDisk_scans withholds.modelIds done
  apply withholds.amended fun model => (alike model).id
  intro model member same listed available
  exact spared model member same ((scanned model member same).mp available) listed

theorem addAliases_models {filename : String} {modelId : Nat} {now : Int} {names : List String}
    (done : addAliases filename modelId now names catalogue = .ok after) :
    after.models = catalogue.models ∧ catalogue.nextId ≤ after.nextId := by
  induction names generalizing catalogue with
  | nil =>
      cases done
      exact ⟨rfl, Nat.le_refl _⟩
  | cons name rest ih =>
      unfold addAliases at done
      split at done
      · exact ih done
      · obtain ⟨⟨record, middle⟩, added, done⟩ := bind_ok.mp done
        obtain ⟨_, _, rfl⟩ := addAlias_ok added
        obtain ⟨same, later⟩ := ih done
        exact ⟨same, Nat.le_of_succ_le later⟩

def Catalogue.Spares (catalogue : Catalogue) (withdrawn : List Nat)
    (scan : String → DirectoryScan) (manifests : List Manifest) : Prop :=
  ∀ manifest ∈ manifests, ∀ spec, manifest.content = .mapping spec →
    ∀ model ∈ catalogue.models, spec.name.filter truthy = some model.name → model.Found scan →
      model.id ∉ withdrawn

/-- Every model that is withdrawn was there before, under its name and with its
weights in the same place. -/
def Catalogue.Continues (catalogue after : Catalogue) (withdrawn : List Nat) : Prop :=
  ∀ model ∈ after.models, model.id ∈ withdrawn → ∃ old ∈ catalogue.models, old.Alike model

theorem Model.Alike.trans {first second third : Model} (one : first.Alike second)
    (two : second.Alike third) : first.Alike third where
  id := two.id.trans one.id
  name := two.name.trans one.name
  runtime := two.runtime.trans one.runtime
  endpointUrl := two.endpointUrl.trans one.endpointUrl
  storagePath := two.storagePath.trans one.storagePath
  metadata := two.metadata.trans one.metadata

theorem Model.Alike.found {old new : Model} (alike : old.Alike new)
    {scan : String → DirectoryScan} (found : new.Found scan) : old.Found scan := by
  unfold Model.Found scannedStatus at *
  rw [alike.runtime, alike.storagePath] at found
  exact found

namespace Catalogue.Continues

theorem unchanged (same : after.models = catalogue.models) :
    catalogue.Continues after withdrawn :=
  fun model member _ => ⟨model, same ▸ member, .refl model⟩

theorem amended {id : Nat} {change : Model → Model}
    (alike : ∀ model : Model, model.Alike (change model)) :
    catalogue.Continues (catalogue.amendModel id change) withdrawn := by
  intro model member _
  rcases Rows.mem_amend.mp member with ⟨old, listed, _, rfl⟩ | ⟨listed, _⟩
  · exact ⟨old, listed, alike old⟩
  · exact ⟨model, listed, .refl model⟩

theorem trans {middle : Catalogue} (first : catalogue.Continues middle withdrawn)
    (second : middle.Continues after withdrawn) : catalogue.Continues after withdrawn := by
  intro model member listed
  obtain ⟨between, there, alike⟩ := second model member listed
  obtain ⟨old, before, earlier⟩ := first between there (alike.id ▸ listed)
  exact ⟨old, before, earlier.trans alike⟩

theorem spares {scan : String → DirectoryScan} {manifests : List Manifest}
    (continues : catalogue.Continues after withdrawn)
    (spared : catalogue.Spares withdrawn scan manifests) :
    after.Spares withdrawn scan manifests := by
  intro manifest listed spec readable model member named found withdrew
  obtain ⟨old, there, alike⟩ := continues model member withdrew
  apply spared manifest listed spec readable old there _ (alike.found found) (alike.id ▸ withdrew)
  rw [named, alike.name]

end Catalogue.Continues

theorem convergeModel_continues {manifest : ManifestSpec} {name : String} {modelId : Nat}
    (withholds : catalogue.Withholds withdrawn)
    (done : convergeModel settings catalogue manifest name = .ok (modelId, after)) :
    after.Withholds withdrawn ∧ catalogue.Continues after withdrawn ∧
      ∀ model ∈ after.models, model.id = modelId → model.name = name := by
  unfold convergeModel at done
  split at done
  · obtain ⟨⟨model, next⟩, registered, done⟩ := bind_ok.mp done
    cases done
    obtain ⟨_, _, rfl, rfl⟩ := registerModel_ok registered
    refine ⟨withholds.registered _, fun model member listed => ?_, fun model member same => ?_⟩
    · rcases List.mem_append.mp member with old | new
      · exact ⟨model, old, .refl model⟩
      · rw [List.mem_singleton.mp new] at listed
        exact absurd (withholds.past _ listed) (Nat.lt_irrefl _)
    · rcases List.mem_append.mp member with old | new
      · exact absurd same (withholds.below model old).ne
      · rw [List.mem_singleton.mp new]
        rfl
  · rename_i existing found
    obtain ⟨there, named⟩ := Rows.get_some found
    cases done
    refine ⟨withholds.adjusted (fun model => rfl) (fun model => rfl),
      .amended fun model => ⟨rfl, rfl, rfl, rfl, rfl, rfl⟩, fun model member same => ?_⟩
    rcases Rows.mem_amend.mp member with ⟨old, listed, keyed, rfl⟩ | ⟨listed, other⟩
    · rw [← named, ← Rows.key_unique withholds.modelIds there listed keyed]
      rfl
    · exact absurd same other

theorem loadManifest_withholds {scan : String → DirectoryScan} {now : Int} {manifest : Manifest}
    {result : ImportResult} (withholds : catalogue.Withholds withdrawn)
    (spared : catalogue.Spares withdrawn scan [manifest])
    (done : loadManifest settings scan now catalogue manifest = .ok (result, after)) :
    after.Withholds withdrawn ∧ catalogue.Continues after withdrawn := by
  unfold loadManifest at done
  split at done
  · cases done
    exact ⟨withholds, .unchanged rfl⟩
  · cases done
  · rename_i spec readable
    split at done
    · cases done
      exact ⟨withholds, .unchanged rfl⟩
    · rename_i name named
      obtain ⟨⟨modelId, converged⟩, first, done⟩ := bind_ok.mp done
      obtain ⟨⟨report, scanned⟩, second, done⟩ := bind_ok.mp done
      obtain ⟨last, third, done⟩ := bind_ok.mp done
      cases done
      obtain ⟨kept, continued, names⟩ := convergeModel_continues withholds first
      have known := continued.spares spared
      have imported := importFromDisk_withholds kept (fun model member same =>
        known manifest (List.mem_singleton_self _) spec readable model member
          (by rw [named, names model member same])) second
      obtain ⟨change, rfl, alike, _⟩ := importFromDisk_scans kept.modelIds second
      obtain ⟨same, later⟩ := addAliases_models third
      exact ⟨imported.unchanged same later,
        continued.trans (.trans (.amended alike) (.unchanged same))⟩

theorem loadManifests_withholds {scan : String → DirectoryScan} {now : Int}
    {manifests : List Manifest} {results : List ImportResult}
    (withholds : catalogue.Withholds withdrawn) (spared : catalogue.Spares withdrawn scan manifests)
    (done : loadManifests settings scan now manifests catalogue = .ok (results, after)) :
    after.Withholds withdrawn := by
  induction manifests generalizing catalogue results with
  | nil =>
      cases done
      exact withholds
  | cons manifest rest ih =>
      unfold loadManifests at done
      obtain ⟨⟨result, middle⟩, first, done⟩ := bind_ok.mp done
      obtain ⟨⟨others, last⟩, later, done⟩ := bind_ok.mp done
      cases done
      have one : catalogue.Spares withdrawn scan [manifest] := by
        intro other member
        rw [List.mem_singleton.mp member]
        exact spared manifest (List.mem_cons_self ..)
      obtain ⟨kept, continued⟩ := loadManifest_withholds withholds one first
      apply ih kept (continued.spares _) later
      exact fun other member => spared other (List.mem_cons_of_mem _ member)

theorem createAlias_same {aliasName : String} {modelId : Nat} {description : Option String}
    {enabled : Bool} {now : Int} {record : ModelAlias}
    (done : createAlias catalogue aliasName modelId description enabled now =
      .ok (record, after)) :
    after.models = catalogue.models ∧ after.deployments = catalogue.deployments ∧
      catalogue.nextId ≤ after.nextId := by
  unfold createAlias at done
  obtain ⟨_, _, done⟩ := bind_ok.mp done
  obtain ⟨_, _, done⟩ := bind_ok.mp done
  obtain ⟨_, _, done⟩ := bind_ok.mp done
  obtain ⟨_, _, rfl⟩ := addAlias_ok done
  exact ⟨rfl, rfl, Nat.le_succ _⟩

theorem updateAlias_same {aliasId : Nat} {modelId : Option Nat} {description : Option String}
    {enabled : Option Bool} {record : ModelAlias}
    (done : updateAlias catalogue aliasId modelId description enabled = .ok (record, after)) :
    after.models = catalogue.models ∧ after.deployments = catalogue.deployments ∧
      catalogue.nextId ≤ after.nextId := by
  unfold updateAlias at done
  split at done
  · cases done
  · obtain ⟨_, _, done⟩ := bind_ok.mp done
    cases done
    exact ⟨rfl, rfl, Nat.le_refl _⟩

theorem deleteAlias_models {aliasId : Nat} (done : deleteAlias catalogue aliasId = .ok after) :
    after.models = catalogue.models ∧ catalogue.nextId ≤ after.nextId := by
  unfold deleteAlias at done
  split at done
  · cases done
  · cases done
    exact ⟨rfl, Nat.le_refl _⟩

theorem registry_withholds {op : Op} (platform : Platform)
    (withholds : platform.catalogue.Withholds withdrawn)
    (meets : Supervised.Meets settings ⟨platform, withdrawn⟩ (.registry op))
    (stepped : platform.catalogue.step settings op = some after) : after.Withholds withdrawn := by
  cases op with
  | register spec =>
      obtain ⟨⟨model, next⟩, done, rfl⟩ := Option.map_eq_some_iff.mp stepped
      exact registerModel_withholds withholds (toOption_some.mp done)
  | loadManifests manifests scan now =>
      obtain ⟨⟨results, next⟩, done, rfl⟩ := Option.map_eq_some_iff.mp stepped
      exact loadManifests_withholds withholds meets (toOption_some.mp done)
  | importOllama endpoint reply =>
      obtain ⟨⟨entries, next⟩, done, rfl⟩ := Option.map_eq_some_iff.mp stepped
      obtain ⟨_, tags, _, imported⟩ := importOllama_ok (toOption_some.mp done)
      exact importTags_withholds withholds imported
  | importFromDisk modelId scan =>
      obtain ⟨⟨result, next⟩, done, rfl⟩ := Option.map_eq_some_iff.mp stepped
      exact importFromDisk_withholds withholds meets (toOption_some.mp done)
  | createAlias aliasName modelId description enabled now =>
      obtain ⟨⟨record, next⟩, done, rfl⟩ := Option.map_eq_some_iff.mp stepped
      obtain ⟨same, _, later⟩ := createAlias_same (toOption_some.mp done)
      exact withholds.unchanged same later
  | updateAlias aliasId modelId description enabled =>
      obtain ⟨⟨record, next⟩, done, rfl⟩ := Option.map_eq_some_iff.mp stepped
      obtain ⟨same, _, later⟩ := updateAlias_same (toOption_some.mp done)
      exact withholds.unchanged same later
  | deleteAlias aliasId =>
      obtain ⟨same, later⟩ := deleteAlias_models (toOption_some.mp stepped)
      exact withholds.unchanged same later

theorem registry_deployments {op : Op} (stepped : catalogue.step settings op = some after) :
    after.deployments = catalogue.deployments := by
  have kept : ∀ before next, Edit settings op before next →
      before.deployments = catalogue.deployments → next.deployments = catalogue.deployments := by
    intro before next edit same
    cases edit <;> exact same
  exact step_keeps kept stepped rfl

theorem Catalogue.Inserts.longer {row : DeploymentRow} (inserts : catalogue.Inserts after row) :
    catalogue.deployments.length < after.deployments.length := by
  unfold Catalogue.Inserts at inserts
  simp [inserts]

/-- A deployment of a model of the catalogue whose status is AVAILABLE unless the
model is attached. -/
def Catalogue.Deploys (catalogue after : Catalogue) (model : Model) (attached : Prop) : Prop :=
  ∃ row, row.modelId = model.id ∧ after = catalogue.addDeployment row ∧
    (attached ∨ model.status = .available)

theorem attachExternal_deploys {model : Model} {runtime : String} {probe : Bool × String}
    {actor : Nat} {now : Int} (external : externalRuntimes.contains runtime = true)
    (done : (attachExternal settings catalogue model runtime probe actor now).2 = .ok after) :
    catalogue.Deploys after model (Attaches model runtime probe) := by
  unfold attachExternal at done
  simp only at done
  split at done
  · cases done
  · rename_i served
    simp only at done
    split at done
    · cases done
    · rename_i healthy
      cases done
      exact ⟨_, rfl, rfl, .inl ⟨external, served, by simpa using healthy⟩⟩

theorem validateModel_ok {model : Model} {runtime image : String}
    (valid : validateModel settings model runtime = .ok image) : model.status = .available := by
  unfold validateModel at valid
  obtain ⟨_, _, valid⟩ := bind_ok.mp valid
  obtain ⟨_, available, _⟩ := bind_ok.mp valid
  simpa using raiseIf_ok.mp available

theorem deployManaged_deploys {model : Model} {runtime : String} {spec : DeploymentRequestSpec}
    {placed : Except Refusal Placement} {actor : Nat} {now : Int} {attached : Prop}
    (done : deployManaged settings catalogue model runtime spec placed actor now = .ok after) :
    catalogue.Deploys after model attached := by
  unfold deployManaged at done
  obtain ⟨image, valid, done⟩ := bind_ok.mp done
  obtain ⟨reserved, _, done⟩ := bind_ok.mp done
  cases done
  exact ⟨_, rfl, rfl, .inr (validateModel_ok valid)⟩

theorem requestDeployment_deploys {spec : DeploymentRequestSpec}
    {placed : Except Refusal Placement} {probe : Bool × String} {actor : Nat} {now : Int}
    (done : (requestDeployment settings catalogue spec placed probe actor now).2 = .ok after) :
    ∃ model, catalogue.modelById spec.modelId = some model ∧
      catalogue.Deploys after model (Attaches model (runtimeFor settings spec model) probe) := by
  unfold requestDeployment at done
  split at done
  · cases done
  · rename_i model found
    refine ⟨model, found, ?_⟩
    simp only at done
    split at done
    · rename_i external
      exact attachExternal_deploys external done
    · exact deployManaged_deploys done

theorem Catalogue.Deploys.status {model : Model} {attached : Prop} {row : DeploymentRow}
    (deploys : catalogue.Deploys after model attached)
    (found : catalogue.modelById model.id = some model)
    (checked : attached → model.status = .available) (inserts : catalogue.Inserts after row) :
    after.statusBehind row = some .available := by
  obtain ⟨created, same, rfl, allowed⟩ := deploys
  have last : row.modelId = model.id := by
    have rows := List.append_cancel_left inserts
    rw [← List.singleton_inj.mp rows]
    exact same
  have known : (catalogue.addDeployment created).modelById row.modelId = some model := by
    rw [last]
    exact found
  rw [Catalogue.statusBehind, known, Option.map_some]
  exact congrArg some (allowed.elim checked id)

theorem importModel_ok {options : ImportOptions} {modelId : Nat}
    (done : importModel settings catalogue options = .ok (modelId, after)) :
    (∃ model, modelId = model.id ∧
        registerModel settings catalogue (options.spec settings) = .ok (model, after)) ∨
      ∃ existing, modelId = existing.id ∧
        catalogue.modelByName (platformName settings options.model) = some existing ∧
        after = catalogue.amendModel existing.id (options.change settings) := by
  unfold importModel at done
  obtain ⟨_, _, done⟩ := bind_ok.mp done
  obtain ⟨_, _, done⟩ := bind_ok.mp done
  split at done
  · obtain ⟨⟨model, next⟩, registered, done⟩ := bind_ok.mp done
    cases done
    exact .inl ⟨model, rfl, registered⟩
  · rename_i existing found
    cases done
    exact .inr ⟨existing, rfl, found, rfl⟩

theorem importAlias_same {options : ImportOptions} {modelId : Nat} {now : Int}
    (done : importAlias settings catalogue options modelId now = .ok after) :
    after.models = catalogue.models ∧ after.deployments = catalogue.deployments ∧
      catalogue.nextId ≤ after.nextId := by
  unfold importAlias at done
  simp only at done
  split at done
  · obtain ⟨⟨record, next⟩, created, done⟩ := bind_ok.mp done
    cases done
    exact createAlias_same created
  · split at done
    · cases done
      exact ⟨rfl, rfl, Nat.le_refl _⟩
    · obtain ⟨⟨record, next⟩, updated, done⟩ := bind_ok.mp done
      cases done
      exact updateAlias_same updated

theorem importModel_withholds {options : ImportOptions} {modelId : Nat}
    (withholds : catalogue.Withholds withdrawn)
    (done : importModel settings catalogue options = .ok (modelId, after)) :
    after.deployments = catalogue.deployments ∧ after.Withholds withdrawn := by
  rcases importModel_ok done with ⟨model, rfl, registered⟩ | ⟨existing, rfl, found, rfl⟩
  · obtain ⟨_, _, rfl, rfl⟩ := registerModel_ok registered
    exact ⟨rfl, withholds.registered _⟩
  · exact ⟨rfl, withholds.adjusted (fun model => rfl) (fun model => rfl)⟩

theorem importModel_status {options : ImportOptions} {modelId : Nat} {probe : Bool × String}
    (withholds : catalogue.Withholds withdrawn)
    (checked : ∀ model, catalogue.modelByName (platformName settings options.model) = some model →
      catalogue.servingForModel model.id = [] →
      Attaches (options.change settings model) "external" probe → model.status = .available)
    (done : importModel settings catalogue options = .ok (modelId, after))
    (idle : after.servingForModel modelId = []) {model : Model}
    (found : after.modelById modelId = some model) (attaches : Attaches model "external" probe) :
    model.status = .available := by
  obtain ⟨member, same⟩ := Rows.get_some found
  rcases importModel_ok done with ⟨added, rfl, registered⟩ | ⟨existing, rfl, known, rfl⟩
  · obtain ⟨_, _, rfl, rfl⟩ := registerModel_ok registered
    rcases List.mem_append.mp member with old | new
    · exact absurd same (withholds.below model old).ne
    · rw [List.mem_singleton.mp new]
      rfl
  · rcases Rows.mem_amend.mp member with ⟨old, listed, keyed, rfl⟩ | ⟨_, other⟩
    · rw [Rows.key_unique withholds.modelIds (Rows.get_some known).1 listed keyed] at attaches ⊢
      exact checked existing known idle attaches
    · exact absurd same other

theorem externalImport_ok {options : ImportOptions} {probe : Bool × String} {actor : Nat}
    {now : Int} (done : (externalImport settings catalogue options probe actor now).2 = .ok after) :
    ∃ modelId imported deployed, importModel settings catalogue options = .ok (modelId, imported) ∧
      (importDeployment settings imported modelId probe actor now).2 = .ok deployed ∧
      importAlias settings deployed options modelId now = .ok after := by
  unfold externalImport at done
  split at done
  · cases done
  · rename_i modelId imported registered
    obtain ⟨deployed, first, last⟩ := bind_ok.mp done
    exact ⟨modelId, imported, deployed, registered, first, last⟩

theorem Catalogue.Withholds.deployed {model : Model} {attached : Prop}
    (withholds : catalogue.Withholds withdrawn)
    (deploys : catalogue.Deploys after model attached) : after.Withholds withdrawn := by
  obtain ⟨row, _, rfl, _⟩ := deploys
  exact withholds.unchanged rfl (Nat.le_succ _)

theorem Catalogue.Withholds.deployments (withholds : catalogue.Withholds withdrawn)
    (rows : List DeploymentRow) :
    ({ catalogue with deployments := rows } : Catalogue).Withholds withdrawn :=
  withholds.unchanged rfl (Nat.le_refl _)

theorem importDeployment_deploys {modelId : Nat} {probe : Bool × String} {actor : Nat} {now : Int}
    (done : (importDeployment settings catalogue modelId probe actor now).2 = .ok after) :
    after = catalogue ∨ catalogue.servingForModel modelId = [] ∧
      ∃ model, catalogue.modelById modelId = some model ∧
        catalogue.Deploys after model (Attaches model "external" probe) := by
  unfold importDeployment at done
  split at done
  · rename_i idle
    exact .inr ⟨idle, requestDeployment_deploys done⟩
  · cases done
    exact .inl rfl

theorem externalImport_withholds {options : ImportOptions} {probe : Bool × String} {actor : Nat}
    {now : Int} (withholds : catalogue.Withholds withdrawn)
    (done : (externalImport settings catalogue options probe actor now).2 = .ok after) :
    after.Withholds withdrawn := by
  obtain ⟨modelId, imported, deployed, first, second, third⟩ := externalImport_ok done
  obtain ⟨_, kept⟩ := importModel_withholds withholds first
  obtain ⟨same, _, later⟩ := importAlias_same third
  apply Catalogue.Withholds.unchanged _ same later
  rcases importDeployment_deploys second with rfl | ⟨_, model, _, deploys⟩
  · exact kept
  · exact kept.deployed deploys

theorem settle_keeps (holds : Catalogue → Prop) {platform : Platform}
    {result : List Sent × Except Refusal Catalogue} (before : holds platform.catalogue)
    (kept : ∀ after, result.2 = .ok after → holds after) :
    holds (platform.settle result).catalogue := by
  unfold Platform.settle
  cases done : result.2 with
  | error refusal => exact before
  | ok after => exact kept after done

theorem step_withholds {platform : Platform} {action : Action}
    (withholds : platform.catalogue.Withholds withdrawn)
    (meets : Supervised.Meets settings ⟨platform, withdrawn⟩ action) :
    (platform.step settings action).catalogue.Withholds withdrawn := by
  cases action with
  | registry op =>
      simp only [Platform.step]
      cases stepped : platform.catalogue.step settings op with
      | none => exact withholds
      | some after => exact registry_withholds platform withholds meets stepped
  | externalImport options probe actor now =>
      exact settle_keeps (Catalogue.Withholds · withdrawn) withholds
        fun after => externalImport_withholds withholds
  | deploy spec placed probe actor now =>
      apply settle_keeps (Catalogue.Withholds · withdrawn) withholds
      intro after done
      obtain ⟨model, _, deploys⟩ := requestDeployment_deploys done
      exact withholds.deployed deploys
  | advance deploymentId finding => exact withholds.deployments _
  | stop deploymentId => exact withholds.deployments _
  | restart deploymentId refused => exact withholds.deployments _
  | delete deploymentId => exact withholds.deployments _
  | call requested =>
      simp only [Platform.step, Platform.call]
      split <;> exact withholds

theorem Catalogue.modelById_found {id : Nat} {model : Model}
    (found : catalogue.modelById id = some model) : catalogue.modelById model.id = some model := by
  rw [(Rows.get_some found).2]
  exact found

theorem not_inserts {row : DeploymentRow}
    (rows : after.deployments.length ≤ catalogue.deployments.length) :
    ¬ catalogue.Inserts after row :=
  fun inserts => absurd inserts.longer (Nat.not_lt.mpr rows)

theorem amendDeployment_length (id : Nat) (change : DeploymentRow → DeploymentRow) :
    (catalogue.amendDeployment id change).deployments.length ≤ catalogue.deployments.length := by
  simp [Catalogue.amendDeployment, Rows.amend]

theorem externalImport_status {options : ImportOptions} {probe : Bool × String} {actor : Nat}
    {now : Int} {row : DeploymentRow} (withholds : catalogue.Withholds withdrawn)
    (checked : ∀ model, catalogue.modelByName (platformName settings options.model) = some model →
      catalogue.servingForModel model.id = [] →
      Attaches (options.change settings model) "external" probe → model.status = .available)
    (done : (externalImport settings catalogue options probe actor now).2 = .ok after)
    (inserts : catalogue.Inserts after row) : after.statusBehind row = some .available := by
  obtain ⟨modelId, imported, deployed, first, second, third⟩ := externalImport_ok done
  obtain ⟨rows, _⟩ := importModel_withholds withholds first
  obtain ⟨same, kept, _⟩ := importAlias_same third
  have inserted : imported.Inserts deployed row := by
    rw [Catalogue.Inserts, ← kept, rows]
    exact inserts
  have behind : after.statusBehind row = deployed.statusBehind row := by
    rw [Catalogue.statusBehind, Catalogue.modelById, same]
    rfl
  rw [behind]
  rcases importDeployment_deploys second with rfl | ⟨idle, model, found, deploys⟩
  · exact absurd inserted (not_inserts (Nat.le_refl _))
  · exact deploys.status (Catalogue.modelById_found found)
      (importModel_status withholds checked first idle found) inserted

theorem step_status {platform : Platform} {action : Action} {row : DeploymentRow}
    (withholds : platform.catalogue.Withholds withdrawn)
    (meets : Supervised.Meets settings ⟨platform, withdrawn⟩ action)
    (inserts : platform.catalogue.Inserts (platform.step settings action).catalogue row) :
    (platform.step settings action).catalogue.statusBehind row = some .available := by
  cases action with
  | registry op =>
      apply absurd inserts
      simp only [Platform.step]
      cases stepped : platform.catalogue.step settings op with
      | none => exact not_inserts (Nat.le_refl _)
      | some after =>
          rw [Option.getD_some]
          exact not_inserts (Nat.le_of_eq (by rw [registry_deployments stepped]))
  | externalImport options probe actor now =>
      revert inserts
      simp only [Platform.step]
      apply settle_keeps fun next =>
        platform.catalogue.Inserts next row → next.statusBehind row = some .available
      · exact fun inserts => absurd inserts (not_inserts (Nat.le_refl _))
      · exact fun after done => externalImport_status withholds meets done
  | deploy spec placed probe actor now =>
      revert inserts
      simp only [Platform.step]
      apply settle_keeps fun next =>
        platform.catalogue.Inserts next row → next.statusBehind row = some .available
      · exact fun inserts => absurd inserts (not_inserts (Nat.le_refl _))
      · intro after done inserts
        obtain ⟨model, found, deploys⟩ := requestDeployment_deploys done
        exact deploys.status (Catalogue.modelById_found found) (meets model found) inserts
  | advance deploymentId finding => exact absurd inserts (not_inserts (amendDeployment_length _ _))
  | stop deploymentId => exact absurd inserts (not_inserts (amendDeployment_length _ _))
  | restart deploymentId refused =>
      exact absurd inserts (not_inserts (amendDeployment_length _ _))
  | delete deploymentId => exact absurd inserts (not_inserts (List.length_filter_le _ _))
  | call requested =>
      apply absurd inserts
      simp only [Platform.step, Platform.call]
      split <;> exact not_inserts (Nat.le_refl _)

/-- The states that steps reach from `start` when each meets the condition. -/
abbrev Supervised.Runs (settings : Settings) (start : Platform) (supervised : Supervised) : Prop :=
  History (fun supervised action => some (Supervised.step settings supervised action))
    (fun supervised action => supervised.Meets settings action) (.of start) supervised

theorem deployed_models_are_available {start : Platform} (sound : start.catalogue.Sound)
    {supervised : Supervised} (run : supervised.Runs settings start) :
    (∀ model ∈ supervised.platform.catalogue.models, model.id ∈ supervised.withdrawn →
        model.status ≠ .available) ∧
      ∀ action, supervised.Meets settings action → ∀ row,
        supervised.platform.catalogue.Inserts
            (supervised.step settings action).platform.catalogue row →
          (supervised.step settings action).platform.catalogue.statusBehind row =
            some .available := by
  have withholds : supervised.platform.catalogue.Withholds supervised.withdrawn := by
    apply History.keeps (fun state => state.platform.catalogue.Withholds state.withdrawn) _ _ run
    · have unwatched : start.catalogue.Withholds [] :=
        ⟨sound.modelIds, sound.below, fun id member => (by cases member),
          fun model _ member => by cases member⟩
      exact unwatched.extended
    · rintro state action after meets stepped withholds
      cases stepped
      exact (step_withholds withholds meets).extended
  exact ⟨withholds.held, fun action meets row => step_status withholds meets⟩

def withdrawnModel (runtime : String) (endpointUrl : Option String) : Platform :=
  ⟨⟨[{ (weights "llama").model 0 with
      runtime := runtime, endpointUrl := endpointUrl, status := .disabled }], [], [], 1⟩, []⟩

def registeredModel : Platform := ⟨⟨[(weights "llama").model 0], [], [], 1⟩, []⟩

def deployNow : Action :=
  .deploy ⟨0, none, none, none, none, none, none⟩ (.error (.raised "")) (true, "healthy") 1 0

def scanNow : Action := .registry (.importFromDisk 0 fun _ => ⟨false, 1, 1, 1, true⟩)

/-- The weights arrive, and the model is imported. -/
theorem deployed_models_are_available_imported :
    registeredModel.catalogue.Sound ∧
      ∀ model ∈ ((Supervised.of registeredModel).step site scanNow).platform.catalogue.models,
        model.id ∈ ((Supervised.of registeredModel).step site scanNow).withdrawn →
          model.status ≠ .available := by
  have sound : registeredModel.catalogue.Sound := by
    constructor <;> simp [registeredModel, ModelSpec.model]
  refine ⟨sound, (deployed_models_are_available sound (.next scanNow .start ?_ rfl)).1⟩
  have none : (Supervised.of registeredModel).withdrawn = [] := rfl
  intro model member same found
  rw [none]
  exact List.not_mem_nil

/-- A withdrawn model is attached to an external runtime, and an import makes a
withdrawn model AVAILABLE. -/
theorem withdrawn_models_are_deployed :
    (∃ row, (withdrawnModel "ollama" (some "http://ollama:11434")).catalogue.Inserts
        ((withdrawnModel "ollama" (some "http://ollama:11434")).step site deployNow).catalogue row ∧
      ((withdrawnModel "ollama" (some "http://ollama:11434")).step site
        deployNow).catalogue.statusBehind row = some .disabled) ∧
    ∃ model ∈ ((withdrawnModel "mock" none).step site scanNow).catalogue.models,
      model.id ∈ (withdrawnModel "mock" none).catalogue.disabledModels ∧
        model.status = .available := by
  constructor
  · exact ⟨_, rfl, rfl⟩
  · exact ⟨_, .head _, by decide, rfl⟩

end AiPlatform.Serving
