import AiPlatform.ModelRegistry
import Mathlib.Logic.Relation

/-!
The operations of the model registry as edits of its rows. An operation that
succeeds is a chain of edits, each of which says where what it writes comes
from; what every edit keeps is then kept by every operation.
-/

namespace AiPlatform.Serving

open Agents (Json Dict strip truthy)
open Deployments (ModelStatus ModelDeployment DeploymentState externalRuntimes)

inductive Op
  | register (spec : ModelSpec)
  | loadManifests (manifests : List Manifest) (scan : String → DirectoryScan) (now : Int)
  | importOllama (endpoint : Option String) (reply : Except String (List Dict))
  | importFromDisk (modelId : Nat) (scan : String → DirectoryScan)
  | createAlias (aliasName : String) (modelId : Nat) (description : Option String)
      (enabled : Bool) (now : Int)
  | updateAlias (aliasId : Nat) (modelId : Option Nat) (description : Option String)
      (enabled : Option Bool)
  | deleteAlias (aliasId : Nat)

def Catalogue.step (settings : Settings) (catalogue : Catalogue) : Op → Option Catalogue
  | .register spec => (registerModel settings catalogue spec).toOption.map (·.2)
  | .loadManifests manifests scan now =>
      (loadManifests settings scan now manifests catalogue).toOption.map (·.2)
  | .importOllama endpoint reply =>
      (importOllama settings catalogue endpoint reply).toOption.map (·.2)
  | .importFromDisk modelId scan => (importFromDisk catalogue modelId scan).toOption.map (·.2)
  | .createAlias aliasName modelId description enabled now =>
      (createAlias catalogue aliasName modelId description enabled now).toOption.map (·.2)
  | .updateAlias aliasId modelId description enabled =>
      (updateAlias catalogue aliasId modelId description enabled).toOption.map (·.2)
  | .deleteAlias aliasId => (deleteAlias catalogue aliasId).toOption

/-- The tag has a name and is one that an import from `base` was offered. -/
def Op.Offers (settings : Settings) (base : String) (tag : Dict) : Op → Prop
  | .importOllama endpoint reply =>
      ollamaBase settings endpoint = base ∧ base ≠ "" ∧ rawName settings tag ≠ "" ∧
        ∃ tags, reply = .ok tags ∧ tag ∈ tags
  | _ => False

def Op.Declares (manifest : ManifestSpec) (name : String) : Op → Prop
  | .loadManifests manifests _ _ =>
      manifest.name.filter truthy = some name ∧
        ∃ file ∈ manifests, file.content = .mapping manifest
  | _ => False

inductive Op.Registers (settings : Settings) (op : Op) : ModelSpec → Prop
  | direct (spec : ModelSpec) (asked : op = .register spec) : Registers settings op spec
  | declared (manifest : ManifestSpec) (name : String) (declares : op.Declares manifest name) :
      Registers settings op (manifest.registration settings name)
  | offered (base : String) (tag details : Dict) (offers : op.Offers settings base tag) :
      Registers settings op (tagSpec settings base tag details)

theorem Op.Offers.registers {settings : Settings} {op : Op} {base : String} {tag : Dict}
    {spec : ModelSpec} (offers : op.Offers settings base tag)
    (registers : op.Registers settings spec) :
    ∃ other details, op.Offers settings base other ∧
      spec = tagSpec settings base other details := by
  cases op with
  | importOllama endpoint reply =>
      cases registers with
      | direct spec asked => cases asked
      | declared manifest name declares => exact declares.elim
      | offered source other details offered =>
          obtain ⟨rfl, _⟩ := offers
          obtain ⟨rfl, _⟩ := id offered
          exact ⟨other, details, offered, rfl⟩
  | _ => exact offers.elim

def Op.Lists (op : Op) (aliasName : String) : Prop :=
  ∃ manifest name, op.Declares manifest name ∧ aliasName ∈ manifest.aliases

structure ModelSpec.Admitted (settings : Settings) (spec : ModelSpec) : Prop where
  endpoint : given spec.endpointUrl = spec.external
  host : spec.external = true →
    refusePublicEndpoint settings (spec.endpointUrl.getD "") = .ok ()

structure Model.Alike (old new : Model) : Prop where
  id : new.id = old.id
  name : new.name = old.name
  runtime : new.runtime = old.runtime
  endpointUrl : new.endpointUrl = old.endpointUrl
  storagePath : new.storagePath = old.storagePath
  metadata : new.metadata = old.metadata

theorem Model.Alike.refl (model : Model) : model.Alike model := ⟨rfl, rfl, rfl, rfl, rfl, rfl⟩

def Model.repoint (base : String) (model : Model) : Model := { model with endpointUrl := some base }

def Catalogue.addModel (catalogue : Catalogue) (spec : ModelSpec) : Catalogue :=
  { catalogue with
    models := catalogue.models ++ [spec.model catalogue.nextId]
    nextId := catalogue.nextId + 1 }

inductive Edit (settings : Settings) (op : Op) (catalogue : Catalogue) : Catalogue → Prop
  | registered (spec : ModelSpec) (registers : op.Registers settings spec)
      (fresh : catalogue.modelByName spec.name = none) (admitted : spec.Admitted settings) :
      Edit settings op catalogue (catalogue.addModel spec)
  | repointed (base : String) (tag : Dict) (offers : op.Offers settings base tag)
      (existing : Model)
      (found : catalogue.modelByName (platformName settings (rawName settings tag)) =
        some existing) :
      Edit settings op catalogue (catalogue.amendModel existing.id (·.repoint base))
  | amended (modelId : Nat) (change : Model → Model)
      (alike : ∀ model : Model, model.Alike (change model)) :
      Edit settings op catalogue (catalogue.amendModel modelId change)
  | aliased (entry : ModelAlias) (fresh : ∀ other ∈ catalogue.aliases,
        other.aliasName ≠ entry.aliasName)
      (target : ∃ model ∈ catalogue.models, model.id = entry.modelId)
      (source : op.Lists entry.aliasName ∨
        catalogue.modelByName entry.aliasName = none ∧ ∀ spec, ¬ op.Registers settings spec) :
      Edit settings op catalogue
        { catalogue with aliases := catalogue.aliases ++ [entry], nextId := catalogue.nextId + 1 }
  | realiased (aliasId : Nat) (change : ModelAlias → ModelAlias)
      (keeps : ∀ entry, (change entry).aliasName = entry.aliasName)
      (target : ∀ entry, (change entry).modelId = entry.modelId ∨
        ∃ model ∈ catalogue.models, model.id = (change entry).modelId) :
      Edit settings op catalogue
        { catalogue with aliases := Rows.amend ModelAlias.id aliasId change catalogue.aliases }
  | unaliased (aliasId : Nat) :
      Edit settings op catalogue
        { catalogue with aliases := catalogue.aliases.filter fun entry => entry.id ≠ aliasId }

abbrev Edits (settings : Settings) (op : Op) : Catalogue → Catalogue → Prop :=
  Relation.ReflTransGen (Edit settings op)

variable {settings : Settings} {op : Op} {catalogue after : Catalogue}

theorem Edits.keep {holds : Catalogue → Prop} (edits : Edits settings op catalogue after)
    (kept : ∀ before next, Edit settings op before next → holds before → holds next)
    (first : holds catalogue) : holds after := by
  induction edits with
  | refl => exact first
  | tail _ edit ih => exact kept _ _ edit ih

theorem registerModel_ok {spec : ModelSpec} {model : Model}
    (done : registerModel settings catalogue spec = .ok (model, after)) :
    catalogue.modelByName spec.name = none ∧ spec.Admitted settings ∧
      model = spec.model catalogue.nextId ∧ after = catalogue.addModel spec := by
  unfold registerModel at done
  obtain ⟨_, free, done⟩ := bind_ok.mp done
  obtain ⟨_, _, done⟩ := bind_ok.mp done
  obtain ⟨_, needed, done⟩ := bind_ok.mp done
  obtain ⟨_, meaningful, done⟩ := bind_ok.mp done
  obtain ⟨_, checked, done⟩ := bind_ok.mp done
  obtain ⟨_, _, done⟩ := bind_ok.mp done
  cases done
  rw [raiseIf_ok] at free needed meaningful
  constructor
  · simpa using free
  · refine ⟨⟨?_, fun external => ?_⟩, rfl, rfl⟩
    · cases external : spec.external with
      | true => simpa [external] using needed
      | false => simpa [external] using meaningful
    · rw [checkEndpoint, if_pos external] at checked
      exact checked

theorem registerModel_edits {spec : ModelSpec} {model : Model}
    (registers : op.Registers settings spec)
    (done : registerModel settings catalogue spec = .ok (model, after)) :
    Edits settings op catalogue after := by
  obtain ⟨fresh, admitted, _, rfl⟩ := registerModel_ok done
  exact .single (.registered spec registers fresh admitted)

theorem importFromDisk_ok {modelId : Nat} {scan : String → DirectoryScan}
    {result : ImportResult}
    (done : importFromDisk catalogue modelId scan = .ok (result, after)) :
    ∃ id change, (∀ model : Model, model.Alike (change model)) ∧
      after = catalogue.amendModel id change := by
  unfold importFromDisk at done
  split at done
  · cases done
  · rename_i model found
    generalize scannedStatus model (scan model.storagePath) = scanned at done
    obtain ⟨status, detail⟩ := scanned
    cases done
    refine ⟨model.id, fun model => { model with status := status, statusDetail := detail }, ?_, rfl⟩
    exact fun model => ⟨rfl, rfl, rfl, rfl, rfl, rfl⟩

theorem importFromDisk_edits {modelId : Nat} {scan : String → DirectoryScan}
    {result : ImportResult}
    (done : importFromDisk catalogue modelId scan = .ok (result, after)) :
    Edits settings op catalogue after := by
  obtain ⟨id, change, alike, rfl⟩ := importFromDisk_ok done
  exact .single (.amended id change alike)

theorem importTag_edits {base : String} {tag : Dict} {entries : List ImportEntry}
    (offers : rawName settings tag ≠ "" → op.Offers settings base tag)
    (done : importTag settings base catalogue tag = .ok (entries, after)) :
    Edits settings op catalogue after := by
  unfold importTag at done
  simp only at done
  split at done
  · cases done
    exact .refl
  · rename_i named
    obtain ⟨details, _, done⟩ := bind_ok.mp done
    split at done
    · rename_i existing found
      cases done
      exact .single (.repointed base tag (offers named) existing found)
    · obtain ⟨⟨model, next⟩, registered, done⟩ := bind_ok.mp done
      cases done
      exact registerModel_edits (.offered base tag details (offers named)) registered

theorem importTags_edits {base : String} {tags : List Dict} {entries : List ImportEntry}
    (offers : ∀ tag ∈ tags, rawName settings tag ≠ "" → op.Offers settings base tag)
    (done : importTags settings base tags catalogue = .ok (entries, after)) :
    Edits settings op catalogue after := by
  induction tags generalizing catalogue entries with
  | nil =>
      cases done
      exact .refl
  | cons tag rest ih =>
      unfold importTags at done
      obtain ⟨⟨head, middle⟩, first, done⟩ := bind_ok.mp done
      obtain ⟨⟨others, last⟩, later, done⟩ := bind_ok.mp done
      cases done
      exact .trans (importTag_edits (offers tag (List.mem_cons_self ..)) first)
        (ih (fun other member => offers other (List.mem_cons_of_mem _ member)) later)

theorem tagsAt_ok {base : String} {reply : Except String (List Dict)} {tags : List Dict}
    (asked : tagsAt base reply = .ok tags) : base ≠ "" ∧ reply = .ok tags := by
  unfold tagsAt at asked
  split at asked
  · rename_i answered
    cases asked
    split at answered
    · cases answered
    · rename_i known
      exact ⟨known, answered⟩
  · cases asked

theorem importOllama_ok {endpoint : Option String} {reply : Except String (List Dict)}
    {entries : List ImportEntry}
    (done : importOllama settings catalogue endpoint reply = .ok (entries, after)) :
    ollamaBase settings endpoint ≠ "" ∧ ∃ tags, reply = .ok tags ∧
      importTags settings (ollamaBase settings endpoint) tags catalogue = .ok (entries, after) := by
  unfold importOllama at done
  obtain ⟨tags, asked, done⟩ := bind_ok.mp done
  obtain ⟨known, answered⟩ := tagsAt_ok asked
  exact ⟨known, tags, answered, done⟩

theorem convergeModel_edits {manifest : ManifestSpec} {name : String} {modelId : Nat}
    (declares : op.Declares manifest name)
    (done : convergeModel settings catalogue manifest name = .ok (modelId, after)) :
    Edits settings op catalogue after ∧ ∃ model ∈ after.models, model.id = modelId := by
  unfold convergeModel at done
  split at done
  · obtain ⟨⟨model, next⟩, registered, done⟩ := bind_ok.mp done
    cases done
    refine ⟨registerModel_edits (.declared manifest name declares) registered, model, ?_, rfl⟩
    obtain ⟨_, _, rfl, rfl⟩ := registerModel_ok registered
    exact List.mem_append_right _ (List.mem_singleton_self _)
  · rename_i existing found
    cases done
    constructor
    · exact .single (.amended _ _ fun model => ⟨rfl, rfl, rfl, rfl, rfl, rfl⟩)
    · obtain ⟨member, _⟩ := Rows.get_some found
      exact ⟨_, Rows.mem_amend.mpr (.inl ⟨existing, member, rfl, rfl⟩), rfl⟩

theorem addAlias_ok {aliasName : String} {modelId : Nat} {description : Option String}
    {enabled : Bool} {now : Int} {record : ModelAlias}
    (done : catalogue.addAlias aliasName modelId description enabled now = .ok (record, after)) :
    (∀ other ∈ catalogue.aliases, other.aliasName ≠ aliasName) ∧
      record = ⟨catalogue.nextId, aliasName, modelId, description, enabled, now⟩ ∧
      after = { catalogue with
        aliases := catalogue.aliases ++ [record], nextId := catalogue.nextId + 1 } := by
  unfold Catalogue.addAlias at done
  obtain ⟨_, free, done⟩ := bind_ok.mp done
  cases done
  rw [raiseIf_ok] at free
  constructor
  · intro other member same
    exact free (List.any_eq_true.mpr ⟨other, member, by simp [same]⟩)
  · exact ⟨rfl, rfl⟩

theorem addAliases_edits {filename : String} {modelId : Nat} {now : Int} {names : List String}
    (lists : ∀ name ∈ names, op.Lists name)
    (target : ∃ model ∈ catalogue.models, model.id = modelId)
    (done : addAliases filename modelId now names catalogue = .ok after) :
    Edits settings op catalogue after := by
  induction names generalizing catalogue with
  | nil =>
      cases done
      exact .refl
  | cons name rest ih =>
      have others := fun other member => lists other (List.mem_cons_of_mem name member)
      unfold addAliases at done
      split at done
      · exact ih others target done
      · obtain ⟨⟨record, middle⟩, added, done⟩ := bind_ok.mp done
        obtain ⟨fresh, same, rfl⟩ := addAlias_ok added
        have later := fun still => ih others still done
        apply Relation.ReflTransGen.head _ (later target)
        apply Edit.aliased record
        · rw [same]
          exact fresh
        · rw [same]
          exact target
        · rw [same]
          exact .inl (lists name (List.mem_cons_self ..))

theorem Model.Alike.listed {modelId : Nat} {change : Model → Model}
    (alike : ∀ model : Model, model.Alike (change model)) {id : Nat}
    (target : ∃ model ∈ catalogue.models, model.id = id) :
    ∃ model ∈ (catalogue.amendModel modelId change).models, model.id = id := by
  obtain ⟨model, member, rfl⟩ := target
  exact Rows.amend_persists (fun old new : Model => new.id = old.id) rfl (fun _ => (alike model).id) member

theorem importFromDisk_listed {modelId id : Nat} {scan : String → DirectoryScan}
    {result : ImportResult}
    (done : importFromDisk catalogue modelId scan = .ok (result, after))
    (target : ∃ model ∈ catalogue.models, model.id = id) :
    ∃ model ∈ after.models, model.id = id := by
  obtain ⟨_, change, alike, rfl⟩ := importFromDisk_ok done
  exact Model.Alike.listed alike target

theorem loadManifest_edits {scan : String → DirectoryScan} {now : Int} {manifest : Manifest}
    {result : ImportResult}
    (declares : ∀ spec name, manifest.content = .mapping spec → spec.name.filter truthy = some name →
      op.Declares spec name)
    (done : loadManifest settings scan now catalogue manifest = .ok (result, after)) :
    Edits settings op catalogue after := by
  unfold loadManifest at done
  split at done
  · cases done
    exact .refl
  · cases done
  · rename_i spec readable
    split at done
    · cases done
      exact .refl
    · rename_i name named
      have declared := declares spec name readable named
      obtain ⟨⟨modelId, converged⟩, first, done⟩ := bind_ok.mp done
      obtain ⟨⟨report, scanned⟩, second, done⟩ := bind_ok.mp done
      obtain ⟨last, third, done⟩ := bind_ok.mp done
      cases done
      obtain ⟨edits, target⟩ := convergeModel_edits declared first
      have listed := importFromDisk_listed second target
      exact edits.trans ((importFromDisk_edits second).trans
        (addAliases_edits (fun other member => ⟨spec, name, declared, member⟩) listed third))

theorem loadManifests_edits {scan : String → DirectoryScan} {now : Int}
    {manifests : List Manifest} {results : List ImportResult}
    (declares : ∀ manifest ∈ manifests, ∀ spec name, manifest.content = .mapping spec →
      spec.name.filter truthy = some name → op.Declares spec name)
    (done : loadManifests settings scan now manifests catalogue = .ok (results, after)) :
    Edits settings op catalogue after := by
  induction manifests generalizing catalogue results with
  | nil =>
      cases done
      exact .refl
  | cons manifest rest ih =>
      unfold loadManifests at done
      obtain ⟨⟨result, middle⟩, first, done⟩ := bind_ok.mp done
      obtain ⟨⟨others, last⟩, later, done⟩ := bind_ok.mp done
      cases done
      exact .trans (loadManifest_edits (declares manifest (List.mem_cons_self ..)) first)
        (ih (fun other member => declares other (List.mem_cons_of_mem _ member)) later)

theorem createAlias_edits {aliasName : String} {modelId : Nat} {description : Option String}
    {enabled : Bool} {now : Int} {record : ModelAlias}
    (silent : ∀ spec, ¬ op.Registers settings spec)
    (done : createAlias catalogue aliasName modelId description enabled now =
      .ok (record, after)) :
    Edits settings op catalogue after := by
  unfold createAlias at done
  obtain ⟨_, _, done⟩ := bind_ok.mp done
  obtain ⟨_, known, done⟩ := bind_ok.mp done
  obtain ⟨_, free, done⟩ := bind_ok.mp done
  obtain ⟨fresh, rfl, rfl⟩ := addAlias_ok done
  rw [raiseIf_ok] at known free
  have unnamed : catalogue.modelByName aliasName = none := by simpa using free
  obtain ⟨model, found⟩ := Option.ne_none_iff_exists'.mp (mt Option.isNone_iff_eq_none.mpr known)
  exact .single (.aliased _ fresh ⟨model, Rows.get_some found⟩ (.inr ⟨unnamed, silent⟩))

theorem updateAlias_edits {aliasId : Nat} {modelId : Option Nat} {description : Option String}
    {enabled : Option Bool} {record : ModelAlias}
    (done : updateAlias catalogue aliasId modelId description enabled = .ok (record, after)) :
    Edits settings op catalogue after := by
  unfold updateAlias at done
  split at done
  · cases done
  · obtain ⟨_, known, done⟩ := bind_ok.mp done
    cases done
    rw [raiseIf_ok] at known
    refine .single (.realiased _ _ (fun entry => rfl) fun entry => ?_)
    cases modelId with
    | none => exact .inl rfl
    | some id =>
        have there : ¬ (catalogue.modelById id).isNone := by simpa using known
        obtain ⟨model, found⟩ :=
          Option.ne_none_iff_exists'.mp (mt Option.isNone_iff_eq_none.mpr there)
        exact .inr ⟨model, Rows.get_some found⟩

theorem deleteAlias_edits {aliasId : Nat}
    (done : deleteAlias catalogue aliasId = .ok after) : Edits settings op catalogue after := by
  unfold deleteAlias at done
  split at done
  · cases done
  · cases done
    exact .single (.unaliased _)

theorem silent_alias {aliasName : String} {modelId : Nat} {description : Option String}
    {enabled : Bool} {now : Int} (spec : ModelSpec) :
    ¬ (Op.createAlias aliasName modelId description enabled now).Registers settings spec := by
  intro registers
  cases registers with
  | direct spec asked => cases asked
  | declared manifest name declares => exact declares
  | offered base tag details offers => exact offers

theorem step_edits (stepped : catalogue.step settings op = some after) :
    Edits settings op catalogue after := by
  cases op with
  | register spec =>
      obtain ⟨⟨model, next⟩, done, rfl⟩ := Option.map_eq_some_iff.mp stepped
      exact registerModel_edits (.direct spec rfl) (toOption_some.mp done)
  | loadManifests manifests scan now =>
      obtain ⟨⟨results, next⟩, done, rfl⟩ := Option.map_eq_some_iff.mp stepped
      apply loadManifests_edits _ (toOption_some.mp done)
      intro manifest member spec name readable named
      exact ⟨named, manifest, member, readable⟩
  | importOllama endpoint reply =>
      obtain ⟨⟨entries, next⟩, done, rfl⟩ := Option.map_eq_some_iff.mp stepped
      obtain ⟨known, tags, answered, imported⟩ := importOllama_ok (toOption_some.mp done)
      apply importTags_edits _ imported
      intro tag member named
      exact ⟨rfl, known, named, tags, answered, member⟩
  | importFromDisk modelId scan =>
      obtain ⟨⟨result, next⟩, done, rfl⟩ := Option.map_eq_some_iff.mp stepped
      exact importFromDisk_edits (toOption_some.mp done)
  | createAlias aliasName modelId description enabled now =>
      obtain ⟨⟨record, next⟩, done, rfl⟩ := Option.map_eq_some_iff.mp stepped
      exact createAlias_edits silent_alias (toOption_some.mp done)
  | updateAlias aliasId modelId description enabled =>
      obtain ⟨⟨record, next⟩, done, rfl⟩ := Option.map_eq_some_iff.mp stepped
      exact updateAlias_edits (toOption_some.mp done)
  | deleteAlias aliasId => exact deleteAlias_edits (toOption_some.mp stepped)

theorem step_keeps {holds : Catalogue → Prop}
    (kept : ∀ before next, Edit settings op before next → holds before → holds next)
    (stepped : catalogue.step settings op = some after) (first : holds catalogue) :
    holds after :=
  (step_edits stepped).keep kept first

theorem names_amend {modelId : Nat} {change : Model → Model}
    (kept : ∀ model, (change model).name = model.name) :
    (catalogue.amendModel modelId change).models.map Model.name =
      catalogue.models.map Model.name := by
  rw [Catalogue.amendModel, Rows.amend, List.map_map]
  apply List.map_congr_left
  intro model _
  by_cases keyed : model.id = modelId
  · simp [keyed, kept]
  · simp [keyed]

theorem Catalogue.Sound.amended (sound : catalogue.Sound) {modelId : Nat}
    {change : Model → Model} (ids : ∀ model, (change model).id = model.id)
    (named : ∀ model, (change model).name = model.name) :
    (catalogue.amendModel modelId change).Sound := by
  have persists : ∀ id, (∃ model ∈ catalogue.models, model.id = id) →
      ∃ model ∈ (catalogue.amendModel modelId change).models, model.id = id := by
    rintro id ⟨model, member, rfl⟩
    exact Rows.amend_persists (fun old new : Model => new.id = old.id) rfl (fun _ => ids model) member
  constructor
  · rw [Catalogue.amendModel, Rows.keys_amend ids]
    exact sound.modelIds
  · rw [names_amend named]
    exact sound.names
  · exact sound.aliases
  · exact fun entry member => persists _ (sound.aliased entry member)
  · exact fun row member => persists _ (sound.deployed row member)
  · intro model member
    rcases Rows.mem_amend.mp member with ⟨old, listed, _, rfl⟩ | ⟨listed, _⟩
    · rw [ids]
      exact sound.below old listed
    · exact sound.below model listed

theorem edit_sound (edit : Edit settings op catalogue after) (sound : catalogue.Sound) :
    after.Sound := by
  cases edit with
  | registered spec registers fresh admitted =>
      have kept : ∀ {id : Nat}, (∃ model ∈ catalogue.models, model.id = id) →
          ∃ model ∈ (catalogue.addModel spec).models, model.id = id := by
        rintro id ⟨model, member, same⟩
        exact ⟨model, List.mem_append_left _ member, same⟩
      constructor
      · exact distinct_concat Model.id sound.modelIds fun other member =>
          (sound.below other member).ne
      · exact distinct_concat Model.name sound.names (Rows.get_none.mp fresh)
      · exact sound.aliases
      · exact fun entry member => kept (sound.aliased entry member)
      · exact fun row member => kept (sound.deployed row member)
      · intro model member
        rcases List.mem_append.mp member with old | new
        · exact Nat.lt_succ_of_lt (sound.below model old)
        · rw [List.mem_singleton.mp new]
          exact Nat.lt_succ_self _
  | repointed base tag offers existing found =>
      exact sound.amended (fun model => rfl) (fun model => rfl)
  | amended modelId change alike =>
      exact sound.amended (fun model => (alike model).id) (fun model => (alike model).name)
  | aliased entry fresh target source =>
      constructor
      · exact sound.modelIds
      · exact sound.names
      · exact distinct_concat ModelAlias.aliasName sound.aliases fresh
      · intro other member
        rcases List.mem_append.mp member with old | new
        · exact sound.aliased other old
        · rw [List.mem_singleton.mp new]
          exact target
      · exact sound.deployed
      · exact fun model member => Nat.lt_succ_of_lt (sound.below model member)
  | realiased aliasId change keeps target =>
      constructor
      · exact sound.modelIds
      · exact sound.names
      · have same : (Rows.amend ModelAlias.id aliasId change catalogue.aliases).map
            ModelAlias.aliasName = catalogue.aliases.map ModelAlias.aliasName := by
          rw [Rows.amend, List.map_map]
          apply List.map_congr_left
          intro entry _
          by_cases keyed : entry.id = aliasId
          · simp [keyed, keeps]
          · simp [keyed]
        rw [same]
        exact sound.aliases
      · intro entry member
        rcases Rows.mem_amend.mp member with ⟨old, listed, _, rfl⟩ | ⟨listed, _⟩
        · rcases target old with same | there
          · rw [same]
            exact sound.aliased old listed
          · exact there
        · exact sound.aliased entry listed
      · exact sound.deployed
      · exact sound.below
  | unaliased aliasId =>
      constructor
      · exact sound.modelIds
      · exact sound.names
      · exact sound.aliases.sublist (List.filter_sublist.map _)
      · exact fun entry member => sound.aliased entry (List.mem_of_mem_filter member)
      · exact sound.deployed
      · exact sound.below

theorem step_sound (stepped : catalogue.step settings op = some after)
    (sound : catalogue.Sound) : after.Sound :=
  step_keeps (fun _ _ => edit_sound) stepped sound

theorem empty_sound : Catalogue.empty.Sound := by
  constructor <;> simp [Catalogue.empty]

end AiPlatform.Serving
