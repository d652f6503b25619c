import AiPlatform.ModelNames

/-!
Where the models of the registry are served, over whole histories. An import
from Ollama looks for the model of a tag by a name in which `:`, `/` and `.` are
the same, and repoints whatever it finds. The check of a new endpoint compares
its host in lower case; `canonical` is the host that a spelling names.
-/

namespace AiPlatform.Serving

open Agents (Json Dict strip truthy)
open Deployments (externalRuntimes)

/-- The registry, with the ids of the models that imports from Ollama registered. -/
structure Registry where
  catalogue : Catalogue
  imported : List Nat

def Op.imports : Op → Bool
  | .importOllama _ _ => true
  | _ => false

/-- The models with an id from `first` on. -/
def Catalogue.since (catalogue : Catalogue) (first : Nat) : List Nat :=
  (catalogue.models.map Model.id).filter (first ≤ ·)

def Registry.step (settings : Settings) (registry : Registry) (op : Op) : Option Registry :=
  (registry.catalogue.step settings op).map fun after =>
    ⟨after,
      if op.imports then registry.imported ++ after.since registry.catalogue.nextId
      else registry.imported⟩

def Private (settings : Settings) (canonical : String → String) (endpointUrl : String) : Prop :=
  ∀ host, endpointHost settings endpointUrl = .ok (some host) → publicHost (canonical host) = false

def Spelled (settings : Settings) (canonical : String → String) (endpointUrl : String) : Prop :=
  ∀ host, endpointHost settings endpointUrl = .ok (some host) →
    publicHost (canonical host) = true → publicHost (settings.lower host) = true

def tagName (settings : Settings) (tag : Dict) : String :=
  platformName settings (rawName settings tag)

structure Endpoints (settings : Settings) (canonical : String → String) (catalogue : Catalogue) :
    Prop where
  external : ∀ model ∈ catalogue.models,
    given model.endpointUrl = true ↔ model.runtime ∈ externalRuntimes
  hosts : ∀ model ∈ catalogue.models, given model.endpointUrl = true →
    Private settings canonical (model.endpointUrl.getD "")

/-- What an import does: each tag is served by a model of its own, and the
endpoints of models that were not imported stay. -/
structure ImportLaw (settings : Settings) (base : String) (tags : List Dict)
    (before after : Registry) : Prop where
  serves : ∀ tag ∈ tags, rawName settings tag ≠ "" →
    ∃ model ∈ after.catalogue.models, model.id ∈ after.imported ∧
      model.name = tagName settings tag ∧ model.servedModelName settings = rawName settings tag ∧
      model.endpointUrl = some base
  keeps : ∀ old ∈ before.catalogue.models, old.id ∉ before.imported →
    ∃ new ∈ after.catalogue.models, new.id = old.id ∧ new.endpointUrl = old.endpointUrl

/-- The condition on one operation: the check finds the public hosts of the
endpoints it registers; tags of one platform name are one tag; and a model that
has the name of a tag was imported for that tag, in which case the address is no
public host either, for which a repointing does not look. -/
structure Op.Meets (settings : Settings) (canonical : String → String) (registry : Registry)
    (op : Op) : Prop where
  spelled : ∀ spec, op.Registers settings spec → spec.external = true →
    Spelled settings canonical (spec.endpointUrl.getD "")
  distinct : ∀ base tag other, op.Offers settings base tag → op.Offers settings base other →
    tagName settings tag = tagName settings other → rawName settings tag = rawName settings other
  targets : ∀ base tag, op.Offers settings base tag → ∀ model ∈ registry.catalogue.models,
    model.name = tagName settings tag → model.id ∈ registry.imported ∧
      model.servedModelName settings = rawName settings tag ∧ Private settings canonical base

/-- The models that count as imported while an operation goes on. -/
def Registry.Marks (registry : Registry) (op : Op) (id : Nat) : Prop :=
  id ∈ registry.imported ∨ op.imports = true ∧ registry.catalogue.nextId ≤ id

structure Importing (settings : Settings) (canonical : String → String) (registry : Registry)
    (op : Op) (catalogue : Catalogue) : Prop where
  endpoints : Endpoints settings canonical catalogue
  ollama : ∀ model ∈ catalogue.models, registry.Marks op model.id → model.runtime = "ollama"
  grown : registry.catalogue.nextId ≤ catalogue.nextId
  targets : ∀ base tag, op.Offers settings base tag → ∀ model ∈ catalogue.models,
    model.name = tagName settings tag → registry.Marks op model.id ∧
      model.servedModelName settings = rawName settings tag ∧ Private settings canonical base
  keeps : ∀ old ∈ registry.catalogue.models, ¬ registry.Marks op old.id →
    ∃ new ∈ catalogue.models, new.id = old.id ∧ new.endpointUrl = old.endpointUrl

variable {settings : Settings} {canonical : String → String} {registry : Registry} {op : Op}
variable {catalogue after : Catalogue}

theorem Spelled.isPrivate {endpointUrl : String}
    (spelled : Spelled settings canonical endpointUrl)
    (checked : refusePublicEndpoint settings endpointUrl = .ok ()) :
    Private settings canonical endpointUrl := by
  intro host found
  unfold refusePublicEndpoint at checked
  obtain ⟨named, parsed, checked⟩ := bind_ok.mp checked
  rw [found] at parsed
  cases parsed
  rw [raiseIf_ok] at checked
  cases known : publicHost (canonical host) with
  | false => rfl
  | true => exact absurd (spelled host found known) checked

theorem Op.Offers.known {base : String} {tag : Dict} (offers : op.Offers settings base tag) :
    base ≠ "" ∧ rawName settings tag ≠ "" ∧ op.imports = true := by
  cases op with
  | importOllama endpoint reply => exact ⟨offers.2.1, offers.2.2.1, rfl⟩
  | _ => exact offers.elim

theorem servedModelName_tag {base : String} {tag details : Dict} {id : Nat}
    (named : rawName settings tag ≠ "") :
    ((tagSpec settings base tag details).model id).servedModelName settings =
      rawName settings tag := by
  have kept : (some (Json.str (rawName settings tag))).filter Json.truthy =
      some (.str (rawName settings tag)) := by
    simp [Option.filter, Json.truthy, truthy, named]
  simp [Model.servedModelName, ModelSpec.model, tagSpec, Dict.get, kept]

theorem Model.Alike.served {old new : Model} (alike : old.Alike new) :
    new.servedModelName settings = old.servedModelName settings := by
  unfold Model.servedModelName
  rw [alike.metadata, alike.storagePath, alike.name]

theorem registered_endpoint {spec : ModelSpec} {id : Nat} (admitted : spec.Admitted settings) :
    given (spec.model id).endpointUrl = true ↔ (spec.model id).runtime ∈ externalRuntimes := by
  change given spec.endpointUrl = true ↔ spec.runtime ∈ externalRuntimes
  rw [admitted.endpoint, ModelSpec.external, List.contains_iff_mem]

theorem Op.Registers.runtime {spec : ModelSpec} (registers : op.Registers settings spec)
    (imports : op.imports = true) : spec.runtime = "ollama" := by
  cases registers with
  | direct spec asked =>
      rw [asked] at imports
      cases imports
  | declared manifest name declares =>
      cases op with
      | loadManifests manifests scan now => cases imports
      | _ => exact declares.elim
  | offered base tag details offers => rfl

theorem Importing.of_alike (importing : Importing settings canonical registry op catalogue)
    (alike : ∀ new ∈ after.models, ∃ old ∈ catalogue.models, old.Alike new)
    (persists : ∀ old ∈ catalogue.models, ∃ new ∈ after.models, old.Alike new)
    (grown : catalogue.nextId ≤ after.nextId) :
    Importing settings canonical registry op after := by
  constructor
  · constructor
    · intro new member
      obtain ⟨old, listed, same⟩ := alike new member
      rw [same.endpointUrl, same.runtime]
      exact importing.endpoints.external old listed
    · intro new member set
      obtain ⟨old, listed, same⟩ := alike new member
      rw [same.endpointUrl] at set ⊢
      exact importing.endpoints.hosts old listed set
  · intro new member marked
    obtain ⟨old, listed, same⟩ := alike new member
    rw [same.id] at marked
    rw [same.runtime]
    exact importing.ollama old listed marked
  · exact importing.grown.trans grown
  · intro base tag offers new member named
    obtain ⟨old, listed, same⟩ := alike new member
    rw [same.name] at named
    rw [same.id, same.served]
    exact importing.targets base tag offers old listed named
  · intro old listed unmarked
    obtain ⟨middle, there, keyed, url⟩ := importing.keeps old listed unmarked
    obtain ⟨new, member, same⟩ := persists middle there
    exact ⟨new, member, same.id.trans keyed, same.endpointUrl.trans url⟩

theorem Importing.of_models (importing : Importing settings canonical registry op catalogue)
    (models : after.models = catalogue.models) (grown : catalogue.nextId ≤ after.nextId) :
    Importing settings canonical registry op after := by
  apply importing.of_alike _ _ grown
  · rw [models]
    exact fun model member => ⟨model, member, .refl model⟩
  · rw [models]
    exact fun model member => ⟨model, member, .refl model⟩

theorem importing_registered (meets : op.Meets settings canonical registry)
    (bound : ∀ id ∈ registry.imported, id < registry.catalogue.nextId) {spec : ModelSpec}
    (registers : op.Registers settings spec) (admitted : spec.Admitted settings)
    (importing : Importing settings canonical registry op catalogue) :
    Importing settings canonical registry op (catalogue.addModel spec) := by
  have hosts : given spec.endpointUrl = true →
      Private settings canonical (spec.endpointUrl.getD "") := by
    intro set
    rw [admitted.endpoint] at set
    exact (meets.spelled spec registers set).isPrivate (admitted.host set)
  constructor
  · constructor
    · intro model member
      rcases List.mem_append.mp member with old | new
      · exact importing.endpoints.external model old
      · rw [List.mem_singleton.mp new]
        exact registered_endpoint admitted
    · intro model member set
      rcases List.mem_append.mp member with old | new
      · exact importing.endpoints.hosts model old set
      · rw [List.mem_singleton.mp new] at set ⊢
        exact hosts set
  · intro model member marked
    rcases List.mem_append.mp member with old | new
    · exact importing.ollama model old marked
    · rw [List.mem_singleton.mp new] at marked ⊢
      rcases marked with earlier | ⟨imports, _⟩
      · exact absurd (bound _ earlier) (Nat.not_lt.mpr importing.grown)
      · exact registers.runtime imports
  · exact Nat.le_succ_of_le importing.grown
  · intro base tag offers model member named
    rcases List.mem_append.mp member with old | new
    · exact importing.targets base tag offers model old named
    · obtain ⟨other, details, offered, rfl⟩ := offers.registers registers
      rw [List.mem_singleton.mp new] at named ⊢
      have raw : rawName settings other = rawName settings tag :=
        meets.distinct base other tag offered offers named
      refine ⟨.inr ⟨offers.known.2.2, importing.grown⟩, ?_, ?_⟩
      · rw [servedModelName_tag offered.known.2.1]
        exact raw
      · exact hosts (by simpa [tagSpec, given, truthy] using offers.known.1)
  · intro old listed unmarked
    obtain ⟨new, member, same⟩ := importing.keeps old listed unmarked
    exact ⟨new, List.mem_append_left _ member, same⟩

theorem importing_repointed {base : String} {tag : Dict} {existing : Model}
    (offers : op.Offers settings base tag)
    (found : catalogue.modelByName (tagName settings tag) = some existing)
    (importing : Importing settings canonical registry op catalogue) :
    Importing settings canonical registry op
      (catalogue.amendModel existing.id (·.repoint base)) := by
  obtain ⟨member, named⟩ := Rows.get_some found
  obtain ⟨marked, _, hidden⟩ := importing.targets base tag offers existing member named
  -- A repointed model is one that an import registered.
  have repointed : ∀ new ∈ (catalogue.amendModel existing.id (·.repoint base)).models,
      (∃ old ∈ catalogue.models, old.id = existing.id ∧ new = old.repoint base) ∨
        new ∈ catalogue.models := by
    intro new listed
    rcases Rows.mem_amend.mp listed with ⟨old, there, keyed, rfl⟩ | ⟨there, _⟩
    · exact .inl ⟨old, there, keyed, rfl⟩
    · exact .inr there
  constructor
  · constructor
    · intro new listed
      rcases repointed new listed with ⟨old, there, keyed, rfl⟩ | there
      · have runtime := importing.ollama old there (by rwa [keyed])
        have set : given (some base) = true := by simpa [given, truthy] using offers.known.1
        exact ⟨fun _ => by simp [Model.repoint, runtime, externalRuntimes], fun _ => set⟩
      · exact importing.endpoints.external new there
    · intro new listed set
      rcases repointed new listed with ⟨old, there, keyed, rfl⟩ | there
      · exact hidden
      · exact importing.endpoints.hosts new there set
  · intro new listed marked
    rcases repointed new listed with ⟨old, there, keyed, rfl⟩ | there
    · exact importing.ollama old there marked
    · exact importing.ollama new there marked
  · exact importing.grown
  · intro other another offered new listed same
    rcases repointed new listed with ⟨old, there, keyed, rfl⟩ | there
    · exact importing.targets other another offered old there same
    · exact importing.targets other another offered new there same
  · intro old listed unmarked
    obtain ⟨middle, there, keyed, url⟩ := importing.keeps old listed unmarked
    have apart : middle.id ≠ existing.id := by
      intro same
      rw [← keyed, same] at unmarked
      exact unmarked marked
    exact ⟨middle, Rows.mem_amend.mpr (.inr ⟨there, apart⟩), keyed, url⟩

theorem edit_importing (meets : op.Meets settings canonical registry)
    (bound : ∀ id ∈ registry.imported, id < registry.catalogue.nextId)
    (edit : Edit settings op catalogue after)
    (importing : Importing settings canonical registry op catalogue) :
    Importing settings canonical registry op after := by
  cases edit with
  | registered spec registers fresh admitted =>
      exact importing_registered meets bound registers admitted importing
  | repointed base tag offers existing found => exact importing_repointed offers found importing
  | amended modelId change alike =>
      apply importing.of_alike
      · intro new member
        rcases Rows.mem_amend.mp member with ⟨old, listed, _, rfl⟩ | ⟨listed, _⟩
        · exact ⟨old, listed, alike old⟩
        · exact ⟨new, listed, .refl new⟩
      · intro old listed
        exact Rows.amend_persists Model.Alike (.refl old) (fun _ => alike old) listed
      · exact Nat.le_refl _
  | aliased entry fresh target source => exact importing.of_models rfl (Nat.le_succ _)
  | realiased aliasId change keeps target => exact importing.of_models rfl (Nat.le_refl _)
  | unaliased aliasId => exact importing.of_models rfl (Nat.le_refl _)

def Serves (base name : String) (catalogue : Catalogue) : Prop :=
  ∃ model ∈ catalogue.models, model.name = name ∧ model.endpointUrl = some base

theorem edit_serves {base name : String}
    (based : ∀ other tag, op.Offers settings other tag → other = base)
    (edit : Edit settings op catalogue after) (serves : Serves base name catalogue) :
    Serves base name after := by
  obtain ⟨model, member, named, url⟩ := serves
  cases edit with
  | registered spec registers fresh admitted =>
      exact ⟨model, List.mem_append_left _ member, named, url⟩
  | repointed other tag offers existing found =>
      by_cases keyed : model.id = existing.id
      · have moved : model.repoint other ∈
            Rows.amend Model.id existing.id (·.repoint other) catalogue.models :=
          Rows.mem_amend.mpr (.inl ⟨model, member, keyed, rfl⟩)
        refine ⟨_, moved, named, ?_⟩
        rw [← based other tag offers]
        rfl
      · exact ⟨model, Rows.mem_amend.mpr (.inr ⟨member, keyed⟩), named, url⟩
  | amended modelId change alike =>
      obtain ⟨new, listed, same⟩ : ∃ new ∈ Rows.amend Model.id modelId change catalogue.models,
          model.Alike new :=
        Rows.amend_persists Model.Alike (.refl model) (fun _ => alike model) member
      exact ⟨new, listed, same.name.trans named, same.endpointUrl.trans url⟩
  | aliased entry fresh target source => exact ⟨model, member, named, url⟩
  | realiased aliasId change keeps target => exact ⟨model, member, named, url⟩
  | unaliased aliasId => exact ⟨model, member, named, url⟩

theorem importTag_serves {base : String} {tag : Dict} {entries : List ImportEntry}
    (named : rawName settings tag ≠ "")
    (done : importTag settings base catalogue tag = .ok (entries, after)) :
    Serves base (tagName settings tag) after := by
  unfold importTag at done
  simp only [if_neg named] at done
  obtain ⟨details, _, done⟩ := bind_ok.mp done
  split at done
  · rename_i existing found
    cases done
    obtain ⟨member, same⟩ := Rows.get_some found
    exact ⟨_, Rows.mem_amend.mpr (.inl ⟨existing, member, rfl, rfl⟩), same, rfl⟩
  · obtain ⟨⟨model, next⟩, registered, done⟩ := bind_ok.mp done
    cases done
    obtain ⟨_, _, _, rfl⟩ := registerModel_ok registered
    exact ⟨_, List.mem_append_right _ (List.mem_singleton_self _), rfl, rfl⟩

theorem importTags_serves {base : String} {tags : List Dict} {entries : List ImportEntry}
    (offers : ∀ tag ∈ tags, rawName settings tag ≠ "" → op.Offers settings base tag)
    (based : ∀ other tag, op.Offers settings other tag → other = base)
    (done : importTags settings base tags catalogue = .ok (entries, after)) :
    ∀ tag ∈ tags, rawName settings tag ≠ "" → Serves base (tagName settings tag) after := by
  induction tags generalizing catalogue entries with
  | nil => exact fun tag member => nomatch member
  | cons first rest ih =>
      unfold importTags at done
      obtain ⟨⟨head, middle⟩, imported, done⟩ := bind_ok.mp done
      obtain ⟨⟨others, last⟩, later, done⟩ := bind_ok.mp done
      cases done
      have offered := fun other member => offers other (List.mem_cons_of_mem first member)
      intro tag member named
      rcases List.mem_cons.mp member with rfl | member
      · exact (importTags_edits offered later).keep (fun _ _ => edit_serves based)
          (importTag_serves named imported)
      · exact ih offered later tag member named

structure Registry.Good (settings : Settings) (canonical : String → String)
    (registry : Registry) : Prop where
  sound : registry.catalogue.Sound
  endpoints : Endpoints settings canonical registry.catalogue
  ollama : ∀ model ∈ registry.catalogue.models, model.id ∈ registry.imported →
    model.runtime = "ollama"
  bound : ∀ id ∈ registry.imported, id < registry.catalogue.nextId

theorem Registry.Good.importing (good : registry.Good settings canonical)
    (meets : op.Meets settings canonical registry) :
    Importing settings canonical registry op registry.catalogue where
  endpoints := good.endpoints
  ollama := by
    intro model member marked
    rcases marked with earlier | ⟨_, later⟩
    · exact good.ollama model member earlier
    · exact absurd (good.sound.below model member) (Nat.not_lt.mpr later)
  grown := Nat.le_refl _
  targets := by
    intro base tag offers model member named
    obtain ⟨earlier, served, hidden⟩ := meets.targets base tag offers model member named
    exact ⟨.inl earlier, served, hidden⟩
  keeps := fun old member _ => ⟨old, member, rfl, rfl⟩

theorem Registry.step_marks {next : Registry} (stepped : registry.step settings op = some next) :
    registry.catalogue.step settings op = some next.catalogue ∧
      (∀ id ∈ next.imported, id ∈ registry.imported ∨
        registry.Marks op id ∧ ∃ model ∈ next.catalogue.models, model.id = id) ∧
      ∀ model ∈ next.catalogue.models, registry.Marks op model.id → model.id ∈ next.imported := by
  obtain ⟨after, done, rfl⟩ := Option.map_eq_some_iff.mp stepped
  refine ⟨done, ?_, ?_⟩
  · intro id member
    cases imports : op.imports with
    | false => exact .inl (by simpa [imports] using member)
    | true =>
        simp only [imports, if_true, List.mem_append] at member
        rcases member with earlier | later
        · exact .inl earlier
        · obtain ⟨listed, new⟩ := List.mem_filter.mp later
          exact .inr ⟨.inr ⟨imports, by simpa using new⟩, List.mem_map.mp listed⟩
  · intro model member marked
    cases imports : op.imports with
    | false =>
        rcases marked with earlier | ⟨claims, _⟩
        · simpa using earlier
        · rw [imports] at claims
          cases claims
    | true =>
        simp only [if_true, List.mem_append]
        rcases marked with earlier | ⟨_, later⟩
        · exact .inl earlier
        · exact .inr (List.mem_filter.mpr ⟨List.mem_map_of_mem member, by simpa using later⟩)

theorem Registry.Good.edited {next : Registry} (good : registry.Good settings canonical)
    (meets : op.Meets settings canonical registry)
    (stepped : registry.step settings op = some next) :
    Importing settings canonical registry op next.catalogue :=
  step_keeps (fun _ _ => edit_importing meets good.bound) (Registry.step_marks stepped).1
    (good.importing meets)

theorem Registry.Good.step {next : Registry} (good : registry.Good settings canonical)
    (meets : op.Meets settings canonical registry)
    (stepped : registry.step settings op = some next) : next.Good settings canonical := by
  obtain ⟨done, recorded, _⟩ := Registry.step_marks stepped
  have importing := good.edited meets stepped
  have sound := step_sound done good.sound
  constructor
  · exact sound
  · exact importing.endpoints
  · intro model member imported
    apply importing.ollama model member
    rcases recorded _ imported with earlier | ⟨marked, _⟩
    · exact .inl earlier
    · exact marked
  · intro id imported
    rcases recorded id imported with earlier | ⟨_, model, member, rfl⟩
    · exact Nat.lt_of_lt_of_le (good.bound id earlier) importing.grown
    · exact sound.below model member

theorem Registry.Good.law {next : Registry} {endpoint : Option String} {tags : List Dict}
    (good : registry.Good settings canonical)
    (meets : (Op.importOllama endpoint (.ok tags)).Meets settings canonical registry)
    (stepped : registry.step settings (.importOllama endpoint (.ok tags)) = some next) :
    ImportLaw settings (ollamaBase settings endpoint) tags registry next := by
  have importing := good.edited meets stepped
  obtain ⟨done, recorded, records⟩ := Registry.step_marks stepped
  obtain ⟨⟨entries, after⟩, imported, same⟩ := Option.map_eq_some_iff.mp done
  obtain ⟨known, listed, answered, imported⟩ := importOllama_ok (toOption_some.mp imported)
  cases answered
  have offers : ∀ tag ∈ tags, rawName settings tag ≠ "" →
      (Op.importOllama endpoint (.ok tags)).Offers settings (ollamaBase settings endpoint) tag :=
    fun tag member named => ⟨rfl, known, named, tags, rfl, member⟩
  constructor
  · intro tag member named
    obtain ⟨model, there, called, url⟩ :=
      importTags_serves offers (fun other tag offered => offered.1.symm) imported tag member named
    simp only at same
    rw [same] at there
    obtain ⟨marked, served, _⟩ :=
      importing.targets _ tag (offers tag member named) model there called
    exact ⟨model, there, records model there marked, called, served, url⟩
  · intro old member unimported
    apply importing.keeps old member
    rintro (earlier | ⟨_, later⟩)
    · exact unimported earlier
    · exact absurd (good.sound.below old member) (Nat.not_lt.mpr later)

def Registry.empty : Registry := ⟨.empty, []⟩

abbrev Registry.Runs (settings : Settings) (canonical : String → String) (registry : Registry) :
    Prop :=
  History (Registry.step settings) (fun registry op => op.Meets settings canonical registry)
    .empty registry

theorem Registry.Runs.good (run : registry.Runs settings canonical) :
    registry.Good settings canonical := by
  apply History.keeps (Registry.Good settings canonical) _ _ run
  · constructor
    · exact empty_sound
    · constructor
      · exact fun model member => nomatch member
      · exact fun model member => nomatch member
    · exact fun model member => nomatch member
    · exact fun id member => nomatch member
  · intro state op after meets stepped good
    exact good.step meets stepped

theorem endpoints_lawful (run : registry.Runs settings canonical) :
    Endpoints settings canonical registry.catalogue ∧
      ∀ endpoint tags next,
        (Op.importOllama endpoint (.ok tags)).Meets settings canonical registry →
        registry.step settings (.importOllama endpoint (.ok tags)) = some next →
        ImportLaw settings (ollamaBase settings endpoint) tags registry next :=
  ⟨run.good.endpoints, fun _ _ _ meets stepped => run.good.law meets stepped⟩

def rooted (host : String) : String :=
  if host.toList.getLast? = some '.' then String.ofList host.toList.dropLast else host

def ollamaTag (name : String) : Dict := [("name", .str name)]

def hostedModel (name endpointUrl : String) : ModelSpec :=
  { weights name with runtime := "external", storagePath := "", endpointUrl := some endpointUrl }

def refresh (name : String) : Op := .importOllama none (.ok [ollamaTag name])

theorem refresh_offers {name base : String} {tag : Dict}
    (offers : (refresh name).Offers site base tag) :
    base = "http://host.docker.internal:11434" ∧ tag = ollamaTag name := by
  obtain ⟨based, _, _, tags, answered, member⟩ := offers
  cases answered
  constructor
  · rw [← based]
    decide +kernel
  · exact List.mem_singleton.mp member

theorem endpoints_lawful_imported :
    ∃ next : Registry, ImportLaw site "http://host.docker.internal:11434"
      [ollamaTag "llama3:8b"] .empty next := by
  have meets : (refresh "llama3:8b").Meets site rooted .empty := by
    constructor
    · intro spec registers external host found
      cases registers with
      | direct spec asked => cases asked
      | declared manifest name declares => exact declares.elim
      | offered base tag details offers =>
          obtain ⟨rfl, rfl⟩ := refresh_offers offers
          have parsed : endpointHost site "http://host.docker.internal:11434" =
              .ok (some "host.docker.internal") := by decide +kernel
          have same := parsed.symm.trans found
          cases same
          decide +kernel
    · intro base tag other first second _
      rw [(refresh_offers first).2, (refresh_offers second).2]
    · exact fun base tag offers model member => nomatch member
  obtain ⟨next, stepped⟩ : ∃ next, Registry.empty.step site (refresh "llama3:8b") = some next :=
    ⟨_, rfl⟩
  have base : ollamaBase site none = "http://host.docker.internal:11434" := by decide +kernel
  rw [← base]
  exact ⟨next, (endpoints_lawful .start).2 none [ollamaTag "llama3:8b"] next meets stepped⟩

/-- An import makes a managed model an external one in part; a public host that
is spelled with its dot is registered; and a tag that differs from another in a
colon has no model of its own. -/
theorem endpoints_mixed :
    (∃ registry, History (Registry.step site) (fun _ _ => True) .empty registry ∧
      ∃ model ∈ registry.catalogue.models, given model.endpointUrl = true ∧
        model.runtime ∉ externalRuntimes ∧ model.id ∉ registry.imported) ∧
    (∃ registry, History (Registry.step site) (fun _ _ => True) .empty registry ∧
      ¬ Endpoints site rooted registry.catalogue) ∧
    ∃ next, Registry.empty.step site
        (.importOllama none (.ok [ollamaTag "qwen:7b", ollamaTag "qwen-7b"])) = some next ∧
      ∀ model ∈ next.catalogue.models, model.servedModelName site ≠ "qwen-7b" := by
  refine ⟨?_, ?_, ?_⟩
  · exact ⟨_, .next (refresh "llama3:8b") (.next (.register (weights "llama3-8b")) .start
      trivial rfl) trivial rfl, _, .head _, rfl, by decide, by decide⟩
  · refine ⟨_, .next (.register (hostedModel "gpt" "https://api.openai.com./v1")) .start
      trivial rfl, fun endpoints => ?_⟩
    have parsed : endpointHost site "https://api.openai.com./v1" =
        .ok (some "api.openai.com.") := by decide +kernel
    have hidden := endpoints.hosts _ (.head _) rfl _ parsed
    have known : publicHost (rooted "api.openai.com.") = true := by decide +kernel
    rw [known] at hidden
    cases hidden
  · have checked : ((Registry.empty.step site
        (.importOllama none (.ok [ollamaTag "qwen:7b", ollamaTag "qwen-7b"]))).any fun next =>
          next.catalogue.models.all fun model => model.servedModelName site ≠ "qwen-7b") = true := by
      decide +kernel
    obtain ⟨next, stepped, served⟩ := (Option.any_eq_true _ _).mp checked
    exact ⟨next, stepped, fun model member => by simpa using List.all_eq_true.mp served model member⟩

end AiPlatform.Serving
