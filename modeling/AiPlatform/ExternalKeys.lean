import AiPlatform.ExternalModels
import AiPlatform.OllamaImports
import Mathlib.Data.List.DropRight

/-!
Where the key of the configured external endpoint goes. A call compares the
present endpoint of the model with the configured one and sends the key to the
address that a deployment stored when it was created, so the two have to agree
for every model whose endpoint is the configured one.
-/

namespace AiPlatform.Serving

open Agents (strip truthy isSpace)
open Deployments (externalKeyFor DeploymentRequestSpec)

def bare (address : String) : List Char :=
  (address.toList.rdropWhile fun c => isSpace c || c = '/').dropWhile isSpace

/-- `(settings.models.external_endpoint or "").rstrip("/")` -/
def configured (settings : Settings) : String :=
  Urls.dropSlashes (settings.externalEndpoint.getD "")

def Under (settings : Settings) (address : String) : Prop := bare address = bare (configured settings)

theorem dropWhile_weaker {α : Type} {p q : α → Bool} (weaker : ∀ a, p a = true → q a = true)
    (l : List α) : (l.dropWhile p).dropWhile q = l.dropWhile q := by
  induction l with
  | nil => rfl
  | cons a rest ih =>
      by_cases holds : p a = true
      · rw [List.dropWhile_cons_of_pos holds, ih, List.dropWhile_cons_of_pos (weaker a holds)]
      · rw [List.dropWhile_cons_of_neg holds]

theorem rdropWhile_weaker {α : Type} {p q : α → Bool} (weaker : ∀ a, p a = true → q a = true)
    (l : List α) : (l.rdropWhile p).rdropWhile q = l.rdropWhile q := by
  simp only [List.rdropWhile, List.reverse_reverse, dropWhile_weaker weaker]

theorem rdropWhile_cons {α : Type} {q : α → Bool} (a : α) (l : List α) :
    (a :: l).rdropWhile q =
      if (l.rdropWhile q).isEmpty then if q a then [] else [a] else a :: l.rdropWhile q := by
  simp only [List.rdropWhile, List.reverse_cons, List.dropWhile_append, List.isEmpty_reverse]
  by_cases none : (l.reverse.dropWhile q).isEmpty = true
  · by_cases holds : q a = true
    · simp [none, holds]
    · simp [none, holds]
  · simp [none]

theorem dropWhile_rdropWhile {α : Type} {p q : α → Bool}
    (weaker : ∀ a, p a = true → q a = true) (l : List α) :
    ((l.dropWhile p).rdropWhile q).dropWhile p = (l.rdropWhile q).dropWhile p := by
  induction l with
  | nil => rfl
  | cons a rest ih =>
      by_cases holds : p a = true
      · rw [List.dropWhile_cons_of_pos holds, ih, rdropWhile_cons]
        by_cases none : (rest.rdropWhile q).isEmpty = true
        · simp [weaker a holds, List.isEmpty_iff.mp none]
        · rw [if_neg none, List.dropWhile_cons_of_pos holds]
      · rw [List.dropWhile_cons_of_neg holds]

theorem bare_dropSlashes (address : String) : bare (Urls.dropSlashes address) = bare address := by
  have dropped : (Urls.dropSlashes address).toList =
      address.toList.rdropWhile fun c => decide (c = '/') := by
    simp [Urls.dropSlashes, List.rdropWhile]
  rw [bare, dropped, rdropWhile_weaker (fun c same => by simpa using .inr (by simpa using same))]
  rfl

theorem bare_strip (address : String) : bare (strip address) = bare address := by
  have stripped : (strip address).toList =
      (address.toList.dropWhile isSpace).rdropWhile isSpace := by
    simp [strip, List.rdropWhile]
  have weaker : ∀ c, isSpace c = true → (isSpace c || decide (c = '/')) = true :=
    fun c space => by simp [space]
  rw [bare, stripped, rdropWhile_weaker weaker, dropWhile_rdropWhile weaker]
  rfl

theorem under_of_trimmed {settings : Settings} {address : String}
    (same : Urls.dropSlashes address = configured settings) : Under settings address := by
  rw [Under, ← same, bare_dropSlashes]

theorem externalKeyFor_some {settings : Settings} {runtime endpoint key : String}
    (given : externalKeyFor settings.toSettings runtime endpoint = some key) :
    runtime = "external" ∧ configured settings ≠ "" ∧
      Urls.dropSlashes endpoint = configured settings := by
  unfold externalKeyFor at given
  simp only at given
  split at given
  · cases given
  · split at given
    · cases given
    · rename_i external agree
      rw [not_or, not_not] at agree
      exact ⟨not_not.mp external, agree.1, agree.2⟩

def Model.Keyed (settings : Settings) (model : Model) : Prop :=
  model.runtime = "external" ∧ configured settings ≠ "" ∧
    Urls.dropSlashes (model.endpointUrl.getD "") = configured settings

/-- Every address that a deployment of the model has stored is under the
configured endpoint. -/
def Catalogue.Stores (settings : Settings) (catalogue : Catalogue) (modelId : Nat) : Prop :=
  ∀ row ∈ catalogue.deployments, row.modelId = modelId → ∀ url, row.internalUrl = some url →
    Under settings url

def Catalogue.Confined (settings : Settings) (catalogue : Catalogue) : Prop :=
  ∀ model ∈ catalogue.models, model.Keyed settings → catalogue.Stores settings model.id

def Catalogue.MayPoint (settings : Settings) (catalogue : Catalogue) (model : Model)
    (address : String) : Prop :=
  model.runtime = "external" → configured settings ≠ "" →
    Urls.dropSlashes address = configured settings → catalogue.Stores settings model.id

/-- The condition on one action: an import that points a model of the runtime
`external` at the configured endpoint finds no other address stored for it, and
the worker starts no container for a model that is pointed there. -/
def Action.Meets (settings : Settings) (platform : Platform) : Action → Prop
  | .registry op => ∀ base tag, op.Offers settings base tag →
      ∀ model ∈ platform.catalogue.models, model.name = tagName settings tag →
        platform.catalogue.MayPoint settings model base
  | .externalImport options _ _ _ => ∀ model ∈ platform.catalogue.models,
      model.name = platformName settings options.model →
        platform.catalogue.MayPoint settings model (options.address settings)
  | .advance deploymentId (.answered _) => ∀ row ∈ platform.catalogue.deployments,
      row.id = deploymentId → row.state = .scheduling ∨ row.state = .requested →
        ∀ model ∈ platform.catalogue.models, model.id = row.modelId → ¬ model.Keyed settings
  | _ => True

variable {settings : Settings} {catalogue after : Catalogue} {op : Op}

structure Catalogue.Guarded (settings : Settings) (catalogue : Catalogue) : Prop where
  sound : catalogue.Sound
  confined : catalogue.Confined settings

theorem Catalogue.Sound.unused (sound : catalogue.Sound) :
    catalogue.Stores settings catalogue.nextId := by
  intro row listed same
  obtain ⟨model, member, keyed⟩ := sound.deployed row listed
  have below := sound.below model member
  rw [keyed, same] at below
  exact absurd below (Nat.lt_irrefl _)

theorem guarded_registered {spec : ModelSpec} (registers : op.Registers settings spec)
    (fresh : catalogue.modelByName spec.name = none) (admitted : spec.Admitted settings)
    (guarded : catalogue.Guarded settings) : (catalogue.addModel spec).Guarded settings where
  sound := edit_sound (.registered spec registers fresh admitted) guarded.sound
  confined := by
    intro model member keyed
    rcases List.mem_append.mp member with old | new
    · exact guarded.confined model old keyed
    · rw [List.mem_singleton.mp new]
      exact guarded.sound.unused

theorem guarded_pointed {existing : Model} {change : Model → Model} {address : String}
    (guarded : catalogue.Guarded settings) (member : existing ∈ catalogue.models)
    (id : ∀ model, (change model).id = model.id) (name : ∀ model, (change model).name = model.name)
    (runtime : ∀ model, (change model).runtime = model.runtime)
    (pointed : ∀ model, (change model).endpointUrl = some address)
    (may : catalogue.MayPoint settings existing address) :
    (catalogue.amendModel existing.id change).Guarded settings where
  sound := guarded.sound.amended id name
  confined := by
    intro model listed keyed
    rcases Rows.mem_amend.mp listed with ⟨old, there, same, rfl⟩ | ⟨there, _⟩
    · have one : old = existing := Rows.key_unique guarded.sound.modelIds member there same
      obtain ⟨external, set, agree⟩ := keyed
      rw [runtime] at external
      rw [pointed] at agree
      rw [id, same]
      exact may (one ▸ external) set agree
    · exact guarded.confined model there keyed

theorem Catalogue.Guarded.of_rows (guarded : catalogue.Guarded settings) (sound : after.Sound)
    (models : ∀ new ∈ after.models, ∃ old ∈ catalogue.models, old.Alike new)
    (deployments : after.deployments = catalogue.deployments) : after.Guarded settings where
  sound := sound
  confined := by
    intro new member keyed row listed
    rw [deployments] at listed
    obtain ⟨old, there, same⟩ := models new member
    rw [same.id]
    rw [Model.Keyed, same.runtime, same.endpointUrl] at keyed
    exact guarded.confined old there keyed row listed

structure Pointing (settings : Settings) (op : Op) (catalogue : Catalogue) : Prop where
  guarded : catalogue.Guarded settings
  may : ∀ base tag, op.Offers settings base tag → ∀ model ∈ catalogue.models,
    model.name = tagName settings tag → catalogue.MayPoint settings model base

theorem edit_pointing (edit : Edit settings op catalogue after)
    (pointing : Pointing settings op catalogue) : Pointing settings op after := by
  have sound := edit_sound edit pointing.guarded.sound
  cases edit with
  | registered spec registers fresh admitted =>
      refine ⟨guarded_registered registers fresh admitted pointing.guarded, ?_⟩
      intro base tag offers model member named
      rcases List.mem_append.mp member with old | new
      · exact pointing.may base tag offers model old named
      · rw [List.mem_singleton.mp new]
        exact fun _ _ _ => pointing.guarded.sound.unused
  | repointed base tag offers existing found =>
      obtain ⟨member, named⟩ := Rows.get_some found
      have may := pointing.may base tag offers existing member named
      refine ⟨guarded_pointed pointing.guarded member (fun _ => rfl) (fun _ => rfl)
        (fun _ => rfl) (fun _ => rfl) may, ?_⟩
      intro other another offered model listed same
      rcases Rows.mem_amend.mp listed with ⟨old, there, _, rfl⟩ | ⟨there, _⟩
      · exact pointing.may other another offered old there same
      · exact pointing.may other another offered model there same
  | amended modelId change alike =>
      have kept : ∀ new ∈ (catalogue.amendModel modelId change).models,
          ∃ old ∈ catalogue.models, old.Alike new := by
        intro new member
        rcases Rows.mem_amend.mp member with ⟨old, listed, _, rfl⟩ | ⟨listed, _⟩
        · exact ⟨old, listed, alike old⟩
        · exact ⟨new, listed, .refl new⟩
      refine ⟨pointing.guarded.of_rows sound kept rfl, ?_⟩
      intro base tag offers new member named
      obtain ⟨old, there, same⟩ := kept new member
      rw [same.name] at named
      rw [Catalogue.MayPoint, same.runtime, same.id]
      exact pointing.may base tag offers old there named
  | aliased entry fresh target source =>
      exact ⟨pointing.guarded.of_rows sound (fun model member => ⟨model, member, .refl model⟩) rfl,
        pointing.may⟩
  | realiased aliasId change keeps target =>
      exact ⟨pointing.guarded.of_rows sound (fun model member => ⟨model, member, .refl model⟩) rfl,
        pointing.may⟩
  | unaliased aliasId =>
      exact ⟨pointing.guarded.of_rows sound (fun model member => ⟨model, member, .refl model⟩) rfl,
        pointing.may⟩

def Discreet (settings : Settings) (sent : List Sent) : Prop :=
  ∀ request ∈ sent, request.apiKey.isSome → Under settings request.address

theorem discreet_provider {provider : Provider}
    (under : ∀ key, provider.apiKey = some key → Under settings provider.baseUrl) :
    Discreet settings [provider.sends] := by
  intro request member keyed
  rw [List.mem_singleton.mp member] at keyed ⊢
  cases held : provider.apiKey with
  | none =>
      rw [Provider.sends, held] at keyed
      cases keyed
  | some key =>
      have here := under key held
      rw [Under, ← bare_dropSlashes] at here
      exact here

theorem Discreet.append {first second : List Sent} (left : Discreet settings first)
    (right : Discreet settings second) : Discreet settings (first ++ second) := by
  intro request member
  rcases List.mem_append.mp member with old | new
  · exact left request old
  · exact right request new

theorem discreet_nil : Discreet settings [] := fun _ member => nomatch member

theorem discreet_call {requested : String} {target : ResolvedTarget}
    (guarded : catalogue.Guarded settings)
    (resolved : catalogue.resolve settings requested = .ok target) :
    Discreet settings [(providerOf settings target).sends] := by
  apply discreet_provider
  intro key held
  obtain ⟨external, set, agree⟩ := externalKeyFor_some held
  cases endpoint : target.model.endpointUrl.filter truthy with
  | none =>
      rw [endpoint] at agree
      exact under_of_trimmed agree
  | some url =>
      rw [endpoint] at agree
      obtain ⟨found, rest, live, address⟩ := Catalogue.resolve_ok resolved
      have stored : target.model.endpointUrl = some url := (Option.filter_eq_some_iff.mp endpoint).1
      have keyed : target.model.Keyed settings := by
        refine ⟨external, set, ?_⟩
        rw [stored]
        exact agree
      obtain ⟨listed, same, url, held⟩ := Catalogue.mem_live (live ▸ List.mem_cons_self ..)
      have under := guarded.confined target.model (Catalogue.lookup_member found) keyed
        target.deployment listed same url held
      change Under settings target.internalUrl
      rw [address, held]
      exact under

theorem guarded_deployed {row : DeploymentRow} (guarded : catalogue.Guarded settings)
    (target : ∃ model ∈ catalogue.models, model.id = row.modelId)
    (stores : ∀ model ∈ catalogue.models, model.id = row.modelId → model.Keyed settings →
      ∀ url, row.internalUrl = some url → Under settings url) :
    (catalogue.addDeployment row).Guarded settings where
  sound := by
    constructor
    · exact guarded.sound.modelIds
    · exact guarded.sound.names
    · exact guarded.sound.aliases
    · exact guarded.sound.aliased
    · intro other listed
      rcases List.mem_append.mp listed with old | new
      · exact guarded.sound.deployed other old
      · rw [List.mem_singleton.mp new]
        exact target
    · exact fun model member => Nat.lt_succ_of_lt (guarded.sound.below model member)
  confined := by
    intro model member keyed other listed same
    rcases List.mem_append.mp listed with old | new
    · exact guarded.confined model member keyed other old same
    · rw [List.mem_singleton.mp new] at same ⊢
      exact stores model member same.symm keyed

theorem guarded_rows {rows : List DeploymentRow} (guarded : catalogue.Guarded settings)
    (kept : ∀ new ∈ rows, ∃ old ∈ catalogue.deployments, new.modelId = old.modelId ∧
      ∀ url, new.internalUrl = some url → old.internalUrl = some url ∨
        ∀ model ∈ catalogue.models, model.id = new.modelId → ¬ model.Keyed settings) :
    ({ catalogue with deployments := rows } : Catalogue).Guarded settings where
  sound := by
    constructor
    · exact guarded.sound.modelIds
    · exact guarded.sound.names
    · exact guarded.sound.aliases
    · exact guarded.sound.aliased
    · intro new listed
      obtain ⟨old, there, same, _⟩ := kept new listed
      rw [same]
      exact guarded.sound.deployed old there
    · exact guarded.sound.below
  confined := by
    intro model member keyed new listed target url held
    obtain ⟨old, there, same, stored⟩ := kept new listed
    rcases stored url held with before | unkeyed
    · exact guarded.confined model member keyed old there (same.symm.trans target) url before
    · exact absurd keyed (unkeyed model member target.symm)

def Careful (settings : Settings) (result : List Sent × Except Refusal Catalogue) : Prop :=
  Discreet settings result.1 ∧ ∀ after, result.2 = .ok after → after.Guarded settings

theorem careful_attach {model : Model} {runtime : String} {probe : Bool × String} {actor : Nat}
    {now : Int} (guarded : catalogue.Guarded settings) (member : model ∈ catalogue.models) :
    Careful settings (attachExternal settings catalogue model runtime probe actor now) := by
  unfold attachExternal
  simp only
  split
  · exact ⟨discreet_nil, nofun⟩
  · constructor
    · apply discreet_provider
      intro key held
      exact under_of_trimmed (externalKeyFor_some held).2.2
    · intro after done
      split at done
      · cases done
      · cases done
        apply guarded_deployed guarded ⟨model, member, rfl⟩
        intro other there same keyed url held
        cases held
        have one : other = model := Rows.key_unique guarded.sound.modelIds member there same
        have agree := keyed.2.2
        rw [one] at agree
        have under := under_of_trimmed agree
        rw [Under, ← bare_strip] at under
        exact under

theorem careful_request {spec : DeploymentRequestSpec} {placed : Except Refusal Deployments.Placement}
    {probe : Bool × String} {actor : Nat} {now : Int} (guarded : catalogue.Guarded settings) :
    Careful settings (requestDeployment settings catalogue spec placed probe actor now) := by
  unfold requestDeployment
  split
  · exact ⟨discreet_nil, nofun⟩
  · rename_i model found
    obtain ⟨member, _⟩ := Rows.get_some found
    simp only
    split
    · exact careful_attach guarded member
    · refine ⟨discreet_nil, fun after done => ?_⟩
      unfold deployManaged at done
      obtain ⟨image, _, done⟩ := bind_ok.mp done
      obtain ⟨reserved, _, done⟩ := bind_ok.mp done
      cases done
      exact guarded_deployed guarded ⟨model, member, rfl⟩ fun _ _ _ _ url held => nomatch held

theorem importModel_guarded {options : ImportOptions} {modelId : Nat}
    (guarded : catalogue.Guarded settings)
    (may : ∀ model ∈ catalogue.models, model.name = platformName settings options.model →
      catalogue.MayPoint settings model (options.address settings))
    (done : importModel settings catalogue options = .ok (modelId, after)) :
    after.Guarded settings := by
  unfold importModel at done
  obtain ⟨_, _, done⟩ := bind_ok.mp done
  obtain ⟨_, _, done⟩ := bind_ok.mp done
  split at done
  · obtain ⟨⟨model, next⟩, registered, done⟩ := bind_ok.mp done
    cases done
    obtain ⟨fresh, admitted, _, rfl⟩ := registerModel_ok registered
    exact guarded_registered (.direct _ rfl) fresh admitted guarded
  · rename_i existing found
    cases done
    obtain ⟨member, named⟩ := Rows.get_some found
    exact guarded_pointed guarded member (fun _ => rfl) (fun _ => rfl) (fun _ => rfl)
      (fun _ => rfl) (may existing member named)

theorem guarded_edits (edits : Edits settings op catalogue after)
    (offers : ∀ base tag, ¬ op.Offers settings base tag) (guarded : catalogue.Guarded settings) :
    after.Guarded settings :=
  (edits.keep (fun _ _ => edit_pointing)
    ⟨guarded, fun base tag offered => absurd offered (offers base tag)⟩).guarded

theorem importAlias_guarded {options : ImportOptions} {modelId : Nat} {now : Int}
    (guarded : catalogue.Guarded settings)
    (done : importAlias settings catalogue options modelId now = .ok after) :
    after.Guarded settings := by
  unfold importAlias at done
  simp only at done
  split at done
  · obtain ⟨⟨record, next⟩, created, done⟩ := bind_ok.mp done
    cases done
    have edits : Edits settings (.createAlias options.aliasName modelId none true now)
        catalogue next := createAlias_edits silent_alias created
    exact guarded_edits edits (fun _ _ offered => offered) guarded
  · split at done
    · cases done
      exact guarded
    · obtain ⟨⟨record, next⟩, updated, done⟩ := bind_ok.mp done
      cases done
      rename_i entry _ _
      have edits : Edits settings (.updateAlias entry.id (some modelId) none (some true))
          catalogue next := updateAlias_edits updated
      exact guarded_edits edits (fun _ _ offered => offered) guarded

theorem careful_import {options : ImportOptions} {probe : Bool × String} {actor : Nat} {now : Int}
    (guarded : catalogue.Guarded settings)
    (may : ∀ model ∈ catalogue.models, model.name = platformName settings options.model →
      catalogue.MayPoint settings model (options.address settings)) :
    Careful settings (externalImport settings catalogue options probe actor now) := by
  unfold externalImport
  split
  · exact ⟨discreet_nil, nofun⟩
  · rename_i modelId pointed done
    have here := importModel_guarded guarded may done
    have deployed : Careful settings
        (importDeployment settings pointed modelId probe actor now) := by
      unfold importDeployment
      split
      · exact careful_request here
      · refine ⟨discreet_nil, fun after same => ?_⟩
        cases same
        exact here
    refine ⟨deployed.1, fun after finished => ?_⟩
    obtain ⟨middle, attached, finished⟩ := bind_ok.mp finished
    exact importAlias_guarded (deployed.2 middle attached) finished

theorem advance_url {finding : Finding} {row : DeploymentRow} {url : String}
    (held : (advance settings finding row).internalUrl = some url) :
    row.internalUrl = some url ∨ (∃ containerId, finding = .answered containerId) ∧
      (row.state = .scheduling ∨ row.state = .requested) := by
  unfold advance at held
  cases state : row.state with
  | scheduling | requested =>
      rw [state] at held
      cases finding with
      | answered containerId => exact .inr ⟨⟨containerId, rfl⟩, by simp⟩
      | _ => exact .inl held
  | creating | starting | healthCheck =>
      rw [state] at held
      cases finding with
      | _ => exact .inl held
  | _ =>
      rw [state] at held
      exact .inl held

theorem advance_modelId (finding : Finding) (row : DeploymentRow) :
    (advance settings finding row).modelId = row.modelId := by
  unfold advance
  cases state : row.state with
  | _ =>
      cases finding with
      | _ => rfl

theorem stopped_url {row : DeploymentRow} {url : String}
    (held : (stopped row).internalUrl = some url) : row.internalUrl = some url := by
  unfold stopped at held
  split at held
  · exact held
  · cases held

theorem stopped_modelId (row : DeploymentRow) : (stopped row).modelId = row.modelId := by
  unfold stopped
  split
  · rfl
  · rfl

theorem restarted_same (refused : Option (Option String)) (row : DeploymentRow) :
    (restarted refused row).modelId = row.modelId ∧
      (restarted refused row).internalUrl = row.internalUrl := by
  unfold restarted
  split
  · exact ⟨rfl, rfl⟩
  · exact ⟨rfl, rfl⟩
  · exact ⟨rfl, rfl⟩

theorem guarded_amended {id : Nat} {change : DeploymentRow → DeploymentRow}
    (guarded : catalogue.Guarded settings)
    (modelId : ∀ row, (change row).modelId = row.modelId)
    (stored : ∀ row ∈ catalogue.deployments, row.id = id → ∀ url,
      (change row).internalUrl = some url → row.internalUrl = some url ∨
        ∀ model ∈ catalogue.models, model.id = row.modelId → ¬ model.Keyed settings) :
    (catalogue.amendDeployment id change).Guarded settings := by
  apply guarded_rows guarded
  intro new listed
  rcases Rows.mem_amend.mp listed with ⟨old, there, same, rfl⟩ | ⟨there, _⟩
  · refine ⟨old, there, modelId old, ?_⟩
    rw [modelId old]
    exact stored old there same
  · exact ⟨new, there, rfl, fun url held => .inl held⟩

theorem discreet_probes (row : DeploymentRow) : Discreet settings (probes row) := by
  have unkeyed : ∀ url, Discreet settings [Provider.sends ⟨url, none⟩] :=
    fun url => discreet_provider fun key held => nomatch held
  unfold probes
  split
  · exact unkeyed _
  · exact unkeyed _
  · exact unkeyed _
  · exact discreet_nil

structure Platform.Safe (settings : Settings) (platform : Platform) : Prop where
  guarded : platform.catalogue.Guarded settings
  discreet : Discreet settings platform.sent

theorem Platform.Safe.settled {platform : Platform} {result : List Sent × Except Refusal Catalogue}
    (safe : platform.Safe settings) (careful : Careful settings result) :
    (platform.settle result).Safe settings where
  guarded := by
    unfold Platform.settle
    cases done : result.2 with
    | error refusal => exact safe.guarded
    | ok after => exact careful.2 after done
  discreet := safe.discreet.append careful.1

theorem Platform.Safe.step {platform : Platform} {action : Action} (safe : platform.Safe settings)
    (meets : action.Meets settings platform) : (platform.step settings action).Safe settings := by
  cases action with
  | registry op =>
      refine ⟨?_, safe.discreet⟩
      simp only [Platform.step]
      cases stepped : platform.catalogue.step settings op with
      | none => exact safe.guarded
      | some after =>
          exact (step_keeps (fun _ _ => edit_pointing) stepped ⟨safe.guarded, meets⟩).guarded
  | externalImport options probe actor now => exact safe.settled (careful_import safe.guarded meets)
  | deploy spec placed probe actor now => exact safe.settled (careful_request safe.guarded)
  | advance deploymentId finding =>
      constructor
      · apply guarded_amended safe.guarded (advance_modelId finding)
        intro row listed same url held
        rcases advance_url held with before | ⟨⟨containerId, rfl⟩, created⟩
        · exact .inl before
        · exact .inr (meets row listed same created)
      · apply safe.discreet.append
        cases platform.catalogue.deploymentById deploymentId with
        | none => exact discreet_nil
        | some row => exact discreet_probes row
  | stop deploymentId =>
      refine ⟨guarded_amended safe.guarded stopped_modelId ?_, safe.discreet⟩
      exact fun row _ _ url held => .inl (stopped_url held)
  | restart deploymentId refused =>
      refine ⟨guarded_amended safe.guarded (fun row => (restarted_same refused row).1) ?_,
        safe.discreet⟩
      intro row _ _ url held
      rw [(restarted_same refused row).2] at held
      exact .inl held
  | delete deploymentId =>
      refine ⟨guarded_rows safe.guarded ?_, safe.discreet⟩
      exact fun row listed =>
        ⟨row, List.mem_of_mem_filter listed, rfl, fun url held => .inl held⟩
  | call requested =>
      simp only [Platform.step, Platform.call]
      split
      · exact safe
      · rename_i target resolved
        exact ⟨safe.guarded, safe.discreet.append (discreet_call safe.guarded resolved)⟩

/-- The states that actions reach from the empty platform when each meets the
condition. -/
abbrev Platform.Runs (settings : Settings) (platform : Platform) : Prop :=
  History (fun platform action => some (Platform.step settings platform action))
    (fun platform action => action.Meets settings platform) ⟨.empty, []⟩ platform

theorem keys_stay_under_endpoint {platform : Platform} (run : platform.Runs settings) :
    ∀ request ∈ platform.sent, request.apiKey.isSome → Under settings request.address := by
  have safe : platform.Safe settings := by
    apply History.keeps (Platform.Safe settings) _ _ run
    · exact ⟨⟨empty_sound, fun model member => nomatch member⟩, discreet_nil⟩
    · rintro state action after meets stepped safe
      cases stepped
      exact safe.step meets
  exact safe.discreet

def importFrom (endpoint : Option String) : Action :=
  .externalImport ⟨endpoint, "qwen2.5", "enterprise-chat", none⟩ (true, "healthy after 1 probe(s)") 1 0

def played (actions : List Action) : Platform :=
  actions.foldl (Platform.step site) ⟨.empty, []⟩

/-- The hosted provider is imported and called. -/
theorem keys_stay_under_endpoint_hosted :
    (⟨"https://openrouter.ai/api/v1", some "sk-or-1"⟩ : Sent) ∈
        (played [importFrom none, .call "enterprise-chat"]).sent ∧
      ∀ request ∈ (played [importFrom none, .call "enterprise-chat"]).sent,
        request.apiKey.isSome → Under site request.address := by
  constructor
  · decide +kernel
  · have meets : (importFrom none).Meets site ⟨.empty, []⟩ := fun model member => nomatch member
    exact keys_stay_under_endpoint
      (.next (.call "enterprise-chat") (.next (importFrom none) .start meets rfl) trivial rfl)

/-- A local engine is imported, then the hosted provider under the same name:
the deployment keeps the address of the engine, which gets the key. -/
theorem key_sent_elsewhere :
    ∃ platform, History (fun platform action => some (Platform.step site platform action))
        (fun _ _ => True) ⟨.empty, []⟩ platform ∧
      ∃ request ∈ platform.sent, request.apiKey = some "sk-or-1" ∧
        ¬ Under site request.address := by
  refine ⟨played [importFrom (some "http://llamacpp:8080"), importFrom none,
    .call "enterprise-chat"], .next (.call "enterprise-chat") (.next (importFrom none)
      (.next (importFrom (some "http://llamacpp:8080")) .start trivial rfl) trivial rfl)
      trivial rfl, ⟨"http://llamacpp:8080", some "sk-or-1"⟩, ?_, rfl, ?_⟩
  · decide +kernel
  · unfold Under
    decide +kernel

end AiPlatform.Serving
