import AiPlatform.ModelNames
import AiPlatform.DeploymentService

/-!
How `GatewayService` of `app/services/gateway.py` turns a name into an endpoint,
what its model list offers, and the provider that requests go through. The list
offers what has a deployment in the state RUNNING; a name resolves to one that
has a URL as well, and an alias stands before a model of the same name even when
the list passes it over.
-/

namespace AiPlatform.Serving

open Agents (truthy)
open Deployments (externalKeyFor)

structure ResolvedTarget where
  requestedModel : String
  model : Model
  deployment : DeploymentRow
  internalUrl : String
  servedModelName : String

structure Listing where
  id : String
  object : String
  created : Int
  ownedBy : String
  contextLength : Option Nat

structure Offer where
  id : String
  createdAt : Int
  model : Model

/-- `int(created_at.timestamp())` -/
def seconds (moment : Int) : Int := moment.tdiv 1000000

def Offer.listing (offer : Offer) : Listing :=
  ⟨offer.id, "model", seconds offer.createdAt, "ai-platform", offer.model.contextLength⟩

structure Provider where
  baseUrl : String
  apiKey : Option String

/-- `_provider` -/
def providerOf (settings : Settings) (target : ResolvedTarget) : Provider :=
  ⟨target.internalUrl, externalKeyFor settings.toSettings target.model.runtime
    ((target.model.endpointUrl.filter truthy).getD target.internalUrl)⟩

namespace Catalogue

def lookup (catalogue : Catalogue) (requested : String) : Option Model :=
  match catalogue.aliasByName requested with
  | some entry => catalogue.modelById entry.modelId
  | none => catalogue.modelByName requested

/-- `[d for d in serving if d.internal_url]` -/
def live (catalogue : Catalogue) (modelId : Nat) : List DeploymentRow :=
  (catalogue.servingForModel modelId).filter fun row => row.internalUrl.any truthy

def resolve (settings : Settings) (catalogue : Catalogue) (requested : String) :
    Except AppError ResolvedTarget :=
  match catalogue.lookup requested with
  | none =>
      let available := (catalogue.aliases.map ModelAlias.aliasName).mergeSort
      .error ⟨.notFound, s!"No model or alias named '{requested}'.",
        [("available", String.intercalate ", " (available.take 20))]⟩
  | some model =>
      match catalogue.live model.id with
      | [] =>
          let name := model.name
          .error ⟨.dependencyUnavailable,
            s!"'{name}' is not currently deployed. Deploy it before calling it.",
            [("model", name)]⟩
      | deployment :: _ =>
          .ok ⟨requested, model, deployment, deployment.internalUrl.getD "",
            model.servedModelName settings⟩

/-- The offers of the aliases, in the first loop of `list_available`. -/
def aliasOffers (catalogue : Catalogue) : List Offer :=
  catalogue.aliases.filterMap fun entry =>
    if entry.enabled ∧ catalogue.servingForModel entry.modelId ≠ [] then
      (catalogue.modelById entry.modelId).map (⟨entry.aliasName, entry.createdAt, ·⟩)
    else none

def addDeployments (catalogue : Catalogue) : List DeploymentRow → List Offer → List Offer
  | [], offers => offers
  | row :: rest, offers =>
      match catalogue.modelById row.modelId with
      | none => addDeployments catalogue rest offers
      | some model =>
          if offers.any fun offer => offer.id = model.name then
            addDeployments catalogue rest offers
          else addDeployments catalogue rest (offers ++ [⟨model.name, row.createdAt, model⟩])

/-- `list_deployments(states=["RUNNING"])`, newest first. -/
def running (catalogue : Catalogue) : List DeploymentRow :=
  (catalogue.deployments.filter fun row => row.state = .running).reverse

def offers (catalogue : Catalogue) : List Offer :=
  catalogue.addDeployments catalogue.running catalogue.aliasOffers

def listAvailable (catalogue : Catalogue) : List Listing :=
  (catalogue.offers.map Offer.listing).mergeSort fun left right => left.id ≤ right.id

/-- Every offer of the list resolves to the model it lists, and every name that
resolves is on the list. -/
structure Agrees (settings : Settings) (catalogue : Catalogue) : Prop where
  resolves : ∀ offer ∈ catalogue.offers, ∃ target,
    catalogue.resolve settings offer.listing.id = .ok target ∧ target.model = offer.model
  listed : ∀ name target, catalogue.resolve settings name = .ok target →
    ∃ entry ∈ catalogue.listAvailable, entry.id = name

/-- A model that is running has a URL under the names the list gives it, and no
enabled alias hides it that points at a model which is not running. -/
structure Resolvable (catalogue : Catalogue) : Prop where
  aliases : ∀ entry ∈ catalogue.aliases, entry.enabled = true →
    catalogue.servingForModel entry.modelId ≠ [] → catalogue.live entry.modelId ≠ []
  shadows : ∀ model ∈ catalogue.models, catalogue.servingForModel model.id ≠ [] →
    ∀ entry ∈ catalogue.aliases, entry.enabled = true → entry.aliasName = model.name →
      catalogue.servingForModel entry.modelId ≠ []
  names : ∀ model ∈ catalogue.models, catalogue.servingForModel model.id ≠ [] →
    (∀ entry ∈ catalogue.aliases, entry.enabled = true → entry.aliasName ≠ model.name) →
      catalogue.live model.id ≠ []

variable {settings : Settings} {catalogue : Catalogue}

theorem mem_listAvailable {entry : Listing} :
    entry ∈ catalogue.listAvailable ↔ ∃ offer ∈ catalogue.offers, offer.listing = entry := by
  rw [listAvailable, List.mem_mergeSort, List.mem_map]

theorem aliasByName_some {name : String} {entry : ModelAlias}
    (found : catalogue.aliasByName name = some entry) :
    entry ∈ catalogue.aliases ∧ entry.aliasName = name ∧ entry.enabled = true := by
  constructor
  · exact List.mem_of_find?_eq_some found
  · simpa using List.find?_some found

theorem aliasByName_none {name : String} :
    catalogue.aliasByName name = none ↔
      ∀ entry ∈ catalogue.aliases, entry.enabled = true → entry.aliasName ≠ name := by
  rw [aliasByName, List.find?_eq_none]
  constructor
  · intro absent entry listed enabled named
    exact absent entry listed (by simp [enabled, named])
  · intro absent entry listed chosen
    obtain ⟨named, enabled⟩ : entry.aliasName = name ∧ entry.enabled = true := by
      simpa using chosen
    exact absent entry listed enabled named

theorem Sound.alias_found (sound : catalogue.Sound) {entry : ModelAlias}
    (listed : entry ∈ catalogue.aliases) (enabled : entry.enabled = true) :
    catalogue.aliasByName entry.aliasName = some entry := by
  cases found : catalogue.aliasByName entry.aliasName with
  | none => exact absurd rfl (aliasByName_none.mp found entry listed enabled)
  | some other =>
      obtain ⟨there, same, _⟩ := aliasByName_some found
      rw [Rows.key_unique sound.aliases listed there same]

theorem Sound.lookup_alias (sound : catalogue.Sound) {entry : ModelAlias}
    (listed : entry ∈ catalogue.aliases) (enabled : entry.enabled = true) :
    catalogue.lookup entry.aliasName = catalogue.modelById entry.modelId := by
  unfold lookup
  rw [sound.alias_found listed enabled]

theorem Sound.lookup_model (sound : catalogue.Sound) {model : Model}
    (member : model ∈ catalogue.models)
    (unaliased : ∀ entry ∈ catalogue.aliases, entry.enabled = true →
      entry.aliasName ≠ model.name) : catalogue.lookup model.name = some model := by
  unfold lookup
  rw [aliasByName_none.mpr unaliased]
  exact Rows.get_row sound.names member

theorem lookup_member {name : String} {model : Model}
    (found : catalogue.lookup name = some model) : model ∈ catalogue.models := by
  unfold lookup at found
  split at found
  · exact (Rows.get_some found).1
  · exact (Rows.get_some found).1

theorem mem_live {modelId : Nat} {row : DeploymentRow} (member : row ∈ catalogue.live modelId) :
    row ∈ catalogue.deployments ∧ row.modelId = modelId ∧ ∃ url, row.internalUrl = some url := by
  obtain ⟨serving, url⟩ := List.mem_filter.mp member
  obtain ⟨listed, serves⟩ := List.mem_filter.mp serving
  obtain ⟨url, stored, _⟩ := (Option.any_eq_true _ _).mp url
  obtain ⟨same, _⟩ : row.modelId = modelId ∧ row.state = .running := by simpa using serves
  exact ⟨listed, same, url, stored⟩

theorem resolve_ok {name : String} {target : ResolvedTarget}
    (resolved : catalogue.resolve settings name = .ok target) :
    catalogue.lookup name = some target.model ∧
      ∃ rest, catalogue.live target.model.id = target.deployment :: rest ∧
        target.internalUrl = target.deployment.internalUrl.getD "" := by
  unfold resolve at resolved
  split at resolved
  · cases resolved
  · rename_i model found
    split at resolved
    · cases resolved
    · rename_i deployment rest live
      cases resolved
      exact ⟨found, rest, live, rfl⟩

theorem resolves_iff {name : String} {model : Model} (found : catalogue.lookup name = some model) :
    (∃ target, catalogue.resolve settings name = .ok target ∧ target.model = model) ↔
      catalogue.live model.id ≠ [] := by
  unfold resolve
  rw [found]
  cases live : catalogue.live model.id with
  | nil => simp [live]
  | cons deployment rest => simp [live]

theorem live_serving {modelId : Nat} (live : catalogue.live modelId ≠ []) :
    catalogue.servingForModel modelId ≠ [] := by
  intro none
  exact live (by rw [Catalogue.live, none]; rfl)

theorem mem_aliasOffers {offer : Offer} :
    offer ∈ catalogue.aliasOffers ↔
      ∃ entry ∈ catalogue.aliases, entry.enabled = true ∧
        catalogue.servingForModel entry.modelId ≠ [] ∧
        ∃ model, catalogue.modelById entry.modelId = some model ∧
          offer = ⟨entry.aliasName, entry.createdAt, model⟩ := by
  rw [aliasOffers, List.mem_filterMap]
  constructor
  · rintro ⟨entry, listed, made⟩
    split at made
    · rename_i chosen
      obtain ⟨model, found, rfl⟩ := Option.map_eq_some_iff.mp made
      exact ⟨entry, listed, chosen.1, chosen.2, model, found, rfl⟩
    · cases made
  · rintro ⟨entry, listed, enabled, serving, model, found, rfl⟩
    refine ⟨entry, listed, ?_⟩
    rw [if_pos ⟨enabled, serving⟩, found]
    rfl

theorem addDeployments_keeps {rows : List DeploymentRow} {offers : List Offer} {offer : Offer}
    (member : offer ∈ offers) : offer ∈ catalogue.addDeployments rows offers := by
  induction rows generalizing offers with
  | nil => exact member
  | cons row rest ih =>
      unfold addDeployments
      split
      · exact ih member
      · split
        · exact ih member
        · exact ih (List.mem_append_left _ member)

theorem mem_addDeployments {rows : List DeploymentRow} {offers : List Offer} {offer : Offer}
    (member : offer ∈ catalogue.addDeployments rows offers) :
    offer ∈ offers ∨ offer.id = offer.model.name ∧ (∀ other ∈ offers, other.id ≠ offer.id) ∧
      ∃ row ∈ rows, catalogue.modelById row.modelId = some offer.model := by
  induction rows generalizing offers with
  | nil => exact .inl member
  | cons row rest ih =>
      unfold addDeployments at member
      split at member
      · rcases ih member with old | ⟨named, fresh, other, listed, found⟩
        · exact .inl old
        · exact .inr ⟨named, fresh, other, List.mem_cons_of_mem _ listed, found⟩
      · rename_i model found
        split at member
        · rcases ih member with old | ⟨named, fresh, other, listed, found⟩
          · exact .inl old
          · exact .inr ⟨named, fresh, other, List.mem_cons_of_mem _ listed, found⟩
        · rename_i unseen
          rcases ih member with old | ⟨named, fresh, other, listed, found⟩
          · rcases List.mem_append.mp old with old | new
            · exact .inl old
            · rw [List.mem_singleton.mp new]
              refine .inr ⟨rfl, fun other listed same => unseen ?_, row, List.mem_cons_self .., found⟩
              exact List.any_eq_true.mpr ⟨other, listed, by simpa using same⟩
          · refine .inr ⟨named, fun other listed => fresh other ?_, other,
              List.mem_cons_of_mem _ listed, found⟩
            exact List.mem_append_left _ listed

theorem addDeployments_names {rows : List DeploymentRow} {offers : List Offer}
    {row : DeploymentRow} {model : Model} (member : row ∈ rows)
    (found : catalogue.modelById row.modelId = some model) :
    ∃ offer ∈ catalogue.addDeployments rows offers, offer.id = model.name := by
  induction rows generalizing offers with
  | nil => cases member
  | cons first rest ih =>
      rcases List.mem_cons.mp member with rfl | later
      · unfold addDeployments
        rw [found]
        simp only
        split
        · rename_i seen
          obtain ⟨offer, listed, same⟩ := List.any_eq_true.mp seen
          exact ⟨offer, addDeployments_keeps listed, by simpa using same⟩
        · exact ⟨_, addDeployments_keeps (List.mem_append_right _ (List.mem_singleton_self _)), rfl⟩
      · unfold addDeployments
        split
        · exact ih later
        · split
          · exact ih later
          · exact ih later

theorem serving_row {modelId : Nat} :
    catalogue.servingForModel modelId ≠ [] ↔ ∃ row ∈ catalogue.running, row.modelId = modelId := by
  simp only [running, List.mem_reverse, List.mem_filter, decide_eq_true_eq]
  constructor
  · intro serving
    obtain ⟨row, member⟩ := List.exists_mem_of_ne_nil _ serving
    obtain ⟨listed, serves⟩ := List.mem_filter.mp member
    obtain ⟨same, state⟩ : row.modelId = modelId ∧ row.state = .running := by simpa using serves
    exact ⟨row, ⟨listed, state⟩, same⟩
  · rintro ⟨row, ⟨listed, state⟩, same⟩
    exact List.ne_nil_of_mem (List.mem_filter.mpr ⟨listed, by simp [same, state]⟩)

theorem Sound.running_offered (sound : catalogue.Sound) {model : Model}
    (member : model ∈ catalogue.models) (serving : catalogue.servingForModel model.id ≠ []) :
    ∃ offer ∈ catalogue.offers, offer.id = model.name := by
  obtain ⟨row, listed, same⟩ := serving_row.mp serving
  apply addDeployments_names listed
  rw [same]
  exact Rows.get_row sound.modelIds member

theorem Sound.alias_offered (sound : catalogue.Sound) {entry : ModelAlias}
    (listed : entry ∈ catalogue.aliases) (enabled : entry.enabled = true)
    (serving : catalogue.servingForModel entry.modelId ≠ []) :
    ∃ model createdAt, catalogue.modelById entry.modelId = some model ∧
      (⟨entry.aliasName, createdAt, model⟩ : Offer) ∈ catalogue.aliasOffers := by
  obtain ⟨model, member, same⟩ := sound.aliased entry listed
  have found : catalogue.modelById entry.modelId = some model := by
    rw [← same]
    exact Rows.get_row sound.modelIds member
  exact ⟨model, entry.createdAt, found,
    mem_aliasOffers.mpr ⟨entry, listed, enabled, serving, model, found, rfl⟩⟩

theorem Agrees.resolvable (sound : catalogue.Sound) (agrees : catalogue.Agrees settings) :
    catalogue.Resolvable := by
  -- The name of a running model resolves, since the list offers it.
  have named : ∀ model ∈ catalogue.models, catalogue.servingForModel model.id ≠ [] →
      ∃ target, catalogue.resolve settings model.name = .ok target := by
    intro model member serving
    obtain ⟨offer, listed, same⟩ := sound.running_offered member serving
    obtain ⟨target, resolved, _⟩ := agrees.resolves offer listed
    rw [← same]
    exact ⟨target, resolved⟩
  constructor
  · intro entry listed enabled serving
    obtain ⟨model, createdAt, found, offered⟩ := sound.alias_offered listed enabled serving
    obtain ⟨target, resolved, same⟩ := agrees.resolves _ (addDeployments_keeps offered)
    obtain ⟨_, rest, live, _⟩ := resolve_ok resolved
    have keyed : target.model.id = entry.modelId := by
      rw [same]
      exact (Rows.get_some found).2
    rw [← keyed, live]
    exact List.cons_ne_nil _ _
  · intro model member serving entry listed enabled same
    obtain ⟨target, resolved⟩ := named model member serving
    obtain ⟨found, rest, live, _⟩ := resolve_ok resolved
    have behind := sound.lookup_alias listed enabled
    rw [same, found] at behind
    rw [← (Rows.get_some behind.symm).2]
    exact live_serving (by rw [live]; exact List.cons_ne_nil _ _)
  · intro model member serving unaliased
    obtain ⟨target, resolved⟩ := named model member serving
    obtain ⟨found, rest, live, _⟩ := resolve_ok resolved
    rw [sound.lookup_model member unaliased] at found
    cases found
    rw [live]
    exact List.cons_ne_nil _ _

theorem Sound.resolved_listed (sound : catalogue.Sound) {name : String} {target : ResolvedTarget}
    (resolved : catalogue.resolve settings name = .ok target) :
    ∃ offer ∈ catalogue.offers, offer.id = name := by
  obtain ⟨found, rest, live, _⟩ := resolve_ok resolved
  have serving : catalogue.servingForModel target.model.id ≠ [] :=
    live_serving (by rw [live]; exact List.cons_ne_nil _ _)
  unfold lookup at found
  split at found
  · rename_i entry chosen
    obtain ⟨listed, rfl, enabled⟩ := aliasByName_some chosen
    rw [(Rows.get_some found).2] at serving
    obtain ⟨model, createdAt, _, offered⟩ := sound.alias_offered listed enabled serving
    exact ⟨_, addDeployments_keeps offered, rfl⟩
  · obtain ⟨member, rfl⟩ := Rows.get_some found
    exact sound.running_offered member serving

theorem Resolvable.agrees (sound : catalogue.Sound) (resolvable : catalogue.Resolvable) :
    catalogue.Agrees settings := by
  constructor
  · intro offer member
    rcases mem_addDeployments member with aliased | ⟨named, fresh, row, listed, found⟩
    · obtain ⟨entry, listed, enabled, serving, model, found, rfl⟩ := mem_aliasOffers.mp aliased
      have lookup := (sound.lookup_alias listed enabled).trans found
      refine (resolves_iff lookup).mpr ?_
      rw [(Rows.get_some found).2]
      exact resolvable.aliases entry listed enabled serving
    · obtain ⟨member, keyed⟩ := Rows.get_some found
      have serving : catalogue.servingForModel offer.model.id ≠ [] :=
        serving_row.mpr ⟨row, listed, keyed.symm⟩
      -- An enabled alias of the name would be on the list before the model.
      have unaliased : ∀ entry ∈ catalogue.aliases, entry.enabled = true →
          entry.aliasName ≠ offer.model.name := by
        intro entry there enabled same
        have shown := resolvable.shadows offer.model member serving entry there enabled same
        obtain ⟨model, createdAt, _, offered⟩ := sound.alias_offered there enabled shown
        exact fresh _ offered (same.trans named.symm)
      have lookup := sound.lookup_model member unaliased
      rw [← named] at lookup
      exact (resolves_iff lookup).mpr (resolvable.names offer.model member serving unaliased)
  · intro name target resolved
    obtain ⟨offer, listed, same⟩ := sound.resolved_listed resolved
    exact ⟨offer.listing, mem_listAvailable.mpr ⟨offer, listed, rfl⟩, same⟩

theorem agrees_iff (sound : catalogue.Sound) :
    catalogue.Agrees settings ↔ catalogue.Resolvable :=
  ⟨fun agrees => agrees.resolvable sound, fun resolvable => resolvable.agrees sound⟩

def runningRow (modelId : Nat) (internalUrl : Option String) : DeploymentRow where
  id := 7
  modelId := modelId
  nodeId := none
  state := .running
  stateDetail := none
  gpuIndices := []
  reservationId := none
  runtime := "vllm"
  image := ""
  containerId := none
  containerName := none
  internalPort := 8000
  internalUrl := internalUrl
  tensorParallelSize := 1
  maxModelLen := none
  gpuMemoryUtilization := 9 / 10
  errorMessage := none
  logsExcerpt := none
  requestedBy := none
  createdAt := 0

/-- The model behind the alias `fast` is running. -/
def served : Catalogue :=
  { aliasedModel "fast" with deployments := [runningRow 0 (some "http://llama:8000")] }

theorem agrees_iff_served : served.Agrees site := by
  have sound : served.Sound := by
    constructor <;> simp [served, aliasedModel, runningRow, ModelSpec.model]
  have live : ∀ modelId, served.servingForModel modelId ≠ [] → served.live modelId ≠ [] := by
    intro modelId serving none
    obtain ⟨row, listed, same⟩ := serving_row.mp serving
    obtain ⟨only, _⟩ : row = runningRow 0 (some "http://llama:8000") ∧ row.state = .running := by
      simpa [running, served] using listed
    subst only
    subst same
    cases none
  apply (agrees_iff sound).mpr
  constructor
  · exact fun entry _ _ => live entry.modelId
  · intro model member _ entry listed _ same
    cases List.mem_singleton.mp member
    cases List.mem_singleton.mp listed
    exact absurd same (by decide)
  · exact fun model _ serving _ => live model.id serving

/-- `chat` is an alias of a model that is not deployed, and a model that is. -/
def shadowed : Catalogue :=
  { (aliasedModel "chat").addModel (weights "chat") with
    deployments := [runningRow 2 (some "http://chat:8000")] }

theorem shadowed_listing : shadowed.Sound ∧ ¬ shadowed.Agrees site := by
  have sound : shadowed.Sound := by
    constructor <;> simp [shadowed, aliasedModel, Catalogue.addModel, runningRow,
      ModelSpec.model, weights]
  refine ⟨sound, fun agrees => ?_⟩
  obtain ⟨target, resolved, _⟩ := agrees.resolves
    ⟨"chat", 0, (weights "chat").model 2⟩ (.head _)
  cases resolved

end Catalogue

end AiPlatform.Serving
