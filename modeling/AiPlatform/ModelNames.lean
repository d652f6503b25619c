import AiPlatform.RegistryEdits

/-!
Models and aliases share one namespace, which callers of the gateway name models
in. `create_alias` refuses the name of a model; a registration does not ask
whether its name is an alias, nor a manifest whether an alias it lists is a model.
-/

namespace AiPlatform.Serving

open Agents (Json Dict strip truthy)

namespace Catalogue

def IsAlias (catalogue : Catalogue) (name : String) : Prop :=
  ∃ entry ∈ catalogue.aliases, entry.aliasName = name

def IsModel (catalogue : Catalogue) (name : String) : Prop :=
  ∃ model ∈ catalogue.models, model.name = name

/-- No alias has the name of a registered model. -/
def NamesApart (catalogue : Catalogue) : Prop :=
  ∀ entry ∈ catalogue.aliases, ∀ model ∈ catalogue.models, entry.aliasName ≠ model.name

/-- What a name can stand for: the model that has it, or one with an alias of it. -/
def Denotes (catalogue : Catalogue) (name : String) (model : Model) : Prop :=
  model ∈ catalogue.models ∧
    (model.name = name ∨ ∃ entry ∈ catalogue.aliases, entry.aliasName = name ∧
      entry.modelId = model.id)

variable {catalogue : Catalogue}

theorem Denotes.unique (sound : catalogue.Sound) (apart : catalogue.NamesApart) {name : String}
    {left right : Model} (first : catalogue.Denotes name left)
    (second : catalogue.Denotes name right) : left = right := by
  obtain ⟨member, named | ⟨entry, listed, named, target⟩⟩ := first
  · obtain ⟨other, same | ⟨entry, listed, same, _⟩⟩ := second
    · exact Rows.key_unique sound.names other member (named.trans same.symm)
    · exact absurd (same.trans named.symm) (apart entry listed left member)
  · obtain ⟨other, same | ⟨another, there, same, target'⟩⟩ := second
    · exact absurd (named.trans same.symm) (apart entry listed right other)
    · have one : entry = another :=
        Rows.key_unique sound.aliases there listed (named.trans same.symm)
      rw [one] at target
      exact Rows.key_unique sound.modelIds other member (target.symm.trans target')

end Catalogue

/-- The names an operation registers models under are no aliases, nor listed as
aliases by the manifests of the same load; and no alias they list is a model. -/
structure Op.Apart (settings : Settings) (catalogue : Catalogue) (op : Op) : Prop where
  registers : ∀ spec, op.Registers settings spec →
    ¬ catalogue.IsAlias spec.name ∧ ¬ op.Lists spec.name
  lists : ∀ name, op.Lists name → ¬ catalogue.IsModel name

theorem apart_register {settings : Settings} {catalogue : Catalogue} {spec : ModelSpec} :
    (Op.register spec).Apart settings catalogue ↔ ¬ catalogue.IsAlias spec.name := by
  have silent : ∀ name, ¬ (Op.register spec).Lists name := by
    rintro name ⟨manifest, declared, declares, _⟩
    exact declares
  constructor
  · exact fun apart => (apart.registers spec (.direct spec rfl)).1
  · refine fun free => ⟨fun other registers => ⟨?_, silent _⟩, fun name lists => ?_⟩
    · cases registers with
      | direct other asked =>
          cases asked
          exact free
      | declared manifest name declares => exact declares.elim
      | offered base tag details offers => exact offers.elim
    · exact absurd lists (silent name)

theorem apart_createAlias {settings : Settings} {catalogue : Catalogue} {aliasName : String}
    {modelId : Nat} {description : Option String} {enabled : Bool} {now : Int} :
    (Op.createAlias aliasName modelId description enabled now).Apart settings catalogue where
  registers spec registers := absurd registers (silent_alias spec)
  lists name lists := by
    obtain ⟨manifest, declared, declares, _⟩ := lists
    exact declares.elim

structure Separates (settings : Settings) (op : Op) (catalogue : Catalogue) : Prop where
  names : catalogue.NamesApart
  apart : op.Apart settings catalogue

variable {settings : Settings} {op : Op} {catalogue after : Catalogue}

theorem Op.Apart.of_names (apart : op.Apart settings catalogue)
    (aliases : ∀ name, after.IsAlias name → catalogue.IsAlias name)
    (models : ∀ name, after.IsModel name → catalogue.IsModel name) : op.Apart settings after where
  registers spec registers :=
    ⟨fun taken => (apart.registers spec registers).1 (aliases _ taken),
      (apart.registers spec registers).2⟩
  lists name lists := fun taken => apart.lists name lists (models _ taken)

theorem Separates.of_names (separates : Separates settings op catalogue)
    (aliases : ∀ name, after.IsAlias name → catalogue.IsAlias name)
    (models : ∀ name, after.IsModel name → catalogue.IsModel name) :
    Separates settings op after where
  names := by
    intro entry listed model member same
    obtain ⟨old, oldListed, oldName⟩ := aliases _ ⟨entry, listed, rfl⟩
    obtain ⟨oldModel, oldMember, oldModelName⟩ := models _ ⟨model, member, rfl⟩
    exact separates.names old oldListed oldModel oldMember
      (oldName.trans (same.trans oldModelName.symm))
  apart := separates.apart.of_names aliases models

theorem amendModel_names {modelId : Nat} {change : Model → Model}
    (kept : ∀ model, (change model).name = model.name) (name : String)
    (taken : (catalogue.amendModel modelId change).IsModel name) : catalogue.IsModel name := by
  obtain ⟨model, member, rfl⟩ := taken
  rcases Rows.mem_amend.mp member with ⟨old, listed, _, rfl⟩ | ⟨listed, _⟩
  · exact ⟨old, listed, (kept old).symm⟩
  · exact ⟨model, listed, rfl⟩

theorem edit_separates (edit : Edit settings op catalogue after)
    (separates : Separates settings op catalogue) : Separates settings op after := by
  cases edit with
  | registered spec registers fresh admitted =>
      obtain ⟨free, unlisted⟩ := separates.apart.registers spec registers
      refine ⟨fun entry listed model member => ?_, ⟨separates.apart.registers, ?_⟩⟩
      · rcases List.mem_append.mp member with old | new
        · exact separates.names entry listed model old
        · rw [List.mem_singleton.mp new]
          exact fun same => free ⟨entry, listed, same⟩
      · rintro name lists ⟨model, member, rfl⟩
        rcases List.mem_append.mp member with old | new
        · exact separates.apart.lists _ lists ⟨model, old, rfl⟩
        · rw [List.mem_singleton.mp new] at lists
          exact unlisted lists
  | repointed base tag offers existing found =>
      exact separates.of_names (fun _ taken => taken) (amendModel_names fun model => rfl)
  | amended modelId change alike =>
      exact separates.of_names (fun _ taken => taken)
        (amendModel_names fun model => (alike model).name)
  | aliased entry fresh target source =>
      have free : ¬ catalogue.IsModel entry.aliasName := by
        rcases source with lists | ⟨unnamed, _⟩
        · exact separates.apart.lists _ lists
        · rintro ⟨model, member, same⟩
          exact Rows.get_none.mp unnamed model member same
      have unregistered : ∀ spec, op.Registers settings spec → spec.name ≠ entry.aliasName := by
        intro spec registers same
        rcases source with lists | ⟨_, silent⟩
        · rw [← same] at lists
          exact (separates.apart.registers spec registers).2 lists
        · exact silent spec registers
      refine ⟨fun other listed model member => ?_, ⟨fun spec registers => ⟨?_, ?_⟩, ?_⟩⟩
      · rcases List.mem_append.mp listed with old | new
        · exact separates.names other old model member
        · rw [List.mem_singleton.mp new]
          exact fun same => free ⟨model, member, same.symm⟩
      · rintro ⟨other, listed, same⟩
        rcases List.mem_append.mp listed with old | new
        · exact (separates.apart.registers spec registers).1 ⟨other, old, same⟩
        · rw [List.mem_singleton.mp new] at same
          exact unregistered spec registers same.symm
      · exact (separates.apart.registers spec registers).2
      · exact separates.apart.lists
  | realiased aliasId change keeps target =>
      apply separates.of_names
      · rintro name ⟨entry, listed, rfl⟩
        rcases Rows.mem_amend.mp listed with ⟨old, there, _, rfl⟩ | ⟨there, _⟩
        · exact ⟨old, there, (keeps old).symm⟩
        · exact ⟨entry, there, rfl⟩
      · exact fun _ taken => taken
  | unaliased aliasId =>
      apply separates.of_names
      · rintro name ⟨entry, listed, named⟩
        exact ⟨entry, List.mem_of_mem_filter listed, named⟩
      · exact fun _ taken => taken

theorem names_denote_one {start final : Catalogue} (sound : start.Sound)
    (apart : start.NamesApart)
    (run : History (Catalogue.step settings) (fun catalogue op => op.Apart settings catalogue)
      start final) :
    final.NamesApart ∧ ∀ name left right, final.Denotes name left → final.Denotes name right →
      left = right := by
  have keeps : final.Sound ∧ final.NamesApart := by
    apply History.keeps (fun state => state.Sound ∧ state.NamesApart) ⟨sound, apart⟩ _ run
    rintro state op after meets stepped ⟨sound, apart⟩
    constructor
    · exact step_sound stepped sound
    · exact (step_keeps (fun _ _ => edit_separates) stepped ⟨apart, meets⟩).names
  exact ⟨keeps.2, fun _ _ _ => Catalogue.Denotes.unique keeps.1 keeps.2⟩

def site : Settings where
  idText _ := "0"
  numberText _ := "0.9"
  runtimeImages := []
  defaultRuntime := "vllm"
  network := "models"
  managedLabel := "managed"
  healthTimeoutSeconds := 60
  healthIntervalSeconds := 1
  externalEndpoint := some "https://openrouter.ai/api/v1"
  externalApiKey := some "sk-or-1"
  runtimeHealthPaths := []
  str _ := ""
  lower text := text
  validAuthority _ := true
  ollamaEndpoint := "http://host.docker.internal:11434"
  rootPath := "/models"

def weights (name : String) : ModelSpec where
  name := name
  displayName := name
  type := "LLM"
  storagePath := "/models/" ++ name
  runtime := "vllm"
  version := "1.0"
  architecture := none
  parameterCount := none
  quantization := none
  contextLength := none
  requiredGpuMemoryMib := none
  minGpuCount := 1
  description := none
  endpointUrl := none
  metadata := []

def aliasedModel (aliasName : String) : Catalogue :=
  ⟨[(weights "llama").model 0], [⟨1, aliasName, 0, none, true, 0⟩], [], 2⟩

theorem names_denote_one_aliased :
    (aliasedModel "fast").NamesApart ∧
      ∀ name left right, (aliasedModel "fast").Denotes name left →
        (aliasedModel "fast").Denotes name right → left = right := by
  have free : ¬ Catalogue.empty.IsAlias "llama" := fun ⟨entry, listed, _⟩ => nomatch listed
  have run : History (Catalogue.step site) (fun catalogue op => op.Apart site catalogue)
      .empty (aliasedModel "fast") :=
    .next (.createAlias "fast" 0 none true 0)
      (.next (.register (weights "llama")) .start (apart_register.mpr free) rfl)
      apart_createAlias rfl
  exact names_denote_one empty_sound (fun entry listed => nomatch listed) run

/-- An alias is created, and then a model is registered under its name. -/
theorem registered_over_alias :
    ∃ final, History (Catalogue.step site) (fun _ _ => True) .empty final ∧
      ¬ final.NamesApart ∧ ∃ left right, final.Denotes "chat" left ∧
        final.Denotes "chat" right ∧ left ≠ right := by
  let final : Catalogue := (aliasedModel "chat").addModel (weights "chat")
  have run : History (Catalogue.step site) (fun _ _ => True) .empty final :=
    .next (.register (weights "chat")) (.next (.createAlias "chat" 0 none true 0)
      (.next (.register (weights "llama")) .start trivial rfl) trivial rfl) trivial rfl
  have entry : (⟨1, "chat", 0, none, true, 0⟩ : ModelAlias) ∈ final.aliases := .head _
  have llama : (weights "llama").model 0 ∈ final.models := .head _
  have chat : (weights "chat").model 2 ∈ final.models := .tail _ (.head _)
  refine ⟨final, run, fun apart => apart _ entry _ chat rfl, _, _, ⟨llama, .inr ?_⟩,
    ⟨chat, .inl rfl⟩, ?_⟩
  · exact ⟨_, entry, rfl, rfl⟩
  · exact fun same => absurd (congrArg Model.id same) (by decide)

end AiPlatform.Serving
