import AiPlatform.RegistryEvolution

/-!
An import of definitions manifest by manifest: what the import of one comes to,
when it goes through, and which names, slugs and keys the tables have after a
stage.
-/

namespace AiPlatform.Registries

open Agents (Json Dict ToolType RiskLevel McpServer Skill Agent AgentVersionRow truthy strip)

section Stage

variable {Manifest : Type} {taken : Catalogue → Manifest → Attempt DefinitionResult}
  {catalogue final : Catalogue} {results : List DefinitionResult}

theorem importEach_nil :
    importEach taken [] catalogue = .ok (results, final) ↔ results = [] ∧ final = catalogue := by
  constructor
  · intro imported
    cases imported
    exact ⟨rfl, rfl⟩
  · rintro ⟨rfl, rfl⟩
    rfl

theorem importEach_cons {manifest : Manifest} {rest : List Manifest} :
    importEach taken (manifest :: rest) catalogue = .ok (results, final) ↔
      ∃ result after others, taken catalogue manifest = .ok (result, after) ∧
        importEach taken rest after = .ok (others, final) ∧ results = result :: others := by
  constructor
  · intro imported
    simp only [importEach] at imported
    split at imported
    · cases imported
    · rename_i result after one
      split at imported
      · cases imported
      · rename_i others last more
        cases imported
        exact ⟨result, after, others, one, more, rfl⟩
  · rintro ⟨result, after, others, one, more, rfl⟩
    simp only [importEach, one, more]

theorem importEach_append {first second : List Manifest} :
    importEach taken (first ++ second) catalogue = .ok (results, final) ↔
      ∃ ones middle others, importEach taken first catalogue = .ok (ones, middle) ∧
        importEach taken second middle = .ok (others, final) ∧ results = ones ++ others := by
  induction first generalizing catalogue results with
  | nil =>
      constructor
      · exact fun imported => ⟨[], catalogue, results, rfl, imported, rfl⟩
      · rintro ⟨ones, middle, others, empty, more, rfl⟩
        obtain ⟨rfl, rfl⟩ := importEach_nil.mp empty
        exact more
  | cons manifest rest ih =>
      rw [List.cons_append, importEach_cons]
      constructor
      · rintro ⟨result, after, others, one, more, rfl⟩
        obtain ⟨ones, middle, last, first, second, rfl⟩ := ih.mp more
        exact ⟨result :: ones, middle, last,
          importEach_cons.mpr ⟨result, after, ones, one, first, rfl⟩, second, rfl⟩
      · rintro ⟨ones, middle, others, first, second, rfl⟩
        obtain ⟨result, after, more, one, tail, rfl⟩ := importEach_cons.mp first
        exact ⟨result, after, more ++ others, one, ih.mpr ⟨more, middle, others, tail, second, rfl⟩,
          rfl⟩

theorem importEach_length {manifests : List Manifest}
    (imported : importEach taken manifests catalogue = .ok (results, final)) :
    results.length = manifests.length := by
  induction manifests generalizing catalogue results with
  | nil =>
      obtain ⟨rfl, _⟩ := importEach_nil.mp imported
      rfl
  | cons manifest rest ih =>
      obtain ⟨result, after, others, _, more, rfl⟩ := importEach_cons.mp imported
      rw [List.length_cons, List.length_cons, ih more]

theorem importEach_place {before rest : List Manifest} {manifest : Manifest}
    (imported : importEach taken (before ++ manifest :: rest) catalogue = .ok (results, final)) :
    ∃ ones middle result after more, results = ones ++ result :: more ∧
      ones.length = before.length ∧ importEach taken before catalogue = .ok (ones, middle) ∧
      taken middle manifest = .ok (result, after) ∧
      importEach taken rest after = .ok (more, final) := by
  obtain ⟨ones, middle, others, first, second, rfl⟩ := importEach_append.mp imported
  obtain ⟨result, after, more, one, last, rfl⟩ := importEach_cons.mp second
  exact ⟨ones, middle, result, after, more, rfl, importEach_length first, first, one, last⟩

theorem importEach_keeps {holds : Catalogue → Prop} {manifests : List Manifest}
    (kept : ∀ {catalogue manifest result after}, holds catalogue →
      taken catalogue manifest = .ok (result, after) → holds after)
    (imported : importEach taken manifests catalogue = .ok (results, final))
    (start : holds catalogue) : holds final := by
  induction manifests generalizing catalogue results with
  | nil =>
      obtain ⟨_, rfl⟩ := importEach_nil.mp imported
      exact start
  | cons manifest rest ih =>
      obtain ⟨result, after, others, one, more, _⟩ := importEach_cons.mp imported
      exact ih more (kept start one)

theorem importEach_iff {holds : Catalogue → Prop}
    {Fine : Catalogue → List Manifest → Manifest → Prop}
    (takes : ∀ {catalogue}, holds catalogue → ∀ manifest,
      (∃ result after, taken catalogue manifest = .ok (result, after)) ↔
        Fine catalogue [] manifest)
    (moves : ∀ {catalogue manifest result after}, holds catalogue →
      taken catalogue manifest = .ok (result, after) →
        holds after ∧ ∀ before other,
          Fine catalogue (manifest :: before) other ↔ Fine after before other)
    {manifests : List Manifest} (start : holds catalogue) :
    (∃ results after, importEach taken manifests catalogue = .ok (results, after)) ↔
      ∀ before manifest rest, manifests = before ++ manifest :: rest →
        Fine catalogue before manifest := by
  induction manifests generalizing catalogue with
  | nil =>
      constructor
      · intro _ before manifest rest parts
        cases before <;> cases parts
      · exact fun _ => ⟨[], catalogue, rfl⟩
  | cons manifest rest ih =>
      constructor
      · rintro ⟨results, final, imported⟩ before other last parts
        obtain ⟨result, after, others, one, more, _⟩ := importEach_cons.mp imported
        cases before with
        | nil =>
            obtain ⟨rfl, _⟩ := List.cons.inj parts
            exact (takes start _).mp ⟨result, after, one⟩
        | cons head tail =>
            obtain ⟨rfl, tails⟩ := List.cons.inj parts
            obtain ⟨held, same⟩ := moves start one
            exact (same tail other).mpr ((ih held).mp ⟨others, final, more⟩ tail other last tails)
      · intro fine
        obtain ⟨result, after, one⟩ := (takes start manifest).mpr (fine [] manifest rest rfl)
        obtain ⟨held, same⟩ := moves start one
        obtain ⟨others, final, more⟩ := (ih held).mpr fun before other last parts =>
          (same before other).mp
            (fine (manifest :: before) other last (congrArg (manifest :: ·) parts))
        exact ⟨result :: others, final, importEach_cons.mpr ⟨result, after, others, one, more, rfl⟩⟩

end Stage

section Tools

variable {platform : Platform} {catalogue after : Catalogue} {result : DefinitionResult}

/-- The types and the columns of `tools` take the manifest. -/
def ToolManifest.storable (manifest : ToolManifest) : Bool :=
  (RiskLevel.ofText manifest.arguments.riskLevel).isSome && manifest.arguments.fits

def ToolManifest.offers (manifest : ToolManifest) : Bool :=
  truthy manifest.name && !manifest.malformed &&
    (ToolType.ofText manifest.arguments.toolType).isSome

inductive ToolImported (catalogue : Catalogue) (manifest : ToolManifest) :
    Attempt DefinitionResult → Prop
  | kept (result : DefinitionResult)
      (idle : (catalogue.toolByName manifest.name).isSome = true ∨ manifest.offers = false)
      (reported : result.action = .skipped ∨ (catalogue.toolByName manifest.name).isSome = true) :
      ToolImported catalogue manifest (.ok (result, catalogue))
  | created (tool : ToolRow) (result : DefinitionResult)
      (free : (catalogue.toolByName manifest.name).isSome = false)
      (offers : manifest.offers = true) (storable : manifest.storable = true)
      (named : tool.name = manifest.name) (keyed : tool.id = catalogue.nextId)
      (reported : result.action = .created) :
      ToolImported catalogue manifest (.ok (result, { catalogue with
        tools := catalogue.tools ++ [tool], nextId := catalogue.nextId + 1 }))
  | refused (constraint : String) (free : (catalogue.toolByName manifest.name).isSome = false)
      (offers : manifest.offers = true) (unstorable : manifest.storable = false) :
      ToolImported catalogue manifest (.error (.integrity constraint, catalogue))

theorem importTool_imported (manifest : ToolManifest) :
    ToolImported catalogue manifest (importTool platform catalogue manifest) := by
  unfold importTool
  cases named : truthy manifest.name with
  | false => exact .kept _ (.inr (by simp [ToolManifest.offers, named])) (.inl rfl)
  | true =>
      cases known : (catalogue.toolByName manifest.name).isSome with
      | true => exact .kept _ (.inl known) (.inr known)
      | false =>
          cases malformed : manifest.malformed with
          | true => exact .kept _ (.inr (by simp [ToolManifest.offers, malformed])) (.inl rfl)
          | false =>
              have free : (catalogue.toolByName manifest.arguments.name).isSome = false := known
              simp only [Bool.not_true, Bool.false_eq_true, if_false, registerTool, free]
              cases type : ToolType.ofText manifest.arguments.toolType with
              | none => exact .kept _ (.inr (by simp [ToolManifest.offers, type])) (.inl rfl)
              | some toolType =>
                  have offers : manifest.offers = true := by
                    simp [ToolManifest.offers, named, malformed, type]
                  cases risk : RiskLevel.ofText manifest.arguments.riskLevel with
                  | none => exact .refused _ known offers (by simp [ToolManifest.storable, risk])
                  | some riskLevel =>
                      cases fits : manifest.arguments.fits with
                      | false =>
                          exact .refused _ known offers (by simp [ToolManifest.storable, fits])
                      | true =>
                          exact .created _ _ known offers
                            (by simp [ToolManifest.storable, risk, fits]) rfl rfl rfl

theorem importTool_skips {manifest : ToolManifest}
    (imported : importTool platform catalogue manifest = .ok (result, after))
    (skipped : result.action = .skipped) : after = catalogue := by
  have cases' : ToolImported catalogue manifest (importTool platform catalogue manifest) :=
    importTool_imported manifest
  rw [imported] at cases'
  cases cases' with
  | kept => rfl
  | created _ _ _ _ _ _ _ reported => exact absurd (reported.symm.trans skipped) (by decide)

def ToolKnown (catalogue : Catalogue) (manifests : List ToolManifest) (name : String) : Prop :=
  (catalogue.toolByName name).isSome = true ∨
    ∃ manifest ∈ manifests, manifest.name = name ∧ manifest.offers = true

def ToolFine (catalogue : Catalogue) (before : List ToolManifest) (manifest : ToolManifest) :
    Prop :=
  manifest.offers = true → ¬ ToolKnown catalogue before manifest.name → manifest.storable = true

structure ToolsAfter (catalogue after : Catalogue) (manifests : List ToolManifest) : Prop where
  known : ∀ name, (after.toolByName name).isSome = true ↔ ToolKnown catalogue manifests name
  skills : after.skills = catalogue.skills
  agents : after.agents = catalogue.agents
  versions : after.versions = catalogue.versions

theorem toolsAfter_nil : ToolsAfter catalogue catalogue [] :=
  ⟨fun name => by simp [ToolKnown], rfl, rfl, rfl⟩

theorem importTool_after {manifest : ToolManifest}
    (imported : importTool platform catalogue manifest = .ok (result, after)) :
    ToolsAfter catalogue after [manifest] := by
  have cases' : ToolImported catalogue manifest (importTool platform catalogue manifest) :=
    importTool_imported manifest
  rw [imported] at cases'
  cases cases' with
  | kept _ idle =>
      refine ⟨fun name => ?_, rfl, rfl, rfl⟩
      constructor
      · exact .inl
      · rintro (known | ⟨other, listed, rfl, offers⟩)
        · exact known
        · rw [List.mem_singleton.mp listed] at offers ⊢
          exact idle.resolve_right (by simp [offers])
  | created tool _ free offers storable named keyed reported =>
      refine ⟨fun name => ?_, rfl, rfl, rfl⟩
      simp only [Catalogue.toolByName, ToolKnown, List.find?_append, Option.isSome_or,
        Bool.or_eq_true, List.find?_singleton, List.mem_singleton, exists_eq_left, offers, and_true,
        named]
      by_cases same : manifest.name = name <;> simp [same]

theorem toolKnown_cons {middle : Catalogue} {manifest : ToolManifest} {rest : List ToolManifest}
    (one : ToolsAfter catalogue middle [manifest]) {name : String} :
    ToolKnown catalogue (manifest :: rest) name ↔ ToolKnown middle rest name := by
  unfold ToolKnown
  rw [one.known name]
  simp [ToolKnown, or_assoc]

theorem ToolsAfter.cons {middle : Catalogue} {manifest : ToolManifest} {rest : List ToolManifest}
    (one : ToolsAfter catalogue middle [manifest]) (others : ToolsAfter middle after rest) :
    ToolsAfter catalogue after (manifest :: rest) where
  known name := by rw [others.known name, toolKnown_cons one]
  skills := others.skills.trans one.skills
  agents := others.agents.trans one.agents
  versions := others.versions.trans one.versions

theorem importTool_iff (manifest : ToolManifest) :
    (∃ result after, importTool platform catalogue manifest = .ok (result, after)) ↔
      ToolFine catalogue [] manifest := by
  have cases' : ToolImported catalogue manifest (importTool platform catalogue manifest) :=
    importTool_imported manifest
  have known : ToolKnown catalogue [] manifest.name ↔
      (catalogue.toolByName manifest.name).isSome = true := by simp [ToolKnown]
  constructor
  · rintro ⟨result, after, imported⟩ offers unknown
    rw [imported] at cases'
    cases cases' with
    | kept _ idle =>
        rcases idle with there | idle
        · exact absurd (known.mpr there) unknown
        · exact absurd (idle.symm.trans offers) (by decide)
    | created _ _ _ _ storable => exact storable
  · intro fine
    cases one : importTool platform catalogue manifest with
    | ok outcome => exact ⟨outcome.1, outcome.2, rfl⟩
    | error failed =>
        rw [one] at cases'
        cases cases' with
        | refused constraint free offers unstorable =>
            have taken := fine offers (by simp [known, free])
            exact absurd (taken.symm.trans unstorable) (by decide)

theorem importTools_iff {manifests : List ToolManifest} :
    (∃ results after, importEach (importTool platform) manifests catalogue = .ok (results, after)) ↔
      ∀ before manifest rest, manifests = before ++ manifest :: rest →
        ToolFine catalogue before manifest := by
  refine @importEach_iff _ _ _ (fun _ => True) _ (fun _ => importTool_iff) ?_ _ trivial
  intro catalogue manifest result after _ one
  refine ⟨trivial, fun before other => ?_⟩
  rw [ToolFine, ToolFine, toolKnown_cons (importTool_after one)]

theorem importTool_reports {manifest : ToolManifest}
    (imported : importTool platform catalogue manifest = .ok (result, after))
    (taken : result.action ≠ .skipped) : (after.toolByName manifest.name).isSome = true := by
  have outcome : ToolImported catalogue manifest (importTool platform catalogue manifest) :=
    importTool_imported manifest
  have known := (importTool_after imported).known manifest.name
  rw [imported] at outcome
  cases outcome with
  | kept _ _ reported => exact reported.resolve_left taken
  | created _ _ _ offers => exact known.mpr (.inr ⟨manifest, .head _, rfl, offers⟩)

theorem importTools_after {manifests : List ToolManifest} {results : List DefinitionResult}
    (imported : importEach (importTool platform) manifests catalogue = .ok (results, after)) :
    ToolsAfter catalogue after manifests := by
  induction manifests generalizing catalogue results with
  | nil =>
      obtain ⟨_, rfl⟩ := importEach_nil.mp imported
      exact toolsAfter_nil
  | cons manifest rest ih =>
      obtain ⟨result, middle, others, one, more, _⟩ := importEach_cons.mp imported
      exact (importTool_after one).cons (ih more)

end Tools

section Skills

variable {catalogue after : Catalogue} {result : DefinitionResult}

/-- The columns of `skills` take the texts that a known skill gets, too. -/
def SkillManifest.fitting (manifest : SkillManifest) : Bool :=
  manifest.displayName.all (within 255) && manifest.version.all (within 32)

def SkillManifest.creatable (manifest : SkillManifest) : Bool :=
  !manifest.unmapped && manifest.arguments.fits

def SkillManifest.row (manifest : SkillManifest) (id : Nat) : SkillRow where
  id := id
  name := manifest.name
  displayName := manifest.arguments.displayName
  description := manifest.arguments.description
  instructions := manifest.arguments.instructions
  version := manifest.arguments.version
  requiredTools := manifest.requiredTools
  requiredKnowledge := manifest.requiredKnowledge
  parameters := manifest.parameters
  requiredPermission := manifest.requiredPermission
  enabled := true

inductive SkillImported (catalogue : Catalogue) (manifest : SkillManifest) :
    Attempt DefinitionResult → Prop
  | unnamed (result : DefinitionResult) (blank : truthy manifest.name = false)
      (reported : result.action = .skipped) :
      SkillImported catalogue manifest (.ok (result, catalogue))
  | updated (existing : SkillRow) (result : DefinitionResult)
      (named : truthy manifest.name = true) (formed : manifest.malformed = false)
      (known : catalogue.skillByName manifest.name = some existing)
      (fitting : manifest.fitting = true) (reported : result.action = .updated) :
      SkillImported catalogue manifest (.ok (result, { catalogue with
        skills := catalogue.skills.map fun skill =>
          if skill.id = existing.id then manifest.apply skill else skill }))
  | created (result : DefinitionResult)
      (named : truthy manifest.name = true) (formed : manifest.malformed = false)
      (free : catalogue.skillByName manifest.name = none) (creatable : manifest.creatable = true)
      (reported : result.action = .created) :
      SkillImported catalogue manifest (.ok (result, { catalogue with
        skills := catalogue.skills ++ [manifest.row catalogue.nextId]
        nextId := catalogue.nextId + 1 }))
  | failed (failure : Failure × Catalogue) (named : truthy manifest.name = true)
      (cause : manifest.malformed = true ∨
        (catalogue.skillByName manifest.name).isSome = true ∧ manifest.fitting = false ∨
        catalogue.skillByName manifest.name = none ∧ manifest.creatable = false) :
      SkillImported catalogue manifest (.error failure)

theorem importSkill_imported (manifest : SkillManifest) :
    SkillImported catalogue manifest (importSkill catalogue manifest) := by
  unfold importSkill
  cases named : truthy manifest.name with
  | false => exact .unnamed _ named rfl
  | true =>
      cases formed : manifest.malformed with
      | true => exact .failed _ named (.inl formed)
      | false =>
          simp only [Bool.not_true, Bool.false_eq_true, if_false]
          cases known : catalogue.skillByName manifest.name with
          | some existing =>
              cases fitting : manifest.fitting with
              | false =>
                  have refused : (!(manifest.displayName.all (within 255) &&
                      manifest.version.all (within 32))) = true := by
                    rw [← SkillManifest.fitting, fitting]
                    rfl
                  simp only [refused, if_true]
                  exact .failed _ named (.inr (.inl ⟨by simp [known], fitting⟩))
              | true =>
                  have taken : (!(manifest.displayName.all (within 255) &&
                      manifest.version.all (within 32))) = false := by
                    rw [← SkillManifest.fitting, fitting]
                    rfl
                  simp only [taken, Bool.false_eq_true, if_false]
                  exact .updated existing _ named formed known fitting rfl
          | none =>
              have free : (catalogue.skillByName manifest.arguments.name).isSome = false := by
                rw [SkillManifest.arguments, known]
                rfl
              cases mapped : manifest.unmapped with
              | true =>
                  exact .failed _ named
                    (.inr (.inr ⟨known, by simp [SkillManifest.creatable, mapped]⟩))
              | false =>
                  simp only [Bool.false_eq_true, if_false, createSkill, free]
                  cases fits : manifest.arguments.fits with
                  | false =>
                      exact .failed _ named
                        (.inr (.inr ⟨known, by simp [SkillManifest.creatable, fits]⟩))
                  | true =>
                      exact .created _ named formed known
                        (by simp [SkillManifest.creatable, mapped, fits]) rfl

theorem importSkill_skips {manifest : SkillManifest}
    (imported : importSkill catalogue manifest = .ok (result, after))
    (skipped : result.action = .skipped) : after = catalogue := by
  have outcome := @importSkill_imported catalogue manifest
  rw [imported] at outcome
  cases outcome with
  | unnamed => rfl
  | updated _ _ _ _ _ _ reported => exact absurd (reported.symm.trans skipped) (by decide)
  | created _ _ _ _ _ reported => exact absurd (reported.symm.trans skipped) (by decide)

def SkillKnown (catalogue : Catalogue) (manifests : List SkillManifest) (name : String) : Prop :=
  (catalogue.skillByName name).isSome = true ∨
    ∃ manifest ∈ manifests, manifest.name = name ∧ truthy manifest.name = true

def SkillFine (catalogue : Catalogue) (before : List SkillManifest) (manifest : SkillManifest) :
    Prop :=
  truthy manifest.name = true → manifest.malformed = false ∧
    (SkillKnown catalogue before manifest.name → manifest.fitting = true) ∧
    (¬ SkillKnown catalogue before manifest.name → manifest.creatable = true)

structure SkillsAfter (catalogue after : Catalogue) (manifests : List SkillManifest) : Prop where
  known : ∀ name, (after.skillByName name).isSome = true ↔ SkillKnown catalogue manifests name
  tools : after.tools = catalogue.tools
  agents : after.agents = catalogue.agents
  versions : after.versions = catalogue.versions

theorem skillsAfter_nil : SkillsAfter catalogue catalogue [] :=
  ⟨fun name => by simp [SkillKnown], rfl, rfl, rfl⟩

theorem skillByName_map {change : SkillRow → SkillRow}
    (names : ∀ skill, (change skill).name = skill.name) (name : String) :
    ({ catalogue with skills := catalogue.skills.map change } : Catalogue).skillByName name =
      (catalogue.skillByName name).map change := by
  unfold Catalogue.skillByName
  rw [List.find?_map]
  congr 2
  funext skill
  simp [names]

theorem importSkill_after {manifest : SkillManifest}
    (imported : importSkill catalogue manifest = .ok (result, after)) :
    SkillsAfter catalogue after [manifest] := by
  have outcome := @importSkill_imported catalogue manifest
  rw [imported] at outcome
  cases outcome with
  | unnamed _ blank => exact ⟨fun name => by simp [SkillKnown, blank], rfl, rfl, rfl⟩
  | updated existing _ named formed known fitting reported =>
      refine ⟨fun name => ?_, rfl, rfl, rfl⟩
      rw [skillByName_map fun skill => by split <;> rfl]
      simp only [SkillKnown, Option.isSome_map, List.mem_singleton, exists_eq_left, named, and_true]
      constructor
      · exact .inl
      · rintro (there | rfl)
        · exact there
        · simp [known]
  | created _ named formed free creatable reported =>
      have own : (manifest.row catalogue.nextId).name = manifest.name := rfl
      refine ⟨fun name => ?_, rfl, rfl, rfl⟩
      simp only [Catalogue.skillByName, SkillKnown, List.find?_append, Option.isSome_or,
        Bool.or_eq_true, List.find?_singleton, List.mem_singleton, exists_eq_left, named, and_true,
        own]
      by_cases same : manifest.name = name <;> simp [same]

theorem skillKnown_cons {middle : Catalogue} {manifest : SkillManifest} {rest : List SkillManifest}
    (one : SkillsAfter catalogue middle [manifest]) {name : String} :
    SkillKnown catalogue (manifest :: rest) name ↔ SkillKnown middle rest name := by
  unfold SkillKnown
  rw [one.known name]
  simp [SkillKnown, or_assoc]

theorem SkillsAfter.cons {middle : Catalogue} {manifest : SkillManifest}
    {rest : List SkillManifest} (one : SkillsAfter catalogue middle [manifest])
    (others : SkillsAfter middle after rest) : SkillsAfter catalogue after (manifest :: rest) where
  known name := by rw [others.known name, skillKnown_cons one]
  tools := others.tools.trans one.tools
  agents := others.agents.trans one.agents
  versions := others.versions.trans one.versions

theorem importSkill_iff (manifest : SkillManifest) :
    (∃ result after, importSkill catalogue manifest = .ok (result, after)) ↔
      SkillFine catalogue [] manifest := by
  have outcome := @importSkill_imported catalogue manifest
  have known : SkillKnown catalogue [] manifest.name ↔
      (catalogue.skillByName manifest.name).isSome = true := by simp [SkillKnown]
  unfold SkillFine
  rw [known]
  constructor
  · rintro ⟨result, after, imported⟩ named
    rw [imported] at outcome
    cases outcome with
    | unnamed _ blank => exact absurd (blank.symm.trans named) (by decide)
    | updated existing _ _ formed there fitting => exact ⟨formed, fun _ => fitting, by simp [there]⟩
    | created _ _ formed free creatable => exact ⟨formed, by simp [free], fun _ => creatable⟩
  · intro fine
    cases one : importSkill catalogue manifest with
    | ok done => exact ⟨done.1, done.2, rfl⟩
    | error failed =>
        rw [one] at outcome
        cases outcome with
        | failed _ named cause =>
            obtain ⟨formed, fitting, creatable⟩ := fine named
            rcases cause with malformed | ⟨there, unfitting⟩ | ⟨free, uncreatable⟩
            · exact absurd (malformed.symm.trans formed) (by decide)
            · exact absurd ((fitting there).symm.trans unfitting) (by decide)
            · exact absurd ((creatable (by simp [free])).symm.trans uncreatable) (by decide)

theorem importSkills_iff {manifests : List SkillManifest} :
    (∃ results after, importEach importSkill manifests catalogue = .ok (results, after)) ↔
      ∀ before manifest rest, manifests = before ++ manifest :: rest →
        SkillFine catalogue before manifest := by
  refine @importEach_iff _ _ _ (fun _ => True) _ (fun _ => importSkill_iff) ?_ _ trivial
  intro catalogue manifest result after _ one
  refine ⟨trivial, fun before other => ?_⟩
  rw [SkillFine, SkillFine, skillKnown_cons (importSkill_after one)]

theorem importSkill_reports {manifest : SkillManifest}
    (imported : importSkill catalogue manifest = .ok (result, after))
    (taken : result.action ≠ .skipped) : (after.skillByName manifest.name).isSome = true := by
  have outcome := @importSkill_imported catalogue manifest
  have known := (importSkill_after imported).known manifest.name
  rw [imported] at outcome
  cases outcome with
  | unnamed _ _ reported => exact absurd reported taken
  | updated _ _ named => exact known.mpr (.inr ⟨manifest, .head _, rfl, named⟩)
  | created _ named => exact known.mpr (.inr ⟨manifest, .head _, rfl, named⟩)

theorem importSkills_after {manifests : List SkillManifest} {results : List DefinitionResult}
    (imported : importEach importSkill manifests catalogue = .ok (results, after)) :
    SkillsAfter catalogue after manifests := by
  induction manifests generalizing catalogue results with
  | nil =>
      obtain ⟨_, rfl⟩ := importEach_nil.mp imported
      exact skillsAfter_nil
  | cons manifest rest ih =>
      obtain ⟨result, middle, others, one, more, _⟩ := importEach_cons.mp imported
      exact (importSkill_after one).cons (ih more)

end Skills

structure Keyed (catalogue : Catalogue) : Prop where
  agentIds : (catalogue.agents.map (·.id)).Nodup
  agentsBelow : ∀ agent ∈ catalogue.agents, agent.id < catalogue.nextId
  versionsBelow : ∀ version ∈ catalogue.versions, version.agentId < catalogue.nextId

section Agents

variable {platform : Platform} {catalogue after : Catalogue} {result : DefinitionResult}

def VersionArguments.fits (platform : Platform) (arguments : VersionArguments) : Bool :=
  decide (0 < min arguments.maxIterations platform.maxIterations ∧
      min arguments.maxIterations platform.maxIterations ≤ 100) &&
    within 128 arguments.model && decide arguments.toolIds.Nodup && decide arguments.skillIds.Nodup

theorem VersionArguments.fits_iff {arguments : VersionArguments} :
    arguments.fits platform = true ↔
      (0 < min arguments.maxIterations platform.maxIterations ∧
        min arguments.maxIterations platform.maxIterations ≤ 100) ∧
      within 128 arguments.model = true ∧ arguments.toolIds.Nodup ∧ arguments.skillIds.Nodup := by
  simp only [VersionArguments.fits, Bool.and_eq_true, decide_eq_true_eq, and_assoc]

def VersionArguments.row (arguments : VersionArguments) (platform : Platform)
    (id agentId version : Nat) : AgentVersionRow where
  id := id
  agentId := agentId
  version := version
  systemPrompt := arguments.systemPrompt
  model := arguments.model
  temperature := arguments.temperature
  maxIterations := (min arguments.maxIterations platform.maxIterations).toNat
  knowledgeBaseIds := arguments.knowledgeBaseIds
  memoryEnabled := arguments.memoryEnabled
  toolIds := arguments.toolIds
  skillIds := arguments.skillIds

theorem createVersionRow_fits {agentId version : Nat} {arguments : VersionArguments}
    {row : AgentVersionRow}
    (made : createVersionRow platform catalogue agentId version arguments = .ok (row, after)) :
    arguments.fits platform = true ∧
      row = arguments.row platform catalogue.nextId agentId version := by
  rw [VersionArguments.fits_iff]
  unfold createVersionRow at made
  split at made
  · cases made
  · split at made
    · cases made
    · simp only at made
      split at made
      · cases made
      · rename_i sane
        split at made
        · cases made
        · rename_i narrow
          split at made
          · cases made
          · split at made
            · cases made
            · rename_i ones
              split at made
              · cases made
              · rename_i others
                cases made
                exact ⟨⟨not_not.mp sane, by simpa using narrow, not_not.mp ones, not_not.mp others⟩,
                  rfl⟩

theorem createVersionRow_cases {agentId version : Nat} {arguments : VersionArguments}
    (tools : ∀ id ∈ arguments.toolIds, (catalogue.toolById id).isSome = true)
    (skills : ∀ id ∈ arguments.skillIds, (catalogue.skillById id).isSome = true)
    (fresh : (catalogue.versions.any fun row => row.agentId = agentId && row.version = version) =
      false) :
    (arguments.fits platform = true ∧ createVersionRow platform catalogue agentId version arguments =
        .ok (arguments.row platform catalogue.nextId agentId version, { catalogue with
          versions := catalogue.versions ++
            [arguments.row platform catalogue.nextId agentId version]
          nextId := catalogue.nextId + 1 })) ∨
      arguments.fits platform = false ∧ ∃ constraint,
        createVersionRow platform catalogue agentId version arguments =
          .error (.integrity constraint) := by
  cases made : createVersionRow platform catalogue agentId version arguments with
  | ok outcome =>
      obtain ⟨row, next⟩ := outcome
      obtain ⟨fits, rfl⟩ := createVersionRow_fits made
      obtain ⟨_, _, rfl⟩ := createVersionRow_spec made
      exact .inl ⟨fits, rfl⟩
  | error failure =>
      obtain ⟨constraint, rfl⟩ := createVersionRow_refused made tools skills
      refine .inr ⟨?_, constraint, rfl⟩
      by_contra fits
      rw [Bool.not_eq_false, VersionArguments.fits_iff] at fits
      obtain ⟨sane, narrow, ones, others⟩ := fits
      have noTool : (arguments.toolIds.find? fun id => (catalogue.toolById id).isNone) = none := by
        rw [List.find?_eq_none]
        intro id member
        simp [Option.isSome_iff_ne_none.mp (tools id member)]
      have noSkill : (arguments.skillIds.find? fun id => (catalogue.skillById id).isNone) =
          none := by
        rw [List.find?_eq_none]
        intro id member
        simp [Option.isSome_iff_ne_none.mp (skills id member)]
      unfold createVersionRow at made
      simp only [noTool, noSkill, fresh, narrow, Bool.not_true, Bool.false_eq_true, if_false]
        at made
      rw [if_neg (not_not_intro sane), if_neg (not_not_intro ones),
        if_neg (not_not_intro others)] at made
      cases made

def AgentManifest.storable (manifest : AgentManifest) (platform : Platform)
    (catalogue : Catalogue) : Bool :=
  (manifest.arguments platform catalogue).fits platform

/-- The columns of `agents` take the manifest. -/
def AgentManifest.creatable (manifest : AgentManifest) : Bool :=
  manifest.typed && within 255 (orElse manifest.displayName manifest.slug)

def AgentManifest.agent (manifest : AgentManifest) (id : Nat) : Agent where
  id := id
  slug := manifest.slug
  displayName := orElse manifest.displayName manifest.slug
  description := manifest.description
  enabled := true
  currentVersion := 1

def Current (catalogue : Catalogue) (slug : String) : Prop :=
  ∃ agent, catalogue.agentBySlug slug = some agent ∧ (currentVersion catalogue agent).isSome = true

abbrev Catalogue.opened (catalogue : Catalogue) (agent : Agent) (row : AgentVersionRow) :
    Catalogue :=
  { catalogue with
    agents := catalogue.agents ++ [agent], versions := catalogue.versions ++ [row]
    nextId := catalogue.nextId + 2 }

abbrev Catalogue.published (catalogue : Catalogue) (existing : Agent) (row : AgentVersionRow) :
    Catalogue :=
  { catalogue with
    agents := catalogue.agents.map fun agent =>
      if agent.id = existing.id then { agent with currentVersion := row.version } else agent
    versions := catalogue.versions ++ [row], nextId := catalogue.nextId + 1 }

def AgentManifest.row (manifest : AgentManifest) (platform : Platform) (catalogue : Catalogue)
    (id agentId version : Nat) : AgentVersionRow :=
  (manifest.arguments platform catalogue).row platform id agentId version

def AgentManifest.offers (manifest : AgentManifest) : Bool :=
  truthy manifest.slug && !manifest.malformed && slugMatches manifest.slug

inductive AgentImported (platform : Platform) (catalogue : Catalogue) (manifest : AgentManifest) :
    Attempt DefinitionResult → Prop
  | kept (result : DefinitionResult)
      (listable : truthy manifest.slug = true → manifest.unlistable = false)
      (idle : truthy manifest.slug = false ∨ manifest.malformed = true ∨
        (catalogue.agentBySlug manifest.slug = none ∧ slugMatches manifest.slug = false) ∨
        (catalogue.agentBySlug manifest.slug).isSome = true ∧ ¬ Current catalogue manifest.slug)
      (reported : result.action = .skipped) :
      AgentImported platform catalogue manifest (.ok (result, catalogue))
  | opened (result : DefinitionResult)
      (listable : manifest.unlistable = false) (offers : manifest.offers = true)
      (free : catalogue.agentBySlug manifest.slug = none)
      (storable : manifest.storable platform catalogue = true)
      (creatable : manifest.creatable = true) (reported : result.action = .created) :
      AgentImported platform catalogue manifest (.ok (result,
        catalogue.opened (manifest.agent catalogue.nextId)
          (manifest.row platform catalogue (catalogue.nextId + 1) catalogue.nextId 1)))
  | published (existing : Agent) (row : AgentVersionRow) (result : DefinitionResult)
      (listable : manifest.unlistable = false) (named : truthy manifest.slug = true)
      (formed : manifest.malformed = false)
      (known : catalogue.agentBySlug manifest.slug = some existing)
      (current : Current catalogue manifest.slug)
      (storable : manifest.storable platform catalogue = true)
      (stored : row = manifest.row platform catalogue catalogue.nextId existing.id
        (nextVersion catalogue existing.id))
      (reported : result.action = .updated) :
      AgentImported platform catalogue manifest (.ok (result, catalogue.published existing row))
  | failed (failure : Failure × Catalogue) (named : truthy manifest.slug = true)
      (cause : manifest.unlistable = true ∨ manifest.malformed = false ∧
        (Current catalogue manifest.slug ∧ manifest.storable platform catalogue = false ∨
        catalogue.agentBySlug manifest.slug = none ∧ slugMatches manifest.slug = true ∧
          (manifest.storable platform catalogue && manifest.creatable) = false)) :
      AgentImported platform catalogue manifest (.error failure)

theorem agentById_of_slug (keyed : Keyed catalogue) {slug : String} {agent : Agent}
    (found : catalogue.agentBySlug slug = some agent) :
    getAgent catalogue agent.id = .ok agent := by
  have member := List.mem_of_find?_eq_some found
  unfold getAgent Catalogue.agentById
  cases here : catalogue.agents.find? fun other => other.id = agent.id with
  | none =>
      have miss := List.find?_eq_none.mp here agent member
      simp at miss
  | some other =>
      have same : other.id = agent.id := by simpa using List.find?_some here
      rw [List.inj_on_of_nodup_map keyed.agentIds (List.mem_of_find?_eq_some here) member same]

theorem nextVersion_fresh {agentId : Nat} :
    (catalogue.versions.any fun row =>
      row.agentId = agentId && row.version = nextVersion catalogue agentId) = false := by
  have bound : ∀ (rows : List AgentVersionRow) (start : Nat),
      start ≤ rows.foldl (fun highest row => max highest row.version) start ∧ ∀ row ∈ rows,
        row.version ≤ rows.foldl (fun highest row => max highest row.version) start := by
    intro rows
    induction rows with
    | nil => exact fun start => ⟨Nat.le_refl _, fun _ member => (nomatch member)⟩
    | cons head rest ih =>
        intro start
        obtain ⟨grown, above⟩ := ih (max start head.version)
        refine ⟨(Nat.le_max_left _ _).trans grown, fun row member => ?_⟩
        rcases List.mem_cons.mp member with rfl | later
        · exact (Nat.le_max_right _ _).trans grown
        · exact above row later
  rw [List.any_eq_false]
  intro row member
  simp only [Bool.and_eq_true, decide_eq_true_eq, not_and]
  intro own
  have listed : row ∈ catalogue.versionsOf agentId :=
    List.mem_filter.mpr ⟨member, decide_eq_true own⟩
  have below := (bound (catalogue.versionsOf agentId) 0).2 row listed
  unfold nextVersion
  omega

theorem inherit_arguments (manifest : AgentManifest) (current : AgentVersionRow) :
    (manifest.arguments platform catalogue).changes.inherit current =
      manifest.arguments platform catalogue := by
  have model : truthy (manifest.arguments platform catalogue).model = true := by
    have kept : ∀ text, truthy (orElse text "enterprise-chat") = true := by
      intro text
      unfold orElse
      cases given : text.filter truthy with
      | none => rfl
      | some value => exact (Option.filter_eq_some_iff.mp given).2
    exact kept manifest.model
  have iterations : (manifest.arguments platform catalogue).maxIterations ≠ 0 := by
    unfold AgentManifest.arguments
    cases given : manifest.maxIterations.filter (· ≠ 0) with
    | none => simp
    | some value => simpa using (Option.filter_eq_some_iff.mp given).2
  simp [VersionArguments.changes, VersionChanges.inherit, Option.filter, model, iterations]

theorem opens_imported (keyed : Keyed catalogue) {manifest : AgentManifest}
    {detail : Option String} (named : truthy manifest.slug = true)
    (listable : manifest.unlistable = false) (formed : manifest.malformed = false)
    (free : catalogue.agentBySlug manifest.slug = none) :
    AgentImported platform catalogue manifest
      (concluded "agent" manifest.slug .created detail
        (createAgent platform catalogue
          { toVersionArguments := manifest.arguments platform catalogue, slug := manifest.slug
            displayName := orElse manifest.displayName manifest.slug
            description := manifest.description, typed := manifest.typed })) := by
  have tools := @resolved_tools catalogue manifest.tools
  have skills := @resolved_skills catalogue manifest.skills
  unfold createAgent
  cases lawful : slugMatches manifest.slug with
  | false =>
      simp only [Bool.not_false, if_true, concluded]
      exact .kept _ (fun _ => listable) (.inr (.inr (.inl ⟨free, lawful⟩))) rfl
  | true =>
      simp only [Bool.not_true, Bool.false_eq_true, if_false, free, Option.isSome_none]
      cases creatable : manifest.creatable with
      | false =>
          have refused : (!(manifest.typed &&
              within 255 (orElse manifest.displayName manifest.slug))) = true := by
            rw [← AgentManifest.creatable, creatable]
            rfl
          simp only [refused, if_true, concluded]
          exact .failed _ named (.inr ⟨formed, .inr ⟨free, lawful, by simp [creatable]⟩⟩)
      | true =>
          have accepted : (!(manifest.typed &&
              within 255 (orElse manifest.displayName manifest.slug))) = false := by
            rw [← AgentManifest.creatable, creatable]
            rfl
          simp only [accepted, Bool.false_eq_true, if_false]
          have fresh : (catalogue.versions.any fun row =>
              row.agentId = catalogue.nextId && row.version = 1) = false := by
            rw [List.any_eq_false]
            intro row member
            have below := keyed.versionsBelow row member
            simp only [Bool.and_eq_true, decide_eq_true_eq, not_and]
            omega
          let agent : Agent := ⟨catalogue.nextId, manifest.slug,
            orElse manifest.displayName manifest.slug, manifest.description, true, 1⟩
          let flushed : Catalogue := { catalogue with
            agents := catalogue.agents ++ [agent], nextId := catalogue.nextId + 1 }
          have outcome := @createVersionRow_cases platform flushed catalogue.nextId 1
            (manifest.arguments platform catalogue) tools skills fresh
          rcases outcome with ⟨fits, made⟩ | ⟨unfit, constraint, made⟩
          · simp only [flushed, agent] at made
            simp only [made, concluded]
            exact .opened _ listable (by simp [AgentManifest.offers, named, formed, lawful]) free
              fits creatable rfl
          · simp only [flushed, agent] at made
            simp only [made, concluded]
            exact .failed _ named (.inr ⟨formed, .inr ⟨free, lawful, by
              simp [AgentManifest.storable, unfit]⟩⟩)

theorem publishes_imported (keyed : Keyed catalogue) {manifest : AgentManifest}
    {detail : Option String} {existing : Agent} (named : truthy manifest.slug = true)
    (listable : manifest.unlistable = false) (formed : manifest.malformed = false)
    (known : catalogue.agentBySlug manifest.slug = some existing) :
    AgentImported platform catalogue manifest
      (concluded "agent" manifest.slug .updated detail
        (createVersion platform catalogue existing.id
          (manifest.arguments platform catalogue).changes)) := by
  have tools := @resolved_tools catalogue manifest.tools
  have skills := @resolved_skills catalogue manifest.skills
  unfold createVersion
  simp only [agentById_of_slug keyed known]
  cases version : currentVersion catalogue existing with
  | none =>
      simp only [concluded]
      refine .kept _ (fun _ => listable) (.inr (.inr (.inr ⟨by simp [known], ?_⟩))) rfl
      rintro ⟨agent, found, current⟩
      rw [known] at found
      cases found
      simp [version] at current
  | some current =>
      have standing : Current catalogue manifest.slug := ⟨existing, known, by simp [version]⟩
      simp only [inherit_arguments]
      have outcome := @createVersionRow_cases platform catalogue existing.id
        (nextVersion catalogue existing.id) (manifest.arguments platform catalogue) tools skills
        nextVersion_fresh
      rcases outcome with ⟨fits, made⟩ | ⟨unfit, constraint, made⟩
      · simp only [made, concluded]
        exact .published existing _ _ listable named formed known standing fits rfl rfl
      · simp only [made, concluded]
        exact .failed _ named (.inr ⟨formed, .inl ⟨standing, unfit⟩⟩)

theorem importAgent_imported (keyed : Keyed catalogue) (manifest : AgentManifest) :
    AgentImported platform catalogue manifest (importAgent platform catalogue manifest) := by
  unfold importAgent
  cases named : truthy manifest.slug with
  | false => exact .kept _ (by simp [named]) (.inl named) rfl
  | true =>
      cases listable : manifest.unlistable with
      | true => exact .failed _ named (.inl listable)
      | false =>
          cases formed : manifest.malformed with
          | true => exact .kept _ (fun _ => listable) (.inr (.inl formed)) rfl
          | false =>
              simp only [Bool.not_true, Bool.false_eq_true, if_false]
              cases known : catalogue.agentBySlug manifest.slug with
              | none => exact opens_imported keyed named listable formed known
              | some existing => exact publishes_imported keyed named listable formed known

theorem importAgent_skips (keyed : Keyed catalogue) {manifest : AgentManifest}
    (imported : importAgent platform catalogue manifest = .ok (result, after))
    (skipped : result.action = .skipped) : after = catalogue := by
  have outcome := @importAgent_imported platform catalogue keyed manifest
  rw [imported] at outcome
  cases outcome with
  | kept => rfl
  | opened _ _ _ _ _ _ reported => exact absurd (reported.symm.trans skipped) (by decide)
  | published _ _ _ _ _ _ _ _ _ _ reported =>
      exact absurd (reported.symm.trans skipped) (by decide)

def AgentKnown (catalogue : Catalogue) (manifests : List AgentManifest) (slug : String) : Prop :=
  (catalogue.agentBySlug slug).isSome = true ∨
    ∃ manifest ∈ manifests, manifest.slug = slug ∧ manifest.offers = true

def AgentCurrent (catalogue : Catalogue) (manifests : List AgentManifest) (slug : String) : Prop :=
  Current catalogue slug ∨ catalogue.agentBySlug slug = none ∧
    ∃ manifest ∈ manifests, manifest.slug = slug ∧ manifest.offers = true

/-- The names can be listed, and the database takes the version, and the agent where
there is none. -/
def AgentFine (catalogue : Catalogue) (before : List AgentManifest) (manifest : AgentManifest)
    (storable : Prop) : Prop :=
  truthy manifest.slug = true → manifest.unlistable = false ∧ (manifest.malformed = false →
    (AgentCurrent catalogue before manifest.slug → storable) ∧
    (¬ AgentKnown catalogue before manifest.slug → slugMatches manifest.slug = true →
      storable ∧ manifest.creatable = true))

structure AgentsAfter (catalogue after : Catalogue) (manifests : List AgentManifest) : Prop where
  known : ∀ slug, (after.agentBySlug slug).isSome = true ↔ AgentKnown catalogue manifests slug
  current : ∀ slug, Current after slug ↔ AgentCurrent catalogue manifests slug
  tools : after.tools = catalogue.tools
  skills : after.skills = catalogue.skills
  grown : catalogue.nextId ≤ after.nextId
  keyed : Keyed after

theorem currentVersion_append {middle : Catalogue} {row : AgentVersionRow} {agent : Agent}
    (versions : middle.versions = catalogue.versions ++ [row]) (other : row.agentId ≠ agent.id) :
    currentVersion middle agent = currentVersion catalogue agent := by
  simp [currentVersion, versions, List.find?_append, other]

theorem currentVersion_own {middle : Catalogue} {row : AgentVersionRow} {agent : Agent}
    (listed : row ∈ middle.versions) (own : row.agentId = agent.id)
    (numbered : row.version = agent.currentVersion) :
    (currentVersion middle agent).isSome = true := by
  rw [currentVersion, List.find?_isSome]
  exact ⟨row, listed, by simp [own, numbered]⟩

theorem Keyed.slug_unique (keyed : Keyed catalogue) {left right : Agent}
    (listed : left ∈ catalogue.agents) (listed' : right ∈ catalogue.agents)
    (same : left.id = right.id) : left = right :=
  List.inj_on_of_nodup_map keyed.agentIds listed listed' same

theorem opened_after (keyed : Keyed catalogue) {manifest : AgentManifest} {agent : Agent}
    {row : AgentVersionRow} (offers : manifest.offers = true)
    (free : catalogue.agentBySlug manifest.slug = none) (named : agent.slug = manifest.slug)
    (new : agent.id = catalogue.nextId) (first : agent.currentVersion = 1)
    (own : row.agentId = agent.id) (numbered : row.version = 1) :
    AgentsAfter catalogue (catalogue.opened agent row) [manifest] where
  known slug := by
    simp only [Catalogue.agentBySlug, AgentKnown, List.find?_append, Option.isSome_or,
      Bool.or_eq_true, List.find?_singleton, List.mem_singleton, exists_eq_left, offers, and_true,
      named]
    by_cases same : manifest.slug = slug <;> simp [same]
  current slug := by
    simp only [AgentCurrent, List.mem_singleton, exists_eq_left, offers, and_true]
    constructor
    · rintro ⟨other, found, current⟩
      simp only [Catalogue.agentBySlug, List.find?_append] at found
      cases old : catalogue.agents.find? fun agent => agent.slug = slug with
      | some stored =>
          rw [old] at found
          cases found
          have below := keyed.agentsBelow _ (List.mem_of_find?_eq_some old)
          rw [currentVersion_append rfl (by omega)] at current
          exact .inl ⟨_, old, current⟩
      | none =>
          rw [old, Option.none_or] at found
          have own : other = agent := List.mem_singleton.mp (List.mem_of_find?_eq_some found)
          have same : other.slug = slug := by simpa using List.find?_some found
          exact .inr ⟨old, named.symm.trans (own ▸ same)⟩
    · rintro (⟨other, found, current⟩ | ⟨_, rfl⟩)
      · have below := keyed.agentsBelow _ (List.mem_of_find?_eq_some found)
        refine ⟨other, ?_, ?_⟩
        · simp only [Catalogue.agentBySlug, List.find?_append] at found ⊢
          rw [found]
          rfl
        · rwa [currentVersion_append rfl (by omega)]
      · refine ⟨agent, ?_, ?_⟩
        · simp only [Catalogue.agentBySlug, List.find?_append] at free ⊢
          rw [free]
          simp [named]
        · exact currentVersion_own (List.mem_append_right _ (.head _)) own
            (numbered.trans first.symm)
  tools := rfl
  skills := rfl
  grown := Nat.le_add_right _ _
  keyed := by
    constructor
    · rw [List.map_append]
      refine keyed.agentIds.append (List.nodup_singleton _) fun id old fresh => ?_
      obtain ⟨other, listed, rfl⟩ := List.mem_map.mp old
      have below := keyed.agentsBelow other listed
      have same : other.id = agent.id := by simpa using fresh
      omega
    · intro other member
      rcases List.mem_append.mp member with old | fresh
      · exact (keyed.agentsBelow other old).trans (by simp)
      · rw [List.mem_singleton.mp fresh]
        simp [new]
    · intro version member
      rcases List.mem_append.mp member with old | fresh
      · exact (keyed.versionsBelow version old).trans (by simp)
      · rw [List.mem_singleton.mp fresh]
        simp [own, new]

theorem agentBySlug_map {change : Agent → Agent} (slugs : ∀ agent, (change agent).slug = agent.slug)
    {versions : List AgentVersionRow} {nextId : Nat} (slug : String) :
    ({ catalogue with
        agents := catalogue.agents.map change, versions := versions
        nextId := nextId } : Catalogue).agentBySlug slug =
      (catalogue.agentBySlug slug).map change := by
  unfold Catalogue.agentBySlug
  rw [List.find?_map]
  congr 2
  funext agent
  simp [slugs]

theorem published_after (keyed : Keyed catalogue) {manifest : AgentManifest} {existing : Agent}
    {row : AgentVersionRow} (known : catalogue.agentBySlug manifest.slug = some existing)
    (standing : Current catalogue manifest.slug) (own : row.agentId = existing.id) :
    AgentsAfter catalogue (catalogue.published existing row) [manifest] where
  known slug := by
    rw [agentBySlug_map fun agent => by split <;> rfl]
    simp only [AgentKnown, Option.isSome_map, List.mem_singleton, exists_eq_left]
    constructor
    · exact .inl
    · rintro (there | ⟨rfl, _⟩)
      · exact there
      · simp [known]
  current slug := by
    unfold Current
    rw [agentBySlug_map fun agent => by split <;> rfl]
    simp only [AgentCurrent, List.mem_singleton, exists_eq_left]
    constructor
    · rintro ⟨other, found, current⟩
      obtain ⟨agent, stored, rfl⟩ := Option.map_eq_some_iff.mp found
      refine .inl ⟨agent, stored, ?_⟩
      by_cases same : agent.id = existing.id
      · have agent' := keyed.slug_unique (List.mem_of_find?_eq_some stored)
          (List.mem_of_find?_eq_some known) same
        obtain ⟨holder, holds, current'⟩ := standing
        rw [known] at holds
        cases holds
        rwa [agent']
      · rw [if_neg same, currentVersion_append rfl fun clash => same (clash.symm.trans own)]
          at current
        exact current
    · rintro (⟨agent, stored, current⟩ | ⟨free, rfl, _⟩)
      · refine ⟨_, Option.map_eq_some_iff.mpr ⟨agent, stored, rfl⟩, ?_⟩
        by_cases same : agent.id = existing.id
        · rw [if_pos same]
          exact currentVersion_own (List.mem_append_right _ (.head _)) (own.trans same.symm) rfl
        · rwa [if_neg same, currentVersion_append rfl fun clash => same (clash.symm.trans own)]
      · rw [known] at free
        cases free
  tools := rfl
  skills := rfl
  grown := Nat.le_succ _
  keyed := by
    have listed := List.mem_of_find?_eq_some known
    constructor
    · rw [List.map_map]
      have same : ((fun agent : Agent => agent.id) ∘ fun agent : Agent =>
          if agent.id = existing.id then { agent with currentVersion := row.version } else agent) =
            fun agent => agent.id := by
        funext agent
        simp only [Function.comp_apply]
        split <;> rfl
      rw [same]
      exact keyed.agentIds
    · intro agent member
      obtain ⟨old, stored, rfl⟩ := List.mem_map.mp member
      have below := keyed.agentsBelow old stored
      split <;> exact below.trans (Nat.lt_succ_self _)
    · intro version member
      rcases List.mem_append.mp member with old | fresh
      · exact (keyed.versionsBelow version old).trans (Nat.lt_succ_self _)
      · rw [List.mem_singleton.mp fresh, own]
        exact (keyed.agentsBelow existing listed).trans (Nat.lt_succ_self _)

theorem importAgent_after (keyed : Keyed catalogue) {manifest : AgentManifest}
    (imported : importAgent platform catalogue manifest = .ok (result, after)) :
    AgentsAfter catalogue after [manifest] := by
  have outcome := @importAgent_imported platform catalogue keyed manifest
  rw [imported] at outcome
  cases outcome with
  | kept _ listable idle =>
      have known : manifest.offers = true →
          (catalogue.agentBySlug manifest.slug).isSome = true := by
        intro offers
        simp only [AgentManifest.offers, Bool.and_eq_true, Bool.not_eq_true'] at offers
        rcases idle with blank | malformed | ⟨_, unlawful⟩ | ⟨there, _⟩
        · exact absurd (blank.symm.trans offers.1.1) (by decide)
        · exact absurd (malformed.symm.trans offers.1.2) (by decide)
        · exact absurd (unlawful.symm.trans offers.2) (by decide)
        · exact there
      refine ⟨fun slug => ?_, fun slug => ?_, rfl, rfl, Nat.le_refl _, keyed⟩
      · simp only [AgentKnown, List.mem_singleton, exists_eq_left]
        exact ⟨.inl, fun there => there.elim id fun own => own.1 ▸ known own.2⟩
      · simp only [AgentCurrent, List.mem_singleton, exists_eq_left]
        refine ⟨.inl, fun there => there.elim id fun own => ?_⟩
        obtain ⟨free, rfl, offers⟩ := own
        exact absurd (known offers) (by simp [free])
  | opened _ _ offers free => exact opened_after keyed offers free rfl rfl rfl rfl rfl
  | published existing row _ _ _ _ known current _ stored =>
      exact published_after keyed known current (congrArg (·.agentId) stored)

theorem agentsAfter_nil (keyed : Keyed catalogue) : AgentsAfter catalogue catalogue [] :=
  ⟨fun slug => by simp [AgentKnown], fun slug => by simp [AgentCurrent], rfl, rfl, Nat.le_refl _,
    keyed⟩

theorem agentKnown_cons {middle : Catalogue} {manifest : AgentManifest} {rest : List AgentManifest}
    (one : AgentsAfter catalogue middle [manifest]) {slug : String} :
    AgentKnown catalogue (manifest :: rest) slug ↔ AgentKnown middle rest slug := by
  unfold AgentKnown
  rw [one.known slug]
  simp [AgentKnown, or_assoc]

theorem agentCurrent_cons {middle : Catalogue} {manifest : AgentManifest}
    {rest : List AgentManifest} (one : AgentsAfter catalogue middle [manifest]) {slug : String} :
    AgentCurrent catalogue (manifest :: rest) slug ↔ AgentCurrent middle rest slug := by
  have known := one.known slug
  unfold AgentCurrent
  rw [one.current slug, ← @Option.not_isSome_iff_eq_none _ (middle.agentBySlug slug), known]
  simp only [AgentKnown, AgentCurrent, List.mem_cons, ← Option.not_isSome_iff_eq_none, not_or,
    exists_eq_or_imp]
  tauto

theorem AgentManifest.storable_same {middle : Catalogue} (manifest : AgentManifest)
    (tools : middle.tools = catalogue.tools) (skills : middle.skills = catalogue.skills) :
    manifest.storable platform middle = manifest.storable platform catalogue := by
  simp only [AgentManifest.storable, AgentManifest.arguments, resolveTools, resolveSkills,
    Catalogue.toolByName, Catalogue.skillByName, tools, skills]

theorem agentFine_cons {middle : Catalogue} {manifest other : AgentManifest}
    {rest : List AgentManifest} (one : AgentsAfter catalogue middle [manifest]) :
    AgentFine catalogue (manifest :: rest) other (other.storable platform catalogue = true) ↔
      AgentFine middle rest other (other.storable platform middle = true) := by
  unfold AgentFine
  rw [agentKnown_cons one, agentCurrent_cons one, other.storable_same one.tools one.skills]

theorem importAgent_iff (keyed : Keyed catalogue) (manifest : AgentManifest) :
    (∃ result after, importAgent platform catalogue manifest = .ok (result, after)) ↔
      AgentFine catalogue [] manifest (manifest.storable platform catalogue = true) := by
  have outcome := @importAgent_imported platform catalogue keyed manifest
  have known : AgentKnown catalogue [] manifest.slug ↔
      (catalogue.agentBySlug manifest.slug).isSome = true := by simp [AgentKnown]
  have current : AgentCurrent catalogue [] manifest.slug ↔ Current catalogue manifest.slug := by
    simp [AgentCurrent]
  unfold AgentFine
  rw [known, current]
  constructor
  · rintro ⟨result, after, imported⟩ named
    rw [imported] at outcome
    cases outcome with
    | kept _ listable idle =>
        refine ⟨listable named, fun formed => ?_⟩
        rcases idle with blank | malformed | ⟨free, unlawful⟩ | ⟨there, missing⟩
        · exact absurd (blank.symm.trans named) (by decide)
        · exact absurd (malformed.symm.trans formed) (by decide)
        · refine ⟨?_, fun _ lawful => absurd (unlawful.symm.trans lawful) (by decide)⟩
          rintro ⟨agent, found, _⟩
          rw [free] at found
          cases found
        · exact ⟨fun standing => absurd standing missing, fun unknown => absurd there unknown⟩
    | opened _ listable _ _ storable creatable =>
        exact ⟨listable, fun _ => ⟨fun _ => storable, fun _ _ => ⟨storable, creatable⟩⟩⟩
    | published existing _ _ listable _ _ there _ storable =>
        exact ⟨listable, fun _ =>
          ⟨fun _ => storable, fun unknown => absurd (by simp [there]) unknown⟩⟩
  · intro fine
    cases one : importAgent platform catalogue manifest with
    | ok done => exact ⟨done.1, done.2, rfl⟩
    | error failed =>
        rw [one] at outcome
        cases outcome with
        | failed _ named cause =>
            obtain ⟨listable, rest⟩ := fine named
            rcases cause with unlistable | ⟨formed, ⟨standing, unfit⟩ | ⟨free, lawful, refused⟩⟩
            · exact absurd (unlistable.symm.trans listable) (by decide)
            · exact absurd (((rest formed).1 standing).symm.trans unfit) (by decide)
            · obtain ⟨storable, creatable⟩ := (rest formed).2 (by simp [free]) lawful
              simp [storable, creatable] at refused

theorem importAgents_iff (keyed : Keyed catalogue) {manifests : List AgentManifest} :
    (∃ results after,
      importEach (importAgent platform) manifests catalogue = .ok (results, after)) ↔
      ∀ before manifest rest, manifests = before ++ manifest :: rest →
        AgentFine catalogue before manifest (manifest.storable platform catalogue = true) := by
  refine @importEach_iff _ _ _ Keyed (fun catalogue before manifest =>
    AgentFine catalogue before manifest (manifest.storable platform catalogue = true))
    (fun keyed => importAgent_iff keyed) ?_ _ keyed
  intro catalogue manifest result after keyed one
  have moved := importAgent_after keyed one
  exact ⟨moved.keyed, fun before other => agentFine_cons moved⟩

theorem importAgent_reports (keyed : Keyed catalogue) {manifest : AgentManifest}
    (imported : importAgent platform catalogue manifest = .ok (result, after))
    (taken : result.action ≠ .skipped) : (after.agentBySlug manifest.slug).isSome = true := by
  have outcome := @importAgent_imported platform catalogue keyed manifest
  have known := (importAgent_after keyed imported).known manifest.slug
  rw [imported] at outcome
  cases outcome with
  | kept _ _ _ reported => exact absurd reported taken
  | opened _ _ offers => exact known.mpr (.inr ⟨manifest, .head _, rfl, offers⟩)
  | published _ _ _ _ _ _ there => exact known.mpr (.inl (by simp [there]))

theorem AgentsAfter.cons {middle : Catalogue} {manifest : AgentManifest}
    {rest : List AgentManifest} (one : AgentsAfter catalogue middle [manifest])
    (others : AgentsAfter middle after rest) : AgentsAfter catalogue after (manifest :: rest) where
  known slug := by rw [others.known slug, agentKnown_cons one]
  current slug := by rw [others.current slug, agentCurrent_cons one]
  tools := others.tools.trans one.tools
  skills := others.skills.trans one.skills
  grown := one.grown.trans others.grown
  keyed := others.keyed

theorem importAgents_after (keyed : Keyed catalogue) {manifests : List AgentManifest}
    {results : List DefinitionResult}
    (imported : importEach (importAgent platform) manifests catalogue = .ok (results, after)) :
    AgentsAfter catalogue after manifests := by
  induction manifests generalizing catalogue results with
  | nil =>
      obtain ⟨_, rfl⟩ := importEach_nil.mp imported
      exact agentsAfter_nil keyed
  | cons manifest rest ih =>
      obtain ⟨result, middle, others, one, more, _⟩ := importEach_cons.mp imported
      have moved := importAgent_after keyed one
      exact moved.cons (ih moved.keyed more)

end Agents

structure Keys (catalogue : Catalogue) : Prop extends Keyed catalogue where
  toolIds : (catalogue.tools.map (·.id)).Nodup
  toolsBelow : ∀ tool ∈ catalogue.tools, tool.id < catalogue.nextId
  skillIds : (catalogue.skills.map (·.id)).Nodup
  skillsBelow : ∀ skill ∈ catalogue.skills, skill.id < catalogue.nextId

section Import

variable {platform : Platform} {catalogue after final : Catalogue} {manifests : Manifests}
  {results : List DefinitionResult}

theorem importTool_keys {manifest : ToolManifest} {result : DefinitionResult}
    (keys : Keys catalogue)
    (imported : importTool platform catalogue manifest = .ok (result, after)) : Keys after := by
  have outcome : ToolImported catalogue manifest (importTool platform catalogue manifest) :=
    importTool_imported manifest
  rw [imported] at outcome
  cases outcome with
  | kept => exact keys
  | created tool _ _ _ _ _ keyed =>
      have grown : catalogue.nextId < catalogue.nextId + 1 := Nat.lt_succ_self _
      constructor
      · exact ⟨keys.agentIds, fun agent member => (keys.agentsBelow agent member).trans grown,
          fun version member => (keys.versionsBelow version member).trans grown⟩
      · refine distinct_concat _ keys.toolIds fun other member => ?_
        rw [keyed]
        exact Nat.ne_of_lt (keys.toolsBelow other member)
      · intro other member
        rcases List.mem_append.mp member with old | fresh
        · exact (keys.toolsBelow other old).trans grown
        · rw [List.mem_singleton.mp fresh, keyed]
          exact grown
      · exact keys.skillIds
      · exact fun skill member => (keys.skillsBelow skill member).trans grown

theorem importSkill_keys {manifest : SkillManifest} {result : DefinitionResult}
    (keys : Keys catalogue)
    (imported : importSkill catalogue manifest = .ok (result, after)) : Keys after := by
  have outcome := @importSkill_imported catalogue manifest
  rw [imported] at outcome
  cases outcome with
  | unnamed => exact keys
  | updated existing =>
      have same : ∀ skill : SkillRow,
          (if skill.id = existing.id then manifest.apply skill else skill).id = skill.id := by
        intro skill
        split <;> rfl
      refine ⟨⟨keys.agentIds, keys.agentsBelow, keys.versionsBelow⟩, keys.toolIds, keys.toolsBelow,
        ?_, ?_⟩
      · rw [List.map_map]
        simpa only [Function.comp_def, same] using keys.skillIds
      · intro skill member
        obtain ⟨old, stored, rfl⟩ := List.mem_map.mp member
        rw [same]
        exact keys.skillsBelow old stored
  | created =>
      have keyed : (manifest.row catalogue.nextId).id = catalogue.nextId := rfl
      have grown : catalogue.nextId < catalogue.nextId + 1 := Nat.lt_succ_self _
      constructor
      · exact ⟨keys.agentIds, fun agent member => (keys.agentsBelow agent member).trans grown,
          fun version member => (keys.versionsBelow version member).trans grown⟩
      · exact keys.toolIds
      · exact fun tool member => (keys.toolsBelow tool member).trans grown
      · refine distinct_concat _ keys.skillIds fun other member => ?_
        rw [keyed]
        exact Nat.ne_of_lt (keys.skillsBelow other member)
      · intro other member
        rcases List.mem_append.mp member with old | fresh
        · exact (keys.skillsBelow other old).trans grown
        · rw [List.mem_singleton.mp fresh, keyed]
          exact grown

def Once (known : String → Prop) (names : List String) : Prop :=
  names.Pairwise fun one other => known one → one ≠ other

theorem resolved_once {Row : Type} {rows : List Row} {name : Row → String} {key : Row → Nat}
    (keys : (rows.map key).Nodup) (names : List String) :
    (names.filterMap fun text => (rows.find? fun row => name row = text).map key).Nodup ↔
      Once (fun text => (rows.find? fun row => name row = text).isSome = true) names := by
  rw [List.Nodup, List.pairwise_filterMap, Once]
  refine List.Pairwise.iff fun one other => ?_
  constructor
  · rintro apart known rfl
    obtain ⟨row, found⟩ := Option.isSome_iff_exists.mp known
    exact apart (key row) (by simp [found]) (key row) (by simp [found]) rfl
  · rintro apart id found id' found' rfl
    obtain ⟨row, first, rfl⟩ := Option.map_eq_some_iff.mp found
    obtain ⟨row', second, same⟩ := Option.map_eq_some_iff.mp found'
    have equal : row' = row := List.inj_on_of_nodup_map keys (List.mem_of_find?_eq_some second)
      (List.mem_of_find?_eq_some first) same
    have named : name row = one := by simpa using List.find?_some first
    have named' : name row' = other := by simpa using List.find?_some second
    exact apart (by simp [first]) (named.symm.trans (equal ▸ named'))

theorem AgentsAfter.keys {manifests : List AgentManifest}
    (moved : AgentsAfter catalogue after manifests) (keys : Keys catalogue) : Keys after := by
  refine ⟨moved.keyed, ?_, ?_, ?_, ?_⟩
  · rw [moved.tools]
    exact keys.toolIds
  · rw [moved.tools]
    exact fun tool member => (keys.toolsBelow tool member).trans_le moved.grown
  · rw [moved.skills]
    exact keys.skillIds
  · rw [moved.skills]
    exact fun skill member => (keys.skillsBelow skill member).trans_le moved.grown

theorem importAll_stages :
    importAll platform catalogue manifests = .ok (results, final) ↔
      ∃ ones withTools others withSkills last,
        importEach (importTool platform) manifests.tools catalogue = .ok (ones, withTools) ∧
        importEach importSkill manifests.skills withTools = .ok (others, withSkills) ∧
        importEach (importAgent platform) manifests.agents withSkills = .ok (last, final) ∧
        results = ones ++ others ++ last := by
  constructor
  · intro imported
    unfold importAll at imported
    split at imported
    · cases imported
    · rename_i ones withTools first
      split at imported
      · cases imported
      · rename_i others withSkills second
        split at imported
        · cases imported
        · rename_i last end' third
          cases imported
          exact ⟨ones, withTools, others, withSkills, last, first, second, third, rfl⟩
  · rintro ⟨ones, withTools, others, withSkills, last, first, second, third, rfl⟩
    simp only [importAll, first, second, third]

end Import

end AiPlatform.Registries
