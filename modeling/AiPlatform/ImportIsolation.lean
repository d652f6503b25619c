import AiPlatform.ManifestImports

/-!
Whether the import of a set of manifests is isolated. A manifest that the importer
reports as skipped leaves nothing behind, so the others fare as they would
without it. But the session is one: a statement that the database refuses, and
what a stage does not catch, end the whole import.
-/

namespace AiPlatform.Registries

open Agents (Json Dict ToolType RiskLevel McpServer Skill Agent AgentVersionRow truthy strip)

section Isolation

variable {platform : Platform} {catalogue after final : Catalogue} {manifests : Manifests}
  {results : List DefinitionResult}

/-- The columns of a version take the manifest, with the references that the tools
and skills of the import are known by. -/
structure AgentManifest.Stores (manifest : AgentManifest) (platform : Platform)
    (catalogue : Catalogue) (manifests : Manifests) : Prop where
  iterations : 0 < min ((manifest.maxIterations.filter (· ≠ 0)).getD 10) platform.maxIterations ∧
    min ((manifest.maxIterations.filter (· ≠ 0)).getD 10) platform.maxIterations ≤ 100
  model : within 128 (orElse manifest.model "enterprise-chat") = true
  tools : Once (ToolKnown catalogue manifests.tools) manifest.tools
  skills : Once (SkillKnown catalogue manifests.skills) manifest.skills

theorem storable_iff {withTools withSkills : Catalogue} (keys : Keys withSkills)
    (tools : ToolsAfter catalogue withTools manifests.tools)
    (skills : SkillsAfter withTools withSkills manifests.skills) (manifest : AgentManifest) :
    manifest.storable platform withSkills = true ↔
      manifest.Stores platform catalogue manifests := by
  have known : (fun name => (withSkills.tools.find? fun tool => tool.name = name).isSome = true) =
      ToolKnown catalogue manifests.tools := by
    funext name
    rw [← tools.known name, skills.tools, Catalogue.toolByName]
  have known' :
      (fun name => (withSkills.skills.find? fun skill => skill.name = name).isSome = true) =
        SkillKnown catalogue manifests.skills := by
    funext name
    have there := skills.known name
    simp only [SkillKnown, Catalogue.skillByName, tools.skills] at there ⊢
    exact propext there
  have ones : (resolveTools withSkills manifest.tools).1.Nodup ↔
      Once (ToolKnown catalogue manifests.tools) manifest.tools := by
    rw [← known]
    exact resolved_once keys.toolIds manifest.tools
  have others : (resolveSkills withSkills manifest.skills).1.Nodup ↔
      Once (SkillKnown catalogue manifests.skills) manifest.skills := by
    rw [← known']
    exact resolved_once keys.skillIds manifest.skills
  rw [AgentManifest.storable, VersionArguments.fits_iff]
  constructor
  · rintro ⟨iterations, model, tools, skills⟩
    exact ⟨iterations, model, ones.mp tools, others.mp skills⟩
  · rintro ⟨iterations, model, tools, skills⟩
    exact ⟨iterations, model, ones.mpr tools, others.mpr skills⟩

/-- No manifest has what the database refuses, or what a stage does not catch. -/
structure Applies (platform : Platform) (catalogue : Catalogue) (manifests : Manifests) : Prop where
  tools : ∀ before manifest rest, manifests.tools = before ++ manifest :: rest →
    ToolFine catalogue before manifest
  skills : ∀ before manifest rest, manifests.skills = before ++ manifest :: rest →
    SkillFine catalogue before manifest
  agents : ∀ before manifest rest, manifests.agents = before ++ manifest :: rest →
    AgentFine catalogue before manifest (manifest.Stores platform catalogue manifests)

theorem applies_iff (keys : Keys catalogue) :
    (∃ results final, importAll platform catalogue manifests = .ok (results, final)) ↔
      Applies platform catalogue manifests := by
  have fine {withTools withSkills : Catalogue} {ones others : List DefinitionResult}
      (first : importEach (importTool platform) manifests.tools catalogue = .ok (ones, withTools))
      (second : importEach importSkill manifests.skills withTools = .ok (others, withSkills))
      (before : List AgentManifest) (manifest : AgentManifest) :
      AgentFine withSkills before manifest (manifest.storable platform withSkills = true) ↔
        AgentFine catalogue before manifest (manifest.Stores platform catalogue manifests) := by
    have tools := importTools_after first
    have skills := importSkills_after second
    have keys' : Keys withSkills :=
      importEach_keeps importSkill_keys second (importEach_keeps importTool_keys first keys)
    have agents : withSkills.agents = catalogue.agents := skills.agents.trans tools.agents
    have versions : withSkills.versions = catalogue.versions := skills.versions.trans tools.versions
    simp only [AgentFine, AgentKnown, AgentCurrent, Current, Catalogue.agentBySlug, currentVersion,
      agents, versions, storable_iff keys' tools skills]
  constructor
  · rintro ⟨results, final, imported⟩
    obtain ⟨ones, withTools, others, withSkills, last, first, second, third, _⟩ :=
      importAll_stages.mp imported
    have keys' : Keys withSkills :=
      importEach_keeps importSkill_keys second (importEach_keeps importTool_keys first keys)
    refine ⟨importTools_iff.mp ⟨ones, withTools, first⟩, ?_, ?_⟩
    · intro before manifest rest parts
      have own := importSkills_iff.mp ⟨others, withSkills, second⟩ before manifest rest parts
      simpa only [SkillFine, SkillKnown, Catalogue.skillByName, (importTools_after first).skills]
        using own
    · intro before manifest rest parts
      have own :=
        (importAgents_iff keys'.toKeyed).mp ⟨last, final, third⟩ before manifest rest parts
      exact (fine first second before manifest).mp own
  · intro applies
    obtain ⟨ones, withTools, first⟩ := (@importTools_iff platform catalogue _).mpr applies.tools
    have known : ∀ before manifest rest, manifests.skills = before ++ manifest :: rest →
        SkillFine withTools before manifest := by
      intro before manifest rest parts
      simpa only [SkillFine, SkillKnown, Catalogue.skillByName, (importTools_after first).skills]
        using applies.skills before manifest rest parts
    obtain ⟨others, withSkills, second⟩ := importSkills_iff.mpr known
    have keys' : Keys withSkills :=
      importEach_keeps importSkill_keys second (importEach_keeps importTool_keys first keys)
    obtain ⟨last, final, third⟩ := (@importAgents_iff platform _ keys'.toKeyed _).mpr
      fun before manifest rest parts =>
        (fine first second before manifest).mpr (applies.agents before manifest rest parts)
    exact ⟨_, final, importAll_stages.mpr
      ⟨ones, withTools, others, withSkills, last, first, second, third, rfl⟩⟩

/-- A manifest that is skipped leaves the import as it is without it, and one that is
not leaves what it names. -/
def Spares (result : DefinitionResult) (known : Bool)
    (without : Attempt (List DefinitionResult)) (others : List DefinitionResult × Catalogue) :
    Prop :=
  (result.action = .skipped → without = .ok others) ∧ (result.action ≠ .skipped → known = true)

structure Isolates (platform : Platform) (catalogue : Catalogue) (manifests : Manifests)
    (results : List DefinitionResult) (final : Catalogue) : Prop where
  imported : importAll platform catalogue manifests = .ok (results, final)
  tools : ∀ before manifest rest, manifests.tools = before ++ manifest :: rest →
    ∃ ones result more, results = ones ++ result :: more ∧ ones.length = before.length ∧
      Spares result (final.toolByName manifest.name).isSome
        (importAll platform catalogue { manifests with tools := before ++ rest })
        (ones ++ more, final)
  skills : ∀ before manifest rest, manifests.skills = before ++ manifest :: rest →
    ∃ ones result more, results = ones ++ result :: more ∧
      ones.length = manifests.tools.length + before.length ∧
      Spares result (final.skillByName manifest.name).isSome
        (importAll platform catalogue { manifests with skills := before ++ rest })
        (ones ++ more, final)
  agents : ∀ before manifest rest, manifests.agents = before ++ manifest :: rest →
    ∃ ones result more, results = ones ++ result :: more ∧
      ones.length = manifests.tools.length + manifests.skills.length + before.length ∧
      Spares result (final.agentBySlug manifest.slug).isSome
        (importAll platform catalogue { manifests with agents := before ++ rest })
        (ones ++ more, final)

theorem isolates_imported (keys : Keys catalogue)
    (imported : importAll platform catalogue manifests = .ok (results, final)) :
    Isolates platform catalogue manifests results final := by
  obtain ⟨ones, withTools, others, withSkills, last, first, second, third, rfl⟩ :=
    importAll_stages.mp imported
  have keys' : Keys withSkills :=
    importEach_keeps importSkill_keys second (importEach_keeps importTool_keys first keys)
  have agents := importAgents_after keys'.toKeyed third
  have skills := importSkills_after second
  refine ⟨imported, ?_, ?_, ?_⟩
  · intro before manifest rest parts
    rw [parts] at first
    obtain ⟨heads, middle, result, after, more, rfl, place, early, one, late⟩ :=
      importEach_place first
    refine ⟨heads, result, more ++ others ++ last, by simp, place, fun skipped => ?_,
      fun taken => ?_⟩
    · obtain rfl := importTool_skips one skipped
      exact importAll_stages.mpr ⟨heads ++ more, withTools, others, withSkills, last,
        importEach_append.mpr ⟨heads, _, more, early, late, rfl⟩, second, third, by simp⟩
    · have known := ((importTools_after late).known manifest.name).mpr
        (.inl (importTool_reports one taken))
      rwa [Catalogue.toolByName, ← skills.tools, ← agents.tools] at known
  · intro before manifest rest parts
    rw [parts] at second
    obtain ⟨heads, middle, result, after, more, rfl, place, early, one, late⟩ :=
      importEach_place second
    refine ⟨ones ++ heads, result, more ++ last, by simp, ?_, fun skipped => ?_, fun taken => ?_⟩
    · rw [List.length_append, importEach_length first, place]
    · obtain rfl := importSkill_skips one skipped
      exact importAll_stages.mpr ⟨ones, withTools, heads ++ more, withSkills, last, first,
        importEach_append.mpr ⟨heads, _, more, early, late, rfl⟩, third, by simp⟩
    · have known := ((importSkills_after late).known manifest.name).mpr
        (.inl (importSkill_reports one taken))
      rwa [Catalogue.skillByName, ← agents.skills] at known
  · intro before manifest rest parts
    rw [parts] at third
    obtain ⟨heads, middle, result, after, more, rfl, place, early, one, late⟩ :=
      importEach_place third
    have keyed : Keyed middle := (importAgents_after keys'.toKeyed early).keyed
    have moved := importAgent_after keyed one
    refine ⟨ones ++ others ++ heads, result, more, by simp, ?_, fun skipped => ?_, fun taken => ?_⟩
    · rw [List.length_append, List.length_append, importEach_length first, importEach_length second,
        place]
    · obtain rfl := importAgent_skips keyed one skipped
      exact importAll_stages.mpr ⟨ones, withTools, others, withSkills, heads ++ more, first, second,
        importEach_append.mpr ⟨heads, _, more, early, late, rfl⟩, by simp⟩
    · exact ((importAgents_after moved.keyed late).known manifest.slug).mpr
        (.inl (importAgent_reports keyed one taken))

/-- An import is isolated manifest by manifest where no manifest breaks it. -/
theorem imports_isolated_iff (keys : Keys catalogue) :
    (∃ results final, Isolates platform catalogue manifests results final) ↔
      Applies platform catalogue manifests := by
  rw [← applies_iff keys]
  constructor
  · rintro ⟨results, final, isolates⟩
    exact ⟨results, final, isolates.imported⟩
  · rintro ⟨results, final, imported⟩
    exact ⟨results, final, isolates_imported keys imported⟩

end Isolation

def bundled : Platform := ⟨fun _ => "", fun text => text, 25, 1 / 5⟩

def toolFile (name : String) (toolType riskLevel : Option String) : ToolManifest :=
  ⟨name ++ ".yaml", name, none, none, toolType, [], none, riskLevel, none, [], none, true, false⟩

def unknownType : Manifests :=
  ⟨[toolFile "guess" (some "ORACLE") none, toolFile "lookup" none none], [], []⟩

def unknownRisk : Manifests :=
  ⟨[toolFile "guess" none (some "SEVERE"), toolFile "lookup" none none], [], []⟩

theorem keys_empty : Keys .empty :=
  ⟨⟨List.nodup_nil, fun _ member => (nomatch member), fun _ member => (nomatch member)⟩,
    List.nodup_nil, fun _ member => (nomatch member), List.nodup_nil,
    fun _ member => (nomatch member)⟩

theorem imports_isolated_unknown_type :
    ∃ results final, Isolates bundled .empty unknownType results final := by
  refine (imports_isolated_iff keys_empty).mpr ((applies_iff keys_empty).mp ?_)
  cases imported : importAll bundled .empty unknownType with
  | ok outcome => exact ⟨outcome.1, outcome.2, rfl⟩
  | error failed =>
      have fine : (importAll bundled .empty unknownType).isOk = true := by decide +kernel
      rw [imported] at fine
      cases fine

/-- The database refuses the risk level, and the tool beside it is lost. -/
theorem unknown_risk_loses_import :
    (¬ ∃ results final, Isolates bundled .empty unknownRisk results final) ∧
      importAll bundled .empty unknownRisk = .error (.integrity "risk_level_valid", .empty) ∧
      (importAll bundled .empty { unknownRisk with tools := unknownRisk.tools.drop 1 }).isOk =
        true := by
  have refused : importAll bundled .empty unknownRisk =
      .error (.integrity "risk_level_valid", .empty) := rfl
  refine ⟨?_, refused, by decide +kernel⟩
  rintro ⟨results, final, isolates⟩
  rw [isolates.imported] at refused
  cases refused

end AiPlatform.Registries
