import AiPlatform.ImportIsolation
import AiPlatform.RegistryRuns

/-!
An import of skills and agents into a registry that earlier imports filled, beside
the import of the same manifests into an empty one with the same tools. For each
name and slug both come to a fold over its manifests: the one starts from what is
stored, the other from nothing.
-/

namespace AiPlatform.Registries

open Agents (Json Dict ToolType RiskLevel McpServer Skill Agent AgentVersionRow truthy strip)

def SkillRow.fields (skill : SkillRow) : SkillRow := { skill with id := 0 }

def SkillManifest.advance (manifest : SkillManifest) : Option SkillRow → SkillRow
  | none => manifest.row 0
  | some skill => manifest.apply skill

def skillFiles (manifests : List SkillManifest) (name : String) : List SkillManifest :=
  manifests.filter fun manifest => truthy manifest.name && manifest.name = name

section Skills

variable {platform : Platform} {catalogue after : Catalogue} {result : DefinitionResult}

theorem apply_fields (manifest : SkillManifest) (skill : SkillRow) :
    (manifest.apply skill).fields = manifest.apply skill.fields := rfl

theorem skillByName_updated (ids : (catalogue.skills.map (·.id)).Nodup) {manifest : SkillManifest}
    {existing : SkillRow} (known : catalogue.skillByName manifest.name = some existing)
    (name : String) :
    ({ catalogue with
        skills := catalogue.skills.map fun skill =>
          if skill.id = existing.id then manifest.apply skill else skill } : Catalogue).skillByName
      name =
      if manifest.name = name then some (manifest.apply existing)
      else catalogue.skillByName name := by
  rw [skillByName_map fun skill => by split <;> rfl]
  by_cases own : manifest.name = name
  · rw [if_pos own, ← own, known, Option.map_some, if_pos rfl]
  · rw [if_neg own]
    cases found : catalogue.skillByName name with
    | none => rfl
    | some skill =>
        have apart : skill.id ≠ existing.id := by
          intro same
          have equal := List.inj_on_of_nodup_map ids (List.mem_of_find?_eq_some found)
            (List.mem_of_find?_eq_some known) same
          have left : skill.name = name := by simpa using List.find?_some found
          have right : existing.name = manifest.name := by simpa using List.find?_some known
          exact own (right.symm.trans (equal ▸ left))
        rw [Option.map_some, if_neg apart]

theorem importSkill_advances (ids : (catalogue.skills.map (·.id)).Nodup)
    {manifest : SkillManifest}
    (imported : importSkill catalogue manifest = .ok (result, after)) (name : String) :
    (after.skillByName name).map SkillRow.fields =
      (skillFiles [manifest] name).foldl (fun skill manifest => some (manifest.advance skill))
        ((catalogue.skillByName name).map SkillRow.fields) := by
  have outcome := @importSkill_imported catalogue manifest
  rw [imported] at outcome
  cases outcome with
  | unnamed _ blank => simp [skillFiles, blank]
  | updated existing _ named _ known =>
      rw [skillByName_updated ids known]
      by_cases own : manifest.name = name
      · subst own
        simp [skillFiles, named, known, SkillManifest.advance, apply_fields]
      · simp [skillFiles, own]
  | created _ named _ free =>
      have stored : ({ catalogue with
            skills := catalogue.skills ++ [manifest.row catalogue.nextId]
            nextId := catalogue.nextId + 1 } : Catalogue).skillByName name =
          (catalogue.skillByName name).or
            (if manifest.name = name then some (manifest.row catalogue.nextId) else none) := by
        have named' : (manifest.row catalogue.nextId).name = manifest.name := rfl
        simp only [Catalogue.skillByName, List.find?_append, List.find?_singleton, named',
          decide_eq_true_eq]
      rw [stored]
      by_cases own : manifest.name = name
      · subst own
        simp [skillFiles, named, free, SkillManifest.advance, SkillRow.fields, SkillManifest.row]
      · simp [skillFiles, own]

theorem importSkills_advance {manifests : List SkillManifest} {results : List DefinitionResult}
    (keys : Keys catalogue)
    (imported : importEach importSkill manifests catalogue = .ok (results, after)) (name : String) :
    (after.skillByName name).map SkillRow.fields =
      (skillFiles manifests name).foldl (fun skill manifest => some (manifest.advance skill))
        ((catalogue.skillByName name).map SkillRow.fields) := by
  induction manifests generalizing catalogue results with
  | nil =>
      obtain ⟨_, rfl⟩ := importEach_nil.mp imported
      rfl
  | cons manifest rest ih =>
      obtain ⟨result, middle, others, one, more, _⟩ := importEach_cons.mp imported
      have split : skillFiles (manifest :: rest) name =
          skillFiles [manifest] name ++ skillFiles rest name := by
        rw [skillFiles, ← List.singleton_append, List.filter_append]
        rfl
      rw [ih (importSkill_keys keys one) more, importSkill_advances keys.skillIds one, split,
        List.foldl_append]

theorem foldl_advance (manifests : List SkillManifest) (skill : SkillRow) :
    manifests.foldl (fun skill manifest => some (manifest.advance skill)) (some skill) =
      some (manifests.foldl (fun skill manifest => manifest.apply skill) skill) := by
  induction manifests generalizing skill with
  | nil => rfl
  | cons manifest rest ih => exact ih (manifest.apply skill)

def SkillManifest.defaults (manifest : SkillManifest) : SkillRow where
  id := 0
  name := manifest.name
  displayName := manifest.name
  description := ""
  instructions := ""
  version := "1.0"
  requiredTools := []
  requiredKnowledge := []
  parameters := manifest.parameters
  requiredPermission := manifest.requiredPermission
  enabled := true

theorem orElse_left_out {value : Option String} (out : value.any truthy = false)
    (default : String) : orElse value default = default := by
  cases value with
  | none => rfl
  | some text => simp_all [orElse, Option.filter]

theorem orElse_given {value : Option String} (given : value.any truthy = true)
    (left right : String) : orElse value left = orElse value right := by
  cases value with
  | none => cases given
  | some text => simp_all [orElse, Option.filter]

theorem foldl_orElse_iff {Manifest : Type} (field : Manifest → Option String)
    (manifests : List Manifest) (left right : String) :
    manifests.foldl (fun text manifest => orElse (field manifest) text) left =
        manifests.foldl (fun text manifest => orElse (field manifest) text) right ↔
      (∃ manifest ∈ manifests, (field manifest).any truthy = true) ∨ left = right := by
  induction manifests generalizing left right with
  | nil => simp
  | cons manifest rest ih =>
      rw [List.foldl_cons, List.foldl_cons]
      cases given : (field manifest).any truthy with
      | false =>
          rw [orElse_left_out given, orElse_left_out given, ih]
          simp [given]
      | true =>
          rw [orElse_given given left right]
          simp [given]

theorem foldl_apply (manifests : List SkillManifest) (skill : SkillRow) :
    manifests.foldl (fun skill manifest => manifest.apply skill) skill = { skill with
      displayName :=
        manifests.foldl (fun text manifest => orElse manifest.displayName text) skill.displayName
      description :=
        manifests.foldl (fun text manifest => orElse manifest.description text) skill.description
      instructions :=
        manifests.foldl (fun text manifest => orElse manifest.instructions text) skill.instructions
      version := manifests.foldl (fun text manifest => orElse manifest.version text) skill.version
      requiredTools :=
        manifests.foldl (fun _ manifest => manifest.requiredTools) skill.requiredTools
      requiredKnowledge := manifests.foldl (fun _ manifest => manifest.requiredKnowledge)
        skill.requiredKnowledge } := by
  induction manifests generalizing skill with
  | nil => rfl
  | cons manifest rest ih => exact ih (manifest.apply skill)

/-- A stored skill has what the manifests of its name leave out: the default of each
text that none of them gives, and what only a new skill takes from the first. -/
structure SkillRow.Renewed (skill : SkillRow) (first : SkillManifest)
    (manifests : List SkillManifest) : Prop where
  displayName : (∃ manifest ∈ manifests, manifest.displayName.any truthy = true) ∨
    skill.displayName = skill.name
  description : (∃ manifest ∈ manifests, manifest.description.any truthy = true) ∨
    skill.description = ""
  instructions : (∃ manifest ∈ manifests, manifest.instructions.any truthy = true) ∨
    skill.instructions = ""
  version : (∃ manifest ∈ manifests, manifest.version.any truthy = true) ∨ skill.version = "1.0"
  parameters : skill.parameters = first.parameters
  requiredPermission : skill.requiredPermission = first.requiredPermission

theorem foldl_apply_iff {skill : SkillRow} {first : SkillManifest} {rest : List SkillManifest}
    (named : skill.name = first.name) (enabled : skill.enabled = true) :
    (first :: rest).foldl (fun skill manifest => manifest.apply skill) skill.fields =
        (first :: rest).foldl (fun skill manifest => manifest.apply skill) first.defaults ↔
      skill.Renewed first (first :: rest) := by
  have texts := @foldl_orElse_iff SkillManifest
  rw [foldl_apply, foldl_apply]
  constructor
  · intro same
    simp only [SkillRow.mk.injEq, Skill.mk.injEq] at same
    obtain ⟨⟨_, shown, described, instructed, _⟩, _, versioned, _, _, parameters, permission⟩ :=
      same
    exact ⟨((texts _ _ _ _).mp shown).imp_right (·.trans named.symm), (texts _ _ _ _).mp described,
      (texts _ _ _ _).mp instructed, (texts _ _ _ _).mp versioned, parameters, permission⟩
  · intro renewed
    simp only [SkillRow.mk.injEq, Skill.mk.injEq]
    exact ⟨⟨rfl, (texts _ _ _ _).mpr (renewed.displayName.imp_right (·.trans named)),
      (texts _ _ _ _).mpr renewed.description, (texts _ _ _ _).mpr renewed.instructions, enabled⟩,
      named, (texts _ _ _ _).mpr renewed.version, rfl, rfl, renewed.parameters,
      renewed.requiredPermission⟩

end Skills

structure VersionContent where
  systemPrompt : String
  model : String
  temperature : Rat
  maxIterations : Nat
  knowledgeBaseIds : List String
  memoryEnabled : Bool
  toolIds : List Nat
  skills : List String

def content (catalogue : Catalogue) (row : AgentVersionRow) : VersionContent where
  systemPrompt := row.systemPrompt
  model := row.model
  temperature := row.temperature
  maxIterations := row.maxIterations
  knowledgeBaseIds := row.knowledgeBaseIds
  memoryEnabled := row.memoryEnabled
  toolIds := row.toolIds
  skills := row.skillIds.filterMap fun id => (catalogue.skillById id).map (·.name)

structure AgentView where
  displayName : String
  description : Option String
  enabled : Bool
  current : Option VersionContent

def view (catalogue : Catalogue) (slug : String) : Option AgentView :=
  (catalogue.agentBySlug slug).map fun agent =>
    ⟨agent.displayName, agent.description, agent.enabled,
      (currentVersion catalogue agent).map (content catalogue)⟩

def AgentManifest.content (manifest : AgentManifest) (platform : Platform)
    (catalogue : Catalogue) : VersionContent :=
  let arguments := manifest.arguments platform catalogue
  { systemPrompt := arguments.systemPrompt, model := arguments.model
    temperature := arguments.temperature
    maxIterations := (min arguments.maxIterations platform.maxIterations).toNat
    knowledgeBaseIds := arguments.knowledgeBaseIds, memoryEnabled := arguments.memoryEnabled
    toolIds := arguments.toolIds
    skills := manifest.skills.filter fun name => (catalogue.skillByName name).isSome }

def AgentManifest.advance (manifest : AgentManifest) (platform : Platform)
    (catalogue : Catalogue) : Option AgentView → AgentView
  | none => ⟨orElse manifest.displayName manifest.slug, manifest.description, true,
      some (manifest.content platform catalogue)⟩
  | some agent => { agent with current := some (manifest.content platform catalogue) }

def agentFiles (manifests : List AgentManifest) (slug : String) : List AgentManifest :=
  manifests.filter fun manifest =>
    truthy manifest.slug && manifest.slug = slug && !manifest.malformed && slugMatches slug

structure Standing (catalogue : Catalogue) : Prop extends Keys catalogue where
  skillsEnabled : ∀ skill ∈ catalogue.skills, skill.enabled = true
  lawful : ∀ agent ∈ catalogue.agents, slugMatches agent.slug = true
  current : ∀ agent ∈ catalogue.agents, (currentVersion catalogue agent).isSome = true
  agentsEnabled : ∀ agent ∈ catalogue.agents, agent.enabled = true

section Agents

variable {platform : Platform} {catalogue after : Catalogue} {result : DefinitionResult}

theorem skillById_of_name (ids : (catalogue.skills.map (·.id)).Nodup) {name : String}
    {skill : SkillRow} (found : catalogue.skillByName name = some skill) :
    catalogue.skillById skill.id = some skill := by
  have member := List.mem_of_find?_eq_some found
  unfold Catalogue.skillById
  cases here : catalogue.skills.find? fun other => other.id = skill.id with
  | none =>
      have miss := List.find?_eq_none.mp here skill member
      simp at miss
  | some other =>
      have same : other.id = skill.id := by simpa using List.find?_some here
      rw [List.inj_on_of_nodup_map ids (List.mem_of_find?_eq_some here) member same]

theorem resolved_names (ids : (catalogue.skills.map (·.id)).Nodup) (names : List String) :
    ((resolveSkills catalogue names).1.filterMap fun id =>
        (catalogue.skillById id).map (·.name)) =
      names.filter fun name => (catalogue.skillByName name).isSome := by
  unfold resolveSkills
  induction names with
  | nil => rfl
  | cons name rest ih =>
      cases found : catalogue.skillByName name with
      | none => simpa [found] using ih
      | some skill =>
          have named : skill.name = name := by simpa using List.find?_some found
          simpa [found, skillById_of_name ids found, named] using ih

theorem content_row (ids : (catalogue.skills.map (·.id)).Nodup) (manifest : AgentManifest)
    {id agentId version : Nat} (skills : after.skills = catalogue.skills) :
    content after (manifest.row platform catalogue id agentId version) =
      manifest.content platform catalogue := by
  have names := resolved_names ids manifest.skills
  simp only [content, AgentManifest.content, AgentManifest.row, VersionArguments.row,
    Catalogue.skillById, skills]
  rw [← names]
  rfl

theorem agentBySlug_opened (agent : Agent) (row : AgentVersionRow) (slug : String) :
    (catalogue.opened agent row).agentBySlug slug =
      (catalogue.agentBySlug slug).or (if agent.slug = slug then some agent else none) := by
  simp only [Catalogue.agentBySlug, List.find?_append, List.find?_singleton, decide_eq_true_eq]

theorem view_opened (standing : Standing catalogue) {manifest : AgentManifest}
    (named : truthy manifest.slug = true) (formed : manifest.malformed = false)
    (lawful : slugMatches manifest.slug = true)
    (free : catalogue.agentBySlug manifest.slug = none) (slug : String) :
    view (catalogue.opened (manifest.agent catalogue.nextId)
        (manifest.row platform catalogue (catalogue.nextId + 1) catalogue.nextId 1)) slug =
      (agentFiles [manifest] slug).foldl
        (fun agent manifest => some (manifest.advance platform catalogue agent))
        (view catalogue slug) := by
  rw [view, agentBySlug_opened, view]
  cases found : catalogue.agentBySlug slug with
  | some agent =>
      have other : manifest.slug ≠ slug := by
        rintro rfl
        rw [free] at found
        cases found
      have below := standing.agentsBelow agent (List.mem_of_find?_eq_some found)
      have apart : catalogue.nextId ≠ agent.id := by omega
      rw [Option.some_or, Option.map_some, Option.map_some, currentVersion_append rfl apart]
      simp only [agentFiles, List.filter_cons, List.filter_nil, other, decide_false, Bool.and_false,
        Bool.false_and, Bool.false_eq_true, if_false, List.foldl_nil]
      rfl
  | none =>
      have own' : (manifest.agent catalogue.nextId).slug = manifest.slug := rfl
      rw [Option.none_or, own']
      by_cases own : manifest.slug = slug
      · subst own
        have fresh : currentVersion catalogue (manifest.agent catalogue.nextId) = none := by
          rw [currentVersion, List.find?_eq_none]
          intro row listed matches'
          have owner : row.agentId = catalogue.nextId :=
            of_decide_eq_true (Bool.and_eq_true_iff.mp matches').1
          have below := standing.versionsBelow row listed
          omega
        have current : currentVersion (catalogue.opened (manifest.agent catalogue.nextId)
              (manifest.row platform catalogue (catalogue.nextId + 1) catalogue.nextId 1))
              (manifest.agent catalogue.nextId) =
            some (manifest.row platform catalogue (catalogue.nextId + 1) catalogue.nextId 1) := by
          rw [currentVersion, List.find?_append, ← currentVersion, fresh]
          simp [AgentManifest.row, VersionArguments.row, AgentManifest.agent]
        have written : content (catalogue.opened (manifest.agent catalogue.nextId)
              (manifest.row platform catalogue (catalogue.nextId + 1) catalogue.nextId 1))
              (manifest.row platform catalogue (catalogue.nextId + 1) catalogue.nextId 1) =
            manifest.content platform catalogue := content_row standing.skillIds manifest rfl
        rw [if_pos rfl, Option.map_some, current, Option.map_some, written]
        simp [agentFiles, named, formed, lawful, AgentManifest.advance, AgentManifest.agent]
      · rw [if_neg own]
        simp [agentFiles, own]

theorem view_published (standing : Standing catalogue) {manifest : AgentManifest}
    {existing : Agent} {row : AgentVersionRow} (named : truthy manifest.slug = true)
    (formed : manifest.malformed = false)
    (known : catalogue.agentBySlug manifest.slug = some existing)
    (stored : row = manifest.row platform catalogue catalogue.nextId existing.id
      (nextVersion catalogue existing.id)) (slug : String) :
    view (catalogue.published existing row) slug =
      (agentFiles [manifest] slug).foldl
        (fun agent manifest => some (manifest.advance platform catalogue agent))
        (view catalogue slug) := by
  have holder : existing.slug = manifest.slug := by simpa using List.find?_some known
  have member := List.mem_of_find?_eq_some known
  have lawful : slugMatches manifest.slug = true := holder ▸ standing.lawful existing member
  have owner : row.agentId = existing.id := congrArg (·.agentId) stored
  have numbered : row.version = nextVersion catalogue existing.id := congrArg (·.version) stored
  rw [view, agentBySlug_map fun agent => by split <;> rfl]
  cases found : catalogue.agentBySlug slug with
  | none =>
      have other : manifest.slug ≠ slug := by
        rintro rfl
        rw [known] at found
        cases found
      simp [agentFiles, other, view, found]
  | some agent =>
      have titled : agent.slug = slug := by simpa using List.find?_some found
      rw [Option.map_some, Option.map_some]
      by_cases same : agent.id = existing.id
      · obtain rfl : agent = existing :=
          standing.toKeyed.slug_unique (List.mem_of_find?_eq_some found) member same
        have own : manifest.slug = slug := holder.symm.trans titled
        have fresh : (catalogue.versions.find? fun other =>
            other.agentId = agent.id && other.version = row.version) = none := by
          have none' := @nextVersion_fresh catalogue agent.id
          rw [List.any_eq_false] at none'
          rw [List.find?_eq_none, numbered]
          exact none'
        have current : currentVersion (catalogue.published agent row)
            { agent with currentVersion := row.version } = some row := by
          simp only [currentVersion, List.find?_append]
          rw [fresh]
          simp [owner]
        have written : content (catalogue.published agent row) row =
            manifest.content platform catalogue := by
          rw [stored]
          exact content_row standing.skillIds manifest rfl
        rw [if_pos rfl, current, Option.map_some, written, view, found]
        simp [agentFiles, own, own ▸ named, formed, own ▸ lawful, AgentManifest.advance]
      · have other : manifest.slug ≠ slug := by
          rintro rfl
          rw [known] at found
          cases found
          exact same rfl
        rw [if_neg same, currentVersion_append rfl fun clash => same (clash.symm.trans owner), view,
          found]
        simp only [agentFiles, List.filter_cons, List.filter_nil, other, decide_false,
          Bool.and_false, Bool.false_and, Bool.false_eq_true, if_false, List.foldl_nil]
        rfl

theorem importAgent_advances (standing : Standing catalogue) {manifest : AgentManifest}
    (imported : importAgent platform catalogue manifest = .ok (result, after)) (slug : String) :
    view after slug = (agentFiles [manifest] slug).foldl
      (fun agent manifest => some (manifest.advance platform catalogue agent))
      (view catalogue slug) := by
  have outcome := @importAgent_imported platform catalogue standing.toKeyed manifest
  rw [imported] at outcome
  cases outcome with
  | kept _ _ idle =>
      have out : agentFiles [manifest] slug = [] := by
        simp only [agentFiles, List.filter_eq_nil_iff, List.mem_singleton, forall_eq,
          Bool.and_eq_true, Bool.not_eq_true', decide_eq_true_eq, not_and, Bool.not_eq_true]
        rintro ⟨⟨named, rfl⟩, formed⟩
        rcases idle with blank | malformed | ⟨_, unlawful⟩ | ⟨there, missing⟩
        · exact absurd (blank.symm.trans named) (by decide)
        · exact absurd (malformed.symm.trans formed) (by decide)
        · exact unlawful
        · obtain ⟨agent, found⟩ := Option.isSome_iff_exists.mp there
          exact absurd ⟨agent, found, standing.current agent (List.mem_of_find?_eq_some found)⟩
            missing
      rw [out]
      rfl
  | opened _ _ offers free =>
      simp only [AgentManifest.offers, Bool.and_eq_true, Bool.not_eq_true'] at offers
      exact view_opened standing offers.1.1 offers.1.2 offers.2 free slug
  | published existing row _ _ named formed known _ _ stored =>
      exact view_published standing named formed known stored slug

theorem skills_enabled {manifest : SkillManifest}
    (imported : importSkill catalogue manifest = .ok (result, after))
    (enabled : ∀ skill ∈ catalogue.skills, skill.enabled = true) :
    ∀ skill ∈ after.skills, skill.enabled = true := by
  have outcome := @importSkill_imported catalogue manifest
  rw [imported] at outcome
  cases outcome with
  | unnamed => exact enabled
  | updated existing =>
      intro skill member
      obtain ⟨old, stored, rfl⟩ := List.mem_map.mp member
      split <;> exact enabled old stored
  | created =>
      intro skill member
      rcases List.mem_append.mp member with old | fresh
      · exact enabled skill old
      · rw [List.mem_singleton.mp fresh]
        rfl

theorem importTool_standing {manifest : ToolManifest} (standing : Standing catalogue)
    (imported : importTool platform catalogue manifest = .ok (result, after)) :
    Standing after := by
  have moved := importTool_after imported
  have keys := importTool_keys standing.toKeys imported
  refine ⟨keys, ?_, ?_, ?_, ?_⟩
  · rw [moved.skills]
    exact standing.skillsEnabled
  · rw [moved.agents]
    exact standing.lawful
  · simp only [currentVersion, moved.agents, moved.versions]
    exact standing.current
  · rw [moved.agents]
    exact standing.agentsEnabled

theorem importSkill_standing {manifest : SkillManifest} (standing : Standing catalogue)
    (imported : importSkill catalogue manifest = .ok (result, after)) : Standing after := by
  have moved := importSkill_after imported
  refine ⟨importSkill_keys standing.toKeys imported,
    skills_enabled imported standing.skillsEnabled, ?_, ?_, ?_⟩
  · rw [moved.agents]
    exact standing.lawful
  · simp only [currentVersion, moved.agents, moved.versions]
    exact standing.current
  · rw [moved.agents]
    exact standing.agentsEnabled

theorem importAgent_standing {manifest : AgentManifest} (standing : Standing catalogue)
    (imported : importAgent platform catalogue manifest = .ok (result, after)) :
    Standing after := by
  have moved := importAgent_after standing.toKeyed imported
  have keys := moved.keys standing.toKeys
  have enabled : ∀ skill ∈ after.skills, skill.enabled = true := by
    rw [moved.skills]
    exact standing.skillsEnabled
  have outcome := @importAgent_imported platform catalogue standing.toKeyed manifest
  rw [imported] at outcome
  cases outcome with
  | kept => exact standing
  | opened _ _ offers =>
      simp only [AgentManifest.offers, Bool.and_eq_true] at offers
      refine ⟨keys, enabled, fun agent member => ?_, fun agent member => ?_,
        fun agent member => ?_⟩
      · rcases List.mem_append.mp member with old | fresh
        · exact standing.lawful agent old
        · rw [List.mem_singleton.mp fresh]
          exact offers.2
      · rcases List.mem_append.mp member with old | fresh
        · have below := standing.agentsBelow agent old
          have apart : catalogue.nextId ≠ agent.id := by omega
          rw [currentVersion_append rfl apart]
          exact standing.current agent old
        · rw [List.mem_singleton.mp fresh]
          exact currentVersion_own (List.mem_append_right _ (.head _)) rfl rfl
      · rcases List.mem_append.mp member with old | fresh
        · exact standing.agentsEnabled agent old
        · rw [List.mem_singleton.mp fresh]
          rfl
  | published existing row _ _ _ _ known _ _ stored =>
      have owner : row.agentId = existing.id := congrArg (·.agentId) stored
      refine ⟨keys, enabled, fun agent member => ?_, fun agent member => ?_,
        fun agent member => ?_⟩
      · obtain ⟨old, listed, rfl⟩ := List.mem_map.mp member
        split <;> exact standing.lawful old listed
      · obtain ⟨old, listed, rfl⟩ := List.mem_map.mp member
        by_cases same : old.id = existing.id
        · rw [if_pos same]
          exact currentVersion_own (List.mem_append_right _ (.head _)) (owner.trans same.symm) rfl
        · rw [if_neg same, currentVersion_append rfl fun clash => same (clash.symm.trans owner)]
          exact standing.current old listed
      · obtain ⟨old, listed, rfl⟩ := List.mem_map.mp member
        split <;> exact standing.agentsEnabled old listed

theorem importAgents_advance {manifests : List AgentManifest} {results : List DefinitionResult}
    (standing : Standing catalogue)
    (imported : importEach (importAgent platform) manifests catalogue = .ok (results, after))
    (slug : String) :
    view after slug = (agentFiles manifests slug).foldl
      (fun agent manifest => some (manifest.advance platform catalogue agent))
      (view catalogue slug) := by
  have fixed {middle : Catalogue} (tools : middle.tools = catalogue.tools)
      (skills : middle.skills = catalogue.skills) (manifest : AgentManifest)
      (agent : Option AgentView) :
      manifest.advance platform middle agent = manifest.advance platform catalogue agent := by
    cases agent <;>
      simp only [AgentManifest.advance, AgentManifest.content, AgentManifest.arguments,
        resolveTools, resolveSkills, Catalogue.toolByName, Catalogue.skillByName, tools, skills]
  -- The stage does not touch the tables that the names are resolved in.
  have along : ∀ (manifests : List AgentManifest) (middle : Catalogue)
      (results : List DefinitionResult), Standing middle → middle.tools = catalogue.tools →
      middle.skills = catalogue.skills →
      importEach (importAgent platform) manifests middle = .ok (results, after) →
      view after slug = (agentFiles manifests slug).foldl
        (fun agent manifest => some (manifest.advance platform catalogue agent))
        (view middle slug) := by
    intro manifests
    induction manifests with
    | nil =>
        intro middle results _ _ _ imported
        obtain ⟨_, rfl⟩ := importEach_nil.mp imported
        rfl
    | cons manifest rest ih =>
        intro middle results standing tools skills imported
        obtain ⟨result, next, others, one, more, _⟩ := importEach_cons.mp imported
        have moved := importAgent_after standing.toKeyed one
        have split : agentFiles (manifest :: rest) slug =
            agentFiles [manifest] slug ++ agentFiles rest slug := by
          rw [agentFiles, ← List.singleton_append, List.filter_append]
          rfl
        rw [ih next others (importAgent_standing standing one) (moved.tools.trans tools)
          (moved.skills.trans skills) more, importAgent_advances standing one, split,
          List.foldl_append]
        simp only [fixed tools skills]
  exact along manifests catalogue results standing rfl rfl imported

theorem foldl_versions (rest : List AgentManifest) (first : AgentManifest) (agent : AgentView) :
    (first :: rest).foldl (fun agent manifest => some (manifest.advance platform catalogue agent))
        (some agent) =
      some { agent with
        current := some ((rest.getLast?.getD first).content platform catalogue) } := by
  induction rest generalizing first agent with
  | nil => rfl
  | cons second more ih =>
      rw [List.foldl_cons, List.getLast?_cons]
      exact ih second _

theorem content_eq_iff {other : Catalogue} (tools : catalogue.tools = other.tools)
    (fewer : ∀ name, (other.skillByName name).isSome = true →
      (catalogue.skillByName name).isSome = true) (manifest : AgentManifest) :
    manifest.content platform catalogue = manifest.content platform other ↔
      ∀ name ∈ manifest.skills, (catalogue.skillByName name).isSome = true →
        (other.skillByName name).isSome = true := by
  constructor
  · intro same name listed known
    have names : manifest.skills.filter (fun name => (catalogue.skillByName name).isSome) =
        manifest.skills.filter fun name => (other.skillByName name).isSome :=
      congrArg VersionContent.skills same
    have member : name ∈ manifest.skills.filter fun name =>
        (catalogue.skillByName name).isSome := List.mem_filter.mpr ⟨listed, known⟩
    rw [names] at member
    exact (List.mem_filter.mp member).2
  · intro known
    have names : manifest.skills.filter (fun name => (catalogue.skillByName name).isSome) =
        manifest.skills.filter fun name => (other.skillByName name).isSome := by
      refine List.filter_congr fun name listed => ?_
      rw [Bool.eq_iff_iff]
      exact ⟨known name listed, fewer name⟩
    simp only [AgentManifest.content, names, AgentManifest.arguments, resolveTools,
      Catalogue.toolByName, tools]

end Agents

section Convergence

variable {platform : Platform} {catalogue start prior again fresh : Catalogue}
  {skills : List SkillManifest} {agents : List AgentManifest}
  {results results' : List DefinitionResult}

theorem importAll_standing {manifests : Manifests} {after : Catalogue}
    (standing : Standing catalogue)
    (imported : importAll platform catalogue manifests = .ok (results, after)) :
    Standing after := by
  obtain ⟨ones, withTools, others, withSkills, last, first, second, third, _⟩ :=
    importAll_stages.mp imported
  have tools := importEach_keeps importTool_standing first standing
  have skills := importEach_keeps importSkill_standing second tools
  exact importEach_keeps importAgent_standing third skills

def bare (catalogue : Catalogue) : Catalogue :=
  { catalogue with skills := [], agents := [], versions := [] }

theorem standing_bare (keys : Keys catalogue) : Standing (bare catalogue) := by
  refine ⟨⟨⟨List.nodup_nil, ?_, ?_⟩, keys.toolIds, keys.toolsBelow, List.nodup_nil, ?_⟩, ?_, ?_, ?_,
    ?_⟩ <;> exact fun _ member => (nomatch member)

/-- Imports, one after the other. -/
abbrev Imports (platform : Platform) : Catalogue → Catalogue → Prop :=
  History (fun catalogue manifests => committed (importAll platform catalogue manifests))
    fun _ _ => True

theorem imports_standing (keys : Keys start)
    (history : Imports platform (bare start) prior) : Standing prior := by
  refine history.keeps Standing (standing_bare keys) ?_
  intro catalogue manifests after _ stepped standing
  obtain ⟨results, imported⟩ := committed_some stepped
  exact importAll_standing standing imported

structure Converged (skills : List SkillManifest) (agents : List AgentManifest)
    (again fresh : Catalogue) : Prop where
  skills : ∀ manifest ∈ skills, truthy manifest.name = true →
    (again.skillByName manifest.name).map SkillRow.fields =
      (fresh.skillByName manifest.name).map SkillRow.fields
  agents : ∀ manifest ∈ agents, truthy manifest.slug = true →
    view again manifest.slug = view fresh manifest.slug

/-- What is stored differs from a new registry in nothing that the manifests leave as
it is. -/
structure Renews (catalogue : Catalogue) (skills : List SkillManifest)
    (agents : List AgentManifest) : Prop where
  texts : ∀ name skill first rest, skillFiles skills name = first :: rest →
    catalogue.skillByName name = some skill → skill.Renewed first (first :: rest)
  identities : ∀ manifest ∈ agents, truthy manifest.slug = true →
    ∀ agent, catalogue.agentBySlug manifest.slug = some agent →
      ∃ first, (agentFiles agents manifest.slug).head? = some first ∧
        agent.displayName = orElse first.displayName first.slug ∧
        agent.description = first.description
  references : ∀ slug last, (agentFiles agents slug).getLast? = some last →
    ∀ name ∈ last.skills, (catalogue.skillByName name).isSome = true →
      ∃ manifest ∈ skills, manifest.name = name ∧ truthy manifest.name = true

theorem skillFiles_cons {manifest : SkillManifest} (listed : manifest ∈ skills)
    (named : truthy manifest.name = true) :
    ∃ first rest, skillFiles skills manifest.name = first :: rest := by
  have member : manifest ∈ skillFiles skills manifest.name :=
    List.mem_filter.mpr ⟨listed, by simp [named]⟩
  cases files : skillFiles skills manifest.name with
  | nil => exact absurd (files ▸ member) List.not_mem_nil
  | cons first rest => exact ⟨first, rest, rfl⟩

theorem skill_converges_iff {name : String} {first : SkillManifest} {rest : List SkillManifest}
    (standing : Standing prior) (files : skillFiles skills name = first :: rest)
    {withSkills withSkills' : Catalogue} {ones others : List DefinitionResult}
    (second : importEach importSkill skills prior = .ok (ones, withSkills))
    (second' : importEach importSkill skills (bare prior) = .ok (others, withSkills')) :
    (withSkills.skillByName name).map SkillRow.fields =
        (withSkills'.skillByName name).map SkillRow.fields ↔
      ∀ skill, prior.skillByName name = some skill → skill.Renewed first (first :: rest) := by
  have fresh : (withSkills'.skillByName name).map SkillRow.fields =
      some ((first :: rest).foldl (fun skill manifest => manifest.apply skill) first.defaults) := by
    rw [importSkills_advance (standing_bare standing.toKeys).toKeys second', files]
    exact foldl_advance rest (first.row 0)
  rw [fresh, importSkills_advance standing.toKeys second, files]
  cases found : prior.skillByName name with
  | none =>
      have created : (first :: rest).foldl
            (fun skill manifest => some (manifest.advance skill)) none =
          some ((first :: rest).foldl (fun skill manifest => manifest.apply skill)
            first.defaults) := foldl_advance rest (first.row 0)
      rw [Option.map_none, created]
      simp
  | some skill =>
      have named : skill.name = first.name := by
        have member : first ∈ skillFiles skills name := by simp [files]
        have own := (List.mem_filter.mp member).2
        simp only [Bool.and_eq_true, decide_eq_true_eq] at own
        have stored : skill.name = name := by simpa using List.find?_some found
        rw [stored, own.2]
      have enabled := standing.skillsEnabled skill (List.mem_of_find?_eq_some found)
      rw [Option.map_some, foldl_advance, Option.some.injEq, foldl_apply_iff named enabled]
      simp

theorem agent_converges_iff (standing : Standing prior) (slug : String)
    {withSkills withSkills' : Catalogue} {ones others last last' : List DefinitionResult}
    (second : importEach importSkill skills prior = .ok (ones, withSkills))
    (second' : importEach importSkill skills (bare prior) = .ok (others, withSkills'))
    (third : importEach (importAgent platform) agents withSkills = .ok (last, again))
    (third' : importEach (importAgent platform) agents withSkills' = .ok (last', fresh)) :
    view again slug = view fresh slug ↔
      (∀ agent, prior.agentBySlug slug = some agent →
        ∃ first, (agentFiles agents slug).head? = some first ∧
          agent.displayName = orElse first.displayName first.slug ∧
          agent.description = first.description) ∧
      ∀ last, (agentFiles agents slug).getLast? = some last →
        ∀ name ∈ last.skills, (prior.skillByName name).isSome = true →
          ∃ manifest ∈ skills, manifest.name = name ∧ truthy manifest.name = true := by
  have moved := importSkills_after second
  have moved' := importSkills_after second'
  have kept := importEach_keeps importSkill_standing second standing
  have kept' := importEach_keeps importSkill_standing second' (standing_bare standing.toKeys)
  have none' : view withSkills' slug = none := by
    simp [view, Catalogue.agentBySlug, moved'.agents, bare]
  have stored : withSkills.agentBySlug slug = prior.agentBySlug slug := by
    simp only [Catalogue.agentBySlug, moved.agents]
  have known' (name : String) : (withSkills'.skillByName name).isSome = true ↔
      ∃ manifest ∈ skills, manifest.name = name ∧ truthy manifest.name = true := by
    rw [moved'.known name]
    simp [SkillKnown, bare, Catalogue.skillByName]
  have contents (manifest : AgentManifest) :
      manifest.content platform withSkills = manifest.content platform withSkills' ↔
        ∀ name ∈ manifest.skills, (prior.skillByName name).isSome = true →
          ∃ other ∈ skills, other.name = name ∧ truthy other.name = true := by
    have tools : withSkills.tools = withSkills'.tools := moved.tools.trans moved'.tools.symm
    rw [content_eq_iff tools fun name there =>
      (moved.known name).mpr (.inr ((known' name).mp there))]
    constructor
    · intro more name listed there
      exact (known' name).mp (more name listed ((moved.known name).mpr (.inl there)))
    · intro more name listed there
      refine (known' name).mpr (((moved.known name).mp there).elim (more name listed) id)
  rw [importAgents_advance kept third, importAgents_advance kept' third', none']
  cases files : agentFiles agents slug with
  | nil =>
      simp only [List.foldl_nil, view, stored, Option.map_eq_none_iff, List.head?_nil,
        List.getLast?_nil, reduceCtorEq, false_and, exists_false, false_implies, implies_true,
        and_true]
      exact Option.eq_none_iff_forall_ne_some
  | cons first rest =>
      have created : (first :: rest).foldl
            (fun agent manifest => some (manifest.advance platform withSkills' agent)) none =
          some ⟨orElse first.displayName first.slug, first.description, true,
            some ((rest.getLast?.getD first).content platform withSkills')⟩ := by
        cases rest with
        | nil => rfl
        | cons second more =>
            rw [List.foldl_cons, List.getLast?_cons]
            exact foldl_versions more second _
      rw [created, List.getLast?_cons]
      simp only [List.head?_cons, Option.some.injEq, exists_eq_left', forall_eq']
      rw [← contents]
      cases found : prior.agentBySlug slug with
      | none =>
          have opened : (first :: rest).foldl
                (fun agent manifest => some (manifest.advance platform withSkills agent)) none =
              some ⟨orElse first.displayName first.slug, first.description, true,
                some ((rest.getLast?.getD first).content platform withSkills)⟩ := by
            cases rest with
            | nil => rfl
            | cons second more =>
                rw [List.foldl_cons, List.getLast?_cons]
                exact foldl_versions more second _
          rw [view, stored, found, Option.map_none, opened]
          simp
      | some agent =>
          have enabled := standing.agentsEnabled agent (List.mem_of_find?_eq_some found)
          rw [view, stored, found, Option.map_some, foldl_versions]
          simp only [Option.some.injEq, AgentView.mk.injEq, enabled, true_and, forall_eq']
          exact and_assoc.symm

/-- An import converges where nothing stored goes beyond the manifests. -/
theorem imports_converge_iff (keys : Keys start)
    (history : Imports platform (bare start) prior)
    (imported : importAll platform prior ⟨[], skills, agents⟩ = .ok (results, again))
    (imported' : importAll platform (bare prior) ⟨[], skills, agents⟩ = .ok (results', fresh)) :
    Converged skills agents again fresh ↔ Renews prior skills agents := by
  have standing := imports_standing keys history
  obtain ⟨_, withTools, ones, withSkills, last, first, second, third, _⟩ :=
    importAll_stages.mp imported
  obtain ⟨_, withTools', others, withSkills', last', first', second', third', _⟩ :=
    importAll_stages.mp imported'
  obtain ⟨_, rfl⟩ := importEach_nil.mp first
  obtain ⟨_, rfl⟩ := importEach_nil.mp first'
  have kept := importEach_keeps importSkill_standing second standing
  have kept' := importEach_keeps importSkill_standing second' (standing_bare standing.toKeys)
  have same : again.skills = withSkills.skills := (importAgents_after kept.toKeyed third).skills
  have same' : fresh.skills = withSkills'.skills := (importAgents_after kept'.toKeyed third').skills
  constructor
  · intro converged
    refine ⟨fun name skill first rest files found => ?_, ?_, ?_⟩
    · have member : first ∈ skillFiles skills name := by simp [files]
      obtain ⟨listed, own⟩ := List.mem_filter.mp member
      simp only [Bool.and_eq_true, decide_eq_true_eq] at own
      obtain ⟨named, rfl⟩ := own
      refine (skill_converges_iff standing files second second').mp ?_ skill found
      simpa only [Catalogue.skillByName, same, same'] using converged.skills first listed named
    · intro manifest listed named
      exact ((agent_converges_iff standing manifest.slug second second' third third').mp
        (converged.agents manifest listed named)).1
    · intro slug last found
      have member := List.mem_of_getLast? found
      obtain ⟨listed, own⟩ := List.mem_filter.mp member
      simp only [Bool.and_eq_true, decide_eq_true_eq] at own
      obtain ⟨⟨⟨named, rfl⟩, _⟩, _⟩ := own
      exact ((agent_converges_iff standing last.slug second second' third third').mp
        (converged.agents last listed named)).2 last found
  · intro renews
    refine ⟨fun manifest listed named => ?_, fun manifest listed named => ?_⟩
    · obtain ⟨head, rest, files⟩ := skillFiles_cons listed named
      have alike := (skill_converges_iff standing files second second').mpr fun skill found =>
        renews.texts manifest.name skill head rest files found
      simpa only [Catalogue.skillByName, same, same'] using alike
    · exact (agent_converges_iff standing manifest.slug second second' third third').mpr
        ⟨renews.identities manifest listed named, renews.references manifest.slug⟩

end Convergence

def triage (permission : Option String) : SkillManifest :=
  ⟨"triage.yaml", "triage", none, none, some "Sort the tickets.", none, [], [], [], permission,
    true, false, false⟩

def titled (title : String) : AgentManifest :=
  ⟨"helpdesk.yaml", "helpdesk", some title, none, true, some "Help kindly.", none, none, none, [],
    ["triage"], [], false, false, false⟩

def importing (catalogue : Catalogue) (permission : Option String) (title : String) : Catalogue :=
  match importAll bundled catalogue ⟨[], [triage permission], [titled title]⟩ with
  | .ok (_, after) => after
  | .error _ => catalogue

theorem imports_importing (permission : Option String) (title : String)
    (fine : (importAll bundled .empty ⟨[], [triage permission], [titled title]⟩).isOk = true) :
    Imports bundled (bare .empty) (importing .empty permission title) := by
  refine .next ⟨[], [triage permission], [titled title]⟩ .start trivial ?_
  rw [importing]
  cases imported : importAll bundled .empty ⟨[], [triage permission], [titled title]⟩ with
  | ok outcome => exact congrArg committed imported
  | error failed =>
      rw [imported] at fine
      cases fine

theorem imports_converge_unchanged :
    Renews (importing .empty none "Helpdesk") [triage none] [titled "Helpdesk"] := by
  refine (imports_converge_iff keys_empty
    (imports_importing none "Helpdesk" (by decide +kernel)) rfl rfl).mp ⟨?_, ?_⟩
  · intro manifest listed _
    obtain rfl := List.mem_singleton.mp listed
    rfl
  · intro manifest listed _
    obtain rfl := List.mem_singleton.mp listed
    rfl

/-- A permission that a manifest has since got is not asked for, and a new title does
not show. -/
theorem edited_manifests_diverge :
    Imports bundled (bare .empty) (importing .empty none "Helpdesk") ∧
      (importAll bundled (importing .empty none "Helpdesk")
        ⟨[], [triage (some "tickets.read")], [titled "Service desk"]⟩).isOk = true ∧
      (importAll bundled (bare (importing .empty none "Helpdesk"))
        ⟨[], [triage (some "tickets.read")], [titled "Service desk"]⟩).isOk = true ∧
      ((importing (importing .empty none "Helpdesk") (some "tickets.read")
          "Service desk").skillByName "triage").map (·.requiredPermission) = some none ∧
      (view (importing (importing .empty none "Helpdesk") (some "tickets.read") "Service desk")
          "helpdesk").map (·.displayName) = some "Helpdesk" ∧
      ¬ Converged [triage (some "tickets.read")] [titled "Service desk"]
        (importing (importing .empty none "Helpdesk") (some "tickets.read") "Service desk")
        (importing (bare (importing .empty none "Helpdesk")) (some "tickets.read")
          "Service desk") := by
  refine ⟨imports_importing none "Helpdesk" (by decide +kernel), by decide +kernel,
    by decide +kernel, by decide +kernel, by decide +kernel, fun converged => ?_⟩
  have asked := congrArg (Option.map (·.requiredPermission))
    (converged.skills (triage (some "tickets.read")) (.head _) (by decide))
  revert asked
  decide +kernel

end AiPlatform.Registries
