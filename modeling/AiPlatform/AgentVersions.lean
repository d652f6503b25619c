import AiPlatform.RegistryRuns

/-!
Whether a published version stays what it was. Publishing never touches an older
version, and the numbering is gapless in every run; but deleting a tool, a skill
or a server also deletes the association rows of the versions that grant it. A
version is kept for ever in the runs that delete nothing a version grants.
-/

namespace AiPlatform.Registries

open Agents (Json Dict ToolType RiskLevel McpServer Skill Agent AgentVersionRow truthy strip)

/-- The request deletes nothing that a version grants. -/
def SparesGrants (catalogue : Catalogue) (op : Op) : Prop :=
  ∀ version ∈ catalogue.versions,
    (∀ tool ∈ catalogue.tools, op.drops tool = true → tool.id ∉ version.toolIds) ∧
      ∀ skillId, op = .deleteSkill skillId → skillId ∉ version.skillIds

theorem dropTools_versions {catalogue : Catalogue} {gone : ToolRow → Bool}
    (spared : ∀ version ∈ catalogue.versions, ∀ tool ∈ catalogue.tools, gone tool = true →
      tool.id ∉ version.toolIds) :
    (catalogue.dropTools gone).versions = catalogue.versions := by
  refine Eq.trans (List.map_congr_left fun version member => ?_) (List.map_id _)
  have whole : version.toolIds.filter (fun id =>
      !((catalogue.tools.filter gone).map (·.id)).contains id) = version.toolIds := by
    refine List.filter_eq_self.mpr fun id granted => ?_
    simp only [Bool.not_eq_true', List.contains_eq_mem, decide_eq_false_iff_not, List.mem_map]
    rintro ⟨tool, dropped, rfl⟩
    obtain ⟨stored, hit⟩ := List.mem_filter.mp dropped
    exact spared version member tool stored hit granted
  simp only [whole]
  rfl

theorem dropSkill_versions {catalogue : Catalogue} {skillId : Nat}
    (spared : ∀ version ∈ catalogue.versions, skillId ∉ version.skillIds) :
    (catalogue.dropSkill skillId).versions = catalogue.versions := by
  refine Eq.trans (List.map_congr_left fun version member => ?_) (List.map_id _)
  have whole : version.skillIds.filter (fun id => id ≠ skillId) = version.skillIds := by
    refine List.filter_eq_self.mpr fun id granted => ?_
    simp only [ne_eq, decide_not, Bool.not_eq_true', decide_eq_false_iff_not]
    rintro rfl
    exact spared version member granted
  simp only [whole]
  rfl

theorem versions_step {platform : Platform} {catalogue after : Catalogue} {op : Op}
    (stepped : step platform catalogue op = some after) (spares : SparesGrants catalogue op) :
    ∀ version ∈ catalogue.versions, version ∈ after.versions := by
  rcases step_cases stepped with evolves | ⟨servers, _, rfl⟩ | ⟨skillId, deletes, rfl⟩
  · exact evolves.versions_kept
  · have same := dropTools_versions fun version member => (spares version member).1
    exact fun version member => same.symm ▸ member
  · have same := dropSkill_versions fun version member => (spares version member).2 skillId deletes
    exact fun version member => same.symm ▸ member

/-- In a run that deletes nothing a version grants, every version stays what it
was, and the versions of an agent are numbered from one to its current version. -/
theorem versions_immutable {platform : Platform} {earlier later : Catalogue}
    (history : History (step platform) SparesGrants Catalogue.empty earlier)
    (rest : History (step platform) SparesGrants earlier later) :
    (∀ version ∈ earlier.versions, version ∈ later.versions) ∧
      ∀ agent ∈ later.agents,
        (later.versionsOf agent.id).map (·.version) = List.range' 1 agent.currentVersion := by
  constructor
  · intro version member
    exact rest.keeps (fun catalogue => version ∈ catalogue.versions) member
      fun catalogue op after spares stepped => versions_step stepped spares version
  · exact (orderly_reached (history.trans rest)).numbered

def site : Platform := ⟨fun _ => "", fun text => text, 25, 1 / 5⟩

def lookupArguments : ToolArguments :=
  { name := "lookup", displayName := "Lookup", description := "Looks a person up."
    toolType := "REST", parametersSchema := [], requiredPermission := "tool.execute"
    riskLevel := "LOW", endpoint := some "http://directory/", config := [], credentials := none
    timeoutSeconds := 30, typed := true }

def helpdeskArguments : AgentArguments :=
  { slug := "helpdesk", displayName := "Helpdesk", description := none, typed := true
    systemPrompt := "Help.", model := "chat", temperature := 0, maxIterations := 10, toolIds := [0]
    skillIds := [], knowledgeBaseIds := [], memoryEnabled := false }

def promptChange : VersionChanges := ⟨some "Help kindly.", none, none, none, none, none, none, none⟩

def helpdesk : AgentVersionRow :=
  { id := 2, agentId := 1, version := 1, systemPrompt := "Help.", model := "chat"
    temperature := 0, maxIterations := 10, knowledgeBaseIds := [], memoryEnabled := false
    toolIds := [0], skillIds := [] }

def lookup : ToolRow :=
  { id := 0, name := "lookup", displayName := "Lookup", description := "Looks a person up."
    type := .rest, parametersSchema := .obj [], requiredPermission := "tool.execute"
    riskLevel := .low, endpoint := some "http://directory/", config := []
    credentialsEncrypted := none, enabled := true, timeoutSeconds := 30, mcpServerId := none }

def registered : Catalogue := ⟨[lookup], [], [], [], [], 1⟩

def published : Catalogue :=
  ⟨[lookup], [], [], [⟨1, "helpdesk", "Helpdesk", none, true, 1⟩], [helpdesk], 3⟩

def republished : Catalogue :=
  ⟨[lookup], [], [], [⟨1, "helpdesk", "Helpdesk", none, true, 2⟩],
    [helpdesk, { helpdesk with id := 3, version := 2, systemPrompt := "Help kindly." }], 4⟩

theorem published_reached (ok : Catalogue → Op → Prop)
    (first : ok Catalogue.empty (.registerTool lookupArguments))
    (second : ok registered (.createAgent helpdeskArguments)) :
    History (step site) ok Catalogue.empty published :=
  .next (.createAgent helpdeskArguments)
    (.next (.registerTool lookupArguments) .start first rfl) second rfl

theorem versions_immutable_republished :
    (∀ version ∈ published.versions, version ∈ republished.versions) ∧
      ∀ agent ∈ republished.agents,
        (republished.versionsOf agent.id).map (·.version) =
          List.range' 1 agent.currentVersion := by
  have spares : SparesGrants published (.createVersion 1 promptChange) := by
    intro version _
    exact ⟨fun _ _ gone => (by cases gone), fun _ same => (by cases same)⟩
  refine versions_immutable (published_reached SparesGrants ?_ ?_)
    (.next (.createVersion 1 promptChange) .start spares rfl)
  · exact fun version member => nomatch member
  · exact fun version member => nomatch member

/-- Deleting a tool rewrites what a published version was granted. -/
theorem version_rewritten :
    ∃ earlier later, History (step site) (fun _ _ => True) Catalogue.empty earlier ∧
      step site earlier (.deleteTool 0) = some later ∧
        ∃ version ∈ earlier.versions, ∀ row ∈ later.versions, row.id = version.id →
          row.toolIds ≠ version.toolIds := by
  refine ⟨published, _, published_reached _ trivial trivial, rfl, helpdesk,
    List.mem_singleton.mpr rfl, fun row member _ => ?_⟩
  rw [List.mem_singleton.mp member]
  decide

end AiPlatform.Registries
