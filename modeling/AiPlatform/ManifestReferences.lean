import AiPlatform.ImportIsolation
import AiPlatform.SourceFailures
import Mathlib.Data.Finset.Card

/-!
What becomes of the references of an agent's manifest: the names of tools and skills
are looked up by the import, those of knowledge bases are stored as they are written
and read as ids by every run.
-/

namespace AiPlatform.Registries

open Agents (AgentVersionRow truthy)
open Gathering (AgentSpec Sources fromKnowledge search searchKnowledge mapM_parse mapM_parse_none)
open Knowledge (KnowledgeBase)

section Statements

variable (parse : String → Option Uuid) (catalogue : Catalogue) (bases : List KnowledgeBase)
  (version : AgentVersionRow)

def holdsTool (name : String) : Bool :=
  catalogue.tools.any fun tool => tool.name = name && version.toolIds.contains tool.id

def holdsSkill (name : String) : Bool :=
  catalogue.skills.any fun skill => skill.name = name && version.skillIds.contains skill.id

/-- One of the texts is the id of the base of this name; `parse` is `uuid.UUID`. -/
def listsBase (texts : List String) (name : String) : Bool :=
  bases.any fun base => base.name = name && texts.any fun text => parse text = some base.id

def missing (manifest : AgentManifest) : List String :=
  (manifest.tools.filter fun name => !holdsTool catalogue version name).map ("tool " ++ ·) ++
  (manifest.skills.filter fun name => !holdsSkill catalogue version name).map ("skill " ++ ·) ++
  (manifest.knowledgeBases.filter fun name =>
    !listsBase parse bases version.knowledgeBaseIds name).map ("knowledge base " ++ ·)

def unregistered (references : List String) : Option String :=
  if references.isEmpty then none
  else some ("references not registered here: " ++ String.intercalate ", " references)

def Searches (sources : Sources) (base : KnowledgeBase) : Prop :=
  ∀ (spec : AgentSpec) (question : String), spec.knowledgeBaseIds = version.knowledgeBaseIds →
    ∃ searched, base ∈ searched ∧
      fromKnowledge parse sources base.tenantId spec question =
        (search sources question searched).map
          fun passages => (passages, searched.map KnowledgeBase.name)

/-- What the version does not have is reported, in some order, and the bases that are
named are searched. -/
structure Settles (sources : Sources) (manifest : AgentManifest) (detail : Option String) :
    Prop where
  reported : ∃ references,
    references.Perm (missing parse catalogue sources.bases version manifest) ∧
      detail = unregistered references
  searched : ∀ base ∈ sources.bases, base.name ∈ manifest.knowledgeBases → base.enabled = true →
    Searches parse version sources base

end Statements

/-- The import goes through. At the turn of the manifest, its file is reported as skipped,
or a version is added that settles the references. -/
def Accounted (parse : String → Option Uuid) (platform : Platform) (catalogue : Catalogue)
    (manifests : Manifests) (sources : Sources) (before : List AgentManifest)
    (manifest : AgentManifest) : Prop :=
  ∃ results final earlier middle result after,
    importAll platform catalogue manifests = .ok (results, final) ∧
    importAll platform catalogue { manifests with agents := before } = .ok (earlier, middle) ∧
    importAgent platform middle manifest = .ok (result, after) ∧
    results[earlier.length]? = some result ∧
    (result.action = .skipped ∧ result.detail.isSome = true ∨
      ∃ version, after.versions = middle.versions ++ [version] ∧ version ∈ final.versions ∧
        Settles parse final version sources manifest result.detail)

def AgentManifest.refers (manifest : AgentManifest) : Bool :=
  !(manifest.tools.isEmpty && manifest.skills.isEmpty && manifest.knowledgeBases.isEmpty)

/-- Every manifest of an agent that makes a reference is settled. -/
def AllAccounted (parse : String → Option Uuid) (platform : Platform) (catalogue : Catalogue)
    (manifests : Manifests) (sources : Sources) : Prop :=
  ∀ before manifest rest, manifests.agents = before ++ manifest :: rest →
    manifest.refers = true → Accounted parse platform catalogue manifests sources before manifest

/-- A version comes of the manifest, unless the import ends. -/
def Taken (catalogue : Catalogue) (before : List AgentManifest) (manifest : AgentManifest) : Prop :=
  truthy manifest.slug = true ∧ manifest.malformed = false ∧
    (AgentCurrent catalogue before manifest.slug ∨
      ¬ AgentKnown catalogue before manifest.slug ∧ slugMatches manifest.slug = true)

section Reports

def joinedLength (texts : List String) : Nat := (texts.map fun text => text.length + 2).sum

theorem length_intercalate (text : String) (texts : List String) :
    (String.intercalate ", " (text :: texts)).length + 2 = joinedLength (text :: texts) := by
  induction texts generalizing text with
  | nil => simp [joinedLength, String.intercalate_singleton]
  | cons next rest ih =>
      have two : (", " : String).length = 2 := by decide
      have tail := ih next
      rw [String.intercalate_cons_cons, String.length_append, String.length_append, two]
      simp only [joinedLength, List.map_cons, List.sum_cons] at tail ⊢
      omega

theorem joinedLength_perm {left right : List String} (same : left.Perm right) :
    joinedLength left = joinedLength right :=
  (same.map _).sum_nat

theorem unregistered_append {references left right : List String}
    (ordered : references.Perm (left ++ right))
    (same : unregistered left = unregistered references) : right = [] := by
  have total := joinedLength_perm ordered
  have parts : joinedLength (left ++ right) = joinedLength left + joinedLength right := by
    simp [joinedLength]
  have grown : joinedLength left = joinedLength references := by
    cases left with
    | nil =>
        cases references with
        | nil => rfl
        | cons text rest => simp [unregistered] at same
    | cons text rest =>
        cases references with
        | nil => simp [unregistered] at same
        | cons other more =>
            have texts : String.intercalate ", " (text :: rest) =
                String.intercalate ", " (other :: more) := by
              simpa [unregistered] using same
            rw [← length_intercalate, ← length_intercalate, texts]
  cases right with
  | nil => rfl
  | cons text rest =>
      have positive : 0 < joinedLength (text :: rest) := by
        simp only [joinedLength, List.map_cons, List.sum_cons]
        omega
      omega

end Reports

section Turn

variable {platform : Platform} {catalogue after final : Catalogue} {manifest : AgentManifest}
  {result : DefinitionResult}

theorem concluded_ok {Result : Type} {kind name : String} {action : ImportAction}
    {detail : Option String} {attempt : Attempt Result}
    (done : concluded kind name action detail attempt = .ok (result, after)) :
    result.action = .skipped ∧ result.detail.isSome = true ∨
      result.action = action ∧ result.detail = detail := by
  unfold concluded at done
  split at done
  · cases done
    exact .inr ⟨rfl, rfl⟩
  · cases done
  · cases done
    exact .inl ⟨rfl, rfl⟩

theorem importAgent_detail
    (imported : importAgent platform catalogue manifest = .ok (result, after)) :
    result.action = .skipped ∧ result.detail.isSome = true ∨
      result.action ≠ .skipped ∧ result.detail = unregistered
        ((resolveTools catalogue manifest.tools).2 ++
          (resolveSkills catalogue manifest.skills).2) := by
  unfold importAgent at imported
  by_cases named : truthy manifest.slug = true
  · by_cases unlistable : manifest.unlistable = true
    · simp [named, unlistable] at imported
    · by_cases malformed : manifest.malformed = true
      · simp only [named, unlistable, malformed, Bool.not_true, Bool.false_eq_true, if_false,
          if_true] at imported
        cases imported
        exact .inl ⟨rfl, rfl⟩
      · simp only [named, unlistable, malformed, Bool.not_true, Bool.false_eq_true, if_false]
          at imported
        split at imported
        · rcases concluded_ok imported with skipped | ⟨created, detail⟩
          · exact .inl skipped
          · exact .inr ⟨by simp [created], detail⟩
        · rcases concluded_ok imported with skipped | ⟨updated, detail⟩
          · exact .inl skipped
          · exact .inr ⟨by simp [updated], detail⟩
  · simp only [Bool.not_eq_true] at named
    simp only [named, Bool.not_false, if_true] at imported
    cases imported
    exact .inl ⟨rfl, rfl⟩

structure Takes (catalogue : Catalogue) (manifest : AgentManifest) (version : AgentVersionRow) :
    Prop where
  tools : version.toolIds = (resolveTools catalogue manifest.tools).1
  skills : version.skillIds = (resolveSkills catalogue manifest.skills).1
  bases : version.knowledgeBaseIds = manifest.knowledgeBases

theorem importAgent_version (keyed : Keyed catalogue)
    (imported : importAgent platform catalogue manifest = .ok (result, after)) :
    result.action = .skipped ∧ ¬ Taken catalogue [] manifest ∨
      result.action ≠ .skipped ∧ Taken catalogue [] manifest ∧ ∃ version,
        after.versions = catalogue.versions ++ [version] ∧ Takes catalogue manifest version := by
  have outcome := @importAgent_imported platform catalogue keyed manifest
  have known : AgentKnown catalogue [] manifest.slug ↔
      (catalogue.agentBySlug manifest.slug).isSome = true := by simp [AgentKnown]
  have current : AgentCurrent catalogue [] manifest.slug ↔ Current catalogue manifest.slug := by
    simp [AgentCurrent]
  unfold Taken
  rw [known, current]
  rw [imported] at outcome
  cases outcome with
  | kept _ _ idle reported =>
      refine .inl ⟨reported, ?_⟩
      rintro ⟨named, formed, standing⟩
      rcases idle with blank | malformed | ⟨free, unlawful⟩ | ⟨there, missing⟩
      · exact absurd (blank.symm.trans named) (by decide)
      · exact absurd (malformed.symm.trans formed) (by decide)
      · rcases standing with ⟨agent, found, _⟩ | ⟨_, lawful⟩
        · rw [free] at found
          cases found
        · exact absurd (unlawful.symm.trans lawful) (by decide)
      · exact standing.elim missing fun unknown => unknown.1 there
  | opened _ _ offers free _ _ reported =>
      simp only [AgentManifest.offers, Bool.and_eq_true, Bool.not_eq_true'] at offers
      exact .inr ⟨by simp [reported], ⟨offers.1.1, offers.1.2, .inr ⟨by simp [free], offers.2⟩⟩,
        _, rfl, rfl, rfl, rfl⟩
  | published _ _ _ _ named formed _ standing _ stored reported =>
      subst stored
      exact .inr ⟨by simp [reported], ⟨named, formed, .inl standing⟩, _, rfl, rfl, rfl, rfl⟩

theorem unknown_names {Row : Type} {rows : List Row} {called : Row → String} {key : Row → Nat}
    {names : List String} {ids : List Nat}
    (taken : ids = names.filterMap fun name =>
      (rows.find? fun row => called row = name).map key) :
    (names.filter fun name => !rows.any fun row => called row = name && ids.contains (key row)) =
      names.filter fun name => (rows.find? fun row => called row = name).isNone := by
  apply List.filter_congr
  intro name listed
  rw [Bool.eq_iff_iff, Bool.not_eq_true', Option.isNone_iff_eq_none]
  cases found : rows.find? fun row => called row = name with
  | none =>
      refine iff_of_true (List.any_eq_false.mpr fun row member => ?_) rfl
      have other := List.find?_eq_none.mp found row member
      simp only [decide_eq_true_eq] at other
      simp [other]
  | some row =>
      have named : called row = name := by simpa using List.find?_some found
      have held : key row ∈ ids := by
        rw [taken, List.mem_filterMap]
        exact ⟨name, listed, by rw [found]; rfl⟩
      refine iff_of_false (fun nowhere => ?_) (by simp)
      have absent := List.any_eq_false.mp nowhere row (List.mem_of_find?_eq_some found)
      simp [named, held] at absent

theorem missing_taken {version : AgentVersionRow} (takes : Takes catalogue manifest version)
    (tools : final.tools = catalogue.tools) (skills : final.skills = catalogue.skills)
    (parse : String → Option Uuid) (bases : List KnowledgeBase) :
    missing parse final bases version manifest =
      ((resolveTools catalogue manifest.tools).2 ++ (resolveSkills catalogue manifest.skills).2) ++
        (manifest.knowledgeBases.filter fun name =>
          !listsBase parse bases manifest.knowledgeBases name).map ("knowledge base " ++ ·) := by
  simp only [missing, holdsTool, holdsSkill, tools, skills, takes.bases]
  rw [unknown_names takes.tools, unknown_names takes.skills]
  rfl

end Turn

section Bases

variable {parse : String → Option Uuid} {sources : Sources} {texts : List String}

theorem listed_parse {bases : List KnowledgeBase} (ids : (bases.map (·.id)).Nodup)
    (listed : ∀ name ∈ texts, listsBase parse bases texts name = true) :
    ∀ text ∈ texts, ∃ id, parse text = some id := by
  have found : ∀ name ∈ texts, ∃ base ∈ bases, base.name = name ∧
      ∃ text ∈ texts, parse text = some base.id := by
    intro name member
    simpa [listsBase] using listed name member
  choose base stored named text given parsed using found
  have apart : ∀ one other member member', text one member = text other member' → one = other := by
    intro one other member member' same
    have equal : (base one member).id = (base other member').id := by
      have first := parsed one member
      rw [same, parsed other member'] at first
      exact (Option.some.inj first).symm
    have rows := List.inj_on_of_nodup_map ids (stored one member) (stored other member') equal
    rw [← named one member, rows, named other member']
  intro target wanted
  obtain ⟨name, member, same⟩ := @Finset.surj_on_of_inj_on_of_card_le _ _ texts.toFinset
    texts.toFinset (fun name member => text name (List.mem_toFinset.mp member))
    (fun name member => List.mem_toFinset.mpr (given name _))
    (fun one other member member' => apart one other _ _) le_rfl target
    (List.mem_toFinset.mpr wanted)
  exact ⟨_, same ▸ parsed name _⟩

theorem searches_listed {version : AgentVersionRow} {base : KnowledgeBase}
    (stored : base ∈ sources.bases)
    (parsed : ∀ text ∈ version.knowledgeBaseIds, ∃ id, parse text = some id)
    (listed : ∃ text ∈ version.knowledgeBaseIds, parse text = some base.id) :
    Searches parse version sources base := by
  intro spec question same
  rw [← same] at parsed listed
  obtain ⟨text, given, own⟩ := listed
  cases all : spec.knowledgeBaseIds.mapM parse with
  | none =>
      obtain ⟨other, member, failed⟩ := mapM_parse_none.mp all
      obtain ⟨id, whole⟩ := parsed other member
      rw [failed] at whole
      cases whole
  | some ids =>
      have within : ids.contains base.id = true := by
        rw [mapM_parse all, List.any_eq_true]
        exact ⟨text, given, by simp [own]⟩
      have found : base ∈ sources.bases.filter fun base => ids.contains base.id :=
        List.mem_filter.mpr ⟨stored, within⟩
      have some : ¬ (sources.bases.filter fun base => ids.contains base.id).isEmpty = true := by
        rw [List.isEmpty_iff]
        exact List.ne_nil_of_mem found
      have named : ¬ spec.knowledgeBaseIds.isEmpty = true := by
        rw [List.isEmpty_iff]
        exact List.ne_nil_of_mem given
      refine ⟨(sources.bases.filter fun base => ids.contains base.id).filter
        (fun other => other.tenantId = base.tenantId), List.mem_filter.mpr ⟨found, by simp⟩, ?_⟩
      simp only [fromKnowledge, if_neg named, searchKnowledge, all, if_neg some]
      cases search sources question _ with
      | error failure => rfl
      | ok passages => rfl

end Bases

section Import

variable {platform : Platform} {catalogue final : Catalogue} {manifests : Manifests}
  {results : List DefinitionResult} {before rest : List AgentManifest} {manifest : AgentManifest}

def Keeps (version : AgentVersionRow) (catalogue : Catalogue) : Prop :=
  Keyed catalogue ∧ version ∈ catalogue.versions

theorem importAgent_keeps {after : Catalogue} {result : DefinitionResult}
    {version : AgentVersionRow} (keeps : Keeps version catalogue)
    (imported : importAgent platform catalogue manifest = .ok (result, after)) :
    Keeps version after := by
  refine ⟨(importAgent_after keeps.1 imported).keyed, ?_⟩
  have outcome := @importAgent_imported platform catalogue keeps.1 manifest
  rw [imported] at outcome
  cases outcome with
  | kept => exact keeps.2
  | opened => exact List.mem_append_left _ keeps.2
  | published => exact List.mem_append_left _ keeps.2

structure TurnOf (platform : Platform) (catalogue final : Catalogue) (manifests : Manifests)
    (results : List DefinitionResult) (before : List AgentManifest) (manifest : AgentManifest)
    (earlier : List DefinitionResult) (middle : Catalogue) (result : DefinitionResult)
    (after : Catalogue) : Prop where
  found : importAll platform catalogue { manifests with agents := before } = .ok (earlier, middle)
  imported : importAgent platform middle manifest = .ok (result, after)
  place : results[earlier.length]? = some result
  keyed : Keyed middle
  taken : Taken middle [] manifest ↔ Taken catalogue before manifest
  tools : final.tools = middle.tools
  skills : final.skills = middle.skills
  versions : ∀ version ∈ after.versions, version ∈ final.versions

theorem turn_of (keys : Keys catalogue)
    (imported : importAll platform catalogue manifests = .ok (results, final))
    (parts : manifests.agents = before ++ manifest :: rest) :
    ∃ earlier middle result after,
      TurnOf platform catalogue final manifests results before manifest earlier middle result
        after := by
  obtain ⟨ones, withTools, others, withSkills, last, first, second, third, rfl⟩ :=
    importAll_stages.mp imported
  have keys' : Keys withSkills :=
    importEach_keeps importSkill_keys second (importEach_keeps importTool_keys first keys)
  have tools := importTools_after first
  have skills := importSkills_after second
  have agents : withSkills.agents = catalogue.agents := skills.agents.trans tools.agents
  have versions : withSkills.versions = catalogue.versions := skills.versions.trans tools.versions
  rw [parts] at third
  obtain ⟨heads, middle, result, after, more, rfl, place, early, one, late⟩ :=
    importEach_place third
  have moved := importAgents_after keys'.toKeyed early
  have turned := importAgent_after moved.keyed one
  have ended := importAgents_after turned.keyed late
  refine ⟨ones ++ others ++ heads, middle, result, after,
    importAll_stages.mpr ⟨ones, withTools, others, withSkills, heads, first, second, early, rfl⟩,
    one, ?_, moved.keyed, ?_, ended.tools.trans turned.tools, ended.skills.trans turned.skills,
    ?_⟩
  · rw [← List.append_assoc, List.getElem?_append_right (Nat.le_refl _), Nat.sub_self]
    rfl
  · unfold Taken
    have none (slug : String) : AgentKnown middle [] slug ↔ AgentKnown catalogue before slug := by
      have known := moved.known slug
      simp only [AgentKnown, Catalogue.agentBySlug, agents] at known ⊢
      simpa using known
    have standing (slug : String) :
        AgentCurrent middle [] slug ↔ AgentCurrent catalogue before slug := by
      have current := moved.current slug
      simp only [AgentCurrent, Current, Catalogue.agentBySlug, currentVersion, agents, versions]
        at current ⊢
      simpa using current
    rw [none, standing]
  · intro version stored
    have kept : Keeps version final :=
      importEach_keeps importAgent_keeps late ⟨turned.keyed, stored⟩
    exact kept.2

/-- The references of a manifest are settled if and only if the import goes through and,
where a version comes of the manifest, each of its texts of knowledge bases names a base
whose id is one of the texts. -/
theorem accounted_iff (parse : String → Option Uuid) (sources : Sources) (keys : Keys catalogue)
    (names : (sources.bases.map (·.name)).Nodup) (ids : (sources.bases.map (·.id)).Nodup)
    (parts : manifests.agents = before ++ manifest :: rest) :
    Accounted parse platform catalogue manifests sources before manifest ↔
      Applies platform catalogue manifests ∧
        (Taken catalogue before manifest → ∀ name ∈ manifest.knowledgeBases,
          listsBase parse sources.bases manifest.knowledgeBases name = true) := by
  constructor
  · rintro ⟨results, final, earlier, middle, result, after, imported, found, one, _, settled⟩
    refine ⟨(applies_iff keys).mp ⟨results, final, imported⟩, fun taken => ?_⟩
    obtain ⟨_, _, _, _, turn⟩ := turn_of keys imported parts
    obtain ⟨rfl, rfl⟩ := Prod.mk.inj (Except.ok.inj (found.symm.trans turn.found))
    obtain ⟨rfl, rfl⟩ := Prod.mk.inj (Except.ok.inj (one.symm.trans turn.imported))
    rcases importAgent_version turn.keyed one with ⟨_, idle⟩ | ⟨made, _, version, added, takes⟩
    · exact absurd (turn.taken.mpr taken) idle
    · rcases settled with ⟨skipped, _⟩ | ⟨other, added', _, settles⟩
      · exact absurd skipped made
      · have same : other = version :=
          List.singleton_inj.mp (List.append_cancel_left (added'.symm.trans added))
        subst same
        rcases importAgent_detail one with ⟨skipped, _⟩ | ⟨_, detail⟩
        · exact absurd skipped made
        · obtain ⟨references, ordered, same⟩ := settles.reported
          rw [missing_taken takes turn.tools turn.skills] at ordered
          have none := unregistered_append ordered (detail.symm.trans same)
          rw [List.map_eq_nil_iff, List.filter_eq_nil_iff] at none
          intro name member
          simpa using none name member
  · rintro ⟨applies, listed⟩
    obtain ⟨results, final, imported⟩ := (applies_iff keys).mpr applies
    obtain ⟨earlier, middle, result, after, turn⟩ := turn_of keys imported parts
    refine ⟨results, final, earlier, middle, result, after, imported, turn.found, turn.imported,
      turn.place, ?_⟩
    rcases importAgent_detail turn.imported with skipped | ⟨made, detail⟩
    · exact .inl skipped
    · rcases importAgent_version turn.keyed turn.imported with
        ⟨skipped, _⟩ | ⟨_, taken, version, added, takes⟩
      · exact absurd skipped made
      · have all := listed (turn.taken.mp taken)
        refine .inr ⟨version, added, turn.versions version (by simp [added]), ?_, ?_⟩
        · refine ⟨_, List.Perm.refl _, ?_⟩
          have none : (manifest.knowledgeBases.filter fun name =>
              !listsBase parse sources.bases manifest.knowledgeBases name) = [] := by
            rw [List.filter_eq_nil_iff]
            intro name member
            simp [all name member]
          rw [missing_taken takes turn.tools turn.skills, none, List.map_nil, List.append_nil,
            detail]
        · intro base stored named _
          rw [← takes.bases] at named all
          have own := all base.name named
          simp only [listsBase, List.any_eq_true, Bool.and_eq_true, decide_eq_true_eq] at own
          obtain ⟨other, stored', same, text, given, parsed⟩ := own
          have row := List.inj_on_of_nodup_map names stored' stored same
          exact searches_listed stored (listed_parse ids all) ⟨text, given, row ▸ parsed⟩

theorem all_accounted_iff (parse : String → Option Uuid) (platform : Platform)
    (manifests : Manifests) (sources : Sources) (keys : Keys catalogue)
    (names : (sources.bases.map (·.name)).Nodup)
    (ids : (sources.bases.map (·.id)).Nodup) :
    AllAccounted parse platform catalogue manifests sources ↔
      ∀ before manifest rest, manifests.agents = before ++ manifest :: rest →
        manifest.refers = true → Applies platform catalogue manifests ∧
          (Taken catalogue before manifest → ∀ name ∈ manifest.knowledgeBases,
            listsBase parse sources.bases manifest.knowledgeBases name = true) := by
  constructor
  · intro settled before manifest rest parts refers
    exact (accounted_iff parse sources keys names ids parts).mp
      (settled before manifest rest parts refers)
  · intro fine before manifest rest parts refers
    exact (accounted_iff parse sources keys names ids parts).mpr
      (fine before manifest rest parts refers)

end Import

def referringFile (slug : String) (tools knowledgeBases : List String) : AgentManifest :=
  ⟨slug ++ ".yaml", slug, none, none, true, none, none, none, none, tools, [], knowledgeBases,
    false, false, false⟩

def onlyAgents (manifests : List AgentManifest) : Manifests := ⟨[], [], manifests⟩

def namedById : Sources :=
  { Gathering.twoBases with
    bases := [{ Knowledge.handbook with name := Knowledge.handbook.id.str }] }

/-- A tool that is not registered is reported, and a base is found by a name that is its id. -/
theorem base_named_by_its_id_is_settled :
    AllAccounted Gathering.parseId bundled .empty
      (onlyAgents [referringFile "helper" ["lookup"] [Knowledge.handbook.id.str]]) namedById := by
  refine (all_accounted_iff Gathering.parseId bundled _ namedById keys_empty
    (List.nodup_singleton _) (List.nodup_singleton _)).mpr ?_
  intro before manifest rest parts _
  have own : manifest = referringFile "helper" ["lookup"] [Knowledge.handbook.id.str] := by
    have member : manifest ∈
        (onlyAgents [referringFile "helper" ["lookup"] [Knowledge.handbook.id.str]]).agents := by
      rw [parts]
      simp
    simpa [onlyAgents] using member
  subst own
  refine ⟨(applies_iff keys_empty).mp ⟨_, _, rfl⟩, fun _ name member => ?_⟩
  have only : name = Knowledge.handbook.id.str := List.mem_singleton.mp member
  subst only
  decide +kernel

/-- The handbook is there and a run of the agent may read it, but its name is stored as it
is written: nothing is reported, and a question that the handbook answers finds nothing. -/
theorem named_base_is_lost :
    ¬ AllAccounted Gathering.parseId bundled .empty
        (onlyAgents [referringFile "helper" [] [Knowledge.handbook.name]]) Gathering.twoBases ∧
      (importAll bundled .empty
          (onlyAgents [referringFile "helper" [] [Knowledge.handbook.name]])).map
          (fun outcome => (outcome.1.map (·.detail), outcome.2.versions.map (·.knowledgeBaseIds))) =
        .ok ([none], [[Knowledge.handbook.name]]) ∧
      (Gathering.gather Gathering.parseId Gathering.twoBases Knowledge.handbook.tenantId
          (Gathering.readerOf [Knowledge.handbook.name]) Gathering.asker "leave?").toOption.map
            (fun found => found.passages.length) = some 0 ∧
      (Gathering.gather Gathering.parseId Gathering.twoBases Knowledge.handbook.tenantId
          (Gathering.readerOf [Knowledge.handbook.id.str]) Gathering.asker "leave?").toOption.map
            (fun found => found.passages.length) = some 1 := by
  refine ⟨fun settled => ?_, by rfl, by decide +kernel, by decide +kernel⟩
  have own := (accounted_iff Gathering.parseId Gathering.twoBases keys_empty (by decide +kernel)
    (by decide +kernel) rfl).mp (settled [] _ [] rfl (by decide +kernel))
  have taken : Taken .empty [] (referringFile "helper" [] [Knowledge.handbook.name]) :=
    ⟨by decide +kernel, rfl, .inr ⟨by simp [AgentKnown, Catalogue.agentBySlug, Catalogue.empty],
      by decide +kernel⟩⟩
  have listed := own.2 taken Knowledge.handbook.name (.head _)
  have unlisted : listsBase Gathering.parseId Gathering.twoBases.bases
      [Knowledge.handbook.name] Knowledge.handbook.name = false := by decide +kernel
  exact absurd (unlisted.symm.trans listed) (by decide)

end AiPlatform.Registries
