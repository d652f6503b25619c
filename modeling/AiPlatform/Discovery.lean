import AiPlatform.ToolIdentity

/-!
Discovery catalogues and grants nothing. The rows in view are those of the
database, rewritten only where they are the server's own and never in what an
operator decides, followed by the rows the discovery adds.
-/

namespace AiPlatform.Registries

open Agents (Json Dict ToolType RiskLevel McpServer Skill Agent AgentVersionRow truthy strip)

section Discovery

variable {platform : Platform} {catalogue : Catalogue} {server : McpServer}

/-- The row of the same tool, with what an operator decides about it. A tool of
another owner is the same in every respect. -/
structure SameReview (server : McpServer) (old new : ToolRow) : Prop where
  id : new.id = old.id
  name : new.name = old.name
  owner : new.mcpServerId = old.mcpServerId
  enabled : new.enabled = old.enabled
  riskLevel : new.riskLevel = old.riskLevel
  requiredPermission : new.requiredPermission = old.requiredPermission
  foreign : old.mcpServerId ≠ some server.id → new = old

structure Unreviewed (server : McpServer) (row : ToolRow) : Prop where
  disabled : row.enabled = false
  high : row.riskLevel = .high
  owned : row.mcpServerId = some server.id

def Catalogued (catalogue : Catalogue) (server : McpServer) (state : Discovering) : Prop :=
  ∃ (rewrite : ToolRow → ToolRow) (new : List ToolRow),
    state.rows = catalogue.tools.map rewrite ++ new ∧
      (∀ tool, SameReview server tool (rewrite tool)) ∧
        (∀ row ∈ new, Unreviewed server row ∧ catalogue.nextId ≤ row.id) ∧
          catalogue.nextId ≤ state.nextId

theorem SameReview.refl (tool : ToolRow) : SameReview server tool tool :=
  ⟨rfl, rfl, rfl, rfl, rfl, rfl, fun _ => rfl⟩

theorem SameReview.refreshed {name : String} (entry : Dict) (schema : Json) {old new : ToolRow}
    (same : SameReview server old new) :
    SameReview server old
      (if owns server name new then refresh platform server entry schema new else new) := by
  split
  · rename_i owned
    have own : new.mcpServerId = some server.id :=
      of_decide_eq_true (Bool.and_eq_true_iff.mp owned).1
    exact ⟨same.id, same.name, same.owner, same.enabled, same.riskLevel, same.requiredPermission,
      fun foreign => absurd (same.owner.symm.trans own) foreign⟩
  · exact same

theorem Catalogued.refreshed {state : Discovering}
    (catalogued : Catalogued catalogue server state) (name : String) (entry : Dict)
    (schema : Json) (updated : Nat) (unusable : List String) :
    Catalogued catalogue server
      { state with
        rows := state.rows.map fun tool =>
          if owns server name tool then refresh platform server entry schema tool else tool
        updated := updated, unusable := unusable } := by
  obtain ⟨rewrite, new, rows, same, unreviewed, below⟩ := catalogued
  let again (tool : ToolRow) : ToolRow :=
    if owns server name tool then refresh platform server entry schema tool else tool
  refine ⟨fun tool => again (rewrite tool), new.map again, ?_,
    fun tool => (same tool).refreshed entry schema, fun row member => ?_, below⟩
  · show state.rows.map again = _
    rw [rows, List.map_append, List.map_map]
    rfl
  · obtain ⟨old, listed, rfl⟩ := List.mem_map.mp member
    obtain ⟨waiting, high⟩ := unreviewed old listed
    simp only [again]
    split
    · exact ⟨⟨waiting.disabled, waiting.high, waiting.owned⟩, high⟩
    · exact ⟨waiting, high⟩

theorem Catalogued.added {state : Discovering} (catalogued : Catalogued catalogue server state)
    (entry : Dict) (remoteName : String) (schema : Json) (created : Nat)
    (unusable : List String) :
    Catalogued catalogue server
      { state with
        rows := state.rows ++
          [discoveredTool platform server state.nextId entry remoteName schema]
        nextId := state.nextId + 1, created := created, unusable := unusable } := by
  obtain ⟨rewrite, new, rows, same, unreviewed, below⟩ := catalogued
  refine ⟨rewrite, new ++ [discoveredTool platform server state.nextId entry remoteName schema],
    ?_, same, fun row member => ?_, Nat.le_succ_of_le below⟩
  · show state.rows ++ _ = _
    rw [rows, List.append_assoc]
  · rcases List.mem_append.mp member with old | fresh
    · exact unreviewed row old
    · rw [List.mem_singleton.mp fresh]
      exact ⟨⟨rfl, rfl, rfl⟩, below⟩

theorem catalogued_entry {state : Discovering} (catalogued : Catalogued catalogue server state)
    (entry : Dict) :
    Catalogued catalogue server (discoverEntry platform catalogue server state entry) := by
  unfold discoverEntry
  simp only
  split
  · exact catalogued
  · split
    · exact catalogued
    · split
      · exact catalogued.refreshed _ entry _ _ _
      · exact catalogued.added entry _ _ _ _

theorem catalogued_entries {entries : List Json} {state final : Discovering}
    (catalogued : Catalogued catalogue server state)
    (walked : discoverEntries platform catalogue server entries state = .ok final) :
    Catalogued catalogue server final := by
  induction entries generalizing state with
  | nil =>
      cases walked
      exact catalogued
  | cons entry rest ih =>
      cases entry with
      | obj fields => exact ih (catalogued_entry catalogued fields) walked
      | null => cases walked
      | bool value => cases walked
      | num value => cases walked
      | str value => cases walked
      | uuid value => cases walked
      | arr items => cases walked

def localName (platform : Platform) (server : McpServer) (entry : Dict) : Option String :=
  let remoteName := strip (textOr platform entry "name" "")
  if truthy remoteName then some s!"{server.name}.{remoteName}" else none

def Settled (catalogue : Catalogue) (server : McpServer) (rows : List ToolRow) (name : String) :
    Prop :=
  rows.any (owns server name) = true ∨ (catalogue.toolByName name).isSome = true

theorem owns_refresh (name other : String) (entry : Dict) (schema : Json) (tool : ToolRow) :
    owns server name (if owns server other tool then refresh platform server entry schema tool
      else tool) = owns server name tool := by
  split
  · rfl
  · rfl

theorem settled_refreshed {rows : List ToolRow} {name : String} (other : String) (entry : Dict)
    (schema : Json) :
    Settled catalogue server (rows.map fun tool =>
        if owns server other tool then refresh platform server entry schema tool else tool) name ↔
      Settled catalogue server rows name := by
  have kept : ((rows.map fun tool => if owns server other tool then
      refresh platform server entry schema tool else tool).any (owns server name)) =
        rows.any (owns server name) := by
    rw [List.any_map]
    exact congrArg _ (funext fun tool => owns_refresh name other entry schema tool)
  rw [Settled, Settled, kept]

theorem Settled.entry {state : Discovering} {name : String}
    (settled : Settled catalogue server state.rows name) (entry : Dict) :
    Settled catalogue server (discoverEntry platform catalogue server state entry).rows name := by
  unfold discoverEntry
  simp only
  split
  · exact settled
  · split
    · exact settled
    · split
      · exact (settled_refreshed _ entry _).mpr settled
      · rcases settled with owned | taken
        · exact .inl (by simp [owned])
        · exact .inr taken

theorem settled_entry (state : Discovering) {entry : Dict} {name : String}
    (named : localName platform server entry = some name) :
    Settled catalogue server (discoverEntry platform catalogue server state entry).rows name := by
  obtain ⟨truth, same⟩ := Option.ite_none_right_eq_some.mp named
  cases same
  unfold discoverEntry
  simp only [truth, Bool.not_true, Bool.false_eq_true, if_false]
  split
  · rename_i taken
    exact .inr (Bool.and_eq_true_iff.mp taken).2
  · split
    · rename_i found
      exact (settled_refreshed _ entry _).mpr (.inl found)
    · exact .inl (by simp [owns, discoveredTool])

theorem settled_entries {entries : List Json} {state final : Discovering}
    (walked : discoverEntries platform catalogue server entries state = .ok final) :
    (∀ name, Settled catalogue server state.rows name →
      Settled catalogue server final.rows name) ∧
      ∀ entry ∈ entries, ∃ fields, entry = .obj fields ∧
        ∀ name, localName platform server fields = some name →
          Settled catalogue server final.rows name := by
  induction entries generalizing state with
  | nil =>
      cases walked
      exact ⟨fun _ settled => settled, fun _ member => nomatch member⟩
  | cons entry rest ih =>
      cases entry with
      | obj fields =>
          obtain ⟨kept, later⟩ := ih walked
          refine ⟨fun name settled => kept name (settled.entry fields), fun other member => ?_⟩
          rcases List.mem_cons.mp member with rfl | inRest
          · exact ⟨fields, rfl, fun name named => kept name (settled_entry state named)⟩
          · exact later other inRest
      | null => cases walked
      | bool value => cases walked
      | num value => cases walked
      | str value => cases walked
      | uuid value => cases walked
      | arr items => cases walked

structure Idle (before after : Discovering) : Prop where
  created : after.created = before.created
  nextId : after.nextId = before.nextId
  ids : after.rows.map (·.id) = before.rows.map (·.id)

theorem idle_entry {state : Discovering} {entry : Dict}
    (settled : ∀ name, localName platform server entry = some name →
      Settled catalogue server state.rows name) :
    Idle state (discoverEntry platform catalogue server state entry) := by
  unfold discoverEntry
  simp only
  split
  · exact ⟨rfl, rfl, rfl⟩
  · rename_i nonempty
    split
    · exact ⟨rfl, rfl, rfl⟩
    · rename_i free
      split
      · refine ⟨rfl, rfl, ?_⟩
        rw [List.map_map]
        refine List.map_congr_left fun tool _ => ?_
        simp only [Function.comp_apply]
        split
        · rfl
        · rfl
      · rename_i missing
        -- The name is settled, but neither owned nor taken.
        have named : localName platform server entry =
            some (let remoteName := strip (textOr platform entry "name" "")
              s!"{server.name}.{remoteName}") :=
          if_pos (by simpa using nonempty)
        rcases settled _ named with owned | taken
        · exact absurd owned missing
        · simp [taken, missing] at free

theorem idle_entries {entries : List Json} {state : Discovering}
    (settled : ∀ entry ∈ entries, ∃ fields, entry = .obj fields ∧
      ∀ name, localName platform server fields = some name →
        Settled catalogue server state.rows name) :
    ∃ final, discoverEntries platform catalogue server entries state = .ok final ∧
      Idle state final := by
  induction entries generalizing state with
  | nil => exact ⟨state, rfl, rfl, rfl, rfl⟩
  | cons entry rest ih =>
      obtain ⟨fields, rfl, own⟩ := settled entry (by simp)
      have first : Idle state (discoverEntry platform catalogue server state fields) :=
        idle_entry own
      have others : ∀ entry ∈ rest, ∃ fields', entry = .obj fields' ∧
          ∀ name, localName platform server fields' = some name →
            Settled catalogue server
              (discoverEntry platform catalogue server state fields).rows name := by
        intro other member
        obtain ⟨theirs, same, settled'⟩ := settled other (List.mem_cons_of_mem _ member)
        exact ⟨theirs, same, fun name named => (settled' name named).entry fields⟩
      obtain ⟨final, walked, later⟩ := ih others
      exact ⟨final, walked, later.created.trans first.created, later.nextId.trans first.nextId,
        later.ids.trans first.ids⟩

theorem Evolves.names {discovered retargeted : Nat → Prop} {before after : Catalogue}
    (evolves : Evolves discovered retargeted before after)
    (distinct : (before.tools.map (·.name)).Nodup) : (after.tools.map (·.name)).Nodup := by
  induction evolves with
  | refl => exact distinct
  | elsewhere _ tools _ _ _ ih =>
      rw [tools]
      exact ih
  | toolAdded tool _ _ fresh ih =>
      exact distinct_concat _ ih fun other member => fresh other member
  | @toolsRewritten middle rewrite _ allowed ih =>
      have kept : (middle.tools.map rewrite).map (·.name) = middle.tools.map (·.name) := by
        rw [List.map_map]
        exact List.map_congr_left fun tool member => (allowed tool member).name
      rw [kept]
      exact ih
  | agentOpened _ _ _ _ _ _ _ ih => exact ih
  | versionPublished _ _ _ _ ih => exact ih
  | agentsRenamed _ _ _ ih => exact ih

def Granted (server : McpServer) (before after : Catalogue) : Prop :=
  ∃ (rewrite : ToolRow → ToolRow) (new : List ToolRow),
    after.tools = before.tools.map rewrite ++ new ∧
      (∀ tool, SameReview server tool (rewrite tool)) ∧
        ∀ row ∈ new, Unreviewed server row ∧ before.nextId ≤ row.id

theorem discover_walked {serverId : Nat} {offered : List Json} {final : Discovering}
    (stored : catalogue.serverById serverId = some server)
    (walked : discoverEntries platform catalogue server offered
      ⟨catalogue.tools, catalogue.nextId, 0, 0, [], []⟩ = .ok final) {reply : Dict}
    (items : iterate ((present reply "tools").getD (.arr [])) = .ok offered) :
    discover platform catalogue serverId (.ok reply) =
      .ok (⟨server.name, offered.length, final.created, final.updated, discoveryDetail final⟩,
        { catalogue with tools := final.rows, nextId := final.nextId }) := by
  simp only [discover, stored, items, walked]

/-- A discovery rewrites what its own server offers, never what an operator
decided, adds tools that wait for review, and is idempotent. -/
theorem discover_grants_nothing {after : Catalogue} {serverId : Nat} {reply : McpReply}
    {result : DiscoveryResult} (distinct : (catalogue.tools.map (·.name)).Nodup)
    (found : discover platform catalogue serverId reply = .ok (result, after)) :
    (∃ server, catalogue.serverById serverId = some server ∧ Granted server catalogue after) ∧
      (after.tools.map (·.name)).Nodup ∧
      (after.servers = catalogue.servers ∧ after.skills = catalogue.skills ∧
        after.agents = catalogue.agents ∧ after.versions = catalogue.versions) ∧
      ∃ again twice, discover platform after serverId reply = .ok (again, twice) ∧
        again.created = 0 ∧ twice.tools.map (·.id) = after.tools.map (·.id) := by
  have names := (discover_evolves found).names distinct
  unfold discover at found
  split at found
  · cases found
  · rename_i server stored
    have start : Catalogued catalogue server ⟨catalogue.tools, catalogue.nextId, 0, 0, [], []⟩ :=
      ⟨id, [], by simp, .refl, fun _ member => (nomatch member), Nat.le_refl _⟩
    split at found
    · rename_i reason
      cases found
      have again : discover platform catalogue serverId (.error reason) =
          .ok (⟨server.name, 0, 0, 0, some s!"Discovery failed: {reason}"⟩, catalogue) := by
        simp only [discover, stored]
      exact ⟨⟨server, stored, id, [], by simp, .refl, fun _ member => (nomatch member)⟩, names,
        ⟨rfl, rfl, rfl, rfl⟩, _, _, again, rfl, rfl⟩
    · rename_i fields
      split at found
      · cases found
      · rename_i offered items
        split at found
        · cases found
        · rename_i state walked
          cases found
          obtain ⟨rewrite, new, rows, same, unreviewed, _⟩ := catalogued_entries start walked
          let next : Catalogue := { catalogue with tools := state.rows, nextId := state.nextId }
          -- Every offered name is owned now, or was taken before and still is.
          have settled : ∀ entry ∈ offered, ∃ fields, entry = .obj fields ∧
              ∀ name, localName platform server fields = some name →
                Settled next server state.rows name := by
            intro entry member
            obtain ⟨fields, shape, own⟩ := (settled_entries walked).2 entry member
            refine ⟨fields, shape, fun name named => ?_⟩
            rcases own name named with owned | taken
            · exact .inl owned
            · refine .inr ?_
              obtain ⟨tool, listed, called⟩ := List.find?_isSome.mp taken
              refine List.find?_isSome.mpr ⟨rewrite tool, ?_, ?_⟩
              · show rewrite tool ∈ state.rows
                rw [rows]
                exact List.mem_append_left _ (List.mem_map_of_mem listed)
              · rw [(same tool).name]
                exact called
          let opening : Discovering := ⟨next.tools, next.nextId, 0, 0, [], []⟩
          obtain ⟨final, twice, idle⟩ : ∃ final,
              discoverEntries platform next server offered opening = .ok final ∧
                Idle opening final := idle_entries settled
          have known : next.serverById serverId = some server := stored
          have again := discover_walked known twice items
          exact ⟨⟨server, stored, rewrite, new, rows, same, unreviewed⟩, names,
            ⟨rfl, rfl, rfl, rfl⟩, _, _, again, idle.created, idle.ids⟩

end Discovery

def repeating : McpReply :=
  .ok [("tools", .arr [.obj [("name", .str "read")], .obj [("name", .str "read")],
    .obj [("name", .str " ")], .obj [("name", .str "taken")]])]

def shared : Catalogue :=
  serving [{ readTool pathSchema with name := "files.taken", mcpServerId := none }] 2

def repeated : Catalogue :=
  { shared with tools := shared.tools ++ [{ readTool [] with id := 2 }], nextId := 3 }

def repeatedResult : DiscoveryResult :=
  ⟨"files", 4, 1, 1, discoveryDetail ⟨repeated.tools, 3, 1, 1, ["files.read", "files.read"],
    ["files.taken"]⟩⟩

theorem discover_grants_nothing_repeated :
    (∃ server, shared.serverById 0 = some server ∧ Granted server shared repeated) ∧
      (repeated.tools.map (·.name)).Nodup ∧
      (repeated.servers = shared.servers ∧ repeated.skills = shared.skills ∧
        repeated.agents = shared.agents ∧ repeated.versions = shared.versions) ∧
      ∃ again twice, discover site repeated 0 repeating = .ok (again, twice) ∧
        again.created = 0 ∧ twice.tools.map (·.id) = repeated.tools.map (·.id) := by
  have found : discover site shared 0 repeating = .ok (repeatedResult, repeated) := rfl
  exact discover_grants_nothing (by decide) found

end AiPlatform.Registries
