import AiPlatform.AgentSystem

/-!
The basic invariant of the interleaved system. `Consistent` is what the
committed rows satisfy among themselves, and `Owns` is what a live request may
rely on: it holds its locks, the rows it inserted are not committed by anybody,
and the rows it loaded are still there with the columns nobody assigns to.
-/

namespace AiPlatform.Agents

structure SameCall (left right : ToolExecution) : Prop where
  id : left.id = right.id
  runId : left.runId = right.runId
  toolName : left.toolName = right.toolName
  arguments : left.arguments = right.arguments

theorem SameCall.refl (row : ToolExecution) : SameCall row row := ⟨rfl, rfl, rfl, rfl⟩

theorem SameCall.trans {first second third : ToolExecution} (left : SameCall first second)
    (right : SameCall second third) : SameCall first third :=
  ⟨left.id.trans right.id, left.runId.trans right.runId, left.toolName.trans right.toolName,
    left.arguments.trans right.arguments⟩

theorem sameCall_replay (assigned : List ExecutionAssignment) (row : ToolExecution) :
    SameCall (Tracked.replay (T := executionTable) assigned row) row := by
  refine Tracked.replay_keeps (T := executionTable) (fun other => SameCall other row) assigned row
    (.refl row) fun assignment _ other same => ?_
  exact SameCall.trans ⟨executionTable.key_apply assignment other, apply_runId assignment other,
    apply_toolName assignment other, apply_arguments assignment other⟩ same

theorem sameCall_update (session : List (Tracked executionTable)) (row : ToolExecution) :
    SameCall (Tracked.update session row) row := by
  rcases Tracked.update_cases session row with ⟨same, _⟩ | ⟨tracked, _, _, _, same⟩
  · rw [same]
    exact .refl row
  · rw [same]
    exact sameCall_replay _ _

theorem update_userPermissions (session : List (Tracked runTable)) (run : AgentRun) :
    (Tracked.update session run).userPermissions = run.userPermissions := by
  rcases Tracked.update_cases session run with ⟨same, _⟩ | ⟨tracked, _, _, _, same⟩
  · rw [same]
  · rw [same]
    exact replay_userPermissions _ _

structure Consistent (shared : Shared) : Prop where
  runs : ∀ run ∈ shared.runs, run.id < shared.nextId
  runsOnce : (shared.runs.map (·.id)).Nodup
  executions : ∀ row ∈ shared.executions, row.id < shared.nextId
  executionsOnce : (shared.executions.map (·.id)).Nodup
  owned : ∀ row ∈ shared.executions, ∃ run ∈ shared.runs, run.id = row.runId
  events : ∀ event ∈ shared.events, ∃ run ∈ shared.runs, run.id = event.runId

structure Owns (i : Nat) (session : Session) (shared : Shared) : Prop where
  locks : shared.locks.Held i session.held
  newRun : ∀ tracked, session.run = some tracked → tracked.inserted = true →
    tracked.key < shared.nextId ∧ .run tracked.key ∈ session.held ∧ session.streams = true ∧
      ∀ run ∈ shared.runs, run.id ≠ tracked.key
  oldRun : ∀ tracked, session.run = some tracked → tracked.inserted = false →
    ∃ run ∈ shared.runs, run.id = tracked.key ∧
      run.userPermissions = tracked.original.userPermissions
  newRows : ∀ tracked ∈ session.executions, tracked.inserted = true →
    tracked.key < shared.nextId ∧ .execution tracked.key ∈ session.held ∧
      session.streams = true ∧ ∀ row ∈ shared.executions, row.id ≠ tracked.key
  oldRows : ∀ tracked ∈ session.executions, tracked.inserted = false →
    ∃ row ∈ shared.executions, SameCall row tracked.original
  distinct : (session.executions.map (·.key)).Nodup
  belongs : ∀ run, session.run = some run → ∀ tracked ∈ session.executions,
    tracked.original.runId = run.key
  idle : session.run = none → session.streams = true → session.executions = []
  asked : ∀ pair ∈ session.asked, ∃ tracked ∈ session.executions,
    tracked.inserted = true ∧ tracked.key = pair.1 ∧ tracked.original.toolName = pair.2.name
  askedOnce : (session.asked.map (·.1)).Nodup
  events : ∀ event ∈ session.events, .event event.runId event.sequence ∈ session.held ∧
    ∃ run, session.run = some run ∧ event.runId = run.key

structure Grows (shared next : Shared) : Prop where
  nextId : shared.nextId ≤ next.nextId
  runs : ∀ run ∈ shared.runs, ∃ row ∈ next.runs,
    row.id = run.id ∧ row.userPermissions = run.userPermissions
  executions : ∀ row ∈ shared.executions, ∃ later ∈ next.executions, SameCall later row
  started : ∀ entry ∈ shared.started, entry ∈ next.started
  shown : ∀ entry ∈ shared.shown, entry ∈ next.shown

theorem mem_shownAfter {session : Session} {shared : Shared} {entry : Shown} (executionId : Nat)
    (assignment : ExecutionAssignment) (member : entry ∈ shared.shown) :
    entry ∈ shared.shownAfter session executionId assignment := by
  unfold Shared.shownAfter
  split
  · split
    · exact List.mem_append_left _ member
    · exact member
  · exact member

theorem Reaction.grows {i : Nat} {session : Session} {shared next : Shared} {op : Op}
    {reply : Reply op} (reaction : Reaction i session shared op reply next) :
    Grows shared next := by
  refine ⟨reaction.nextId, ?_, ?_, ?_, ?_⟩
  · rw [reaction.runs]
    exact fun run member => ⟨run, member, rfl, rfl⟩
  · rw [reaction.executions]
    exact fun row member => ⟨row, member, .refl row⟩
  · rw [reaction.started]
    exact fun entry member => List.mem_append_left _ member
  · rw [reaction.shown]
    intro entry member
    cases op with
    | assignExecution executionId assignment => exact mem_shownAfter _ _ member
    | _ => exact member

structure Committed (i : Nat) (session : Session) (shared next : Shared) : Prop where
  admits : ∀ key ∈ session.dirty, shared.locks.free i key = true
  registry : next.registry = shared.registry
  runs : next.runs = Tracked.store session.run.toList shared.runs
  executions : next.executions = Tracked.store session.executions shared.executions
  events : next.events = shared.events ++ session.events
  locks : next.locks = shared.locks.release i
  nextId : next.nextId = shared.nextId
  started : next.started = shared.started
  shown : next.shown = shared.shown
  calls : next.calls = shared.calls
  prompts : next.prompts = shared.prompts

theorem committed {i : Nat} {session : Session} {shared next : Shared}
    (commits : shared.commit i session = some next) : Committed i session shared next := by
  unfold Shared.commit at commits
  split at commits
  · rename_i admits
    cases commits
    have free := admits_free admits
    rw [List.append_nil] at free
    exact ⟨free, rfl, rfl, rfl, rfl, rfl, rfl, rfl, rfl, rfl, rfl⟩
  · cases commits

theorem Committed.grows {i : Nat} {session : Session} {shared next : Shared}
    (done : Committed i session shared next) : Grows shared next := by
  refine ⟨Nat.le_of_eq done.nextId.symm, ?_, ?_, ?_, ?_⟩
  · intro run member
    rw [done.runs]
    exact ⟨_, Tracked.update_stored (T := runTable) member,
      Tracked.key_update (T := runTable) _ _, update_userPermissions _ _⟩
  · intro row member
    rw [done.executions]
    exact ⟨_, Tracked.update_stored (T := executionTable) member, sameCall_update _ _⟩
  · rw [done.started]
    exact fun entry member => member
  · rw [done.shown]
    exact fun entry member => member

theorem release_grows (i : Nat) (shared : Shared) : Grows shared (shared.release i) :=
  ⟨Nat.le_refl _, fun run member => ⟨run, member, rfl, rfl⟩,
    fun row member => ⟨row, member, .refl row⟩, fun _ member => member, fun _ member => member⟩

theorem edit_execution {change : Registry → Registry} {shared : Shared} {row : ToolExecution}
    (member : row ∈ (shared.edit change).executions) :
    ∃ old ∈ shared.executions, SameCall row old ∧ row.approvalState = old.approvalState := by
  obtain ⟨old, before, rfl⟩ := List.mem_map.mp member
  exact ⟨old, before, ⟨rfl, rfl, rfl, rfl⟩, rfl⟩

theorem execution_edit (change : Registry → Registry) {shared : Shared} {row : ToolExecution}
    (member : row ∈ shared.executions) :
    ∃ later ∈ (shared.edit change).executions,
      SameCall later row ∧ later.approvalState = row.approvalState :=
  ⟨_, List.mem_map.mpr ⟨row, member, rfl⟩, ⟨rfl, rfl, rfl, rfl⟩, rfl⟩

theorem edit_grows (change : Registry → Registry) (shared : Shared) :
    Grows shared (shared.edit change) := by
  refine ⟨Nat.le_refl _, fun run member => ⟨run, member, rfl, rfl⟩, ?_, fun _ member => member,
    fun _ member => member⟩
  intro row member
  obtain ⟨later, now, same, _⟩ := execution_edit change member
  exact ⟨later, now, same⟩

section Others

variable {i : Nat} {session : Session} {shared next : Shared}

theorem Owns.transfer (owns : Owns i session shared) (locks : next.locks.Held i session.held)
    (grows : Grows shared next)
    (runs : ∀ run ∈ next.runs,
      (∃ old ∈ shared.runs, old.id = run.id) ∨ .run run.id ∉ session.held)
    (executions : ∀ row ∈ next.executions,
      (∃ old ∈ shared.executions, old.id = row.id) ∨ .execution row.id ∉ session.held) :
    Owns i session next where
  locks := locks
  newRun tracked run inserted := by
    obtain ⟨below, held, streams, fresh⟩ := owns.newRun tracked run inserted
    refine ⟨Nat.lt_of_lt_of_le below grows.nextId, held, streams, fun row member same => ?_⟩
    rcases runs row member with ⟨old, before, keyed⟩ | absent
    · exact fresh old before (keyed.trans same)
    · exact absent (same ▸ held)
  oldRun tracked run loaded := by
    obtain ⟨row, member, keyed, permissions⟩ := owns.oldRun tracked run loaded
    obtain ⟨later, now, same, kept⟩ := grows.runs row member
    exact ⟨later, now, same.trans keyed, kept.trans permissions⟩
  newRows tracked member inserted := by
    obtain ⟨below, held, streams, fresh⟩ := owns.newRows tracked member inserted
    refine ⟨Nat.lt_of_lt_of_le below grows.nextId, held, streams, fun row stored same => ?_⟩
    rcases executions row stored with ⟨old, before, keyed⟩ | absent
    · exact fresh old before (keyed.trans same)
    · exact absent (same ▸ held)
  oldRows tracked member loaded := by
    obtain ⟨row, stored, same⟩ := owns.oldRows tracked member loaded
    obtain ⟨later, now, kept⟩ := grows.executions row stored
    exact ⟨later, now, kept.trans same⟩
  distinct := owns.distinct
  belongs := owns.belongs
  idle := owns.idle
  asked := owns.asked
  askedOnce := owns.askedOnce
  events := owns.events

theorem Owns.reacted_other {j : Nat} {other : Session} {op : Op} {reply : Reply op}
    (owns : Owns j other shared) (different : j ≠ i)
    (reaction : Reaction i session shared op reply next) : Owns j other next := by
  obtain ⟨keys, free, locks, _⟩ := reaction.locks
  refine owns.transfer ?_ reaction.grows ?_ ?_
  · rw [locks]
    exact Locks.held_acquire_other different owns.locks free
  · rw [reaction.runs]
    exact fun run member => .inl ⟨run, member, rfl⟩
  · rw [reaction.executions]
    exact fun row member => .inl ⟨row, member, rfl⟩

theorem Owns.committed_other {j : Nat} {other : Session} (owns : Owns j other shared)
    (different : j ≠ i) (own : Owns i session shared)
    (done : Committed i session shared next) : Owns j other next := by
  refine owns.transfer ?_ done.grows ?_ ?_
  · rw [done.locks]
    exact Locks.held_release_other different owns.locks
  · intro run member
    rw [done.runs] at member
    rcases (Tracked.mem_store (T := runTable)).mp member with
      ⟨old, before, rfl⟩ | ⟨tracked, listed, inserted, rfl⟩
    · exact .inl ⟨old, before, (Tracked.key_update (T := runTable) _ _).symm⟩
    · refine .inr fun held => different ?_
      have mine := (own.newRun tracked (by simpa using listed) inserted).2.1
      rw [show tracked.row.id = tracked.key from Tracked.key_row tracked] at held
      exact Locks.held_exclusive owns.locks own.locks held mine
  · intro row member
    rw [done.executions] at member
    rcases (Tracked.mem_store (T := executionTable)).mp member with
      ⟨old, before, rfl⟩ | ⟨tracked, listed, inserted, rfl⟩
    · exact .inl ⟨old, before, (Tracked.key_update (T := executionTable) _ _).symm⟩
    · refine .inr fun held => different ?_
      have mine := (own.newRows tracked listed inserted).2.1
      rw [show tracked.row.id = tracked.key from Tracked.key_row tracked] at held
      exact Locks.held_exclusive owns.locks own.locks held mine

theorem Owns.released_other {j : Nat} {other : Session} (owns : Owns j other shared)
    (different : j ≠ i) : Owns j other (shared.release i) :=
  owns.transfer (Locks.held_release_other different owns.locks) (release_grows i shared)
    (fun run member => .inl ⟨run, member, rfl⟩) (fun row member => .inl ⟨row, member, rfl⟩)

theorem Owns.edited (owns : Owns i session shared) (change : Registry → Registry) :
    Owns i session (shared.edit change) := by
  refine owns.transfer owns.locks (edit_grows change shared)
    (fun run member => .inl ⟨run, member, rfl⟩) fun row member => .inl ?_
  obtain ⟨old, before, same, _⟩ := edit_execution member
  exact ⟨old, before, same.id.symm⟩

end Others

section Own

variable {i : Nat} {session later : Session} {shared next : Shared}

theorem Owns.frame (owns : Owns i session shared) (locks : shared.locks.Held i later.held)
    (held : ∀ key ∈ session.held, key ∈ later.held) (request : later.request = session.request)
    (run : later.run = session.run) (executions : later.executions = session.executions)
    (events : later.events = session.events) (asked : later.asked = session.asked) :
    Owns i later shared where
  locks := locks
  newRun tracked same inserted := by
    rw [run] at same
    obtain ⟨below, mine, streams, fresh⟩ := owns.newRun tracked same inserted
    exact ⟨below, held _ mine, by rwa [Session.streams, request], fresh⟩
  oldRun tracked same loaded := by
    rw [run] at same
    exact owns.oldRun tracked same loaded
  newRows tracked member inserted := by
    rw [executions] at member
    obtain ⟨below, mine, streams, fresh⟩ := owns.newRows tracked member inserted
    exact ⟨below, held _ mine, by rwa [Session.streams, request], fresh⟩
  oldRows tracked member loaded := by
    rw [executions] at member
    exact owns.oldRows tracked member loaded
  distinct := by
    rw [executions]
    exact owns.distinct
  belongs tracked same row member := by
    rw [run] at same
    rw [executions] at member
    exact owns.belongs tracked same row member
  idle none streams := by
    rw [run] at none
    rw [executions]
    refine owns.idle none ?_
    rwa [Session.streams, request] at streams
  asked pair member := by
    rw [asked] at member
    rw [executions]
    exact owns.asked pair member
  askedOnce := by
    rw [asked]
    exact owns.askedOnce
  events event member := by
    rw [events] at member
    obtain ⟨mine, tracked, same, owner⟩ := owns.events event member
    exact ⟨held _ mine, tracked, run.trans same, owner⟩

theorem owns_opened (i : Nat) (request : AgentRequest) (shared : Shared) :
    Owns i (.opened request) shared where
  locks := fun key member => by cases member
  newRun := fun tracked same => by cases same
  oldRun := fun tracked same => by cases same
  newRows := fun tracked member => by cases member
  oldRows := fun tracked member => by cases member
  distinct := List.nodup_nil
  belongs := fun run same => by cases same
  idle := fun _ _ => rfl
  asked := fun pair member => by cases member
  askedOnce := List.nodup_nil
  events := fun event member => by cases member

theorem Owns.loadedRun (owns : Owns i session shared)
    (bare : session.executions = [] ∧ session.events = []) {run : AgentRun}
    (member : run ∈ shared.runs) :
    Owns i { session with run := some (.load run) } shared where
  locks := owns.locks
  newRun tracked same inserted := by
    cases same
    cases inserted
  oldRun tracked same _ := by
    cases same
    exact ⟨run, member, rfl, rfl⟩
  newRows := owns.newRows
  oldRows := owns.oldRows
  distinct := owns.distinct
  belongs tracked _ row listed := by
    rw [bare.1] at listed
    cases listed
  idle absent := by cases absent
  asked := owns.asked
  askedOnce := owns.askedOnce
  events event listed := by
    rw [bare.2] at listed
    cases listed

theorem Owns.insertedRun (owns : Owns i session shared) (streams : session.streams = true)
    (bare : session.executions = [] ∧ session.events = []) {run : AgentRun}
    (below : run.id < shared.nextId) (fresh : ∀ row ∈ shared.runs, row.id ≠ run.id)
    {keys : List LockKey} (locks : shared.locks.Held i keys)
    (mine : .run run.id ∈ keys) :
    Owns i { session with held := keys, run := some (.insert run) } shared where
  locks := locks
  newRun tracked same _ := by
    cases same
    exact ⟨below, mine, streams, fresh⟩
  oldRun tracked same loaded := by
    cases same
    cases loaded
  newRows tracked listed := by
    rw [bare.1] at listed
    cases listed
  oldRows tracked listed := by
    rw [bare.1] at listed
    cases listed
  distinct := owns.distinct
  belongs tracked _ row listed := by
    rw [bare.1] at listed
    cases listed
  idle absent := by cases absent
  asked := owns.asked
  askedOnce := owns.askedOnce
  events event listed := by
    rw [bare.2] at listed
    cases listed

theorem Owns.assignedRun (owns : Owns i session shared) (assignment : RunAssignment) :
    Owns i (session.after (.assignRun assignment) ()) shared := by
  have back : ∀ tracked, session.run.map (·.assign assignment) = some tracked →
      ∃ before, session.run = some before ∧ tracked = before.assign assignment := by
    intro tracked same
    obtain ⟨before, found, rfl⟩ := Option.map_eq_some_iff.mp same
    exact ⟨before, found, rfl⟩
  refine ⟨owns.locks, ?_, ?_, owns.newRows, owns.oldRows, owns.distinct, ?_, ?_, owns.asked,
    owns.askedOnce, ?_⟩
  · intro tracked same inserted
    obtain ⟨before, found, rfl⟩ := back tracked same
    exact owns.newRun before found inserted
  · intro tracked same loaded
    obtain ⟨before, found, rfl⟩ := back tracked same
    exact owns.oldRun before found loaded
  · intro tracked same row member
    obtain ⟨before, found, rfl⟩ := back tracked same
    exact owns.belongs before found row member
  · intro none streams
    exact owns.idle (Option.map_eq_none_iff.mp none) streams
  · intro event member
    obtain ⟨mine, tracked, found, owner⟩ := owns.events event member
    exact ⟨mine, tracked.assign assignment, by simp [Session.after, found], owner⟩

theorem Owns.insertedExecution (owns : Owns i session shared) (streams : session.streams = true)
    {run : Tracked runTable} (tracked : session.run = some run) {row : ToolExecution}
    (below : row.id < shared.nextId) (fresh : ∀ other ∈ shared.executions, other.id ≠ row.id)
    (unused : ∀ other ∈ session.executions, other.key ≠ row.id) (owner : row.runId = run.key)
    {tool : Tool} (named : row.toolName = tool.name) {keys : List LockKey}
    (locks : shared.locks.Held i keys) (held : ∀ key ∈ session.held, key ∈ keys)
    (mine : .execution row.id ∈ keys) :
    Owns i { session with
      held := keys
      executions := session.executions ++ [.insert row]
      asked := session.asked ++ [(row.id, tool)] } shared where
  locks := locks
  newRun other same inserted := by
    obtain ⟨low, own, streams, absent⟩ := owns.newRun other same inserted
    exact ⟨low, held _ own, streams, absent⟩
  oldRun := owns.oldRun
  newRows other member inserted := by
    rcases List.mem_append.mp member with before | last
    · obtain ⟨low, own, streams, absent⟩ := owns.newRows other before inserted
      exact ⟨low, held _ own, streams, absent⟩
    · rw [List.mem_singleton.mp last]
      exact ⟨below, mine, streams, fresh⟩
  oldRows other member loaded := by
    rcases List.mem_append.mp member with before | last
    · exact owns.oldRows other before loaded
    · rw [List.mem_singleton.mp last] at loaded
      cases loaded
  distinct := by
    rw [List.map_append, List.nodup_append]
    refine ⟨owns.distinct, List.nodup_singleton _, fun key before other last => ?_⟩
    obtain ⟨old, member, rfl⟩ := List.mem_map.mp before
    rw [List.map_singleton, List.mem_singleton] at last
    rw [last]
    exact unused old member
  belongs other same execution member := by
    rcases List.mem_append.mp member with before | last
    · exact owns.belongs other same execution before
    · rw [tracked] at same
      cases same
      rw [List.mem_singleton.mp last]
      exact owner
  idle absent := by
    rw [show session.run = none from absent] at tracked
    cases tracked
  asked pair member := by
    rcases List.mem_append.mp member with before | last
    · obtain ⟨other, listed, inserted, keyed, same⟩ := owns.asked pair before
      exact ⟨other, List.mem_append_left _ listed, inserted, keyed, same⟩
    · rw [List.mem_singleton.mp last]
      exact ⟨_, List.mem_append_right _ (List.mem_singleton.mpr rfl), rfl, rfl, named⟩
  askedOnce := by
    rw [List.map_append, List.nodup_append]
    refine ⟨owns.askedOnce, List.nodup_singleton _, fun key before other last => ?_⟩
    obtain ⟨pair, member, rfl⟩ := List.mem_map.mp before
    rw [List.map_singleton, List.mem_singleton] at last
    obtain ⟨old, listed, _, keyed, _⟩ := owns.asked pair member
    rw [last, ← keyed]
    exact unused old listed
  events event member := by
    obtain ⟨own, other, same, owner⟩ := owns.events event member
    exact ⟨held _ own, other, same, owner⟩

theorem Owns.assignedExecution (owns : Owns i session shared) (executionId : Nat)
    (assignment : ExecutionAssignment) :
    Owns i (session.after (.assignExecution executionId assignment) ()) shared := by
  have back : ∀ tracked ∈ (session.after (.assignExecution executionId assignment) ()).executions,
      ∃ before ∈ session.executions, tracked.original = before.original ∧
        tracked.inserted = before.inserted := by
    intro tracked member
    obtain ⟨before, listed, rfl⟩ := List.mem_map.mp member
    by_cases keyed : before.key = executionId
    · exact ⟨before, listed, by simp [keyed], by simp [keyed]⟩
    · exact ⟨before, listed, by simp [keyed], by simp [keyed]⟩
  refine ⟨owns.locks, owns.newRun, owns.oldRun, ?_, ?_, ?_, ?_, ?_, ?_, owns.askedOnce,
    owns.events⟩
  · intro tracked member inserted
    obtain ⟨before, listed, same, kept⟩ := back tracked member
    rw [Tracked.key, same]
    exact owns.newRows before listed (kept.symm.trans inserted)
  · intro tracked member loaded
    obtain ⟨before, listed, same, kept⟩ := back tracked member
    rw [same]
    exact owns.oldRows before listed (kept.symm.trans loaded)
  · exact (Tracked.assign_keys (T := executionTable) _ _ _).symm ▸ owns.distinct
  · intro run found tracked member
    obtain ⟨before, listed, same, _⟩ := back tracked member
    rw [same]
    exact owns.belongs run found before listed
  · intro none streams
    simp only [Session.after]
    rw [owns.idle none streams, List.map_nil]
  · intro pair member
    obtain ⟨tracked, listed, inserted, keyed, named⟩ := owns.asked pair member
    refine ⟨_, List.mem_map.mpr ⟨tracked, listed, rfl⟩, ?_⟩
    by_cases hit : tracked.key = executionId
    · simp only [hit, if_true]
      exact ⟨inserted, keyed, named⟩
    · simp only [hit, if_false]
      exact ⟨inserted, keyed, named⟩

theorem Owns.queried (owns : Owns i session shared)
    (untouched : ∀ execution ∈ session.executions, execution.inserted = false)
    {rows : List ToolExecution} (stored : ∀ row ∈ rows, row ∈ shared.executions)
    (once : (rows.map (·.id)).Nodup)
    (belongs : ∀ run, session.run = some run → ∀ row ∈ rows, row.runId = run.key)
    (idle : session.run = none → session.streams = true → rows = []) :
    Owns i { session with executions := rows.map .load } shared where
  locks := owns.locks
  newRun := owns.newRun
  oldRun := owns.oldRun
  newRows tracked member inserted := by
    obtain ⟨row, _, rfl⟩ := List.mem_map.mp member
    cases inserted
  oldRows tracked member _ := by
    obtain ⟨row, listed, rfl⟩ := List.mem_map.mp member
    exact ⟨row, stored row listed, .refl row⟩
  distinct := by
    rw [List.map_map]
    exact once
  belongs run same tracked member := by
    obtain ⟨row, listed, rfl⟩ := List.mem_map.mp member
    exact belongs run same row listed
  idle none streams := by
    rw [idle none streams, List.map_nil]
  asked pair member := by
    obtain ⟨tracked, listed, inserted, _⟩ := owns.asked pair member
    rw [untouched tracked listed] at inserted
    cases inserted
  askedOnce := owns.askedOnce
  events := owns.events

theorem Owns.wroteEvent (owns : Owns i session shared) {event : AgentRunEvent}
    (may : session.MayWriteEvent event)
    (locks : shared.locks.Held i (wrote event session).held) :
    Owns i (wrote event session) shared := by
  have more : ∀ key ∈ session.held, key ∈ (wrote event session).held :=
    fun key member => List.mem_append_left _ member
  obtain ⟨tracked, run, owner, _⟩ := may.tracked
  refine ⟨locks, ?_, owns.oldRun, ?_, owns.oldRows, owns.distinct, owns.belongs, owns.idle,
    owns.asked, owns.askedOnce, ?_⟩
  · intro tracked run inserted
    obtain ⟨below, mine, streams, fresh⟩ := owns.newRun tracked run inserted
    exact ⟨below, more _ mine, streams, fresh⟩
  · intro row member inserted
    obtain ⟨below, mine, streams, fresh⟩ := owns.newRows row member inserted
    exact ⟨below, more _ mine, streams, fresh⟩
  · intro other member
    rcases List.mem_append.mp member with before | last
    · obtain ⟨mine, rest⟩ := owns.events other before
      exact ⟨more _ mine, rest⟩
    · rw [List.mem_singleton.mp last]
      refine ⟨?_, tracked, run, owner.symm⟩
      exact List.mem_append_right _ (List.mem_append_right _ (List.mem_singleton.mpr rfl))

theorem Owns.below (owns : Owns i session shared) (consistent : Consistent shared) :
    ∀ tracked ∈ session.executions, tracked.key < shared.nextId := by
  intro tracked member
  cases inserted : tracked.inserted with
  | true => exact (owns.newRows tracked member inserted).1
  | false =>
      obtain ⟨row, stored, same⟩ := owns.oldRows tracked member inserted
      have keyed : row.id = tracked.key := same.id
      rw [← keyed]
      exact consistent.executions row stored

theorem Owns.run_below (owns : Owns i session shared) (consistent : Consistent shared)
    {tracked : Tracked runTable} (found : session.run = some tracked) :
    tracked.key < shared.nextId := by
  cases inserted : tracked.inserted with
  | true => exact (owns.newRun tracked found inserted).1
  | false =>
      obtain ⟨run, stored, keyed, _⟩ := owns.oldRun tracked found inserted
      rw [← keyed]
      exact consistent.runs run stored

theorem Owns.performed {op : Op} {answer : Answer} {reply : Reply op}
    (owns : Owns i session shared) (consistent : Consistent shared)
    (allowed : session.allowed op)
    (reacts : shared.react i session op answer = some (reply, next)) :
    Owns i (session.after op reply) next := by
  have change := reaction reacts
  have before := owns
  obtain ⟨keys, free, taken, grown⟩ := change.locks
  have locks : next.locks.Held i (session.after op reply).held := by
    rw [taken, grown]
    exact Locks.held_acquire keys owns.locks
  have held : ∀ key ∈ session.held, key ∈ (session.after op reply).held := by
    rw [grown]
    exact fun key member => List.mem_append_left _ member
  have owns : Owns i session next := by
    refine owns.transfer (fun key member => locks key (held key member)) change.grows ?_ ?_
    · rw [change.runs]
      exact fun run member => .inl ⟨run, member, rfl⟩
    · rw [change.executions]
      exact fun row member => .inl ⟨row, member, rfl⟩
  cases op with
  | getCurrentVersion agentId =>
      cases reply with
      | none => exact owns
      | some version => exact owns.frame locks held rfl rfl rfl rfl rfl
  | getRun runId =>
      cases reply with
      | none => exact owns
      | some run =>
          cases found : session.run with
          | some tracked => simpa [Session.after, found] using owns
          | none =>
              have bare := allowed found
              have member := (react_getRun found reacts).1
              rw [← change.runs] at member
              simpa [Session.after, found] using owns.loadedRun bare member
  | addRun draft =>
      obtain ⟨same, counted⟩ := react_addRun reacts
      subst same
      have first := allowed.first
      refine owns.insertedRun allowed.streams ⟨first.2.1, first.2.2.1⟩ ?_ ?_ locks ?_
      · exact Nat.lt_of_lt_of_eq (Nat.lt_succ_self _) counted.symm
      · rw [change.runs]
        exact fun row member => Nat.ne_of_lt (consistent.runs row member)
      · exact List.mem_append_right _ (List.mem_append_right _ (List.mem_singleton.mpr rfl))
  | assignRun assignment => exact owns.assignedRun assignment
  | addExecution run tool arguments =>
      obtain ⟨keyed, counted, owner, named, _⟩ := react_addExecution reacts
      obtain ⟨tracked, found, mine⟩ := allowed.tracked
      refine owns.insertedExecution allowed.streams found ?_ ?_ ?_ (owner.trans mine.symm) named
        locks held ?_
      · rw [keyed, counted]
        exact Nat.lt_succ_self _
      · rw [change.executions, keyed]
        exact fun row member => Nat.ne_of_lt (consistent.executions row member)
      · rw [keyed]
        exact fun other member => Nat.ne_of_lt (before.below consistent other member)
      · exact List.mem_append_right _ (List.mem_append_right _ (List.mem_singleton.mpr rfl))
  | assignExecution executionId assignment => exact owns.assignedExecution executionId assignment
  | flush => exact owns.frame locks held rfl rfl rfl rfl rfl
  | pendingForRun runId =>
      obtain ⟨tracked, found, keyed, _⟩ := allowed.tracked
      have stored : ∀ row ∈ reply.toList, row ∈ shared.pendingOf runId := by
        intro row member
        cases Option.mem_toList.mp member
        exact react_pendingForRun reacts
      refine owns.queried (fun execution member => (allowed.untouched execution member).1) ?_ ?_
        ?_ ?_
      · rw [change.executions]
        exact fun row member => (mem_pendingOf.mp (stored row member)).1
      · cases reply with
        | none => exact List.nodup_nil
        | some row => exact List.nodup_singleton _
      · intro run same row member
        rw [found] at same
        cases same
        exact (mem_pendingOf.mp (stored row member)).2.1.trans keyed.symm
      · intro none
        rw [found] at none
        cases none
  | pendingOlderThan cutoff =>
      obtain ⟨streams, none, bare⟩ := allowed
      have stored : reply = shared.executions.filter fun execution =>
          execution.approvalState = .pending && execution.requestedAt < cutoff := by
        cases reacts
        rfl
      refine owns.queried ?_ ?_ ?_ ?_ ?_
      · rw [bare]
        exact fun execution member => by cases member
      · rw [stored, change.executions]
        exact fun row member => List.mem_of_mem_filter member
      · rw [stored]
        exact consistent.executionsOnce.sublist (List.filter_sublist.map _)
      · intro run same
        rw [none] at same
        cases same
      · intro _ other
        rw [streams] at other
        cases other
  | getToolByName name =>
      cases reply with
      | none => exact owns
      | some tool => exact owns.frame locks held rfl rfl rfl rfl rfl
  | writeEvent event => exact owns.wroteEvent allowed locks
  | audit entry => exact owns.frame locks held rfl rfl rfl rfl rfl
  | execute executionId tool invocation => exact owns.frame locks held rfl rfl rfl rfl rfl
  | getAgent agentId => exact owns
  | readRun => exact owns
  | deliver event => exact owns
  | auditIndependent entry => exact owns
  | gather spec context question => exact owns
  | providerFactory model => exact owns
  | chat messages model temperature tools => exact owns
  | raise error => cases reply

end Own

section Store

variable {i : Nat} {session : Session} {shared next : Shared}

theorem Consistent.reacted {op : Op} {reply : Reply op} (consistent : Consistent shared)
    (change : Reaction i session shared op reply next) : Consistent next := by
  refine ⟨?_, ?_, ?_, ?_, ?_, ?_⟩
  · rw [change.runs]
    exact fun run member => Nat.lt_of_lt_of_le (consistent.runs run member) change.nextId
  · rw [change.runs]
    exact consistent.runsOnce
  · rw [change.executions]
    exact fun row member => Nat.lt_of_lt_of_le (consistent.executions row member) change.nextId
  · rw [change.executions]
    exact consistent.executionsOnce
  · rw [change.executions, change.runs]
    exact consistent.owned
  · rw [change.events, change.runs]
    exact consistent.events

theorem run_stored {session : Session} {shared : Shared} {id : Nat}
    (stored : (∃ run ∈ shared.runs, run.id = id) ∨
      ∃ tracked, session.run = some tracked ∧ tracked.inserted = true ∧ tracked.key = id) :
    ∃ run ∈ Tracked.store session.run.toList shared.runs, run.id = id := by
  rcases stored with ⟨run, member, keyed⟩ | ⟨tracked, found, inserted, keyed⟩
  · exact ⟨_, Tracked.update_stored (T := runTable) member,
      (Tracked.key_update (T := runTable) _ _).trans keyed⟩
  · exact ⟨_, Tracked.inserted_stored (T := runTable) _ (by simp [found]) inserted,
      (Tracked.key_row tracked).trans keyed⟩

theorem Owns.run_stored (owns : Owns i session shared) {tracked : Tracked runTable}
    (found : session.run = some tracked) :
    ∃ run ∈ Tracked.store session.run.toList shared.runs, run.id = tracked.key := by
  refine Agents.run_stored ?_
  cases inserted : tracked.inserted with
  | true => exact .inr ⟨tracked, found, inserted, rfl⟩
  | false =>
      obtain ⟨run, member, keyed, _⟩ := owns.oldRun tracked found inserted
      exact .inl ⟨run, member, keyed⟩

theorem Consistent.committed (consistent : Consistent shared) (owns : Owns i session shared)
    (done : Committed i session shared next) : Consistent next := by
  refine ⟨?_, ?_, ?_, ?_, ?_, ?_⟩
  · rw [done.runs, done.nextId]
    intro run member
    rcases (Tracked.mem_store (T := runTable)).mp member with
      ⟨old, before, rfl⟩ | ⟨tracked, listed, inserted, rfl⟩
    · exact (Tracked.key_update (T := runTable) _ _).trans_lt
        (consistent.runs old before)
    · exact (Tracked.key_row tracked).trans_lt
        (owns.newRun tracked (by simpa using listed) inserted).1
  · rw [done.runs]
    refine Tracked.store_nodup (T := runTable) consistent.runsOnce ?_ ?_
    · cases session.run <;> simp
    · intro tracked listed inserted
      exact (owns.newRun tracked (by simpa using listed) inserted).2.2.2
  · rw [done.executions, done.nextId]
    intro row member
    rcases (Tracked.mem_store (T := executionTable)).mp member with
      ⟨old, before, rfl⟩ | ⟨tracked, listed, inserted, rfl⟩
    · exact (Tracked.key_update (T := executionTable) _ _).trans_lt
        (consistent.executions old before)
    · exact (Tracked.key_row tracked).trans_lt
        (owns.newRows tracked listed inserted).1
  · rw [done.executions]
    exact Tracked.store_nodup (T := executionTable) consistent.executionsOnce owns.distinct
      fun tracked listed inserted => (owns.newRows tracked listed inserted).2.2.2
  · rw [done.executions, done.runs]
    intro row member
    rcases (Tracked.mem_store (T := executionTable)).mp member with
      ⟨old, before, rfl⟩ | ⟨tracked, listed, inserted, rfl⟩
    · rw [(sameCall_update _ old).runId]
      exact Agents.run_stored (.inl (consistent.owned old before))
    · rw [(show tracked.row.runId = tracked.original.runId from (sameCall_replay _ _).runId)]
      obtain ⟨_, _, streams, _⟩ := owns.newRows tracked listed inserted
      cases found : session.run with
      | none =>
          rw [owns.idle found streams] at listed
          cases listed
      | some run =>
          rw [owns.belongs run found tracked listed, ← found]
          exact owns.run_stored found
  · rw [done.events, done.runs]
    intro event member
    rcases List.mem_append.mp member with before | now
    · exact Agents.run_stored (.inl (consistent.events event before))
    · obtain ⟨_, tracked, found, owner⟩ := owns.events event now
      rw [owner]
      exact owns.run_stored found

theorem Consistent.edited (consistent : Consistent shared) (change : Registry → Registry) :
    Consistent (shared.edit change) := by
  have ids : (shared.edit change).executions.map (·.id) = shared.executions.map (·.id) := by
    simp [Shared.edit, Function.comp_def]
  refine ⟨consistent.runs, consistent.runsOnce, ?_, ids ▸ consistent.executionsOnce, ?_,
    consistent.events⟩
  · intro row member
    obtain ⟨old, before, same, _⟩ := edit_execution member
    exact same.id.trans_lt (consistent.executions old before)
  · intro row member
    obtain ⟨old, before, same, _⟩ := edit_execution member
    rw [same.runId]
    exact consistent.owned old before

end Store

/-- The committed runs after a commit: the run the session works on is its
assignments replayed on the row as it is stored, every other run is as it was. -/
theorem Owns.committed_runs {i : Nat} {session : Session} {shared next : Shared}
    (owns : Owns i session shared) (done : Committed i session shared next) {run : AgentRun}
    (member : run ∈ next.runs) :
    (run ∈ shared.runs ∧ ∀ tracked, session.run = some tracked → tracked.key ≠ run.id) ∨
      ∃ tracked row, session.run = some tracked ∧ tracked.key = run.id ∧ row.id = run.id ∧
        run = Tracked.replay (T := runTable) tracked.assigned row ∧
        ((tracked.inserted = true ∧ row = tracked.original) ∨
          (tracked.inserted = false ∧ row ∈ shared.runs)) := by
  rw [done.runs] at member
  rcases (Tracked.mem_store (T := runTable)).mp member with
    ⟨old, before, rfl⟩ | ⟨tracked, listed, inserted, rfl⟩
  · have keyed : (Tracked.update session.run.toList old).id = old.id :=
      Tracked.key_update (T := runTable) _ _
    rw [keyed]
    rcases Tracked.update_cases (T := runTable) session.run.toList old with
      ⟨same, others⟩ | ⟨tracked, listed, loaded, mine, same⟩
    · rw [same]
      refine .inl ⟨before, fun tracked found => ?_⟩
      cases inserted : tracked.inserted with
      | false => exact others tracked (by simp [found]) inserted
      | true => exact ((owns.newRun tracked found inserted).2.2.2 old before).symm
    · exact .inr ⟨tracked, old, by simpa using listed, mine, rfl, same, .inr ⟨loaded, before⟩⟩
  · have keyed : tracked.row.id = tracked.key := Tracked.key_row tracked
    rw [keyed]
    exact .inr ⟨tracked, tracked.original, by simpa using listed, rfl, rfl, rfl,
      .inl ⟨inserted, rfl⟩⟩

def ownership : Invariant agentDiscipline (fun _ _ => True) (fun _ => True) where
  shared := Consistent
  session := Owns
  begins _ i request _ _ _ := owns_opened i request _
  performs _ _ _ _ _ _ _ _ _ _ allowed consistent owns reacts :=
    ⟨consistent.reacted (reaction reacts), owns.performed consistent allowed reacts,
      fun _ _ different _ other => other.reacted_other different (reaction reacts)⟩
  commits _ _ _ _ _ _ _ _ consistent owns commits :=
    ⟨consistent.committed owns (committed commits),
      fun _ _ different _ other => other.committed_other different owns (committed commits)⟩
  aborts _ _ _ _ _ _ consistent _ :=
    ⟨⟨consistent.runs, consistent.runsOnce, consistent.executions, consistent.executionsOnce,
      consistent.owned, consistent.events⟩, fun _ _ different _ other =>
      other.released_other different⟩
  changes _ edit _ _ consistent :=
    ⟨consistent.edited edit, fun _ _ _ other => other.edited edit⟩

theorem idle_consistent (registry : Registry) : Consistent (Shared.empty registry) :=
  ⟨fun _ member => (nomatch member), List.nodup_nil, fun _ member => (nomatch member), List.nodup_nil,
    fun _ member => (nomatch member), fun _ member => (nomatch member)⟩

theorem owned (ok : AgentSystem → AgentLabel → Prop) (registry : Registry) (system : AgentSystem)
    (reached : Reached ok registry system) : ownership.Holds system := by
  have initially : ownership.shared (idle registry).shared := idle_consistent registry
  exact ownership.reached (fun _ => rfl) initially (fun _ _ => trivial) system
    (reached.weaken fun _ _ _ => trivial)

inductive Effect (system : AgentSystem) : AgentLabel → Shared → Prop
  | unchanged (label : AgentLabel) : Effect system label system.shared
  | reacted (i : Nat) (answer : Answer) (op : Op) (session : Session) (reply : Reply op)
      (next : Shared) (performing : system.Performing i op session)
      (reacts : system.shared.react i session op answer = some (reply, next)) :
      Effect system (.perform i answer) next
  | committed (i : Nat) (session : Session) (next : Shared) (ending : system.Ending i session)
      (done : Committed i session system.shared next) : Effect system (.commit i) next
  | released (i : Nat) (session : Session) (live : system.Live i session) :
      Effect system (.abort i) (system.shared.release i)
  | edited (change : Registry → Registry) :
      Effect system (.change change) (system.shared.edit change)

theorem effect {system next : AgentSystem} {label : AgentLabel}
    (transition : System.Transition system label next) : Effect system label next.shared := by
  cases transition with
  | begin i request fresh => exact .unchanged _
  | perform i answer op program session reply shared found reacts =>
      exact .reacted i answer op session reply shared ⟨program, found⟩ reacts
  | stop i op program session found awaits => exact .unchanged _
  | commit i session shared ending commits =>
      exact .committed i session shared ending (committed commits)
  | abort i session live => exact .released i session live
  | change edit => exact .edited edit

end AiPlatform.Agents
