import AiPlatform.NodeSweeps
import AiPlatform.Positions

/-!
The statuses that are committed. An update leaves a status out that the session has not
changed, so that a sweep commits what it determined where nobody else has changed the
status of a node that the sweep leaves as it was; and a node that the stale-node job marks
must not be seen between its query and its commit.
-/

namespace AiPlatform.NodeSweeps

open Deployments (NodeStatus)

/-- At a commit, the statuses that a sweep has left as it read them are still the same; a
forced check that leaves a status as it was has not seen a node that was marked for not
having been seen since; and nobody has seen a node that an open stale-node job is about
to mark. -/
def OnTime (system : System) : Label → Prop
  | .commit t => ∀ session, system.session t = some session → ∀ n held row,
      session.held n = some held → system.rows[n]? = some row →
      (session.job = .sweep → held.patch.status = none → row.fields.status = held.loaded.status) ∧
      (session.job = .check → held.patch.status = none → ∀ cutoff seen,
        row.markedBy = some cutoff → held.patch.lastSeenAt = some (some seen) → seen ≤ cutoff) ∧
      ∀ u other cutoff status seen, u ≠ t → system.session u = some other →
        other.job = .stale cutoff → (n, status) ∈ other.results →
        held.patch.lastSeenAt = some (some seen) → seen ≤ cutoff
  | _ => True

/-- What was written is what the session knows of the row, and who was seen is not offline. -/
structure Held.Sound (held : Held) : Prop where
  status : ∀ status, held.patch.status = some status → held.loaded.status = status
  seen : held.patch.lastSeenAt ≠ none ∨ held.now.lastSeenAt ≠ held.loaded.lastSeenAt →
    held.now.status ≠ .offline

def Held.Unseen (held : Held) : Prop :=
  held.patch.lastSeenAt = none ∧ held.now.lastSeenAt = held.loaded.lastSeenAt

/-- The stale-node job changes a status to `OFFLINE` only, of a node that it has marked. -/
structure Held.Marks (held : Held) (marked : Prop) : Prop where
  unseen : held.Unseen
  written : ∀ status, held.patch.status = some status → status = .offline ∧ marked
  changed : held.now.status ≠ held.loaded.status → held.now.status = .offline ∧ marked

theorem sound_of (fields : Fields) : (Held.of fields).Sound := by
  constructor
  · intro status written
    cases written
  · rintro (written | changed)
    · exact absurd rfl written
    · exact absurd rfl changed

theorem unseen_of (fields : Fields) : (Held.of fields).Unseen := ⟨rfl, rfl⟩

theorem patch_status (held : Held) : held.update.patch.status =
    if held.now.status = held.loaded.status then held.patch.status else some held.now.status := by
  simp only [Held.update, Patch.between, Patch.onto]
  split <;> rfl

theorem patch_seen (held : Held) : held.update.patch.lastSeenAt =
    if held.now.lastSeenAt = held.loaded.lastSeenAt then held.patch.lastSeenAt
    else some held.now.lastSeenAt := by
  simp only [Held.update, Patch.between, Patch.onto]
  split <;> rfl

theorem sound_update {held : Held} (sound : held.Sound) : held.update.Sound := by
  constructor
  · intro status written
    rw [patch_status] at written
    change held.now.status = status
    split at written
    · rename_i same
      exact same.trans (sound.status status written)
    · exact Option.some.inj written
  · rintro (written | changed)
    · rw [patch_seen] at written
      apply sound.seen
      by_cases same : held.now.lastSeenAt = held.loaded.lastSeenAt
      · rw [if_pos same] at written
        exact .inl written
      · exact .inr same
    · exact absurd rfl changed

theorem unseen_update {held : Held} (unseen : held.Unseen) : held.update.Unseen := by
  constructor
  · rw [patch_seen, if_pos unseen.2]
    exact unseen.1
  · rfl

theorem marks_update {held : Held} {marked : Prop} (marks : held.Marks marked) :
    held.update.Marks marked := by
  refine ⟨unseen_update marks.unseen, ?_, fun changed => absurd rfl changed⟩
  intro status written
  rw [patch_status] at written
  split at written
  · exact marks.written status written
  · rename_i changed
    rw [← Option.some.inj written]
    exact marks.changed changed

theorem sound_assign {held : Held} {fields : Fields} (sound : held.Sound)
    (seen : held.Unseen ∧ fields.lastSeenAt = held.now.lastSeenAt ∨ fields.status ≠ .offline) :
    Held.Sound { held with now := fields } := by
  refine ⟨sound.status, ?_⟩
  rcases seen with ⟨unseen, same⟩ | online
  · rintro (written | changed)
    · exact absurd unseen.1 written
    · exact absurd (same.trans unseen.2) changed
  · exact fun _ => online

/-- The node that `sync_node` is in a section of, with its result. -/
def Stage.node : Stage → Option (Nat × NodeStatus)
  | .listing | .polling | .committing => none
  | .system n result | .gpus n result | .flushing n result | .containers n result =>
      some (n, result)

namespace Session

structure Sound (session : Session) : Prop where
  held : ∀ n held, session.held n = some held → held.Sound ∧ n ∈ session.ids
  queue : session.queue.Nodup
  queued : ∀ n ∈ session.queue, (∃ held, session.held n = some held ∧ held.Unseen) ∧
    ∀ status, (n, status) ∉ session.results
  results : ∀ n status, (n, status) ∈ session.results → ∃ held, session.held n = some held ∧
    held.now.status = status
  marks : ∀ cutoff, session.job = .stale cutoff → session.queue = [] ∧
    ∀ n held, session.held n = some held → held.Marks (∃ status, (n, status) ∈ session.results)

/-- `sync_node` has assigned the result to the node. -/
structure At (session : Session) (n : Nat) (result : NodeStatus) : Prop where
  polled : n ∉ session.queue
  unlisted : ∀ status, (n, status) ∉ session.results
  held : ∃ held, session.held n = some held ∧ held.now.status = result
  syncs : ∀ cutoff, session.job ≠ .stale cutoff

def Good (session : Session) : Prop :=
  session.Sound ∧ ∀ n result, session.stage.node = some (n, result) → session.At n result

end Session

section Sessions

variable {session : Session} {n : Nat} {result : NodeStatus}

theorem held_onNode {m : Nat} {change : Held → Held} {held : Held}
    (found : (session.onNode n change).held m = some held) :
    (∃ old, m = n ∧ session.held n = some old ∧ held = change old) ∨
      m ≠ n ∧ session.held m = some held := by
  simp only [Session.onNode] at found
  by_cases same : m = n
  · subst same
    rw [if_pos rfl] at found
    obtain ⟨old, was, rfl⟩ := Option.map_eq_some_iff.mp found
    exact .inl ⟨old, rfl, was, rfl⟩
  · rw [if_neg same] at found
    exact .inr ⟨same, found⟩

theorem onNode_held {m : Nat} {change : Held → Held} {held : Held}
    (found : session.held m = some held) :
    (session.onNode n change).held m = some (if m = n then change held else held) := by
  simp only [Session.onNode]
  split
  · rw [found]
    rfl
  · exact found

theorem sound_onNode {change : Held → Held} (sound : session.Sound)
    (syncs : ∀ cutoff, session.job ≠ .stale cutoff) (polled : n ∉ session.queue)
    (unlisted : ∀ status, (n, status) ∉ session.results)
    (kept : ∀ held, session.held n = some held → held.Sound → (change held).Sound) :
    (session.onNode n change).Sound := by
  constructor
  · intro m held found
    rcases held_onNode found with ⟨old, rfl, was, rfl⟩ | ⟨_, was⟩
    · obtain ⟨sound, listed⟩ := sound.held m old was
      exact ⟨kept old was sound, listed⟩
    · exact sound.held m held was
  · exact sound.queue
  · intro m queued
    obtain ⟨⟨held, found, unseen⟩, unlisted⟩ := sound.queued m queued
    have other : m ≠ n := fun same => polled (same ▸ queued)
    refine ⟨⟨held, ?_, unseen⟩, unlisted⟩
    rw [onNode_held found, if_neg other]
  · intro m status listed
    obtain ⟨held, found, same⟩ := sound.results m status listed
    have other : m ≠ n := fun same => unlisted status (same ▸ listed)
    refine ⟨held, ?_, same⟩
    rw [onNode_held found, if_neg other]
  · intro cutoff stale
    exact absurd stale (syncs cutoff)

theorem good_stage {stage : Stage} (sound : session.Sound)
    (here : ∀ n result, stage.node = some (n, result) → session.At n result) :
    Session.Good { session with stage := stage } := by
  refine ⟨⟨sound.held, sound.queue, sound.queued, sound.results, sound.marks⟩, ?_⟩
  intro n result found
  obtain ⟨polled, unlisted, held, syncs⟩ := here n result found
  exact ⟨polled, unlisted, held, syncs⟩

theorem good_finish (sound : session.Sound) (here : session.At n result) :
    (session.finish n result).Good := by
  refine ⟨⟨sound.held, sound.queue, ?_, ?_, ?_⟩, ?_⟩
  · intro m queued
    obtain ⟨held, unlisted⟩ := sound.queued m queued
    refine ⟨held, ?_⟩
    intro status listed
    rcases List.mem_append.mp listed with old | new
    · exact unlisted status old
    · cases List.mem_singleton.mp new
      exact here.polled queued
  · intro m status listed
    rcases List.mem_append.mp listed with old | new
    · exact sound.results m status old
    · cases List.mem_singleton.mp new
      exact here.held
  · intro cutoff stale
    exact absurd stale (here.syncs cutoff)
  · intro m status found
    simp only [Session.finish] at found
    split at found <;> cases found

theorem at_polled {rest : List Nat} {change : Fields → Fields} (sound : session.Sound)
    (queue : session.queue = n :: rest) (status : ∀ fields, (change fields).status = result)
    (seen : (∀ fields, (change fields).lastSeenAt = fields.lastSeenAt) ∨ result ≠ .offline) :
    ({ session with queue := rest }.assign n change).Sound ∧
      ({ session with queue := rest }.assign n change).At n result := by
  have nodup := sound.queue
  rw [queue] at nodup
  have queued : n ∈ session.queue := by
    rw [queue]
    exact List.mem_cons_self
  obtain ⟨⟨held, found, unseen⟩, unlisted⟩ := sound.queued n queued
  have polled : n ∉ rest := (List.nodup_cons.mp nodup).1
  have syncs : ∀ cutoff, session.job ≠ .stale cutoff := by
    intro cutoff stale
    have empty := (sound.marks cutoff stale).1
    rw [queue] at empty
    cases empty
  have shorter : Session.Sound { session with queue := rest } := by
    refine ⟨sound.held, (List.nodup_cons.mp nodup).2, ?_, sound.results, ?_⟩
    · intro m member
      apply sound.queued m
      rw [queue]
      exact List.mem_cons_of_mem n member
    · intro cutoff stale
      exact absurd stale (syncs cutoff)
  constructor
  · apply sound_onNode shorter syncs polled unlisted
    intro other there sound
    have same : other = held := Option.some.inj (there.symm.trans found)
    apply sound_assign sound
    rcases seen with kept | online
    · exact .inl ⟨same ▸ unseen, kept other.now⟩
    · exact .inr (by rw [status]; exact online)
  · refine ⟨polled, unlisted, ⟨{ held with now := change held.now }, ?_, status held.now⟩, syncs⟩
    exact (onNode_held found).trans (by rw [if_pos rfl])

theorem good_polled {now : Int} {rest : List Nat} {answer : Answer} (sound : session.Sound)
    (queue : session.queue = n :: rest) : (session.polled now n rest answer).Good := by
  cases answer with
  | noClient text =>
      obtain ⟨assigned, here⟩ := @at_polled session n .unknown rest
        (fun fields => { fields with status := .unknown, statusDetail := some text }) sound queue
        (fun _ => rfl) (.inl fun _ => rfl)
      exact good_finish assigned here
  | unreachable text =>
      obtain ⟨assigned, here⟩ := @at_polled session n .offline rest
        (fun fields => { fields with status := .offline, statusDetail := some (shortened text) })
        sound queue (fun _ => rfl) (.inl fun _ => rfl)
      exact good_finish assigned here
  | failed text =>
      obtain ⟨assigned, here⟩ := @at_polled session n .degraded rest
        (fun fields => { fields with status := .degraded, statusDetail := some (shortened text) })
        sound queue (fun _ => rfl) (.inl fun _ => rfl)
      exact good_finish assigned here
  | healthy degraded detail =>
      have online : (if degraded then NodeStatus.degraded else .online) ≠ .offline := by
        cases degraded <;> exact fun same => nomatch same
      obtain ⟨assigned, here⟩ := @at_polled session n (if degraded then .degraded else .online) rest
        (fun _ => ⟨if degraded then .degraded else .online, detail, some now⟩) sound queue
        (fun _ => rfl) (.inr online)
      apply good_stage assigned
      intro m status found
      cases found
      exact here

theorem good_section {failed : Bool} {next : NodeStatus → Session → Session}
    (sound : session.Sound) (here : session.At n result)
    (goes : ∀ result session, Session.Sound session → session.At n result →
      (next result session).Good) : (session.sectionEnded n result failed next).Good := by
  unfold Session.sectionEnded
  split
  · obtain ⟨polled, unlisted, ⟨held, found, _⟩, syncs⟩ := here
    apply goes
    · apply sound_onNode sound syncs polled unlisted
      intro other there sound
      exact sound_assign sound (.inr fun same => nomatch same)
    · refine ⟨polled, unlisted,
        ⟨{ held with now := { held.now with status := .degraded } }, ?_, rfl⟩, syncs⟩
      exact (onNode_held found).trans (by rw [if_pos rfl])
  · exact goes result session sound here

theorem good_update (good : session.Good) : (session.onNode n Held.update).Good := by
  obtain ⟨sound, here⟩ := good
  constructor
  · constructor
    · intro m held found
      rcases held_onNode found with ⟨old, rfl, was, rfl⟩ | ⟨_, was⟩
      · obtain ⟨sound, listed⟩ := sound.held m old was
        exact ⟨sound_update sound, listed⟩
      · exact sound.held m held was
    · exact sound.queue
    · intro m queued
      obtain ⟨⟨held, found, unseen⟩, unlisted⟩ := sound.queued m queued
      refine ⟨⟨_, onNode_held found, ?_⟩, unlisted⟩
      split
      · exact unseen_update unseen
      · exact unseen
    · intro m status listed
      obtain ⟨held, found, same⟩ := sound.results m status listed
      refine ⟨_, onNode_held found, ?_⟩
      split
      · exact same
      · exact same
    · intro cutoff stale
      obtain ⟨queue, marks⟩ := sound.marks cutoff stale
      refine ⟨queue, ?_⟩
      intro m held found
      rcases held_onNode found with ⟨old, rfl, was, rfl⟩ | ⟨_, was⟩
      · exact marks_update (marks m old was)
      · exact marks m held was
  · intro m status found
    obtain ⟨polled, unlisted, ⟨held, there, same⟩, syncs⟩ := here m status found
    refine ⟨polled, unlisted, ⟨_, onNode_held there, ?_⟩, syncs⟩
    split
    · exact same
    · exact same

end Sessions

section Opened

variable {system : System}

theorem load_some {n : Nat} {held : Held} (loaded : system.load n = some held) :
    ∃ row, system.rows[n]? = some row ∧ held = .of row.fields := by
  obtain ⟨row, found, rfl⟩ := Option.map_eq_some_iff.mp loaded
  exact ⟨row, found, rfl⟩

theorem mem_pollable {n : Nat} (member : n ∈ system.pollable) :
    ∃ row, system.rows[n]? = some row := by
  have inside := List.mem_range.mp (List.mem_filter.mp member).1
  exact ⟨_, List.getElem?_eq_getElem inside⟩

theorem good_opened (system : System) {job : Job} {order : List Nat} {load : Nat → Option Held}
    (syncs : ∀ cutoff, job ≠ .stale cutoff) (nodup : order.Nodup)
    (loaded : ∀ n held, load n = some held → n ∈ order ∧ system.load n = some held)
    (found : ∀ n ∈ order, ∃ held, load n = some held) :
    Session.Good ⟨job, order, load, order, .polling, []⟩ := by
  refine ⟨⟨?_, nodup, ?_, ?_, ?_⟩, ?_⟩
  · intro n held there
    obtain ⟨member, same⟩ := loaded n held there
    obtain ⟨row, _, rfl⟩ := load_some same
    exact ⟨sound_of row.fields, member⟩
  · intro n member
    obtain ⟨held, there⟩ := found n member
    obtain ⟨row, _, rfl⟩ := load_some (loaded n held there).2
    exact ⟨⟨_, there, unseen_of row.fields⟩, fun status listed => nomatch listed⟩
  · intro n status listed
    cases listed
  · intro cutoff stale
    exact absurd stale (syncs cutoff)
  · intro n status there
    cases there

end Opened

structure Sound (system : System) : Prop where
  sessions : ∀ t session, system.session t = some session → session.Good
  places : ∀ t session n held, system.session t = some session → session.held n = some held →
    n < system.rows.length
  marked : ∀ (n : Nat) (row : Row) cutoff, system.rows[n]? = some row →
    row.markedBy = some cutoff → row.fields.status = .offline ∧
    ∀ seen, row.fields.lastSeenAt = some seen → seen ≤ cutoff
  marking : ∀ t session cutoff, system.session t = some session → session.job = .stale cutoff →
    ∀ n status, (n, status) ∈ session.results → ∀ row, system.rows[n]? = some row →
    ∀ seen, row.fields.lastSeenAt = some seen → seen ≤ cutoff
  swept : ∀ pair ∈ system.swept, pair.2 = some pair.1

/-- A session goes on: it loads no other nodes, and only a sync has new results. -/
structure Session.Continues (session after : Session) : Prop where
  job : after.job = session.job
  held : ∀ n held, after.held n = some held → ∃ old, session.held n = some old
  results : (∀ cutoff, session.job ≠ .stale cutoff) ∨ after.results = session.results

section Continues

variable {session : Session} {n : Nat}

theorem Session.Continues.trans {first second third : Session} (earlier : first.Continues second)
    (later : second.Continues third) : first.Continues third := by
  refine ⟨later.job.trans earlier.job, ?_, ?_⟩
  · intro n held found
    obtain ⟨old, was⟩ := later.held n held found
    exact earlier.held n old was
  · rcases earlier.results with syncs | same
    · exact .inl syncs
    · rcases later.results with syncs | same'
      · rw [earlier.job] at syncs
        exact .inl syncs
      · exact .inr (same'.trans same)

theorem continues_onNode (change : Held → Held) : session.Continues (session.onNode n change) := by
  refine ⟨rfl, ?_, .inr rfl⟩
  intro m held found
  rcases held_onNode found with ⟨old, rfl, was, _⟩ | ⟨_, was⟩
  · exact ⟨old, was⟩
  · exact ⟨held, was⟩

theorem continues_stage (queue : List Nat) (stage : Stage) :
    session.Continues { session with queue := queue, stage := stage } :=
  ⟨rfl, fun _ held found => ⟨held, found⟩, .inr rfl⟩

theorem continues_finish {result : NodeStatus} (syncs : ∀ cutoff, session.job ≠ .stale cutoff) :
    session.Continues (session.finish n result) :=
  ⟨rfl, fun _ held found => ⟨held, found⟩, .inl syncs⟩

theorem continues_polled {now : Int} {rest : List Nat} {answer : Answer}
    (syncs : ∀ cutoff, session.job ≠ .stale cutoff) :
    session.Continues (session.polled now n rest answer) := by
  have assigned (change : Fields → Fields) :
      session.Continues ({ session with queue := rest }.assign n change) :=
    (continues_stage rest session.stage).trans (continues_onNode _)
  cases answer with
  | noClient text => exact (assigned _).trans (continues_finish syncs)
  | unreachable text => exact (assigned _).trans (continues_finish syncs)
  | failed text => exact (assigned _).trans (continues_finish syncs)
  | healthy degraded detail => exact (assigned _).trans (continues_stage rest _)

theorem continues_section {result : NodeStatus} {failed : Bool}
    {next : NodeStatus → Session → Session}
    (goes : ∀ result (after : Session), after.job = session.job → after.Continues (next result after)) :
    session.Continues (session.sectionEnded n result failed next) := by
  unfold Session.sectionEnded
  split
  · exact (continues_onNode _).trans (goes _ _ rfl)
  · exact goes result session rfl

end Continues

section Steps

variable {settings : Settings} {system after : System}

theorem session_put {t u : Nat} {session : Option Session} {found : Session}
    (there : (system.put t session).session u = some found) :
    u = t ∧ session = some found ∨ u ≠ t ∧ system.session u = some found := by
  rcases Positions.set_some (Option.join_eq_some_iff.mp there) with ⟨same, own⟩ | ⟨other, was⟩
  · exact .inl ⟨same.symm, own.symm⟩
  · exact .inr ⟨Ne.symm other, Option.join_eq_some_iff.mpr was⟩

theorem session_open {u : Nat} {session found : Session}
    (there : (system.open' session).session u = some found) :
    found = session ∨ system.session u = some found := by
  rcases Positions.concat_some (Option.join_eq_some_iff.mp there) with was | ⟨_, own⟩
  · exact .inr (Option.join_eq_some_iff.mpr was)
  · exact .inl (Option.some.inj own)

theorem sound_open {session : Session} (sound : Sound system) (good : session.Good)
    (places : ∀ n held, session.held n = some held → n < system.rows.length)
    (none : session.results = []) : Sound (system.open' session) := by
  refine ⟨?_, ?_, sound.marked, ?_, sound.swept⟩
  · intro t found there
    rcases session_open there with rfl | was
    · exact good
    · exact sound.sessions t found was
  · intro t found n held there holds
    rcases session_open there with rfl | was
    · exact places n held holds
    · exact sound.places t found n held was holds
  · intro t found cutoff there job n status listed
    rcases session_open there with rfl | was
    · rw [none] at listed
      cases listed
    · exact sound.marking t found cutoff was job n status listed

theorem sound_put {t : Nat} {session next : Session} (sound : Sound system)
    (found : system.session t = some session) (good : next.Good)
    (continues : session.Continues next) : Sound (system.put t (some next)) := by
  refine ⟨?_, ?_, sound.marked, ?_, sound.swept⟩
  · intro u other there
    rcases session_put there with ⟨_, same⟩ | ⟨_, was⟩
    · cases same
      exact good
    · exact sound.sessions u other was
  · intro u other n held there holds
    rcases session_put there with ⟨_, same⟩ | ⟨_, was⟩
    · cases same
      obtain ⟨old, was⟩ := continues.held n held holds
      exact sound.places t session n old found was
    · exact sound.places u other n held was holds
  · intro u other cutoff there job n status listed
    rcases session_put there with ⟨_, same⟩ | ⟨_, was⟩
    · cases same
      rw [continues.job] at job
      rcases continues.results with syncs | results
      · exact absurd job (syncs cutoff)
      · rw [results] at listed
        exact sound.marking t session cutoff found job n status listed
    · exact sound.marking u other cutoff was job n status listed

theorem sound_advance {t : Nat} {stage : Session → Option Session} (sound : Sound system)
    (stepped : system.advance t stage = some after)
    (kept : ∀ session next, session.Good → stage session = some next →
      next.Good ∧ session.Continues next) : Sound after := by
  obtain ⟨session, found, stepped⟩ := Option.bind_eq_some_iff.mp stepped
  obtain ⟨next, staged, rfl⟩ := Option.map_eq_some_iff.mp stepped
  obtain ⟨good, continues⟩ := kept session next (sound.sessions t session found) staged
  exact sound_put sound found good continues

theorem sound_swept {order : List Nat}
    (stepped : system.step settings (.sweep order) = some after) (sound : Sound system) :
    Sound after := by
  simp only [System.step] at stepped
  split at stepped
  · rename_i meets
    cases stepped
    simp only [Bool.and_eq_true] at meets
    have perm := List.isPerm_iff.mp meets.1.2
    have inside : ∀ n ∈ order, ∃ row, system.rows[n]? = some row :=
      fun n member => mem_pollable (perm.subset member)
    apply sound_open sound _ _ rfl
    · apply good_opened system
      · exact fun cutoff same => nomatch same
      · exact perm.nodup_iff.mpr (List.nodup_range.filter _)
      · intro n held found
        split at found
        · rename_i member
          exact ⟨member, found⟩
        · cases found
      · intro n member
        obtain ⟨row, found⟩ := inside n member
        refine ⟨.of row.fields, ?_⟩
        rw [if_pos member, System.load, found]
        rfl
    · intro n held found
      dsimp only at found
      split at found
      · obtain ⟨row, there, _⟩ := load_some found
        exact (List.getElem?_eq_some_iff.mp there).1
      · cases found
  · cases stepped

theorem sound_stale (stepped : system.step settings .stale = some after) (sound : Sound system) :
    Sound after := by
  simp only [System.step] at stepped
  split at stepped
  · cases stepped
  · cases stepped
    apply sound_open sound _ _ rfl
    · refine ⟨⟨?_, List.nodup_nil, ?_, ?_, ?_⟩, ?_⟩
      · intro n held found
        cases found
      · intro n member
        cases member
      · intro n status member
        cases member
      · intro cutoff _
        exact ⟨rfl, fun n held found => nomatch found⟩
      · intro n status found
        cases found
    · intro n held found
      cases found

theorem sound_check {n : Nat} (stepped : system.step settings (.check n) = some after)
    (sound : Sound system) : Sound after := by
  simp only [System.step] at stepped
  split at stepped
  · cases stepped
  · rename_i held loaded
    cases stepped
    apply sound_open sound _ _ rfl
    · apply good_opened system
      · exact fun cutoff same => nomatch same
      · exact List.nodup_singleton n
      · intro m other found
        split at found
        · rename_i same
          cases found
          rw [same]
          exact ⟨List.mem_cons_self, loaded⟩
        · cases found
      · intro m member
        rw [List.mem_singleton.mp member]
        exact ⟨held, if_pos rfl⟩
    · intro m other found
      dsimp only at found
      split at found
      · rename_i same
        obtain ⟨row, there, _⟩ := load_some loaded
        rw [same]
        exact (List.getElem?_eq_some_iff.mp there).1
      · cases found

theorem sound_polled {t : Nat} {answer : Answer}
    (stepped : system.step settings (.polled t answer) = some after) (sound : Sound system) :
    Sound after := by
  apply sound_advance sound stepped
  intro session next good staged
  split at staged
  · rename_i queue
    cases staged
    refine ⟨good_polled good.1 queue, continues_polled ?_⟩
    intro cutoff stale
    have empty := (good.1.marks cutoff stale).1
    rw [queue] at empty
    cases empty
  · cases staged

theorem section_stage {session : Session} {n : Nat} {result : NodeStatus} {failed : Bool}
    {next : NodeStatus → Stage} (good : session.Good)
    (stage : session.stage.node = some (n, result))
    (same : ∀ status, (next status).node = some (n, status)) :
    let after := session.sectionEnded n result failed fun status session =>
      { session with stage := next status }
    after.Good ∧ session.Continues after := by
  refine ⟨good_section good.1 (good.2 n result stage) ?_, continues_section ?_⟩
  · intro status session sound here
    apply good_stage sound
    intro m other found
    cases (same status).symm.trans found
    exact here
  · intro status after _
    exact continues_stage after.queue _

theorem sound_system {t : Nat} {failed : Bool}
    (stepped : system.step settings (.system t failed) = some after) (sound : Sound system) :
    Sound after := by
  apply sound_advance sound stepped
  intro session next good staged
  split at staged
  · rename_i n result stage
    cases staged
    exact section_stage good (by rw [stage]; rfl) fun _ => rfl
  · cases staged

theorem sound_gpus {t : Nat} {cards failed : Bool}
    (stepped : system.step settings (.gpus t cards failed) = some after) (sound : Sound system) :
    Sound after := by
  apply sound_advance sound stepped
  intro session next good staged
  split at staged
  · rename_i n result stage
    cases staged
    refine section_stage good (by rw [stage]; rfl) ?_
    intro status
    split
    · rfl
    · rfl
  · cases staged

theorem sound_containers {t : Nat} {failed : Bool}
    (stepped : system.step settings (.containers t failed) = some after) (sound : Sound system) :
    Sound after := by
  apply sound_advance sound stepped
  intro session next good staged
  split at staged
  · rename_i n result stage
    cases staged
    have here := good.2 n result (by rw [stage]; rfl)
    refine ⟨good_section good.1 here ?_, continues_section ?_⟩
    · intro result session sound here
      exact good_finish sound here
    · intro result after job
      apply continues_finish
      rw [job]
      exact here.syncs
  · cases staged

theorem sound_updated {t n : Nat} (stepped : system.step settings (.update t n) = some after)
    (sound : Sound system) : Sound after := by
  apply sound_advance sound stepped
  intro session next good staged
  repeat' split at staged
  all_goals cases staged
  · exact ⟨good_update good, continues_onNode _⟩
  · exact ⟨good_update good, continues_onNode _⟩

theorem sound_flushed {t : Nat} (stepped : system.step settings (.flushed t) = some after)
    (sound : Sound system) : Sound after := by
  apply sound_advance sound stepped
  intro session next good staged
  split at staged
  · rename_i n result stage
    split at staged
    · cases staged
    · cases staged
      have here := good.2 n result (by rw [stage]; rfl)
      refine ⟨good_stage good.1 ?_, continues_stage session.queue _⟩
      intro m status found
      cases found
      exact here
  · cases staged

theorem listed_sound (settings : Settings) (cutoff : Int) (fields : Fields) :
    ((Held.of fields).listed settings cutoff).Sound := by
  unfold Held.listed
  split
  · exact sound_assign (sound_of fields) (.inl ⟨unseen_of fields, rfl⟩)
  · exact sound_of fields

theorem listed_marks {settings : Settings} {cutoff : Int} {fields : Fields} {marked : Prop}
    (mark : fields.stale cutoff → marked) :
    ((Held.of fields).listed settings cutoff).Marks marked := by
  unfold Held.listed
  split
  · rename_i stale
    exact ⟨unseen_of fields, (fun _ written => nomatch written), fun _ => ⟨rfl, mark stale⟩⟩
  · exact ⟨unseen_of fields, (fun _ written => nomatch written), fun changed => absurd rfl changed⟩

theorem stale_seen {cutoff seen : Int} {fields : Fields} (stale : fields.stale cutoff)
    (last : fields.lastSeenAt = some seen) : seen ≤ cutoff := by
  simp only [Fields.stale, last, Option.all_some, Bool.and_eq_true, decide_eq_true_eq] at stale
  omega

theorem listing_held {session : Session} {cutoff : Int} {n : Nat} {held : Held}
    (found : (system.listing settings cutoff session).held n = some held) :
    n ∈ List.range (min 1000 system.rows.length) ∧ ∃ row, system.rows[n]? = some row ∧
      held = (Held.of row.fields).listed settings cutoff := by
  simp only [System.listing] at found
  split at found
  · rename_i member
    obtain ⟨old, loaded, rfl⟩ := Option.map_eq_some_iff.mp found
    obtain ⟨row, known, rfl⟩ := load_some loaded
    exact ⟨member, row, known, rfl⟩
  · cases found

theorem mem_listing {session : Session} {cutoff : Int} {n : Nat} {status : NodeStatus} :
    (n, status) ∈ (system.listing settings cutoff session).results ↔
      n ∈ List.range (min 1000 system.rows.length) ∧ status = .offline ∧
      ∃ row, system.rows[n]? = some row ∧ row.fields.stale cutoff := by
  simp only [System.listing, List.mem_map, List.mem_filter, Option.any_eq_true]
  constructor
  · rintro ⟨m, ⟨member, stale⟩, same⟩
    cases same
    exact ⟨member, rfl, stale⟩
  · rintro ⟨member, rfl, stale⟩
    exact ⟨n, ⟨member, stale⟩, rfl⟩

theorem good_listing {session : Session} {cutoff : Int} (good : session.Good)
    (job : session.job = .stale cutoff) : (system.listing settings cutoff session).Good := by
  have empty := (good.1.marks cutoff job).1
  refine ⟨⟨?_, good.1.queue, ?_, ?_, ?_⟩, fun n status found => nomatch found⟩
  · intro n held found
    obtain ⟨member, row, _, rfl⟩ := listing_held found
    exact ⟨listed_sound settings cutoff row.fields, member⟩
  · intro n member
    simp only [System.listing, empty] at member
    cases member
  · intro n status listed
    obtain ⟨member, rfl, row, known, stale⟩ := mem_listing.mp listed
    refine ⟨(Held.of row.fields).listed settings cutoff, ?_, ?_⟩
    · simp only [System.listing, if_pos member, System.load, known, Option.map_some]
    · have marked : (Held.of row.fields).now.stale cutoff = true := stale
      rw [Held.listed, if_pos marked]
      rfl
  · intro cutoff' job'
    have same : cutoff' = cutoff := by
      rw [System.listing, job] at job'
      exact (Job.stale.inj job').symm
    subst same
    refine ⟨empty, ?_⟩
    intro n held found
    obtain ⟨member, row, known, rfl⟩ := listing_held found
    apply listed_marks
    intro stale
    exact ⟨.offline, mem_listing.mpr ⟨member, rfl, row, known, stale⟩⟩

theorem sound_listed {t : Nat} (stepped : system.step settings (.listed t) = some after)
    (sound : Sound system) : Sound after := by
  obtain ⟨session, found, stepped⟩ := Option.bind_eq_some_iff.mp stepped
  obtain ⟨next, staged, rfl⟩ := Option.map_eq_some_iff.mp stepped
  dsimp only at staged
  split at staged
  · rename_i cutoff job stage
    cases staged
    refine ⟨?_, ?_, sound.marked, ?_, sound.swept⟩
    · intro u other there
      rcases session_put there with ⟨_, same⟩ | ⟨_, was⟩
      · cases same
        exact good_listing (sound.sessions t session found) job
      · exact sound.sessions u other was
    · intro u other n held there holds
      rcases session_put there with ⟨_, same⟩ | ⟨_, was⟩
      · cases same
        obtain ⟨_, row, known, _⟩ := listing_held holds
        exact (List.getElem?_eq_some_iff.mp known).1
      · exact sound.places u other n held was holds
    · intro u other cutoff' there job' n status listed row known seen last
      rcases session_put there with ⟨_, same⟩ | ⟨_, was⟩
      · cases same
        obtain ⟨_, _, other, known', stale⟩ := mem_listing.mp listed
        have same : row = other := Option.some.inj (Eq.trans known.symm known')
        rw [System.listing, job] at job'
        cases job'
        exact stale_seen (same ▸ stale) last
      · exact sound.marking u other cutoff' was job' n status listed row known seen last
  · cases staged

theorem clean_of {session : Session} {n : Nat} {held : Held} (good : session.Good)
    (clean : session.dirty = false) (found : session.held n = some held) :
    held.now = held.loaded := by
  have listed := (good.1.held n held found).2
  simp only [Session.dirty, List.any_eq_false] at clean
  simpa [found, Held.dirty] using clean n listed

theorem commit_row {t n : Nat} {session : Session} {row : Row}
    (found : (system.commit t session).rows[n]? = some row) : ∃ old, system.rows[n]? = some old ∧
      (session.held n = none ∧ row = old ∨
        ∃ held, session.held n = some held ∧ row = old.committed session.job held.patch) := by
  simp only [System.commit, List.getElem?_mapIdx, Option.map_eq_some_iff] at found
  obtain ⟨old, was, rfl⟩ := found
  refine ⟨old, was, ?_⟩
  cases holds : session.held n with
  | none => exact .inl ⟨rfl, rfl⟩
  | some held => exact .inr ⟨held, rfl, rfl⟩

theorem committed_seen {row : Row} {job : Job} {patch : Patch} {seen : Int}
    (last : (row.committed job patch).fields.lastSeenAt = some seen) :
    patch.lastSeenAt = none ∧ row.fields.lastSeenAt = some seen ∨
      patch.lastSeenAt = some (some seen) := by
  cases written : patch.lastSeenAt with
  | none =>
      simp only [Row.committed, Patch.apply, written, Option.getD_none] at last
      exact .inl ⟨rfl, last⟩
  | some value =>
      simp only [Row.committed, Patch.apply, written, Option.getD_some] at last
      exact .inr (congrArg some last)

theorem marked_commit {t n : Nat} {session : Session} {row : Row} {held : Held} {cutoff : Int}
    (sound : Sound system) (met : OnTime system (.commit t))
    (found : system.session t = some session) (clean : session.dirty = false)
    (known : system.rows[n]? = some row) (holds : session.held n = some held)
    (marked : (row.committed session.job held.patch).markedBy = some cutoff) :
    (row.committed session.job held.patch).fields.status = .offline ∧
      ∀ seen, (row.committed session.job held.patch).fields.lastSeenAt = some seen →
        seen ≤ cutoff := by
  have good := sound.sessions t session found
  have same := clean_of good clean holds
  obtain ⟨swept, checked, _⟩ := met session found n held row holds known
  have heldSound := (good.1.held n held holds).1
  cases status : held.patch.status with
  | none =>
      simp only [Row.committed, status] at marked
      obtain ⟨offline, before⟩ := sound.marked n row cutoff known marked
      have kept : (row.committed session.job held.patch).fields.status = .offline := by
        simp only [Row.committed, Patch.apply, status, Option.getD_none]
        exact offline
      refine ⟨kept, ?_⟩
      intro seen last
      rcases committed_seen last with ⟨_, was⟩ | written
      · exact before seen was
      · cases job : session.job with
        | sweep =>
            -- A node that was seen is not offline, but the row still is what the sweep read.
            have online : held.now.status ≠ .offline := by
              apply heldSound.seen
              left
              rw [written]
              exact fun same => nomatch same
            rw [same, ← swept job status] at online
            exact absurd offline online
        | check => exact checked job status cutoff seen marked written
        | stale own =>
            have unseen := ((good.1.marks own job).2 n held holds).unseen.1
            rw [unseen] at written
            cases written
  | some value =>
      cases job : session.job with
      | sweep =>
          rw [job] at marked
          simp only [Row.committed, status] at marked
          cases marked
      | check =>
          rw [job] at marked
          simp only [Row.committed, status] at marked
          cases marked
      | stale own =>
          rw [job] at marked
          simp only [Row.committed, status] at marked
          cases marked
          have marks := (good.1.marks cutoff job).2 n held holds
          obtain ⟨offline, other, listed⟩ := marks.written value status
          constructor
          · simp only [Row.committed, Patch.apply, status, Option.getD_some]
            exact offline
          · intro seen last
            rcases committed_seen last with ⟨_, was⟩ | written
            · exact sound.marking t session cutoff found job n other listed row known seen was
            · rw [marks.unseen.1] at written
              cases written

theorem swept_commit {t n : Nat} {session : Session} {status : NodeStatus} (sound : Sound system)
    (met : OnTime system (.commit t)) (found : system.session t = some session)
    (clean : session.dirty = false) (job : session.job = .sweep)
    (listed : (n, status) ∈ session.results) :
    ((system.commit t session).rows[n]?).map (fun row => row.fields.status) = some status := by
  have good := sound.sessions t session found
  obtain ⟨held, holds, determined⟩ := good.1.results n status listed
  have same := clean_of good clean holds
  have inside := sound.places t session n held found holds
  have known := List.getElem?_eq_getElem inside
  simp only [System.commit, List.getElem?_mapIdx, known, Option.map_some, holds, Row.committed,
    Patch.apply, Option.some.injEq]
  rw [same] at determined
  cases written : held.patch.status with
  | none =>
      rw [Option.getD_none, ← determined]
      exact (met session found n held _ holds known).1 job written
  | some value =>
      rw [Option.getD_some, ← determined]
      exact ((good.1.held n held holds).1.status value written).symm

theorem sound_commit {t : Nat} (met : OnTime system (.commit t))
    (stepped : system.step settings (.commit t) = some after) (sound : Sound system) :
    Sound after := by
  simp only [System.step] at stepped
  split at stepped
  · rename_i session found
    split at stepped
    · rename_i ends
      cases stepped
      simp only [Bool.and_eq_true, Bool.not_eq_true'] at ends
      have others : ∀ u other, (system.commit t session).session u = some other →
          u ≠ t ∧ system.session u = some other := by
        intro u other there
        rcases session_put there with ⟨_, same⟩ | was
        · cases same
        · exact was
      refine ⟨?_, ?_, ?_, ?_, ?_⟩
      · intro u other there
        exact sound.sessions u other (others u other there).2
      · intro u other n held there holds
        simp only [System.commit, List.length_mapIdx]
        exact sound.places u other n held (others u other there).2 holds
      · intro n row cutoff there marked
        obtain ⟨old, known, ⟨_, rfl⟩ | ⟨held, holds, rfl⟩⟩ := commit_row there
        · exact sound.marked n row cutoff known marked
        · exact marked_commit sound met found ends.2 known holds marked
      · intro u other cutoff there job n status listed row now seen last
        obtain ⟨differs, was⟩ := others u other there
        obtain ⟨old, known, ⟨_, rfl⟩ | ⟨held, holds, rfl⟩⟩ := commit_row now
        · exact sound.marking u other cutoff was job n status listed row known seen last
        · rcases committed_seen last with ⟨_, before⟩ | written
          · exact sound.marking u other cutoff was job n status listed old known seen before
          · exact (met session found n held old holds known).2.2 u other cutoff status seen differs
              was job listed written
      · intro pair member
        simp only [System.commit] at member
        split at member
        · rename_i job
          rcases List.mem_append.mp member with earlier | own
          · exact sound.swept pair earlier
          · obtain ⟨⟨n, status⟩, listed, rfl⟩ := List.mem_map.mp own
            exact swept_commit sound met found ends.2 job listed
        · exact sound.swept pair member
    · cases stepped
  · cases stepped

theorem sound_rollback {t : Nat} (stepped : system.step settings (.rollback t) = some after)
    (sound : Sound system) : Sound after := by
  obtain ⟨session, found, rfl⟩ := Option.map_eq_some_iff.mp stepped
  have others : ∀ u other, (system.put t none).session u = some other →
      system.session u = some other := by
    intro u other there
    rcases session_put there with ⟨_, same⟩ | ⟨_, was⟩
    · cases same
    · exact was
  refine ⟨?_, ?_, sound.marked, ?_, sound.swept⟩
  · intro u other there
    exact sound.sessions u other (others u other there)
  · intro u other n held there
    exact sound.places u other n held (others u other there)
  · intro u other cutoff there
    exact sound.marking u other cutoff (others u other there)

theorem sound_step (label : Label) (met : OnTime system label)
    (stepped : system.step settings label = some after) (sound : Sound system) : Sound after := by
  cases label with
  | tick seconds =>
      cases stepped
      exact ⟨sound.sessions, sound.places, sound.marked, sound.marking, sound.swept⟩
  | sweep order => exact sound_swept stepped sound
  | stale => exact sound_stale stepped sound
  | listed t => exact sound_listed stepped sound
  | check n => exact sound_check stepped sound
  | polled t answer => exact sound_polled stepped sound
  | system t failed => exact sound_system stepped sound
  | gpus t cards failed => exact sound_gpus stepped sound
  | containers t failed => exact sound_containers stepped sound
  | update t n => exact sound_updated stepped sound
  | flushed t => exact sound_flushed stepped sound
  | commit t => exact sound_commit met stepped sound
  | rollback t => exact sound_rollback stepped sound

end Steps

theorem sound_start (rows : List (Bool × Fields)) (clock : Int) : Sound (start rows clock) := by
  have none : ∀ t session, (start rows clock).session t = some session → False := by
    intro t session found
    cases found
  refine ⟨?_, ?_, ?_, ?_, ?_⟩
  · intro t session found
    exact absurd found (none t session)
  · intro t session n held found
    exact absurd found (none t session)
  · intro n row cutoff found marked
    simp only [start, List.getElem?_map, Option.map_eq_some_iff] at found
    obtain ⟨first, _, rfl⟩ := found
    cases marked
  · intro t session cutoff found
    exact absurd found (none t session)
  · intro pair member
    cases member

/-- The status of each node that a sweep reached was what it determined when it had
committed. -/
def SweepsCommitted (system : System) : Prop := ∀ pair ∈ system.swept, pair.2 = some pair.1

/-- No node has the `OFFLINE` of the stale-node job and was seen after its cutoff. -/
def MarksHold (system : System) : Prop :=
  ∀ row ∈ system.rows, ∀ cutoff, row.markedBy = some cutoff → row.fields.status = .offline ∧
    ∀ seen, row.fields.lastSeenAt = some seen → ¬cutoff < seen

theorem statuses_are_committed {settings : Settings} {rows : List (Bool × Fields)} {clock : Int}
    {system : System}
    (run : History (System.step settings) OnTime (start rows clock) system) :
    SweepsCommitted system ∧ MarksHold system := by
  have sound : Sound system := run.keeps Sound (sound_start rows clock)
    fun _ label _ met stepped sound => sound_step label met stepped sound
  refine ⟨sound.swept, ?_⟩
  intro row member cutoff marked
  obtain ⟨n, found⟩ := List.mem_iff_getElem?.mp member
  obtain ⟨offline, seen⟩ := sound.marked n row cutoff found marked
  exact ⟨offline, fun time last => Int.not_lt.mpr (seen time last)⟩

def pollEveryQuarter : Settings := ⟨45, fun _ => "2026-01-01T00:00:00+00:00"⟩

def Job.isStale : Job → Bool
  | .stale _ => true
  | _ => false

/-- `OnTime`, computed for runs without forced checks. -/
def onTime (system : System) : Label → Bool
  | .commit t => (system.session t).all fun session =>
      session.job ≠ .check && (List.range system.rows.length).all fun n =>
        (session.held n).all fun held => (system.rows[n]?).all fun row =>
          (session.job ≠ .sweep || held.patch.status.isSome ||
            row.fields.status = held.loaded.status) &&
          (held.patch.lastSeenAt.isNone || !system.opened Job.isStale)
  | _ => true

theorem onTime_sound (system : System) (label : Label) (meets : onTime system label = true) :
    OnTime system label := by
  cases label with
  | commit t =>
      intro session found n held row holds known
      simp only [onTime, found, Option.all_some, Bool.and_eq_true, decide_eq_true_eq] at meets
      obtain ⟨unchecked, checked⟩ := meets
      have inside := List.mem_range.mpr (List.getElem?_eq_some_iff.mp known).1
      have own := List.all_eq_true.mp checked n inside
      simp only [holds, known, Option.all_some, Bool.and_eq_true, Bool.or_eq_true,
        decide_eq_true_eq] at own
      obtain ⟨swept, unseen⟩ := own
      refine ⟨?_, fun job => absurd job unchecked, ?_⟩
      · intro job unwritten
        rcases swept with (other | written) | same
        · exact absurd job other
        · rw [unwritten] at written
          cases written
        · exact same
      · intro u other cutoff status seen differs there job listed written
        rcases unseen with none | closed
        · rw [written] at none
          cases none
        · have opened : system.opened Job.isStale = true := by
            rw [System.opened, List.any_eq_true]
            refine ⟨some other, List.mem_of_getElem? (Option.join_eq_some_iff.mp there), ?_⟩
            rw [Option.any_some, job]
            rfl
          rw [opened] at closed
          cases closed
  | _ => trivial

def fleet : List (Bool × Fields) := [(false, ⟨.online, none, some 0⟩), (true, ⟨.online, none, some 0⟩)]

def inTurn : List Label :=
  [.sweep [0], .polled 0 (.healthy false none), .system 0 false, .gpus 0 true false, .update 0 0,
    .flushed 0, .containers 0 false, .commit 0, .stale, .listed 1, .update 1 1, .commit 1]

theorem statuses_are_committed_in_turn : ∃ system,
    system.swept = [(.online, some .online)] ∧
    system.rows.map (fun row => (row.fields.status, row.markedBy)) =
      [(.online, none), (.offline, some 55)] ∧
    (SweepsCommitted system ∧ MarksHold system) := by
  have run := @history_replay _ _ (System.step pollEveryQuarter) onTime OnTime onTime_sound
    (start fleet 100) _ inTurn rfl
  exact ⟨_, rfl, rfl, statuses_are_committed run⟩

def amidSweep : List Label :=
  [.sweep [0], .tick 50, .stale, .listed 1, .update 1 0, .update 1 1, .commit 1,
    .polled 0 (.healthy false none), .system 0 false, .gpus 0 false false, .containers 0 false,
    .update 0 0, .commit 0]

/-- The sweep leaves out the status that it has not changed. -/
theorem healthy_node_left_offline : ∃ system,
    History (System.step pollEveryQuarter) (fun _ _ => True) (start fleet 50) system ∧
    ¬SweepsCommitted system ∧ ¬MarksHold system := by
  have run := @history_replay _ _ (System.step pollEveryQuarter) (fun _ _ => true) (fun _ _ => True)
    (fun _ _ _ => trivial) (start fleet 50) _ amidSweep rfl
  refine ⟨_, run, ?_, ?_⟩
  · intro committed
    exact absurd (committed (.online, some .offline) List.mem_cons_self) (by decide)
  · intro hold
    exact absurd ((hold _ List.mem_cons_self 55 rfl).2 100 rfl) (by decide)

end AiPlatform.NodeSweeps
