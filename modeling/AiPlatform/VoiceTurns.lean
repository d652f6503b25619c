import AiPlatform.VoiceStates

/-!
Turns. A socket starts one at every `AUDIO_END` with audio, remembers the last one only,
and cancels that one at an `INTERRUPT`; a turn numbers its messages from the row that its
transaction has read. With one turn at a time, interrupted on its own socket, an
interrupted turn is silent and the messages are numbered in order.
-/

namespace AiPlatform.Voice

/-- A turn is started when none is running, and an interruption comes on the socket of the
turn that is running. -/
def OneTurn (system : System) : Label → Prop
  | .received s frame =>
      (system.starts (.received s frame) → ∀ t, system.running t = false) ∧
      (frame = .control "INTERRUPT" → ∀ (t : Nat) (actor : Actor) owner answer,
        system.actors[t]? = some actor → actor.role = .turn owner answer false →
        actor.point ≠ .done → owner = s)
  | _ => True

/-- Coroutines keep their roles, and those that are done stay so; what a socket knows of its
turns changes when one is started only. -/
structure Evolves (started : Prop) (system after : System) : Prop where
  moved : ∀ (b : Nat) (old : Actor), system.actors[b]? = some old → ∃ new : Actor,
    after.actors[b]? = some new ∧ old.role.Keeps new.role ∧
    (¬started → new.role.latest = old.role.latest) ∧ (old.point = .done → new.point = .done) ∧
    (old.Placed → new.Placed)
  fresh : ∀ (b : Nat) (new : Actor), after.actors[b]? = some new → system.actors[b]? = none →
    new.Placed ∧ (¬started → new.role.isSocket = true)

section Evolution

variable {started : Prop} {system after : System}

theorem Goes.evolves (goes : Goes started system after) : Evolves started system after := by
  constructor
  · intro b old found
    obtain ⟨new, there, moves⟩ := goes.moved b old found
    exact ⟨new, there, moves.role, moves.latest, moves.done, moves.placed⟩
  · intro b new there absent
    exact (goes.fresh b new there absent).2

theorem evolves_put {a : Nat} {actor : Actor} {point : Point} {tx : Option Tx}
    (found : system.actors[a]? = some actor) (going : actor.point ≠ .done)
    (side : point = .done ∨ point.ofSocket = actor.point.ofSocket) :
    Evolves started system (system.put a { actor with point := point, tx := tx }) := by
  constructor
  · intro b old there
    by_cases same : a = b
    · subst same
      rw [found] at there
      cases there
      refine ⟨{ actor with point := point, tx := tx },
        Positions.set_own found, .refl _, fun _ => rfl, fun done => absurd done going, ?_⟩
      intro placed
      rcases side with done | same
      · exact .inl done
      · exact .inr (same.trans (placed.resolve_left going))
    · exact ⟨old, (List.getElem?_set_ne same).trans there, .refl _, fun _ => rfl, id, id⟩
  · intro b new there absent
    rcases Positions.set_some there with ⟨rfl, _⟩ | ⟨_, was⟩
    · rw [found] at absent
      cases absent
    · rw [was] at absent
      cases absent

theorem Evolves.trans {middle : System} (earlier : Evolves started system middle)
    (later : Evolves started middle after) : Evolves started system after := by
  constructor
  · intro b old found
    obtain ⟨next, there, keeps, latest, done, placed⟩ := earlier.moved b old found
    obtain ⟨new, here, keeps', latest', done', placed'⟩ := later.moved b next there
    refine ⟨new, here, keeps.trans keeps', ?_, fun ended => done' (done ended),
      fun sane => placed' (placed sane)⟩
    intro unstarted
    exact (latest' unstarted).trans (latest unstarted)
  · intro b new found absent
    cases there : middle.actors[b]? with
    | none => exact later.fresh b new found there
    | some next =>
        obtain ⟨other, here, keeps, _, _, placed⟩ := later.moved b next there
        rw [found] at here
        cases here
        obtain ⟨sane, side⟩ := earlier.fresh b next there absent
        exact ⟨placed sane, fun unstarted => (keeps_side keeps).trans (side unstarted)⟩

theorem evolves_commit {a : Nat} {tx : Tx} : Evolves started system (system.commit a tx) := by
  constructor
  · intro b old found
    have there : (system.commit a tx).actors[b]? = some
        (if b = a then { old with tx := none }
          else { old with tx := old.tx.map (Tx.after · tx.ends) }) := by
      simp only [System.commit, List.getElem?_mapIdx, found, Option.map_some]
    refine ⟨_, there, ?_⟩
    split
    · exact ⟨.refl _, fun _ => rfl, id, id⟩
    · exact ⟨.refl _, fun _ => rfl, id, id⟩
  · intro b new found absent
    obtain ⟨old, there, _⟩ := commit_actor found
    rw [there] at absent
    cases absent

theorem commit_own {a : Nat} {actor : Actor} {tx : Tx} (found : system.actors[a]? = some actor) :
    (system.commit a tx).actors[a]? = some { actor with tx := none } := by
  simp only [System.commit, List.getElem?_mapIdx, found, Option.map_some, if_pos]

theorem loads_side {point : Point} {next : Job × Point} (loads : point.loads = some next) :
    point ≠ .done ∧ next.2 ≠ .done ∧ next.2.ofSocket = point.ofSocket := by
  cases point <;> cases loads <;>
    exact ⟨(fun same => nomatch same), (fun same => nomatch same), rfl⟩

theorem flushes_side {point : Point} {next : Write × Point × Option String}
    (flushes : point.flushes = some next) :
    point ≠ .done ∧ next.2.1 ≠ .done ∧ next.2.1.ofSocket = point.ofSocket := by
  cases point <;> cases flushes <;>
    exact ⟨(fun same => nomatch same), (fun same => nomatch same), rfl⟩

theorem commits_side {answered : Bool} {point : Point} {next : Point × Option String}
    (commits : point.commits answered = some next) :
    point ≠ .done ∧ (next.1 = .done ∨ next.1.ofSocket = point.ofSocket) ∧
      (next.2 = none ∨ point.ofSocket = true) := by
  cases point <;> cases commits <;> cases answered <;>
    exact ⟨(fun same => nomatch same), by simp [Point.ofSocket], by simp [Point.ofSocket]⟩

theorem evolves_step {label : Label} (stepped : system.step label = some after) :
    Evolves (system.starts label) system after := by
  cases label with
  | load a =>
      obtain ⟨actor, row, next, found, _, _, loads, rfl⟩ := load_step stepped
      obtain ⟨going, _, side⟩ := loads_side loads
      exact evolves_put found going (.inr side)
  | flush a =>
      obtain ⟨actor, tx, write, point, event, found, _, _, flushes, _, rfl⟩ := flush_step stepped
      obtain ⟨going, _, side⟩ := flushes_side flushes
      exact (evolves_put found going (.inr side)).trans goes_say.evolves
  | commit a =>
      obtain ⟨actor, tx, point, event, found, holds, commits, rfl⟩ := commit_step stepped
      obtain ⟨going, side, _⟩ := commits_side commits
      have put : Evolves (system.starts (.commit a)) (system.commit a tx)
          ((system.commit a tx).put a { actor with
            point := if actor.role.cancelled then .done else point, tx := none }) := by
        apply evolves_put (commit_own found) going
        split
        · exact .inl rfl
        · exact side
      exact (evolves_commit.trans put).trans goes_say.evolves
  | delete =>
      simp only [System.step] at stepped
      split at stepped
      · cases stepped
      · cases stepped
        exact ⟨fun b old found => ⟨old, found, .refl _, fun _ => rfl, id, id⟩,
          fun b new found absent => by rw [found] at absent; cases absent⟩
  | _ => exact (goes_step (by trivial) stepped).evolves

end Evolution

theorem running_iff {system : System} {t : Nat} : system.running t = true ↔
    ∃ actor : Actor, system.actors[t]? = some actor ∧ actor.point ≠ .done ∧
      ∃ owner answer cancelled, actor.role = .turn owner answer cancelled := by
  unfold System.running
  cases found : system.actors[t]? with
  | none => simp
  | some actor =>
      cases role : actor.role with
      | socket audio interrupted turn => simp [role]
      | turn owner answer cancelled =>
          simp only [Option.any_some, role, Bool.and_true, decide_eq_true_eq]
          constructor
          · intro going
            exact ⟨actor, rfl, going, owner, answer, cancelled, role⟩
          · rintro ⟨_, same, going, _⟩
            cases same
            exact going

theorem mem_runningTurns {system : System} {t : Nat} :
    t ∈ system.runningTurns ↔ system.running t = true := by
  constructor
  · intro listed
    exact (List.mem_filter.mp listed).2
  · intro runs
    obtain ⟨actor, found, _⟩ := running_iff.mp runs
    have inside := (List.getElem?_eq_some_iff.mp found).1
    exact List.mem_filter.mpr ⟨List.mem_range.mpr inside, runs⟩

structure Solo (system : System) : Prop where
  placed : ∀ (a : Nat) (actor : Actor), system.actors[a]? = some actor → actor.Placed
  one : ∀ t u, system.running t = true → system.running u = true → t = u
  latest : ∀ (t : Nat) (actor : Actor) owner answer cancelled, system.actors[t]? = some actor →
    actor.role = .turn owner answer cancelled → actor.point ≠ .done →
    ∃ socket : Actor, system.actors[owner]? = some socket ∧ socket.role.latest = some t

section Turns

variable {system after : System}

theorem keeps_turn {old new : Role} {owner : Nat} {answer : Option String} {cancelled : Bool}
    (keeps : old.Keeps new) (role : new = .turn owner answer cancelled) :
    ∃ answer' cancelled', old = .turn owner answer' cancelled' := by
  subst role
  cases old with
  | socket audio interrupted turn => exact keeps.elim
  | turn owner' answer' cancelled' =>
      rw [keeps.1]
      exact ⟨answer', cancelled', rfl⟩

theorem evolved {started : Prop} {b : Nat} {old new : Actor}
    (evolves : Evolves started system after) (before : system.actors[b]? = some old)
    (found : after.actors[b]? = some new) : old.role.Keeps new.role ∧
      (¬started → new.role.latest = old.role.latest) ∧ (old.point = .done → new.point = .done) ∧
      (old.Placed → new.Placed) := by
  obtain ⟨other, there, moved⟩ := evolves.moved b old before
  rw [found] at there
  cases there
  exact moved

theorem evolves_placed {started : Prop} (evolves : Evolves started system after)
    (placed : ∀ (a : Nat) (actor : Actor), system.actors[a]? = some actor → actor.Placed) :
    ∀ (a : Nat) (actor : Actor), after.actors[a]? = some actor → actor.Placed := by
  intro a actor found
  cases before : system.actors[a]? with
  | none => exact (evolves.fresh a actor found before).1
  | some old => exact (evolved evolves before found).2.2.2 (placed a old before)

theorem ran_before {started : Prop} {t : Nat} {new : Actor} {owner : Nat} {answer : Option String}
    {cancelled : Bool} (evolves : Evolves started system after) (unstarted : ¬started)
    (found : after.actors[t]? = some new) (role : new.role = .turn owner answer cancelled)
    (going : new.point ≠ .done) : ∃ (old : Actor) (answer' : Option String) (cancelled' : Bool),
      system.actors[t]? = some old ∧ old.role = .turn owner answer' cancelled' ∧
      old.point ≠ .done := by
  cases before : system.actors[t]? with
  | none =>
      have side := (evolves.fresh t new found before).2 unstarted
      rw [role] at side
      cases side
  | some old =>
      obtain ⟨keeps, _, done, _⟩ := evolved evolves before found
      obtain ⟨answer', cancelled', turn⟩ := keeps_turn keeps role
      exact ⟨old, answer', cancelled', rfl, turn, fun ended => going (done ended)⟩

-- The running turns were running before, and their sockets remember the same ones.
theorem solo_evolves {started : Prop} (evolves : Evolves started system after)
    (unstarted : ¬started) (solo : Solo system) : Solo after := by
  have back (t : Nat) (runs : after.running t = true) : system.running t = true := by
    obtain ⟨new, found, going, owner, answer, cancelled, role⟩ := running_iff.mp runs
    obtain ⟨old, answer', cancelled', before, turn, went⟩ :=
      ran_before evolves unstarted found role going
    exact running_iff.mpr ⟨old, before, went, owner, answer', cancelled', turn⟩
  constructor
  · exact evolves_placed evolves solo.placed
  · intro t u runs runs'
    exact solo.one t u (back t runs) (back u runs')
  · intro t new owner answer cancelled found role going
    obtain ⟨old, answer', cancelled', before, turn, went⟩ :=
      ran_before evolves unstarted found role going
    obtain ⟨socket, there, knows⟩ := solo.latest t old owner answer' cancelled' before turn went
    obtain ⟨socket', here, _, latest, _, _⟩ := evolves.moved owner socket there
    exact ⟨socket', here, (latest unstarted).trans knows⟩

theorem start_step {s : Nat} {frame : Frame} (starts : system.starts (.received s frame))
    (stepped : system.step (.received s frame) = some after) :
    ∃ (actor : Actor) (interrupted : Bool), system.actors[s]? = some actor ∧
      after.actors = system.actors.set s
        { actor with role := .socket 0 interrupted (some system.actors.length) } ++
          [⟨.turn s none false, .hearing, none⟩] := by
  obtain ⟨actor, audio, interrupted, turn, found, role, rfl, heard⟩ := starts
  simp only [System.step, found, role] at stepped
  split at stepped
  · rename_i same reads
    cases same
    cases stepped
    refine ⟨actor, interrupted, found, ?_⟩
    rw [System.receive, if_neg heard]
    rfl
  · cases stepped

theorem solo_start {s : Nat} {frame : Frame} (starts : system.starts (.received s frame))
    (alone : ∀ t, system.running t = false)
    (stepped : system.step (.received s frame) = some after) (solo : Solo system) :
    Solo after := by
  obtain ⟨actor, interrupted, found, actors⟩ := start_step starts stepped
  -- Whoever is running is the turn that is started.
  have last (t : Nat) (new : Actor) (owner : Nat) (answer : Option String) (cancelled : Bool)
      (there : after.actors[t]? = some new) (role : new.role = .turn owner answer cancelled)
      (going : new.point ≠ .done) : t = system.actors.length ∧ owner = s := by
    rw [actors] at there
    rcases Positions.concat_some there with before | ⟨last, rfl⟩
    · rcases Positions.set_some before with ⟨_, rfl⟩ | ⟨_, was⟩
      · cases role
      · have runs := running_iff.mpr ⟨new, was, going, owner, answer, cancelled, role⟩
        rw [alone t] at runs
        cases runs
    · cases role
      rw [List.length_set] at last
      exact ⟨last, rfl⟩
  constructor
  · exact evolves_placed (evolves_step stepped) solo.placed
  · intro t u runs runs'
    obtain ⟨new, there, going, owner, answer, cancelled, role⟩ := running_iff.mp runs
    obtain ⟨new', there', going', owner', answer', cancelled', role'⟩ := running_iff.mp runs'
    rw [(last t new owner answer cancelled there role going).1,
      (last u new' owner' answer' cancelled' there' role' going').1]
  · intro t new owner answer cancelled there role going
    obtain ⟨rfl, rfl⟩ := last t new owner answer cancelled there role going
    refine ⟨{ actor with role := .socket 0 interrupted (some system.actors.length) }, ?_, rfl⟩
    rw [actors]
    exact Positions.concat_kept (Positions.set_own found) _

theorem solo_step {label : Label} (met : OneTurn system label)
    (stepped : system.step label = some after) (solo : Solo system) : Solo after := by
  by_cases starts : system.starts label
  · cases label with
    | received s frame => exact solo_start starts (met.1 starts) stepped solo
    | _ => exact starts.elim
  · exact solo_evolves (evolves_step stepped) starts solo

end Turns

def Output.turn : Output → Option Nat
  | .ofTurn turn _ | .audio turn => some turn
  | .event _ | .interrupted _ => none

def System.Stopped (system : System) (t : Nat) : Prop :=
  ∃ actor : Actor, system.actors[t]? = some actor ∧
    (actor.role.cancelled = true ∨ actor.point = .done)

/-- What a label sends: an output of a turn that is not stopped, or the turns that are
running when it interrupts them. -/
def Output.Fair (system : System) (label : Label) : Output → Prop
  | .event _ => True
  | .ofTurn t _ | .audio t => ¬system.Stopped t
  | .interrupted running => running = system.runningTurns ∧
      ∃ s, label = .received s (.control "INTERRUPT")

section Sending

variable {system after : System} {label : Label}

theorem not_stopped {t : Nat} {actor : Actor} (found : system.actors[t]? = some actor)
    (live : actor.role.cancelled = false) (going : actor.point ≠ .done) : ¬system.Stopped t := by
  rintro ⟨other, there, cancelled | done⟩
  · rw [found] at there
    cases there
    rw [live] at cancelled
    cases cancelled
  · rw [found] at there
    cases there
    exact going done

-- A cancellation is never taken back.
theorem stopped_evolves {started : Prop} {t : Nat} (evolves : Evolves started system after)
    (stopped : system.Stopped t) : after.Stopped t := by
  obtain ⟨old, found, halted⟩ := stopped
  obtain ⟨new, there, keeps, _, done, _⟩ := evolves.moved t old found
  refine ⟨new, there, ?_⟩
  rcases halted with cancelled | ended
  · cases role : old.role with
    | socket audio interrupted turn =>
        rw [role] at cancelled
        cases cancelled
    | turn owner answer cancelled' =>
        cases role' : new.role with
        | socket audio interrupted turn =>
            rw [role, role'] at keeps
            exact keeps.elim
        | turn owner' answer' cancelled'' =>
            rw [role, role'] at keeps
            rw [role] at cancelled
            exact .inl (keeps.2 cancelled)
  · exact .inr (done ended)

def Sends (system : System) (label : Label) (after : System) : Prop :=
  after.sent = system.sent ∨
    ∃ output : Output, after.sent = system.sent ++ [output] ∧ output.Fair system label

theorem sends_say {a : Nat} {role : Role} {type : Option String} {middle : System}
    (same : middle.sent = system.sent) (live : role.isSocket = false → type.isSome →
      ¬system.Stopped a) : Sends system label (middle.sayIf a role type) := by
  cases type with
  | none => exact .inl same
  | some type =>
      right
      cases role with
      | socket audio interrupted turn =>
          exact ⟨.event type, by rw [← same]; rfl, trivial⟩
      | turn owner answer cancelled =>
          exact ⟨.ofTurn a type, by rw [← same]; rfl, live rfl rfl⟩

theorem sends_receive {s : Nat} {actor : Actor} {audio : Nat} {interrupted : Bool}
    {turn : Option Nat} {frame : Frame} : Sends system (.received s frame)
      (system.receive s actor audio interrupted turn frame) := by
  unfold System.receive
  split
  · split
    · exact .inr ⟨_, rfl, trivial⟩
    · exact .inl rfl
  · exact .inr ⟨_, rfl, trivial⟩
  · exact .inr ⟨_, rfl, trivial⟩
  · split
    · exact .inr ⟨_, rfl, trivial⟩
    · exact .inl rfl
  · right
    refine ⟨.interrupted system.runningTurns, ?_, rfl, s, rfl⟩
    cases turn with
    | none => rfl
    | some t =>
        dsimp only
        split
        · rfl
        · rfl
  · exact .inl rfl
  · exact .inl rfl
  · exact .inr ⟨_, rfl, trivial⟩

theorem turnAt_live {t : Nat} {point : Point} {owner : Nat} {answer : Option String}
    {actor : Actor} (here : system.turnAt t point = some (owner, answer, actor))
    (going : point ≠ .done) : ¬system.Stopped t := by
  obtain ⟨found, role, rfl⟩ := turnAt_some here
  exact not_stopped found (by rw [role]; rfl) going

theorem sends_thought {t : Nat} {actor : Actor} {answer : Option String}
    (live : ¬system.Stopped t) : Sends system label (system.thought t actor answer) := by
  unfold System.thought
  split
  · exact .inr ⟨_, rfl, live⟩
  · exact .inl rfl

-- What is left to a task that was cancelled is a commit or an exception, and it sends nothing
-- at either.
theorem sends_step (placed : ∀ (a : Nat) (actor : Actor), system.actors[a]? = some actor →
    actor.Placed) (stepped : system.step label = some after) : Sends system label after := by
  cases label with
  | connect =>
      cases stepped
      exact .inl rfl
  | load a =>
      obtain ⟨_, _, _, _, _, _, _, rfl⟩ := load_step stepped
      exact .inl rfl
  | flush a =>
      obtain ⟨actor, tx, write, point, event, found, live, _, flushes, _, rfl⟩ := flush_step stepped
      apply sends_say
      · rfl
      · intro _ _
        exact not_stopped found live (flushes_side flushes).1
  | commit a =>
      obtain ⟨actor, tx, point, event, found, _, commits, rfl⟩ := commit_step stepped
      obtain ⟨going, _, quiet⟩ := commits_side commits
      apply sends_say
      · rfl
      · intro turn speaks
        -- A turn sends nothing at its commits.
        rcases quiet with silent | side
        · have silent : event = none := silent
          rw [silent] at speaks
          cases speaks
        · have same := (placed a actor found).resolve_left going
          rw [side, turn] at same
          cases same
  | raises a =>
      simp only [System.step] at stepped
      split at stepped
      · rename_i actor found
        split at stepped
        · cases stepped
        · cases stepped
          exact .inl rfl
        · cases stepped
          exact .inl rfl
        · cases stepped
          exact .inl rfl
        · cases stepped
          exact .inr ⟨_, rfl, trivial⟩
        · rename_i cancelled role going
          cases stepped
          split
          · exact .inl rfl
          · rename_i live
            refine .inr ⟨_, rfl, not_stopped found ?_ going⟩
            rw [role]
            exact eq_false_of_ne_true live
      · cases stepped
  | received s frame =>
      simp only [System.step] at stepped
      split at stepped
      · split at stepped
        · cases stepped
          exact sends_receive
        · cases stepped
      · cases stepped
  | transcribed t transcript =>
      obtain ⟨⟨owner, answer, actor⟩, here, rfl⟩ := Option.map_eq_some_iff.mp stepped
      have live := turnAt_live here fun same => by cases same
      dsimp only
      split
      · exact .inr ⟨_, rfl, live⟩
      · exact .inr ⟨_, rfl, live⟩
      · exact .inr ⟨_, rfl, live⟩
  | agentEvent t event =>
      obtain ⟨⟨owner, answer, actor⟩, here, rfl⟩ := Option.map_eq_some_iff.mp stepped
      have live := turnAt_live here fun same => by cases same
      dsimp only
      split
      · exact sends_thought live
      · cases event with
        | toolRequested => exact .inl rfl
        | toolExecuted => exact .inr ⟨_, rfl, live⟩
        | approvalRequired => exact .inr ⟨_, rfl, live⟩
        | completed output => exact .inl rfl
        | failed => exact .inr ⟨_, rfl, live⟩
        | other => exact .inl rfl
  | agentEnds t =>
      obtain ⟨⟨owner, answer, actor⟩, here, rfl⟩ := Option.map_eq_some_iff.mp stepped
      exact sends_thought (turnAt_live here fun same => by cases same)
  | synthesized t bytes =>
      obtain ⟨⟨owner, answer, actor⟩, here, rfl⟩ := Option.map_eq_some_iff.mp stepped
      have live := turnAt_live here fun same => by cases same
      cases bytes with
      | none => exact .inr ⟨_, rfl, live⟩
      | some bytes => exact .inl rfl
  | frame t =>
      simp only [System.step] at stepped
      split at stepped
      · rename_i actor active
        obtain ⟨found, unstopped⟩ := active_some active
        split at stepped
        · rename_i role point
          have live : ¬system.Stopped t :=
            not_stopped found unstopped (by rw [point]; exact fun same => by cases same)
          split at stepped
          · cases stepped
            exact .inr ⟨_, rfl, live⟩
          · cases stepped
            exact .inr ⟨_, rfl, live⟩
        · cases stepped
      · cases stepped
  | delete =>
      simp only [System.step] at stepped
      split at stepped
      · cases stepped
      · cases stepped
        exact .inl rfl

theorem interrupt_stops {s t : Nat} (met : OneTurn system (.received s (.control "INTERRUPT")))
    (stepped : system.step (.received s (.control "INTERRUPT")) = some after)
    (solo : Solo system) (runs : system.running t = true) : after.Stopped t := by
  obtain ⟨turn, found, going, owner, answer, cancelled, role⟩ := running_iff.mp runs
  cases live : cancelled with
  | true =>
      apply stopped_evolves (evolves_step stepped)
      exact ⟨turn, found, .inl (by rw [role, live]; rfl)⟩
  | false =>
      rw [live] at role
      have own := met.2 rfl t turn owner answer found role going
      subst own
      obtain ⟨socket, there, knows⟩ := solo.latest t turn owner answer false found role going
      simp only [System.step, there] at stepped
      split at stepped
      · rename_i audio interrupted latest socketRole reads
        rw [socketRole, Role.latest] at knows
        subst knows
        have listed : system.runningTurns.contains t = true :=
          List.contains_iff_mem.mpr (mem_runningTurns.mpr runs)
        cases stepped
        have other : owner ≠ t := by
          rintro rfl
          rw [found] at there
          cases there
          rw [role] at socketRole
          cases socketRole
        refine ⟨{ turn with role := turn.role.cancel }, ?_, .inl ?_⟩
        · simp only [System.receive, listed, if_true, System.emit, System.put]
          rw [List.getElem?_modify_eq, List.getElem?_set_ne other, found]
          rfl
        · rw [role]
          rfl
      · cases stepped

def Quiet (system : System) : Prop :=
  ∀ before running later, system.sent = before ++ .interrupted running :: later →
    ∀ t ∈ running, system.Stopped t ∧ ∀ output ∈ later, output.turn ≠ some t

theorem quiet_step (met : OneTurn system label) (stepped : system.step label = some after)
    (solo : Solo system) (quiet : Quiet system) : Quiet after := by
  intro before running later sent t listed
  have kept (stopped : system.Stopped t) : after.Stopped t :=
    stopped_evolves (evolves_step stepped) stopped
  rcases sends_step solo.placed stepped with same | ⟨output, appended, fair⟩
  · rw [same] at sent
    obtain ⟨stopped, silent⟩ := quiet before running later sent t listed
    exact ⟨kept stopped, silent⟩
  · rw [appended] at sent
    rcases List.eq_nil_or_concat later with rfl | ⟨earlier, last, rfl⟩
    · -- The interruption is the one of this step.
      obtain ⟨rfl, rfl⟩ := List.append_singleton_inj.mp sent
      obtain ⟨rfl, s, rfl⟩ := fair
      have runs := mem_runningTurns.mp listed
      exact ⟨interrupt_stops met stepped solo runs, fun output among => nomatch among⟩
    · rw [List.concat_eq_append, ← List.cons_append, ← List.append_assoc] at sent
      obtain ⟨was, rfl⟩ := List.append_singleton_inj.mp sent
      obtain ⟨stopped, silent⟩ := quiet before running earlier was t listed
      refine ⟨kept stopped, ?_⟩
      intro sent' among
      rw [List.concat_eq_append] at among
      rcases List.mem_append.mp among with old | new
      · exact silent sent' old
      · rw [List.mem_singleton.mp new]
        intro own
        cases output with
        | event type => cases own
        | ofTurn turn type =>
            cases own
            exact fair stopped
        | audio turn =>
            cases own
            exact fair stopped
        | interrupted running => cases own

end Sending

def Tx.Counted (tx : Tx) (turns : Nat) : Prop :=
  ∃ count, tx.now.turns = turns + count ∧ tx.messages = List.range' (1 + turns) count ∧
    tx.turns.getD turns = turns + count

structure Tx.Numbered (tx : Tx) (socket : Bool) (row : Option Row) : Prop where
  plain : socket = true → tx.messages = [] ∧ tx.turns = none
  wrote : tx.messages ≠ [] → tx.updated = true
  counted : socket = false → ∀ now, row = some now → tx.Counted now.turns
  gone : row = none → tx.messages = []

structure Actor.Numbered (actor : Actor) (row : Option Row) : Prop where
  idle : actor.point = .done → actor.tx = none
  held : ∀ tx, actor.tx = some tx → tx.Numbered actor.role.isSocket row

structure Numbered (system : System) : Prop where
  actors : ∀ (a : Nat) (actor : Actor), system.actors[a]? = some actor → actor.Numbered system.row
  deleted : system.row = none → system.messages = []
  stored : ∀ row, system.row = some row → system.messages = List.range' 1 row.turns

section Numbering

variable {system after : System} {a : Nat} {actor : Actor} {tx : Tx}

theorem counted_load (job : Job) (row : Row) : (Tx.load job row).Counted row.turns :=
  ⟨0, rfl, rfl, rfl⟩

theorem counted_note {turns : Nat} (counted : tx.Counted turns) : tx.note.Counted turns := by
  obtain ⟨count, now, messages, _⟩ := counted
  refine ⟨count + 1, ?_, ?_, ?_⟩
  · simp only [Tx.note, now]
    omega
  · simp only [Tx.note, now, messages, List.range'_1_concat]
    congr 2
    omega
  · simp only [Tx.note, now, Option.getD_some]
    omega

theorem apply_numbers {write : Write} (silent : write ≠ .note) :
    (write.apply tx).now.turns = tx.now.turns ∧ (write.apply tx).messages = tx.messages ∧
      (write.apply tx).turns = tx.turns ∧ (tx.updated = true → (write.apply tx).updated = true) := by
  cases write with
  | state value => exact ⟨rfl, rfl, rfl, fun _ => rfl⟩
  | note => exact absurd rfl silent
  | finish =>
      simp only [Write.apply]
      split
      · exact ⟨rfl, rfl, rfl, id⟩
      · exact ⟨rfl, rfl, rfl, fun _ => rfl⟩

theorem numbered_load {job : Job} {row : Row} {socket : Bool} :
    (Tx.load job row).Numbered socket (some row) := by
  constructor
  · intro _
    exact ⟨rfl, rfl⟩
  · intro wrote
    exact absurd rfl wrote
  · intro _ now same
    cases same
    exact counted_load job row
  · intro gone
    cases gone

-- A message is only added to a session that is still there.
theorem numbered_apply {write : Write} {socket : Bool} {row : Option Row}
    (numbered : tx.Numbered socket row) (notes : write = .note → socket = false)
    (present : (write.apply tx).updated = true → row.isSome) :
    (write.apply tx).Numbered socket row := by
  by_cases note : write = .note
  · subst note
    constructor
    · intro side
      rw [notes rfl] at side
      cases side
    · intro _
      rfl
    · intro side now here
      exact counted_note (numbered.counted side now here)
    · rintro rfl
      exact nomatch present rfl
  · obtain ⟨now, messages, turns, updated⟩ := @apply_numbers tx write note
    constructor
    · rw [messages, turns]
      exact numbered.plain
    · rw [messages]
      exact fun wrote => updated (numbered.wrote wrote)
    · intro side row here
      rw [Tx.Counted, now, messages, turns]
      exact numbered.counted side row here
    · rw [messages]
      exact numbered.gone

theorem numbered_goes {started : Prop} (goes : Goes started system after)
    (numbered : Numbered system) : Numbered after := by
  constructor
  · intro b new found
    rw [goes.row]
    cases before : system.actors[b]? with
    | none =>
        have idle := (goes.fresh b new found before).1
        exact ⟨fun _ => idle, fun tx holds => by rw [idle] at holds; cases holds⟩
    | some old =>
        obtain ⟨other, there, moves⟩ := goes.moved b old before
        rw [found] at there
        cases there
        obtain ⟨idle, held⟩ := numbered.actors b old before
        constructor
        · intro done
          rcases moves.ends done with was | gone
          · rcases moves.tx with same | gone
            · rw [same]
              exact idle was
            · exact gone
          · exact gone
        · intro tx holds
          rw [keeps_side moves.role]
          rcases moves.tx with same | gone
          · rw [same] at holds
            exact held tx holds
          · rw [gone] at holds
            cases holds
  · rw [goes.row, goes.messages]
    exact numbered.deleted
  · rw [goes.row, goes.messages]
    exact numbered.stored

theorem numbered_put (numbered : Numbered system) (own : actor.Numbered system.row) :
    Numbered (system.put a actor) := by
  refine ⟨?_, numbered.deleted, numbered.stored⟩
  intro b new found
  rcases Positions.set_some found with ⟨_, rfl⟩ | ⟨_, was⟩
  · exact own
  · exact numbered.actors b new was

theorem holder_runs (numbered : Numbered system) (found : system.actors[a]? = some actor)
    (holds : actor.tx = some tx) (turn : actor.role.isSocket = false) :
    system.running a = true := by
  have going : actor.point ≠ .done := by
    intro done
    rw [(numbered.actors a actor found).idle done] at holds
    cases holds
  cases role : actor.role with
  | socket audio interrupted latest =>
      rw [role] at turn
      cases turn
  | turn owner answer cancelled =>
      exact running_iff.mpr ⟨actor, found, going, owner, answer, cancelled, role⟩

theorem numbered_committed (solo : Solo system) (numbered : Numbered system)
    (found : system.actors[a]? = some actor) (holds : actor.tx = some tx) :
    Numbered (system.commit a tx) := by
  have own := (numbered.actors a actor found).held tx holds
  constructor
  · intro b new there
    obtain ⟨old, before, role, point, kept⟩ := commit_actor there
    obtain ⟨idle, held⟩ := numbered.actors b old before
    constructor
    · intro done
      rw [point] at done
      rcases kept with gone | ⟨_, same⟩
      · exact gone
      · rw [same, idle done]
        rfl
    · intro after holds'
      rcases kept with gone | ⟨other, same⟩
      · rw [gone] at holds'
        cases holds'
      rw [same] at holds'
      obtain ⟨was, had, rfl⟩ := Option.map_eq_some_iff.mp holds'
      obtain ⟨plain, wrote, counted, gone⟩ := held was had
      rw [role]
      refine ⟨plain, wrote, ?_, ?_⟩
      · intro turn row here
        obtain ⟨row', here', _, turns⟩ := rowAfter_some here
        -- Of two that hold a transaction, one is a socket, which writes no number.
        cases side : actor.role.isSocket with
        | true =>
            rw [(own.plain side).2, Option.getD_none] at turns
            rw [turns]
            exact counted turn row' here'
        | false =>
            exact absurd (solo.one b a (holder_runs numbered before had turn)
              (holder_runs numbered found holds side)) other
      · intro here
        exact gone (Option.map_eq_none_iff.mp here)
  · intro here
    have gone := Option.map_eq_none_iff.mp here
    rw [System.commit, numbered.deleted gone, own.gone gone]
    rfl
  · intro row here
    obtain ⟨row', here', _, turns⟩ := rowAfter_some here
    have stored := numbered.stored row' here'
    simp only [System.commit, stored, turns]
    cases side : actor.role.isSocket with
    | true =>
        obtain ⟨messages, unwritten⟩ := own.plain side
        rw [messages, unwritten, List.append_nil, Option.getD_none]
    | false =>
        obtain ⟨count, _, messages, total⟩ := own.counted side row' here'
        rw [messages, total, List.range'_append_1]

theorem unlocked {b : Nat} (free : system.locked b = false) (other : a ≠ b)
    (found : system.actors[a]? = some actor) (holds : actor.tx = some tx) : tx.updated = false := by
  unfold System.locked at free
  have mine := List.any_eq_false.mp free a
    (List.mem_range.mpr (List.getElem?_eq_some_iff.mp found).1)
  simpa [other, found, holds] using mine

-- Whoever has added a message has locked the row, and the deletion waits for the lock.
theorem numbered_delete (stepped : system.step .delete = some after) (numbered : Numbered system) :
    Numbered after := by
  simp only [System.step] at stepped
  split at stepped
  · cases stepped
  · rename_i free
    cases stepped
    simp only [Bool.or_eq_true, not_or, Bool.not_eq_true] at free
    refine ⟨?_, fun _ => rfl, fun row here => by cases here⟩
    intro b actor found
    obtain ⟨idle, held⟩ := numbered.actors b actor found
    refine ⟨idle, ?_⟩
    intro tx holds
    obtain ⟨plain, wrote, _, _⟩ := held tx holds
    refine ⟨plain, wrote, fun _ now here => (by cases here), ?_⟩
    intro _
    by_contra messages
    have other : b ≠ system.actors.length :=
      Nat.ne_of_lt (List.getElem?_eq_some_iff.mp found).1
    have written := wrote messages
    rw [unlocked free.2 other found holds] at written
    cases written

theorem flushes_note {point : Point} {next : Point × Option String}
    (flushes : point.flushes = some (.note, next)) : point.ofSocket = false := by
  cases point <;> cases flushes <;> rfl

theorem numbered_step {label : Label} (solo : Solo system)
    (stepped : system.step label = some after) (numbered : Numbered system) : Numbered after := by
  cases label with
  | load a =>
      obtain ⟨actor, row, next, found, _, here, loads, rfl⟩ := load_step stepped
      apply numbered_put numbered
      constructor
      · intro done
        exact absurd done (loads_side loads).2.1
      · intro tx holds
        cases holds
        rw [here]
        exact numbered_load
  | flush a =>
      obtain ⟨actor, tx, write, point, event, found, _, holds, flushes, present, rfl⟩ :=
        flush_step stepped
      obtain ⟨going, there, _⟩ := flushes_side flushes
      apply @numbered_goes _ _ True goes_say
      apply numbered_put numbered
      constructor
      · intro done
        exact absurd done there
      · intro written same
        cases same
        apply numbered_apply ((numbered.actors a actor found).held tx holds) _ present
        rintro rfl
        rw [← (solo.placed a actor found).resolve_left going]
        exact flushes_note flushes
  | commit a =>
      obtain ⟨actor, tx, point, event, found, holds, _, rfl⟩ := commit_step stepped
      apply @numbered_goes _ _ True goes_say
      apply numbered_put (numbered_committed solo numbered found holds)
      exact ⟨fun _ => rfl, fun tx holds => nomatch holds⟩
  | delete => exact numbered_delete stepped numbered
  | _ => exact numbered_goes (goes_step (by trivial) stepped) numbered

end Numbering

/-- One turn is in flight at most, interrupted turns are stopped and silent, and the stored
messages are numbered in order. -/
structure InTurn (system : System) : Prop where
  one : ∀ t u, system.running t = true → system.running u = true → t = u
  quiet : Quiet system
  numbered : system.messages.Pairwise (· < ·)

theorem in_turn {system : System} (solo : Solo system) (quiet : Quiet system)
    (numbered : Numbered system) : InTurn system := by
  refine ⟨solo.one, quiet, ?_⟩
  cases here : system.row with
  | none =>
      rw [numbered.deleted here]
      exact .nil
  | some row =>
      rw [numbered.stored row here]
      exact List.pairwise_lt_range'

theorem turns_are_in_order {system : System} (run : History System.step OneTurn start system) :
    InTurn system := by
  have kept : Solo system ∧ Quiet system ∧ Numbered system := by
    apply run.keeps fun system => Solo system ∧ Quiet system ∧ Numbered system
    · refine ⟨⟨?_, ?_, ?_⟩, ?_, ⟨?_, ?_, ?_⟩⟩
      · intro a actor found
        cases found
      · intro t u runs
        cases runs
      · intro t actor owner answer cancelled found
        cases found
      · intro before running later sent
        cases before <;> cases sent
      · intro a actor found
        cases found
      · intro here
        cases here
      · intro row here
        cases here
        rfl
    · rintro system label after met stepped ⟨solo, quiet, numbered⟩
      exact ⟨solo_step met stepped solo, quiet_step met stepped solo quiet,
        numbered_step solo stepped numbered⟩
  exact in_turn kept.1 kept.2.1 kept.2.2

/-- `OneTurn`, computed; an `AUDIO_END` without audio waits as well. -/
def oneTurn (system : System) : Label → Bool
  | .received s (.control kind) =>
      (kind ≠ "AUDIO_END" || system.runningTurns.isEmpty) &&
      (kind ≠ "INTERRUPT" || system.actors.all fun actor => actor.point = .done ||
        match actor.role with
        | .turn owner _ cancelled => cancelled || owner = s
        | .socket .. => true)
  | _ => true

theorem oneTurn_sound (system : System) (label : Label) (meets : oneTurn system label = true) :
    OneTurn system label := by
  cases label with
  | received s frame =>
      constructor
      · rintro ⟨actor, audio, interrupted, turn, found, role, rfl, heard⟩ t
        simp only [oneTurn, Bool.and_eq_true] at meets
        have idle : system.runningTurns = [] := by simpa using meets.1
        by_contra runs
        have listed := mem_runningTurns.mpr (eq_true_of_ne_false runs)
        rw [idle] at listed
        cases listed
      · rintro rfl t actor owner answer found role going
        simp only [oneTurn, Bool.and_eq_true] at meets
        have owned := meets.2
        simp only [ne_eq, not_true_eq_false, decide_false, Bool.false_or, List.all_eq_true] at owned
        have mine := owned actor (List.mem_of_getElem? found)
        simpa [going, role] using mine
  | _ => trivial

def interrupts (s : Nat) : List Label :=
  [.received s (.control "INTERRUPT"), .load s, .flush s, .flush s, .commit s]

def speech (s : Nat) : List Label := [.received s (.audio 640), .received s (.control "AUDIO_END")]

def bargesIn : List Label :=
  opens 0 ++ speech 0 ++ thinks 1 ++ interrupts 0 ++
    [.raises 1, .received 0 (.control "AUDIO_START")] ++ speech 0 ++ thinks 2 ++ answers 2 ++
    [.commit 2]

def afterBargeIn : System := (replay System.step oneTurn start bargesIn).getD start

theorem turns_are_in_order_after_barge_in : ∃ system : System, system.messages = [1, 2, 3] ∧
    InTurn system :=
  ⟨afterBargeIn, rfl, turns_are_in_order (history_replay oneTurn_sound bargesIn rfl)⟩

/-- Two turns of one socket read the session before either has stored its message. The
interruption cancels the second one; the flag of the first is cleared by the next
`AUDIO_START`, and it speaks. -/
def overlaps : List Label :=
  opens 0 ++ speech 0 ++ speech 0 ++ [.load 1] ++ thinks 2 ++ (thinks 1).tail ++ interrupts 0 ++
    [.received 0 (.control "AUDIO_START"), .load 1, .flush 1, .synthesized 1 (some 64000),
      .flush 1, .frame 1]

theorem two_turns_at_once : ∃ (system : System) (before later : List Output),
    History System.step (fun _ _ => True) start system ∧
    system.sent = before ++ .interrupted [1, 2] :: later ∧ .audio 1 ∈ later ∧
    system.messages = [1, 1] := by
  have run := @history_replay _ _ System.step (fun _ _ => true) (fun _ _ => True)
    (fun _ _ _ => trivial) start _ overlaps rfl
  exact ⟨_, [.event "SESSION_STARTED", .ofTurn 2 "TRANSCRIPT_FINAL", .ofTurn 2 "AGENT_STARTED",
    .ofTurn 2 "RESPONSE_TEXT_FINAL", .ofTurn 1 "TRANSCRIPT_FINAL", .ofTurn 1 "AGENT_STARTED",
    .ofTurn 1 "RESPONSE_TEXT_FINAL"],
    [.event "LISTENING_STARTED", .ofTurn 1 "AUDIO_START", .audio 1], run, rfl,
    .tail _ (.tail _ (.head _)), rfl⟩

end AiPlatform.Voice
