import AiPlatform.Positions
import AiPlatform.VoiceSockets

/-!
Terminal states. `set_state` has no guard, so that a socket that is opened for an ended
session, or a turn or an interruption that is under way when the session is ended, moves it
to another state. Nothing else does.
-/

namespace AiPlatform.Voice

/-- Whoever commits a state, except to end the session, has read the row of a session that
was not ended and has not been ended since. -/
def OnOpen (system : System) : Label → Prop
  | .commit a => ∀ (actor : Actor) (tx : Tx), system.actors[a]? = some actor →
      actor.tx = some tx → tx.job ≠ .close → tx.state ≠ none →
      tx.first.terminal = false ∧ tx.ended = false
  | _ => True

def Role.Keeps : Role → Role → Prop
  | .socket .., .socket .. => True
  | .turn owner _ cancelled, .turn owner' _ cancelled' =>
      owner' = owner ∧ (cancelled = true → cancelled' = true)
  | _, _ => False

theorem Role.Keeps.refl (role : Role) : role.Keeps role := by
  cases role with
  | socket audio interrupted turn => trivial
  | turn owner answer cancelled => exact ⟨rfl, id⟩

theorem Role.Keeps.trans {first second third : Role} (earlier : first.Keeps second)
    (later : second.Keeps third) : first.Keeps third := by
  cases first <;> cases second <;> cases third <;>
    first | trivial | exact earlier.elim | exact later.elim | skip
  exact ⟨later.1.trans earlier.1, fun cancelled => later.2 (earlier.2 cancelled)⟩

theorem keeps_cancel (role : Role) : role.Keeps role.cancel := by
  cases role with
  | socket audio interrupted turn => trivial
  | turn owner answer cancelled => exact ⟨rfl, fun _ => rfl⟩

def Point.ending (point : Point) : Prop := point = .toEnd ∨ point = .closeCommit

def Role.latest : Role → Option Nat
  | .socket _ _ latest => latest
  | .turn .. => none

def Point.ofSocket : Point → Bool
  | .opening | .toOpen | .openCommit | .receiving | .interrupting | .toInterrupted | .toResume
  | .interruptCommit | .closing | .toEnd | .closeCommit | .done => true
  | _ => false

def Role.isSocket : Role → Bool
  | .socket .. => true
  | .turn .. => false

def Actor.Placed (actor : Actor) : Prop :=
  actor.point = .done ∨ actor.point.ofSocket = actor.role.isSocket

/-- A coroutine goes on, with the transaction that it had or with none; a socket knows of
another turn only if one is started. -/
structure Moves (started : Prop) (old new : Actor) : Prop where
  tx : new.tx = old.tx ∨ new.tx = none
  role : old.role.Keeps new.role
  latest : ¬started → new.role.latest = old.role.latest
  done : old.point = .done → new.point = .done
  ends : new.point = .done → old.point = .done ∨ new.tx = none
  ending : old.point.ending → new.point = old.point ∨ new.tx = none
  placed : old.Placed → new.Placed

theorem Moves.refl (started : Prop) (actor : Actor) : Moves started actor actor :=
  ⟨.inl rfl, .refl _, fun _ => rfl, id, .inl, fun _ => .inl rfl, id⟩

theorem Moves.trans {started : Prop} {first second third : Actor}
    (earlier : Moves started first second) (later : Moves started second third) :
    Moves started first third := by
  have closed (gone : second.tx = none) : third.tx = none := by
    rcases later.tx with same | gone'
    · exact same.trans gone
    · exact gone'
  refine ⟨?_, earlier.role.trans later.role, ?_, fun done => later.done (earlier.done done), ?_, ?_,
    fun placed => later.placed (earlier.placed placed)⟩
  · rcases later.tx with same | gone
    · rw [same]
      exact earlier.tx
    · exact .inr gone
  · intro unstarted
    exact (later.latest unstarted).trans (earlier.latest unstarted)
  · intro done
    rcases later.ends done with before | gone
    · rcases earlier.ends before with before | gone
      · exact .inl before
      · exact .inr (closed gone)
    · exact .inr gone
  · intro ending
    rcases earlier.ending ending with same | gone
    · rcases later.ending (same ▸ ending) with same' | gone
      · exact .inl (same'.trans same)
      · exact .inr gone
    · exact .inr (closed gone)

structure Goes (started : Prop) (system after : System) : Prop where
  row : after.row = system.row
  messages : after.messages = system.messages
  moved : ∀ (b : Nat) (old : Actor), system.actors[b]? = some old →
    ∃ new, after.actors[b]? = some new ∧ Moves started old new
  fresh : ∀ (b : Nat) (new : Actor), after.actors[b]? = some new →
    system.actors[b]? = none → new.tx = none ∧ new.Placed ∧ (¬started → new.role.isSocket = true)

section Going

variable {started : Prop} {system middle after : System} {a : Nat} {actor new : Actor}

theorem keeps_side {old new : Role} (keeps : old.Keeps new) : new.isSocket = old.isSocket := by
  cases old with
  | socket audio interrupted turn =>
      cases new with
      | socket audio interrupted turn => rfl
      | turn owner answer cancelled => exact keeps.elim
  | turn owner answer cancelled =>
      cases new with
      | socket audio interrupted turn => exact keeps.elim
      | turn owner answer cancelled => rfl

theorem goes_actors (row : after.row = system.row) (messages : after.messages = system.messages)
    (actors : after.actors = system.actors) : Goes started system after := by
  refine ⟨row, messages, ?_, ?_⟩
  · intro b old found
    exact ⟨old, by rw [actors]; exact found, .refl started old⟩
  · intro b new found absent
    rw [actors, absent] at found
    cases found

theorem Goes.trans (earlier : Goes started system middle) (later : Goes started middle after) :
    Goes started system after := by
  refine ⟨later.row.trans earlier.row, later.messages.trans earlier.messages, ?_, ?_⟩
  · intro b old found
    obtain ⟨next, there, moves⟩ := earlier.moved b old found
    obtain ⟨new, here, moves'⟩ := later.moved b next there
    exact ⟨new, here, moves.trans moves'⟩
  · intro b new found absent
    cases there : middle.actors[b]? with
    | none => exact later.fresh b new found there
    | some next =>
        obtain ⟨other, here, moves⟩ := later.moved b next there
        rw [found] at here
        cases here
        obtain ⟨idle, placed, side⟩ := earlier.fresh b next there absent
        refine ⟨?_, moves.placed placed, ?_⟩
        · rcases moves.tx with same | gone
          · exact same.trans idle
          · exact gone
        · intro unstarted
          exact (keeps_side moves.role).trans (side unstarted)

theorem goes_put (found : system.actors[a]? = some actor) (moves : Moves started actor new) :
    Goes started system (system.put a new) := by
  refine ⟨rfl, rfl, ?_, ?_⟩
  · intro b old there
    by_cases same : a = b
    · subst same
      rw [found] at there
      cases there
      exact ⟨new, Positions.set_own found, moves⟩
    · exact ⟨old, (List.getElem?_set_ne same).trans there, .refl started old⟩
  · intro b other there absent
    rcases Positions.set_some there with ⟨rfl, _⟩ | ⟨_, was⟩
    · rw [found] at absent
      cases absent
    · rw [was] at absent
      cases absent

theorem goes_modify {change : Actor → Actor} (moves : ∀ actor, Moves started actor (change actor)) :
    Goes started system { system with actors := system.actors.modify a change } := by
  refine ⟨rfl, rfl, ?_, ?_⟩
  · intro b old there
    by_cases same : a = b
    · subst same
      exact ⟨change old, Positions.modify_own there, moves old⟩
    · exact ⟨old, Positions.modify_other same there, .refl started old⟩
  · intro b other there absent
    rw [List.getElem?_modify, absent] at there
    cases there

theorem goes_append (fresh : new.tx = none) (placed : new.Placed)
    (side : ¬started → new.role.isSocket = true) :
    Goes started system { system with actors := system.actors ++ [new] } := by
  refine ⟨rfl, rfl, ?_, ?_⟩
  · intro b old there
    exact ⟨old, Positions.concat_kept there _, .refl started old⟩
  · intro b other there absent
    rcases Positions.concat_some there with was | ⟨_, rfl⟩
    · rw [was] at absent
      cases absent
    · exact ⟨fresh, placed, side⟩

theorem goes_emit (output : Output) : Goes started system (system.emit output) :=
  goes_actors rfl rfl rfl

theorem active_some (active : system.active a = some actor) :
    system.actors[a]? = some actor ∧ actor.role.cancelled = false := by
  obtain ⟨found, kept⟩ := Option.filter_eq_some_iff.mp active
  exact ⟨found, by simpa using kept⟩

theorem turnAt_some {t : Nat} {point : Point} {owner : Nat} {answer : Option String}
    (here : system.turnAt t point = some (owner, answer, actor)) :
    system.actors[t]? = some actor ∧ actor.role = .turn owner answer false ∧
      actor.point = point := by
  obtain ⟨other, active, here⟩ := Option.bind_eq_some_iff.mp here
  obtain ⟨found, kept⟩ := active_some active
  split at here
  · rename_i socket answer' cancelled role
    split at here
    · rename_i same
      cases here
      rw [role, Role.cancelled] at kept
      rw [kept] at role
      exact ⟨found, role, same⟩
    · cases here
  · cases here

theorem moves_point {point : Point} (here : actor.point ≠ .done) (there : point ≠ .done)
    (open' : ¬actor.point.ending) (side : point.ofSocket = actor.role.isSocket) :
    Moves started actor { actor with point := point } :=
  ⟨.inl rfl, .refl _, fun _ => rfl, fun done => absurd done here, fun done => absurd done there,
    fun ending => absurd ending open', fun _ => .inr side⟩

theorem moves_end {point : Point} (here : actor.point ≠ .done)
    (side : point = .done ∨ point.ofSocket = actor.role.isSocket) :
    Moves started actor { actor with point := point, tx := none } :=
  ⟨.inr rfl, .refl _, fun _ => rfl, fun done => absurd done here, fun _ => .inr rfl,
    fun _ => .inr rfl, fun _ => side⟩

def Frame.starts (audio : Nat) (frame : Frame) : Prop :=
  frame = .control "AUDIO_END" ∧ audio ≠ 0

theorem goes_receive {s : Nat} {audio : Nat} {interrupted : Bool} {turn : Option Nat}
    {frame : Frame} (found : system.actors[s]? = some actor)
    (role : actor.role = .socket audio interrupted turn) (reads : actor.point = .receiving)
    (starts : frame.starts audio → started) :
    Goes started system (system.receive s actor audio interrupted turn frame) := by
  have put (audio' : Nat) (interrupted' : Bool) (turn' : Option Nat) (point : Point)
      (latest : ¬started → turn' = turn) (there : point ≠ .done) (side : point.ofSocket = true) :
      Goes started system (system.put s
        { actor with role := .socket audio' interrupted' turn', point := point }) := by
    apply goes_put found
    refine ⟨.inl rfl, ?_, ?_, ?_, fun done => absurd done there, ?_, fun _ => .inr side⟩
    · rw [role]
      trivial
    · intro unstarted
      rw [role]
      exact latest unstarted
    · intro done
      rw [reads] at done
      cases done
    · rintro (ending | ending) <;> (rw [reads] at ending; cases ending)
  have put' (audio' : Nat) (interrupted' : Bool) (turn' : Option Nat)
      (latest : ¬started → turn' = turn) : Goes started system
        (system.put s { actor with role := .socket audio' interrupted' turn' }) := by
    have same : ({ actor with role := .socket audio' interrupted' turn' } : Actor) =
        { actor with role := .socket audio' interrupted' turn', point := .receiving } := by
      rw [← reads]
    rw [same]
    exact put audio' interrupted' turn' .receiving latest (fun same => nomatch same) rfl
  have closing : Goes started system (system.put s { actor with point := .closing }) := by
    have closed := put audio interrupted turn .closing (fun _ => rfl) (fun same => nomatch same) rfl
    rw [← role] at closed
    exact closed
  unfold System.receive
  split
  · split
    · exact (put' 0 interrupted turn fun _ => rfl).trans (goes_emit _)
    · exact put' _ interrupted turn fun _ => rfl
  · exact goes_emit _
  · exact (put' 0 false turn fun _ => rfl).trans (goes_emit _)
  · split
    · exact goes_emit _
    · rename_i heard
      have begins := starts ⟨rfl, heard⟩
      exact (put' 0 interrupted _ fun unstarted => absurd begins unstarted).trans
        (goes_append rfl (.inr rfl) fun unstarted => absurd begins unstarted)
  · refine Goes.trans ?_ (goes_emit _)
    have flagged := put audio true turn .interrupting (fun _ => rfl) (fun same => nomatch same) rfl
    split
    · split
      · refine flagged.trans (goes_modify ?_)
        intro actor
        refine ⟨.inl rfl, keeps_cancel actor.role, ?_, id, .inl, fun _ => .inl rfl, ?_⟩
        · intro _
          cases actor.role <;> rfl
        · have same : actor.role.cancel.isSocket = actor.role.isSocket := by
            cases actor.role <;> rfl
          intro placed
          rw [Actor.Placed, same]
          exact placed
      · exact flagged
    · exact flagged
  · exact closing
  · exact closing
  · exact goes_emit _

theorem goes_turn {t : Nat} {point next : Point} {owner : Nat} {answer : Option String}
    (here : system.turnAt t point = some (owner, answer, actor)) (going : point ≠ .done)
    (there : next.ofSocket = false) (open' : ¬point.ending) :
    Goes started system (system.put t { actor with point := next }) := by
  obtain ⟨found, role, rfl⟩ := turnAt_some here
  apply goes_put found
  apply moves_point going _ open'
  · rw [there, role]
    rfl
  · rintro rfl
    cases there

theorem goes_thought {t : Nat} {owner : Nat} {answer answer' : Option String}
    (here : system.turnAt t .agent = some (owner, answer, actor)) :
    Goes started system (system.thought t actor answer') := by
  have put : Goes started system (system.put t { actor with point := .hearCommit }) :=
    goes_turn here (fun same => nomatch same) rfl (by rintro (same | same) <;> cases same)
  unfold System.thought
  split
  · exact put.trans (goes_emit _)
  · exact put

def Label.talks : Label → Prop
  | .load _ | .flush _ | .commit _ | .delete => False
  | .connect | .raises _ | .received .. | .transcribed .. | .agentEvent .. | .agentEnds _
  | .synthesized .. | .frame _ => True

def System.starts (system : System) : Label → Prop
  | .received s frame => ∃ actor audio interrupted turn, system.actors[s]? = some actor ∧
      actor.role = .socket audio interrupted turn ∧ frame.starts audio
  | _ => False

theorem goes_step {label : Label} (talks : label.talks) (stepped : system.step label = some after) :
    Goes (system.starts label) system after := by
  cases label with
  | load a => exact talks.elim
  | flush a => exact talks.elim
  | commit a => exact talks.elim
  | delete => exact talks.elim
  | connect =>
      cases stepped
      exact goes_append rfl (.inr rfl) fun _ => rfl
  | raises a =>
      simp only [System.step] at stepped
      split at stepped
      · rename_i actor found
        have ends (point : Point) (going : actor.point ≠ .done)
            (side : point = .done ∨ point.ofSocket = actor.role.isSocket) :
            Goes (system.starts (.raises a)) system
              (system.put a { actor with point := point, tx := none }) :=
          goes_put found (moves_end going side)
        split at stepped
        · cases stepped
        · rename_i point
          cases stepped
          exact ends .done (by rw [point]; exact fun same => nomatch same) (.inl rfl)
        · rename_i point
          cases stepped
          exact ends .done (by rw [point]; exact fun same => nomatch same) (.inl rfl)
        · rename_i point
          cases stepped
          exact ends .done (by rw [point]; exact fun same => nomatch same) (.inl rfl)
        · rename_i role going _ _ _
          cases stepped
          have closing := ends .closing going (.inr (by rw [role]; rfl))
          exact closing.trans (goes_emit _)
        · rename_i going
          cases stepped
          split
          · exact ends .done going (.inl rfl)
          · exact (ends .done going (.inl rfl)).trans (goes_emit _)
      · cases stepped
  | received s frame =>
      simp only [System.step] at stepped
      split at stepped
      · rename_i actor found
        split at stepped
        · rename_i role reads
          cases stepped
          apply goes_receive found role reads
          intro starts
          exact ⟨actor, _, _, _, found, role, starts⟩
        · cases stepped
      · cases stepped
  | transcribed t transcript =>
      obtain ⟨⟨owner, answer, actor⟩, here, rfl⟩ := Option.map_eq_some_iff.mp stepped
      have put (next : Point) (there : next.ofSocket = false) :
          Goes (system.starts (.transcribed t transcript)) system
            (system.put t { actor with point := next }) :=
        goes_turn here (fun same => nomatch same) there (by rintro (same | same) <;> cases same)
      dsimp only
      split
      · exact (put .toListen rfl).trans (goes_emit _)
      · exact (put .toListen rfl).trans (goes_emit _)
      · exact (put .toNote rfl).trans (goes_emit _)
  | agentEvent t event =>
      obtain ⟨⟨owner, answer, actor⟩, here, rfl⟩ := Option.map_eq_some_iff.mp stepped
      obtain ⟨found, role, point⟩ := turnAt_some here
      dsimp only
      split
      · exact goes_thought here
      · cases event with
        | toolRequested =>
            exact goes_turn here (fun same => nomatch same) rfl
              (by rintro (same | same) <;> cases same)
        | toolExecuted => exact goes_emit _
        | approvalRequired => exact goes_emit _
        | completed output =>
            apply goes_put found
            refine ⟨.inl rfl, ?_, ?_, id, .inl, fun _ => .inl rfl, ?_⟩
            · rw [role]
              exact ⟨rfl, fun cancelled => nomatch cancelled⟩
            · intro _
              rw [role]
              rfl
            · rw [Actor.Placed, role]
              exact id
        | failed => exact goes_emit _
        | other => exact goes_actors rfl rfl rfl
  | agentEnds t =>
      obtain ⟨⟨owner, answer, actor⟩, here, rfl⟩ := Option.map_eq_some_iff.mp stepped
      exact goes_thought here
  | synthesized t bytes =>
      obtain ⟨⟨owner, answer, actor⟩, here, rfl⟩ := Option.map_eq_some_iff.mp stepped
      have put (next : Point) (there : next.ofSocket = false) :
          Goes (system.starts (.synthesized t bytes)) system
            (system.put t { actor with point := next }) :=
        goes_turn here (fun same => nomatch same) there (by rintro (same | same) <;> cases same)
      cases bytes with
      | none => exact (put .toNoteAnswer rfl).trans (goes_emit _)
      | some bytes => exact put (.toSpeak _) rfl
  | frame t =>
      simp only [System.step] at stepped
      split at stepped
      · rename_i actor active
        obtain ⟨found, _⟩ := active_some active
        split at stepped
        · rename_i role point
          have put (next : Point) (there : next.ofSocket = false) :
              Goes (system.starts (.frame t)) system
                (system.put t { actor with point := next }) := by
            apply goes_put found
            apply moves_point
            · rw [point]
              exact fun same => nomatch same
            · rintro rfl
              cases there
            · rintro (same | same) <;> (rw [point] at same; cases same)
            · rw [there, role]
              rfl
          split at stepped
          · cases stepped
            exact (put .toNoteAnswer rfl).trans (goes_emit _)
          · cases stepped
            exact (put (.frames _) rfl).trans (goes_emit _)
        · cases stepped
      · cases stepped

end Going

/-- Only what ends a session is at the places of the end, and it writes `COMPLETED` only. -/
structure Tx.Fits (tx : Tx) (point : Point) : Prop where
  close : tx.job = .close → point.ending ∧ ∀ state, tx.state = some state → state = .completed
  state : tx.state ≠ some .error

structure Known (system : System) : Prop where
  /-- Whoever has read the row of an ended session knows it, or will notice. -/
  since : ∀ (a : Nat) (actor : Actor) (tx : Tx) (row : Row), system.actors[a]? = some actor →
    actor.tx = some tx → system.row = some row → row.state.terminal = true →
    tx.first.terminal = true ∨ tx.ended = true
  fits : ∀ (a : Nat) (actor : Actor) (tx : Tx), system.actors[a]? = some actor →
    actor.tx = some tx → tx.Fits actor.point
  right : ∀ row, system.row = some row → row.state ≠ .error

section Steps

variable {system after : System}

-- What is known is about transactions and the row, and neither is touched.
theorem known_goes {started : Prop} (goes : Goes started system after) (known : Known system) :
    Known after := by
  have old : ∀ (b : Nat) (new : Actor) (tx : Tx), after.actors[b]? = some new →
      new.tx = some tx → ∃ old, system.actors[b]? = some old ∧ old.tx = some tx ∧
        (old.point.ending → new.point = old.point) := by
    intro b new tx found holds
    cases there : system.actors[b]? with
    | none =>
        rw [(goes.fresh b new found there).1] at holds
        cases holds
    | some old =>
        obtain ⟨other, here, moves⟩ := goes.moved b old there
        rw [found] at here
        cases here
        refine ⟨old, rfl, ?_, ?_⟩
        · rcases moves.tx with same | gone
          · rw [← same]
            exact holds
          · rw [gone] at holds
            cases holds
        · intro ending
          rcases moves.ending ending with same | gone
          · exact same
          · rw [gone] at holds
            cases holds
  refine ⟨?_, ?_, ?_⟩
  · intro b new tx row found holds here terminal
    obtain ⟨before, there, held, _⟩ := old b new tx found holds
    rw [goes.row] at here
    exact known.since b before tx row there held here terminal
  · intro b new tx found holds
    obtain ⟨before, there, held, same⟩ := old b new tx found holds
    obtain ⟨close, state⟩ := known.fits b before tx there held
    refine ⟨?_, state⟩
    intro job
    obtain ⟨ending, writes⟩ := close job
    rw [same ending]
    exact ⟨ending, writes⟩
  · intro row here
    rw [goes.row] at here
    exact known.right row here

theorem known_put {a : Nat} {actor : Actor} (known : Known system)
    (since : ∀ tx row, actor.tx = some tx → system.row = some row → row.state.terminal = true →
      tx.first.terminal = true ∨ tx.ended = true)
    (fits : ∀ tx, actor.tx = some tx → tx.Fits actor.point) : Known (system.put a actor) := by
  have cases' (b : Nat) (new : Actor) (found : (system.put a actor).actors[b]? = some new) :
      new = actor ∨ system.actors[b]? = some new :=
    (Positions.set_some found).imp And.right And.right
  refine ⟨?_, ?_, known.right⟩
  · intro b new tx row found holds here terminal
    rcases cases' b new found with rfl | was
    · exact since tx row holds here terminal
    · exact known.since b new tx row was holds here terminal
  · intro b new tx found holds
    rcases cases' b new found with rfl | was
    · exact fits tx holds
    · exact known.fits b new tx was holds

theorem goes_say {started : Prop} {a : Nat} {role : Role} {type : Option String} :
    Goes started system (system.sayIf a role type) := by
  cases type with
  | none => exact goes_actors rfl rfl rfl
  | some type => cases role <;> exact goes_emit _

theorem load_step {a : Nat} (stepped : system.step (.load a) = some after) :
    ∃ actor row next, system.actors[a]? = some actor ∧ actor.role.cancelled = false ∧
      system.row = some row ∧ actor.point.loads = some next ∧
      after = system.put a { actor with point := next.2, tx := some (.load next.1 row) } := by
  simp only [System.step] at stepped
  split at stepped
  · rename_i actor row active here
    obtain ⟨found, live⟩ := active_some active
    obtain ⟨next, loads, rfl⟩ := Option.map_eq_some_iff.mp stepped
    exact ⟨actor, row, next, found, live, here, loads, rfl⟩
  · cases stepped

theorem flush_step {a : Nat} (stepped : system.step (.flush a) = some after) :
    ∃ actor tx write point event, system.actors[a]? = some actor ∧
      actor.role.cancelled = false ∧ actor.tx = some tx ∧
      actor.point.flushes = some (write, point, event) ∧
      ((write.apply tx).updated = true → system.row.isSome) ∧
      after = (system.put a { actor with point := point, tx := some (write.apply tx) }).sayIf a
        actor.role event := by
  simp only [System.step] at stepped
  split at stepped
  · rename_i actor active
    obtain ⟨found, live⟩ := active_some active
    split at stepped
    · rename_i write point event tx flushes holds
      split at stepped
      · cases stepped
      · rename_i free
        cases stepped
        refine ⟨actor, tx, write, point, event, found, live, holds, flushes, ?_, rfl⟩
        intro updated
        rw [updated] at free
        simp only [Bool.true_and, Bool.or_eq_true, not_or, Bool.not_eq_true] at free
        cases here : system.row with
        | none =>
            rw [here] at free
            exact nomatch free.1
        | some row => rfl
    · cases stepped
  · cases stepped

theorem known_load {a : Nat} (stepped : system.step (.load a) = some after)
    (known : Known system) : Known after := by
  obtain ⟨actor, row, ⟨job, next⟩, _, _, here, loads, rfl⟩ := load_step stepped
  apply known_put known
  · intro tx other holds same terminal
    cases holds
    rw [here] at same
    cases same
    exact .inl terminal
  · intro tx holds
    cases holds
    refine ⟨?_, fun same => nomatch same⟩
    intro close
    refine ⟨?_, fun state written => nomatch written⟩
    cases point : actor.point <;> rw [point] at loads <;> cases loads <;> cases close
    exact .inl rfl

theorem flushes_cases {point next : Point} {write : Write} {event : Option String}
    (flushes : point.flushes = some (write, next, event)) :
    (∃ state, write = .state state ∧ state ≠ .error ∧ ¬point.ending) ∨
      write = .note ∧ ¬point.ending ∨ write = .finish ∧ next = .closeCommit := by
  cases point <;> cases flushes <;>
    first
    | exact .inr (.inr ⟨rfl, rfl⟩)
    | exact .inr (.inl ⟨rfl, by rintro (same | same) <;> cases same⟩)
    | exact .inl ⟨_, rfl, (fun same => nomatch same), by rintro (same | same) <;> cases same⟩

theorem setState_state (tx : Tx) (state : State) : (tx.setState state).state = tx.state ∨
    (tx.setState state).state = some state := by
  unfold Tx.setState
  dsimp only
  split
  · exact .inl rfl
  · exact .inr rfl

theorem apply_keeps (write : Write) (tx : Tx) : (write.apply tx).job = tx.job ∧
    (write.apply tx).first = tx.first ∧ (write.apply tx).ended = tx.ended := by
  cases write with
  | state value => exact ⟨rfl, rfl, rfl⟩
  | note => exact ⟨rfl, rfl, rfl⟩
  | finish =>
      simp only [Write.apply]
      split
      · exact ⟨rfl, rfl, rfl⟩
      · exact ⟨rfl, rfl, rfl⟩

theorem fits_flush {point next : Point} {write : Write} {event : Option String} {tx : Tx}
    (flushes : point.flushes = some (write, next, event)) (fits : tx.Fits point) :
    (write.apply tx).Fits next := by
  have job := (apply_keeps write tx).1
  rcases flushes_cases flushes with ⟨state, rfl, right, going⟩ | ⟨rfl, going⟩ | ⟨rfl, rfl⟩
  · refine ⟨fun close => absurd (fits.close (job ▸ close)).1 going, ?_⟩
    rcases setState_state tx state with same | same
    · exact same ▸ fits.state
    · intro wrong
      rw [Write.apply, same] at wrong
      exact right (Option.some.inj wrong)
  · exact ⟨fun close => absurd (fits.close (job ▸ close)).1 going, fits.state⟩
  · have states : ∀ value, (Write.finish.apply tx).state = some value →
        tx.state = some value ∨ value = .completed := by
      intro value written
      simp only [Write.apply] at written
      split at written
      · exact .inl written
      · rcases setState_state tx .completed with same | same
        · rw [same] at written
          exact .inl written
        · rw [same] at written
          exact .inr (Option.some.inj written).symm
    constructor
    · intro close
      refine ⟨.inr rfl, ?_⟩
      intro value written
      rcases states value written with old | new
      · exact (fits.close (job ▸ close)).2 value old
      · exact new
    · intro wrong
      rcases states .error wrong with old | new
      · exact fits.state old
      · cases new

theorem known_flush {a : Nat} (stepped : system.step (.flush a) = some after)
    (known : Known system) : Known after := by
  obtain ⟨actor, tx, write, point, event, found, _, holds, flushes, _, rfl⟩ := flush_step stepped
  apply @known_goes _ _ True goes_say
  apply known_put known
  · intro written row same here terminal
    cases same
    obtain ⟨_, first, ended⟩ := apply_keeps write tx
    rw [first, ended]
    exact known.since a actor tx row found holds here terminal
  · intro written same
    cases same
    exact fits_flush flushes (known.fits a actor tx found holds)

theorem rowAfter_some {tx : Tx} {row : Row} (found : system.rowAfter tx = some row) :
    ∃ old, system.row = some old ∧ row.state = tx.state.getD old.state ∧
      row.turns = tx.turns.getD old.turns := by
  obtain ⟨old, here, rfl⟩ := Option.map_eq_some_iff.mp found
  exact ⟨old, here, rfl, rfl⟩

theorem commit_actor {a b : Nat} {tx : Tx} {actor : Actor}
    (found : (system.commit a tx).actors[b]? = some actor) :
    ∃ old, system.actors[b]? = some old ∧ actor.role = old.role ∧ actor.point = old.point ∧
      (actor.tx = none ∨ b ≠ a ∧ actor.tx = old.tx.map (Tx.after · tx.ends)) := by
  simp only [System.commit, List.getElem?_mapIdx, Option.map_eq_some_iff] at found
  obtain ⟨old, there, rfl⟩ := found
  refine ⟨old, there, ?_⟩
  split
  · exact ⟨rfl, rfl, .inl rfl⟩
  · rename_i other
    exact ⟨rfl, rfl, .inr ⟨other, rfl⟩⟩

-- Whoever has an open transaction notices the commit of another one that ends the session.
theorem known_committed {a : Nat} {actor : Actor} {tx : Tx}
    (found : system.actors[a]? = some actor) (holds : actor.tx = some tx) (known : Known system) :
    Known (system.commit a tx) := by
  have fits := known.fits a actor tx found holds
  have old : ∀ (b : Nat) (other : Actor) (own : Tx), (system.commit a tx).actors[b]? = some other →
      other.tx = some own → ∃ before was, system.actors[b]? = some before ∧
        before.tx = some was ∧ other.point = before.point ∧ own = was.after tx.ends := by
    intro b other own there has
    obtain ⟨before, was, _, point, gone | ⟨_, same⟩⟩ := commit_actor there
    · rw [gone] at has
      cases has
    · rw [has] at same
      obtain ⟨earlier, had, rfl⟩ := Option.map_eq_some_iff.mp same.symm
      exact ⟨before, earlier, was, had, point, rfl⟩
  refine ⟨?_, ?_, ?_⟩
  · intro b other own row there has here terminal
    obtain ⟨before, was, there', had, _, rfl⟩ := old b other own there has
    obtain ⟨row', here', state, _⟩ := rowAfter_some here
    cases written : tx.state with
    | none =>
        rw [written, Option.getD_none] at state
        rcases known.since b before was row' there' had here' (state ▸ terminal) with first | ended
        · exact .inl first
        · exact .inr (by simp [Tx.after, ended])
    | some value =>
        rw [written, Option.getD_some] at state
        right
        simp [Tx.after, Tx.ends, written, ← state, terminal]
  · intro b other own there has
    obtain ⟨before, was, there', had, point, rfl⟩ := old b other own there has
    rw [point]
    obtain ⟨close, state⟩ := known.fits b before was there' had
    exact ⟨close, state⟩
  · intro row here
    obtain ⟨row', here', state, _⟩ := rowAfter_some here
    cases written : tx.state with
    | none =>
        rw [written, Option.getD_none] at state
        rw [state]
        exact known.right row' here'
    | some value =>
        rw [written, Option.getD_some] at state
        rw [state]
        intro wrong
        exact fits.state (by rw [written, wrong])

theorem commit_step {a : Nat} (stepped : system.step (.commit a) = some after) :
    ∃ actor tx point event, system.actors[a]? = some actor ∧ actor.tx = some tx ∧
      actor.point.commits actor.role.answered = some (point, event) ∧
      after = ((system.commit a tx).put a { actor with
        point := if actor.role.cancelled then .done else point, tx := none }).sayIf a actor.role
          event := by
  simp only [System.step] at stepped
  split at stepped
  · rename_i actor found
    split at stepped
    · rename_i point event tx commits holds
      cases stepped
      exact ⟨actor, tx, point, event, found, holds, commits, rfl⟩
    · cases stepped
  · cases stepped

theorem known_step (label : Label) (stepped : system.step label = some after)
    (known : Known system) : Known after := by
  cases label with
  | load a => exact known_load stepped known
  | flush a => exact known_flush stepped known
  | commit a =>
      obtain ⟨actor, tx, point, event, found, holds, _, rfl⟩ := commit_step stepped
      apply @known_goes _ _ True goes_say
      apply known_put (known_committed found holds known)
      · intro own row same
        cases same
      · intro own same
        cases same
  | delete =>
      simp only [System.step] at stepped
      split at stepped
      · cases stepped
      · cases stepped
        exact ⟨fun _ _ _ _ _ _ here => (nomatch here), known.fits, fun _ here => nomatch here⟩
  | _ => exact known_goes (goes_step (by trivial) stepped) known

theorem known_start : Known start := by
  refine ⟨?_, ?_, ?_⟩
  · intro a actor tx row found
    cases found
  · intro a actor tx found
    cases found
  · intro row here
    cases here
    exact fun same => nomatch same

theorem row_say {a : Nat} {role : Role} {type : Option String} :
    (system.sayIf a role type).row = system.row := (@goes_say system True a role type).row

theorem row_flush {a : Nat} (stepped : system.step (.flush a) = some after) :
    after.row = system.row := by
  obtain ⟨actor, tx, write, point, event, _, _, _, _, _, rfl⟩ := flush_step stepped
  exact row_say

theorem terminal_kept {label : Label} {row row' : Row} (known : Known system)
    (met : OnOpen system label) (stepped : system.step label = some after)
    (here : system.row = some row) (terminal : row.state.terminal = true)
    (here' : after.row = some row') : row'.state = row.state := by
  have kept (same : after.row = system.row) : row'.state = row.state := by
    rw [same, here] at here'
    rw [Option.some.inj here']
  cases label with
  | load a =>
      simp only [System.step] at stepped
      split at stepped
      · obtain ⟨_, _, rfl⟩ := Option.map_eq_some_iff.mp stepped
        exact kept rfl
      · cases stepped
  | flush a => exact kept (row_flush stepped)
  | commit a =>
      obtain ⟨actor, tx, point, event, found, holds, _, rfl⟩ := commit_step stepped
      rw [row_say] at here'
      obtain ⟨old, there, state, _⟩ := rowAfter_some here'
      rw [here] at there
      cases there
      rw [state]
      cases written : tx.state with
      | none => rfl
      | some value =>
          rw [Option.getD_some]
          by_cases close : tx.job = .close
          · -- A session that has been ended is not ended otherwise.
            have completed := ((known.fits a actor tx found holds).close close).2 value written
            have right := known.right row here
            simp only [State.terminal, Bool.or_eq_true, decide_eq_true_eq] at terminal
            rcases terminal with same | wrong
            · rw [completed, same]
            · exact absurd wrong right
          · obtain ⟨first, ended⟩ := met actor tx found holds close
              (by rw [written]; exact fun same => nomatch same)
            rcases known.since a actor tx row found holds here terminal with was | since
            · rw [first] at was
              cases was
            · rw [ended] at since
              cases since
  | delete =>
      simp only [System.step] at stepped
      split at stepped
      · cases stepped
      · cases stepped
        cases here'
  | _ => exact kept (goes_step (by trivial) stepped).row

end Steps

/-- In every run whose commits read an open session that stayed open, the next step too
leaves a session in the terminal state that it has reached. -/
theorem ended_session_stays {system after : System} {label : Label} {row row' : Row}
    (run : History System.step OnOpen start system) (met : OnOpen system label)
    (stepped : system.step label = some after) (here : system.row = some row)
    (terminal : row.state.terminal = true) (here' : after.row = some row') :
    row'.state = row.state := by
  have known : Known system := run.keeps Known known_start
    fun _ label _ _ stepped known => known_step label stepped known
  exact terminal_kept known met stepped here terminal here'

/-- `OnOpen`, computed. -/
def onOpen (system : System) : Label → Bool
  | .commit a => (system.actors[a]?).all fun actor => actor.tx.all fun tx =>
      tx.job = .close || tx.state.isNone || (!tx.first.terminal && !tx.ended)
  | _ => true

theorem onOpen_sound (system : System) (label : Label) (meets : onOpen system label = true) :
    OnOpen system label := by
  cases label with
  | commit a =>
      intro actor tx found holds job state
      simp only [onOpen, found, Option.all_some, holds, Bool.or_eq_true, decide_eq_true_eq,
        Bool.and_eq_true, Bool.not_eq_true'] at meets
      rcases meets with (close | unwritten) | opened
      · exact absurd close job
      · exact absurd (Option.isNone_iff_eq_none.mp unwritten) state
      · exact opened
  | _ => trivial

def opens (a : Nat) : List Label := [.connect, .load a, .flush a, .commit a]

def closedTwice : List Label :=
  opens 0 ++ opens 1 ++ [.received 0 .disconnect, .load 0, .flush 0, .commit 0,
    .received 1 (.control "SESSION_END"), .load 1, .flush 1]

def endedOnce : System := (replay System.step onOpen start closedTwice).getD start

theorem ended_session_stays_twice : ∃ (system after : System) (row' : Row),
    system.step (.commit 1) = some after ∧ system.row = some ⟨.completed, 0⟩ ∧
    after.row = some row' ∧ row'.state = .completed := by
  have run : History System.step OnOpen start endedOnce :=
    history_replay onOpen_sound closedTwice rfl
  have met : OnOpen endedOnce (.commit 1) := onOpen_sound _ _ rfl
  exact ⟨endedOnce, _, _, rfl, rfl, rfl, ended_session_stays run met rfl rfl rfl rfl⟩

def thinks (t : Nat) : List Label :=
  [.load t, .flush t, .transcribed t (some "What time is it?"), .flush t, .flush t,
    .agentEvent t (.completed "It is noon."), .agentEnds t, .commit t]

def answers (t : Nat) : List Label :=
  [.load t, .flush t, .synthesized t none, .flush t, .flush t]

def leaves : List Label :=
  opens 0 ++ [.received 0 (.audio 640), .received 0 (.control "AUDIO_END")] ++ thinks 1 ++
    [.received 0 .disconnect, .load 0, .flush 0, .commit 0] ++ answers 1

theorem late_turn_reopens : ∃ (system after : System) (row row' : Row),
    History System.step (fun _ _ => True) start system ∧ system.step (.commit 1) = some after ∧
    system.row = some row ∧ row.state = .completed ∧ after.row = some row' ∧
    row'.state = .listening := by
  have run := @history_replay _ _ System.step (fun _ _ => true) (fun _ _ => True)
    (fun _ _ _ => trivial) start _ leaves rfl
  exact ⟨_, _, _, _, run, rfl, rfl, rfl, rfl, rfl⟩

end AiPlatform.Voice
