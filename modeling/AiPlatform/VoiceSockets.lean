import AiPlatform.Histories

/-!
One voice session: the sockets of `api/voice_ws.py` that are opened for it, the tasks of
their turns, and `services/voice.py` on its row. A socket's coroutine reads frames while
its turns run; each opens database sessions of its own, under READ COMMITTED. The row is
written by a flush, which waits for a row that another transaction has written, and seen
by others after the commit.
-/

namespace AiPlatform.Voice

/-- `VoiceSessionState` -/
inductive State
  | created | listening | transcribing | thinking | toolExecution | generating | synthesizing
  | speaking | interrupted | completed | error
  deriving DecidableEq

/-- `TERMINAL_VOICE_STATES` -/
def State.terminal (state : State) : Bool := state = .completed || state = .error

structure Row where
  state : State
  turns : Nat

inductive Job
  | connect | turn | interrupt | close
  deriving DecidableEq

/-- A transaction with its copy of the row, what it has written and the numbers of the
messages it has added; the state that it read, and whether the session has been ended by
another one since. -/
structure Tx where
  job : Job
  first : State
  ended : Bool
  now : Row
  state : Option State
  turns : Option Nat
  messages : List Nat
  updated : Bool

namespace Tx

def load (job : Job) (row : Row) : Tx := ⟨job, row.state, false, row, none, none, [], false⟩

/-- `set_state`: the column is written if it changes, `last_activity_at` in any case. -/
def setState (tx : Tx) (state : State) : Tx :=
  { tx with
    now := { tx.now with state := state }
    state := if tx.now.state = state then tx.state else some state
    updated := true }

/-- `record_message` -/
def note (tx : Tx) : Tx :=
  { tx with
    now := { tx.now with turns := tx.now.turns + 1 }
    turns := some (tx.now.turns + 1)
    messages := tx.messages ++ [tx.now.turns + 1]
    updated := true }

def ends (tx : Tx) : Bool := tx.state.any State.terminal

end Tx

def Tx.after (tx : Tx) (ends : Bool) : Tx := { tx with ended := tx.ended || ends }

inductive Point
  | opening | toOpen | openCommit | receiving
  | interrupting | toInterrupted | toResume | interruptCommit
  | closing | toEnd | closeCommit
  | hearing | toTranscribe | stt | toNote | toThink | agent | toTool | toListen | hearCommit
  | answering | toSynthesize | tts | toSpeak (frames : Nat) | frames (left : Nat) | toNoteAnswer
  | toFinish | speakCommit
  | done
  deriving DecidableEq

inductive Role
  | socket (audio : Nat) (interrupted : Bool) (turn : Option Nat)
  | turn (socket : Nat) (answer : Option String) (cancelled : Bool)

structure Actor where
  role : Role
  point : Point
  tx : Option Tx

/-- What is sent: an event of the handler, an event or audio of a turn, and
`ASSISTANT_INTERRUPTED` with the turns that are running then. -/
inductive Output
  | event (type : String)
  | ofTurn (turn : Nat) (type : String)
  | audio (turn : Nat)
  | interrupted (running : List Nat)

inductive Frame
  | audio (bytes : Nat)
  /-- A text that is no JSON. -/
  | malformed
  /-- A control message, by its type in upper case. -/
  | control (kind : String)
  | disconnect

inductive AgentEvent
  | toolRequested | toolExecuted | approvalRequired | completed (output : String) | failed | other

structure System where
  row : Option Row
  messages : List Nat
  actors : List Actor
  sent : List Output

/-- The session as `create` leaves it. -/
def start : System := ⟨some ⟨.created, 0⟩, [], [], []⟩

def maxUtteranceBytes : Nat := 16000 * 2 * 300

def audioFrameBytes : Nat := 32000

def Point.loads : Point → Option (Job × Point)
  | .opening => some (.connect, .toOpen)
  | .interrupting => some (.interrupt, .toInterrupted)
  | .closing => some (.close, .toEnd)
  | .hearing => some (.turn, .toTranscribe)
  | .answering => some (.turn, .toSynthesize)
  | _ => none

inductive Write
  | state (state : State)
  | note
  /-- `end` with `COMPLETED`. -/
  | finish

def Point.flushes : Point → Option (Write × Point × Option String)
  | .toOpen => some (.state .listening, .openCommit, none)
  | .toInterrupted => some (.state .interrupted, .toResume, none)
  | .toResume => some (.state .listening, .interruptCommit, none)
  | .toEnd => some (.finish, .closeCommit, none)
  | .toTranscribe => some (.state .transcribing, .stt, none)
  | .toNote => some (.note, .toThink, none)
  | .toThink => some (.state .thinking, .agent, some "AGENT_STARTED")
  | .toTool => some (.state .toolExecution, .agent, some "TOOL_STARTED")
  | .toListen => some (.state .listening, .hearCommit, none)
  | .toSynthesize => some (.state .synthesizing, .tts, none)
  | .toSpeak count => some (.state .speaking, .frames count, some "AUDIO_START")
  | .toNoteAnswer => some (.note, .toFinish, none)
  | .toFinish => some (.state .listening, .speakCommit, none)
  | _ => none

def Point.commits (answered : Bool) : Point → Option (Point × Option String)
  | .openCommit => some (.receiving, some "SESSION_STARTED")
  | .interruptCommit => some (.receiving, none)
  | .closeCommit => some (.done, none)
  | .hearCommit => some (if answered then .answering else .done, none)
  | .speakCommit => some (.done, none)
  | _ => none

def Role.cancelled : Role → Bool
  | .turn _ _ cancelled => cancelled
  | .socket .. => false

def Role.answered : Role → Bool
  | .turn _ answer _ => answer.isSome
  | .socket .. => false

def Role.cancel : Role → Role
  | .turn owner answer _ => .turn owner answer true
  | role => role

namespace System

def active (system : System) (a : Nat) : Option Actor :=
  (system.actors[a]?).filter fun actor => !actor.role.cancelled

def put (system : System) (a : Nat) (actor : Actor) : System :=
  { system with actors := system.actors.set a actor }

def emit (system : System) (output : Output) : System :=
  { system with sent := system.sent ++ [output] }

def say (system : System) (a : Nat) (role : Role) (type : String) : System :=
  match role with
  | .socket .. => system.emit (.event type)
  | .turn .. => system.emit (.ofTurn a type)

def sayIf (system : System) (a : Nat) (role : Role) : Option String → System
  | some type => system.say a role type
  | none => system

def locked (system : System) (a : Nat) : Bool :=
  (List.range system.actors.length).any fun b =>
    b ≠ a && ((system.actors[b]?).bind Actor.tx).any Tx.updated

def flagged (system : System) (socket : Nat) : Bool :=
  match (system.actors[socket]?).map Actor.role with
  | some (.socket _ interrupted _) => interrupted
  | _ => false

def running (system : System) (a : Nat) : Bool :=
  (system.actors[a]?).any fun actor =>
    actor.point ≠ .done && match actor.role with
      | .turn .. => true
      | .socket .. => false

def runningTurns (system : System) : List Nat :=
  (List.range system.actors.length).filter system.running

def rowAfter (system : System) (tx : Tx) : Option Row :=
  system.row.map fun row => ⟨tx.state.getD row.state, tx.turns.getD row.turns⟩

def commit (system : System) (a : Nat) (tx : Tx) : System :=
  { system with
    row := system.rowAfter tx
    messages := system.messages ++ tx.messages
    actors := system.actors.mapIdx fun b actor =>
      if b = a then { actor with tx := none }
      else { actor with tx := actor.tx.map (Tx.after · tx.ends) } }

end System

def Write.apply (tx : Tx) : Write → Tx
  | .state value => tx.setState value
  | .note => tx.note
  | .finish => if tx.now.state.terminal then tx else tx.setState .completed

inductive Label
  /-- A socket is opened for the session, with a token that is valid. -/
  | connect
  | load (a : Nat)
  | flush (a : Nat)
  | commit (a : Nat)
  /-- Anything is raised, a cancellation included. -/
  | raises (a : Nat)
  | received (s : Nat) (frame : Frame)
  /-- The transcript, or a failure. -/
  | transcribed (t : Nat) (transcript : Option String)
  | agentEvent (t : Nat) (event : AgentEvent)
  | agentEnds (t : Nat)
  /-- The length of the audio, or a failure. -/
  | synthesized (t : Nat) (bytes : Option Nat)
  | frame (t : Nat)
  /-- `DELETE` of the session. -/
  | delete

namespace System

def receive (system : System) (s : Nat) (actor : Actor) (audio : Nat) (interrupted : Bool)
    (turn : Option Nat) : Frame → System
  | .audio bytes =>
      if audio + bytes > maxUtteranceBytes then
        (system.put s { actor with role := .socket 0 interrupted turn }).emit (.event "ERROR")
      else system.put s { actor with role := .socket (audio + bytes) interrupted turn }
  | .malformed => system.emit (.event "ERROR")
  | .control "AUDIO_START" =>
      (system.put s { actor with role := .socket 0 false turn }).emit (.event "LISTENING_STARTED")
  | .control "AUDIO_END" =>
      if audio = 0 then system.emit (.event "ERROR")
      else
        let t := system.actors.length
        let started := system.put s { actor with role := .socket 0 interrupted (some t) }
        { started with actors := started.actors ++ [⟨.turn s none false, .hearing, none⟩] }
  | .control "INTERRUPT" =>
      let running := system.runningTurns
      let flagged := system.put s
        { actor with role := .socket audio true turn, point := .interrupting }
      let cancelled := match turn with
        | some t =>
            if running.contains t then
              { flagged with actors := flagged.actors.modify t fun turn =>
                  { turn with role := turn.role.cancel } }
            else flagged
        | none => flagged
      cancelled.emit (.interrupted running)
  | .control "SESSION_END" | .disconnect => system.put s { actor with point := .closing }
  | .control _ => system.emit (.event "ERROR")

def turnAt (system : System) (t : Nat) (point : Point) : Option (Nat × Option String × Actor) :=
  (system.active t).bind fun actor =>
    match actor.role with
    | .turn socket answer _ => if actor.point = point then some (socket, answer, actor) else none
    | .socket .. => none

/-- The end of `_think`, before its commit. -/
def thought (system : System) (t : Nat) (actor : Actor) (answer : Option String) : System :=
  let after := system.put t { actor with point := .hearCommit }
  if answer.any (· ≠ "") then after.emit (.ofTurn t "RESPONSE_TEXT_FINAL") else after

def step (system : System) : Label → Option System
  | .connect =>
      some { system with actors := system.actors ++ [⟨.socket 0 false none, .opening, none⟩] }
  | .load a =>
      match system.active a, system.row with
      | some actor, some row =>
          actor.point.loads.map fun next =>
            system.put a { actor with point := next.2, tx := some (.load next.1 row) }
      | _, _ => none
  | .flush a =>
      match system.active a with
      | some actor =>
          match actor.point.flushes, actor.tx with
          | some (write, point, event), some tx =>
              let written := write.apply tx
              -- Nothing is written only where the session has ended already.
              if written.updated && (system.row.isNone || system.locked a) then none
              else some ((system.put a { actor with point := point, tx := some written }).sayIf a
                actor.role event)
          | _, _ => none
      | none => none
  | .commit a =>
      match system.actors[a]? with
      | some actor =>
          match actor.point.commits actor.role.answered, actor.tx with
          | some (point, event), some tx =>
              -- The cancellation of a task may find its commit made.
              let point := if actor.role.cancelled then .done else point
              some (((system.commit a tx).put a { actor with point := point, tx := none }).sayIf a
                actor.role event)
          | _, _ => none
      | none => none
  | .raises a =>
      match system.actors[a]? with
      | some actor =>
          match actor.role, actor.point with
          | _, .done => none
          | .socket .., .closing | .socket .., .toEnd | .socket .., .closeCommit =>
              some (system.put a { actor with point := .done, tx := none })
          | .socket .., _ =>
              some ((system.put a { actor with point := .closing, tx := none }).emit
                (.event "ERROR"))
          | .turn _ _ cancelled, _ =>
              let ended := system.put a { actor with point := .done, tx := none }
              some (if cancelled then ended else ended.emit (.ofTurn a "ERROR"))
      | none => none
  | .received s frame =>
      match system.actors[s]? with
      | some actor =>
          match actor.role, actor.point with
          | .socket audio interrupted turn, .receiving =>
              some (system.receive s actor audio interrupted turn frame)
          | _, _ => none
      | none => none
  | .transcribed t transcript =>
      (system.turnAt t .stt).map fun (_, _, actor) =>
        match transcript with
        | none | some "" => (system.put t { actor with point := .toListen }).emit (.ofTurn t "ERROR")
        | some _ =>
            (system.put t { actor with point := .toNote }).emit (.ofTurn t "TRANSCRIPT_FINAL")
  | .agentEvent t event =>
      (system.turnAt t .agent).map fun (socket, answer, actor) =>
        if system.flagged socket then system.thought t actor answer
        else
          match event with
          | .toolRequested => system.put t { actor with point := .toTool }
          | .toolExecuted => system.emit (.ofTurn t "TOOL_COMPLETED")
          | .approvalRequired => system.emit (.ofTurn t "APPROVAL_REQUIRED")
          | .completed output => system.put t { actor with role := .turn socket (some output) false }
          | .failed => system.emit (.ofTurn t "ERROR")
          | .other => system
  | .agentEnds t =>
      (system.turnAt t .agent).map fun (_, answer, actor) => system.thought t actor answer
  | .synthesized t bytes =>
      (system.turnAt t .tts).map fun (_, _, actor) =>
        match bytes with
        | none =>
            (system.put t { actor with point := .toNoteAnswer }).emit (.ofTurn t "AUDIO_UNAVAILABLE")
        | some bytes =>
            let frames := (bytes + audioFrameBytes - 1) / audioFrameBytes
            system.put t { actor with point := .toSpeak frames }
  | .frame t =>
      match system.active t with
      | some actor =>
          match actor.role, actor.point with
          | .turn socket _ _, .frames left =>
              if left = 0 || system.flagged socket then
                some ((system.put t { actor with point := .toNoteAnswer }).emit
                  (.ofTurn t "AUDIO_END"))
              else some ((system.put t { actor with point := .frames (left - 1) }).emit (.audio t))
          | _, _ => none
      | none => none
  | .delete =>
      if system.row.isNone || system.locked system.actors.length then none
      else some { system with row := none, messages := [] }

end System

end AiPlatform.Voice
