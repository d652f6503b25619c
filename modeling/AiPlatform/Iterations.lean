import AiPlatform.AgentPrograms

/-!
The turns of the loop over one run. A meter keeps of a session what its turns depend
on: the run it tracks, how many requests to the model its events announce, and how many
of these were answered. The number of the turn is assigned to the run, announced by an
event and only then is the model asked, so the three counts are apart by at most one.
-/

namespace AiPlatform.Agents

def announcements (events : List AgentRunEvent) : Nat :=
  events.countP fun event => event.type = .llmRequest

def RunAssignment.iteration? : RunAssignment → Option Nat
  | .iterations count => some count
  | .state _ | .tokens _ _ | .suspended _ | .completed _ | .failed _ => none

def lastIteration (assigned : List RunAssignment) : Option Nat :=
  assigned.foldl (fun last assignment => assignment.iteration?.or last) none

theorem lastIteration_append (assigned : List RunAssignment) (assignment : RunAssignment) :
    lastIteration (assigned ++ [assignment]) =
      assignment.iteration?.or (lastIteration assigned) := by
  simp [lastIteration, List.foldl_append]

theorem apply_iterations (assignment : RunAssignment) (run : AgentRun) :
    (assignment.apply run).iterations = assignment.iteration?.getD run.iterations := by
  cases assignment <;> rfl

theorem replay_iterations (assigned : List RunAssignment) (run : AgentRun) :
    (Tracked.replay (T := runTable) assigned run).iterations =
      (lastIteration assigned).getD run.iterations := by
  induction assigned using List.reverseRecOn with
  | nil => rfl
  | append_singleton rest assignment ih =>
      rw [Tracked.replay_append, lastIteration_append]
      change (assignment.apply _).iterations = _
      rw [apply_iterations, ih]
      cases assignment.iteration? <;> rfl

/-- The turn that a run goes on behind: `checkpoint.get("iteration", 0)`. -/
def startIteration (run : AgentRun) : Nat :=
  (run.checkpoint.suspension.map (·.iteration)).getD 0

def iterationLimit (run : AgentRun) : Nat := (specFromCheckpoint run.checkpoint).maxIterations

structure Meter where
  /-- The budget of the version that was read. -/
  limit : Option Nat
  run : Option (Tracked runTable)
  announced : Nat
  answered : Nat

namespace Meter

def of (session : Session) (answered : Nat) : Meter where
  limit := session.version.map (·.maxIterations)
  run := session.run
  announced := announcements session.events
  answered := answered

def announces : Op → Nat
  | .writeEvent event => if event.type = .llmRequest then 1 else 0
  | _ => 0

def answers : Op → Nat
  | .chat _ _ _ _ => 1
  | _ => 0

def inFlight : Op → Nat
  | .deliver event => if event.type = .llmRequest then 1 else 0
  | .chat _ _ _ _ => 1
  | _ => 0

def after (meter : Meter) : (op : Op) → Reply op → Meter
  | .getCurrentVersion _, some version => { meter with limit := some version.maxIterations }
  | .getRun _, some run => { meter with run := meter.run.or (some (.load run)) }
  | .addRun _, run => { meter with run := some (.insert run) }
  | .assignRun assignment, _ => { meter with run := meter.run.map (·.assign assignment) }
  | op, _ => { meter with
      announced := meter.announced + announces op, answered := meter.answered + answers op }

def trusted (meter : Meter) : (op : Op) → Reply op → Prop
  | .getRun _, reply => ∀ tracked, meter.run = some tracked → reply = some tracked.row
  | .addRun draft, reply => ∃ id, reply = { draft with id := id }
  | _, _ => True

theorem of_after (session : Session) (answered : Nat) (op : Op) (reply : Reply op) :
    Meter.of (session.after op reply) (answered + answers op) =
      (Meter.of session answered).after op reply := by
  cases op with
  | getCurrentVersion agentId => cases reply <;> rfl
  | getRun runId =>
      cases reply with
      | none => rfl
      | some run => cases found : session.run <;> simp [Session.after, Meter.of, Meter.after, found, answers]
  | getToolByName name => cases reply <;> rfl
  | writeEvent event =>
      simp [Session.after, Session.flushed, Meter.of, Meter.after, announcements, announces, answers,
        List.countP_append]
  | raise error => cases reply
  | _ => rfl

theorem trusted_of {session : Session} (answered : Nat) {op : Op} {reply : Reply op}
    (trusted : session.trusted op reply) : (Meter.of session answered).trusted op reply := by
  cases op with
  | getRun runId =>
      intro tracked found
      have held : session.run = some tracked := found
      simp only [Session.trusted, held] at trusted
      exact trusted.2
  | addRun draft => exact trusted
  | _ => trivial

structure Level (tracked : Tracked runTable) (turns : Nat) : Prop where
  last : lastIteration tracked.assigned =
    if turns = 0 then none else some (startIteration tracked.original + turns)
  within : turns ≠ 0 →
    startIteration tracked.original + turns ≤ iterationLimit tracked.original
  resumed : turns ≠ 0 → tracked.inserted = false → lastState tracked.assigned ≠ none
  paused : ∀ checkpoint, .suspended checkpoint ∈ tracked.assigned →
    ∃ suspension, checkpoint.suspension = some suspension ∧
      suspension.iteration = startIteration tracked.original + turns

structure StartsRun (meter : Meter) (draft : AgentRun) : Prop where
  announced : meter.announced = 0
  iterations : draft.iterations = 0
  suspension : draft.checkpoint.suspension = none
  spec : ∃ spec, draft.checkpoint.spec = some spec ∧ meter.limit = some spec.maxIterations

structure MayPerform (meter : Meter) (op : Op) : Prop where
  counts : meter.announced = meter.answered + inFlight op
  level : ∀ tracked, meter.run = some tracked → Level tracked (meter.announced + announces op)
  starts : ∀ draft, op = .addRun draft → StartsRun meter draft

end Meter

abbrev meterProtocol : Protocol agentSignature Meter :=
  ⟨Meter.MayPerform, Meter.trusted, Meter.after⟩

abbrev Metered {α : Type} (program : AgentProgram α) (meter : Meter) (post : α → Meter → Prop) :
    Prop :=
  meterProtocol.Follows program meter post

structure Meter.Steady (meter : Meter) : Prop where
  counts : meter.announced = meter.answered
  level : ∀ tracked, meter.run = some tracked → Meter.Level tracked meter.announced
  bare : meter.run = none → meter.announced = 0

def Quiet : Op → Prop
  | .getCurrentVersion _ | .getRun _ | .addRun _ | .assignRun _ | .chat _ _ _ _ => False
  | .writeEvent event => event.type ≠ .llmRequest
  | .deliver event => event.type ≠ .llmRequest
  | _ => True

section Quiet

variable {meter : Meter} {op : Op}

theorem quiet_counts (quiet : Quiet op) :
    Meter.announces op = 0 ∧ Meter.answers op = 0 ∧ Meter.inFlight op = 0 := by
  cases op with
  | writeEvent event => exact ⟨if_neg quiet, rfl, rfl⟩
  | deliver event => exact ⟨rfl, rfl, if_neg quiet⟩
  | chat messages model temperature tools => exact quiet.elim
  | _ => exact ⟨rfl, rfl, rfl⟩

theorem quiet_after (quiet : Quiet op) (reply : Reply op) : meter.after op reply = meter := by
  obtain ⟨announces, answers, _⟩ := quiet_counts quiet
  cases op with
  | getCurrentVersion agentId => exact quiet.elim
  | getRun runId => exact quiet.elim
  | addRun draft => exact quiet.elim
  | assignRun assignment => exact quiet.elim
  | _ => simp [Meter.after, announces, answers]

theorem Meter.Steady.may (steady : meter.Steady) (announces : announces op = 0)
    (flight : inFlight op = 0) (starts : ∀ draft, op = .addRun draft → meter.StartsRun draft) :
    meter.MayPerform op := by
  refine ⟨?_, ?_, starts⟩
  · rw [flight, steady.counts]
    rfl
  · rw [announces]
    exact steady.level

theorem Meter.Steady.quiet (steady : meter.Steady) (quiet : Quiet op) : meter.MayPerform op := by
  obtain ⟨announces, _, flight⟩ := quiet_counts quiet
  refine steady.may announces flight fun draft same => ?_
  subst same
  exact quiet.elim

theorem follows_quiet {α : Type} {program : AgentProgram α} (only : program.Only Quiet)
    (steady : meter.Steady) : Metered program meter fun _ final => final = meter := by
  have allowed : ∀ other op, other = meter → Quiet op → other.MayPerform op := by
    rintro _ op rfl quiet
    exact steady.quiet quiet
  have kept : ∀ other op reply, other = meter → Quiet op → other.trusted op reply →
      other.after op reply = meter := by
    rintro _ op reply rfl quiet _
    exact quiet_after quiet reply
  exact meterProtocol.follows_only allowed kept only rfl

theorem metered_quiet {α : Type} {program : AgentProgram α} (only : program.Only Quiet)
    (steady : meter.Steady) : Metered program meter fun _ final => final.Steady := by
  refine meterProtocol.follows_mono (follows_quiet only steady) ?_
  rintro _ _ rfl
  exact steady

theorem follows_behind {α β : Type} {program : AgentProgram α} {rest : α → AgentProgram β}
    {post : β → Meter → Prop} (only : program.Only Quiet) (steady : meter.Steady)
    (next : ∀ value, Metered (rest value) meter post) : Metered (program >>= rest) meter post := by
  refine meterProtocol.follows_bind (follows_quiet only steady) fun value final same => ?_
  rw [same]
  exact next value

end Quiet

theorem quiet_request {op : Op} (quiet : Quiet op) :
    (Program.perform op Program.done : AgentProgram (Reply op)).Only Quiet :=
  ⟨quiet, fun _ => trivial⟩

theorem quiet_emit {event : RunEvent} (other : event.type ≠ .llmRequest) :
    (emit event).Only Quiet :=
  ⟨other, fun _ => ⟨other, fun _ => trivial⟩⟩

theorem quiet_emitIf (condition : Bool) {event : RunEvent} (other : event.type ≠ .llmRequest) :
    (emitIf condition event).Only Quiet := by
  cases condition with
  | false => trivial
  | true => exact Program.only_bind (quiet_emit other) fun _ => trivial

theorem quiet_retrieve (spec : AgentSpec) (context : RunContext) (conversation : List Entry)
    (sequence : Nat) : (retrieve spec context conversation sequence).Only Quiet := by
  unfold retrieve
  split
  · trivial
  · refine Program.only_bind (quiet_request trivial) fun found => ?_
    cases found with
    | error message => trivial
    | ok found =>
        refine Program.only_bind (quiet_emitIf _ (by simp)) fun searched => ?_
        exact Program.only_bind (quiet_emitIf _ (by simp)) fun recalled => trivial

theorem quiet_finish (execution : ToolExecution) (run : AgentRun) (tool : Tool)
    (result : ToolResult) : (finish execution run tool result).Only Quiet :=
  ⟨trivial, fun _ => ⟨trivial, fun _ => ⟨trivial, fun _ => trivial⟩⟩⟩

theorem quiet_executeApproved (execution : ToolExecution) (tool : Tool) (run : AgentRun) :
    (executeApproved execution tool run).Only Quiet := by
  unfold executeApproved
  split
  · refine Program.only_bind (quiet_request trivial) fun reply => ?_
    exact Program.only_bind (quiet_finish ..) fun _ => trivial
  · exact Program.only_bind (quiet_finish ..) fun _ => trivial

theorem quiet_invoke (settings : AgentSettings) (run : AgentRun) (tool : Tool) (arguments : Dict)
    (granted : List Nat) : (invoke settings run tool arguments granted).Only Quiet := by
  refine Program.only_bind (quiet_request trivial) fun execution => ?_
  split
  · exact ⟨trivial, fun _ => ⟨trivial, fun _ => ⟨trivial, fun _ => trivial⟩⟩⟩
  · split
    · exact ⟨trivial, fun _ => ⟨trivial, fun _ => ⟨trivial, fun _ => trivial⟩⟩⟩
    · refine Program.only_bind (quiet_request trivial) fun _ => ?_
      exact Program.only_bind (quiet_executeApproved ..) fun _ => trivial

structure Looping (origin : AgentRun) (turns : Nat) (meter : Meter) : Prop where
  steady : meter.Steady
  tracked : ∃ assigned fresh, meter.run = some ⟨origin, assigned, fresh⟩ ∧
    (fresh = false → lastState assigned ≠ none) ∧
    ∀ checkpoint, .suspended checkpoint ∉ assigned
  turns : turns = startIteration origin + meter.announced

section Loop

variable {meter : Meter} {origin : AgentRun} {turns : Nat} {post : Unit → Meter → Prop}

def RunAssignment.Still : RunAssignment → Prop
  | .iterations _ | .suspended _ => False
  | .state _ | .tokens _ _ | .completed _ | .failed _ => True

theorem still_iteration {assignment : RunAssignment} (still : assignment.Still) :
    assignment.iteration? = none ∧ ∀ checkpoint, assignment ≠ .suspended checkpoint := by
  cases assignment with
  | iterations count => exact still.elim
  | suspended checkpoint => exact still.elim
  | _ => exact ⟨rfl, fun _ same => by cases same⟩

theorem lastState_mono {assigned : List RunAssignment} (some : lastState assigned ≠ none)
    (assignment : RunAssignment) : lastState (assigned ++ [assignment]) ≠ none := by
  rw [lastState_append]
  cases assignment.state? with
  | none => exact some
  | some state => simp

theorem Meter.Level.assign {tracked : Tracked runTable} (level : Meter.Level tracked turns)
    {assignment : RunAssignment} (still : assignment.Still) :
    Meter.Level (tracked.assign assignment) turns := by
  obtain ⟨same, other⟩ := still_iteration still
  refine ⟨?_, level.within, ?_, ?_⟩
  · rw [Tracked.assign_assigned, lastIteration_append, same]
    exact level.last
  · intro some loaded
    exact lastState_mono (level.resumed some loaded) _
  · intro checkpoint member
    rcases List.mem_append.mp member with before | now
    · exact level.paused checkpoint before
    · exact absurd (List.mem_singleton.mp now).symm (other checkpoint)

theorem Meter.Steady.assign (steady : meter.Steady) {assignment : RunAssignment}
    (still : assignment.Still) : (meter.after (.assignRun assignment) ()).Steady := by
  refine ⟨steady.counts, ?_, ?_⟩
  · intro tracked found
    obtain ⟨before, held, rfl⟩ := Option.map_eq_some_iff.mp found
    exact (steady.level before held).assign still
  · intro none
    exact steady.bare (Option.map_eq_none_iff.mp none)

theorem Looping.assign (looping : Looping origin turns meter) {assignment : RunAssignment}
    (still : assignment.Still) :
    Looping origin turns (meter.after (.assignRun assignment) ()) := by
  obtain ⟨assigned, fresh, found, state, unpaused⟩ := looping.tracked
  refine ⟨looping.steady.assign still, ⟨assigned ++ [assignment], fresh, ?_, ?_, ?_⟩,
    looping.turns⟩
  · simp only [Meter.after, found, Option.map_some]
    rfl
  · exact fun loaded => lastState_mono (state loaded) _
  · intro checkpoint member
    rcases List.mem_append.mp member with before | now
    · exact unpaused checkpoint before
    · exact (still_iteration still).2 checkpoint (List.mem_singleton.mp now).symm

theorem follows_still {α : Type} {post : α → Meter → Prop} (steady : meter.Steady)
    {assignment : RunAssignment} {rest : Unit → AgentProgram α}
    (next : Metered (rest ()) (meter.after (.assignRun assignment) ()) post) :
    Metered (assignRun assignment >>= rest) meter post :=
  ⟨steady.may rfl rfl (fun _ same => by cases same), fun _ _ => next⟩

theorem follows_ask (looping : Looping origin turns meter) (budget : turns < iterationLimit origin)
    {event : RunEvent} (asks : event.type = .llmRequest) {messages : List ChatMessage}
    {model : String} {temperature : Rat} {tools : List Dict}
    {rest : Except String ChatCompletion → AgentProgram Unit}
    (next : ∀ reply meter, Looping origin (turns + 1) meter → Metered (rest reply) meter post) :
    Metered (do
      assignRun (.iterations (turns + 1))
      emit event
      let reply ← chat messages model temperature tools
      rest reply) meter post := by
  obtain ⟨assigned, fresh, found, state, unpaused⟩ := looping.tracked
  have steady := looping.steady
  set turned : Tracked runTable := ⟨origin, assigned ++ [.iterations (turns + 1)], fresh⟩
  have number : turns + 1 = startIteration origin + (meter.announced + 1) := by
    rw [looping.turns, Nat.add_assoc]
  have level : Meter.Level turned (meter.announced + 1) := by
    refine ⟨?_, ?_, ?_, ?_⟩
    · rw [if_neg (Nat.succ_ne_zero _), ← number]
      exact lastIteration_append ..
    · intro _
      change startIteration origin + _ ≤ _
      rw [← number]
      exact budget
    · exact fun _ loaded => lastState_mono (state loaded) _
    · intro checkpoint member
      rcases List.mem_append.mp member with before | now
      · exact absurd before (unpaused checkpoint)
      · cases List.mem_singleton.mp now
  let going (announced answered : Nat) : Meter := ⟨meter.limit, some turned, announced, answered⟩
  have may {announced answered : Nat} {op : Op} (counts : announced = answered + Meter.inFlight op)
      (turn : announced + Meter.announces op = meter.announced + 1)
      (other : ∀ draft, op ≠ .addRun draft) : (going announced answered).MayPerform op := by
    refine ⟨counts, ?_, fun draft same => absurd same (other draft)⟩
    rintro tracked same
    cases same
    exact turn ▸ level
  have writes : Meter.announces (.writeEvent (persisted event)) = 1 := if_pos asks
  have delivers : Meter.inFlight (.deliver event) = 1 := if_pos asks
  have assigns : meter.after (.assignRun (.iterations (turns + 1))) () =
      going meter.announced meter.answered := by
    simp only [Meter.after, found, Option.map_some]
    rfl
  have written : (going meter.announced meter.answered).after (.writeEvent (persisted event)) () =
      going (meter.announced + 1) meter.answered := by
    simp only [Meter.after, writes, Meter.answers, going, Nat.add_zero]
  refine ⟨steady.may rfl rfl (fun _ => nofun), fun _ _ => ?_⟩
  change Metered _ (meter.after (.assignRun (.iterations (turns + 1))) ()) _
  rw [assigns]
  refine ⟨may steady.counts (congrArg _ writes) (fun _ => nofun), fun _ _ => ?_⟩
  change Metered _ ((going meter.announced meter.answered).after (.writeEvent (persisted event)) ()) _
  rw [written]
  refine ⟨may (by rw [delivers, steady.counts]) rfl (fun _ => nofun), fun _ _ => ?_⟩
  refine ⟨may (by rw [steady.counts]; rfl) rfl (fun _ => nofun), fun reply _ => next reply _ ?_⟩
  refine ⟨⟨congrArg (· + 1) steady.counts, ?_, nofun⟩, ⟨_, fresh, rfl, ?_, ?_⟩, number⟩
  · rintro tracked same
    cases same
    exact level
  · exact fun loaded => lastState_mono (state loaded) _
  · intro checkpoint member
    rcases List.mem_append.mp member with before | now
    · exact unpaused checkpoint before
    · cases List.mem_singleton.mp now

theorem Looping.fails (looping : Looping origin turns meter) {event : RunEvent}
    (other : event.type ≠ .llmRequest) {assignment : RunAssignment} (still : assignment.Still) :
    Metered (do
      emit event
      assignRun assignment) meter fun _ final => final.Steady := by
  refine follows_behind (quiet_emit other) looping.steady fun _ => ?_
  exact ⟨looping.steady.may rfl rfl (fun _ => nofun), fun _ _ => looping.steady.assign still⟩

theorem metered_suspend (looping : Looping origin turns meter) (conversation : List Entry)
    (pendingCall : ToolCall) (sequence : Nat) :
    Metered (suspend conversation pendingCall turns sequence) meter
      fun _ final => final.Steady := by
  obtain ⟨assigned, fresh, found, state, unpaused⟩ := looping.tracked
  have steady := looping.steady
  refine follows_behind (quiet_request trivial) steady fun run => ?_
  refine ⟨steady.may rfl rfl (fun _ => nofun), fun _ _ => ⟨steady.counts, ?_, ?_⟩⟩
  · intro tracked same
    obtain ⟨before, held, rfl⟩ := Option.map_eq_some_iff.mp same
    have level := steady.level before held
    rw [found, Option.some.injEq] at held
    subst held
    refine ⟨?_, level.within, ?_, ?_⟩
    · rw [Tracked.assign_assigned, lastIteration_append]
      exact level.last
    · exact fun _ loaded => lastState_mono (state loaded) _
    · intro checkpoint member
      rcases List.mem_append.mp member with before | now
      · exact absurd before (unpaused checkpoint)
      · cases List.mem_singleton.mp now
        exact ⟨_, rfl, looping.turns⟩
  · intro none
    exact steady.bare (Option.map_eq_none_iff.mp none)

theorem metered_handleCalls (settings : AgentSettings) (run : AgentRun) (granted : List Nat)
    (calls : List ToolCall) {meter : Meter} (looping : Looping origin turns meter)
    (conversation : List Entry) (sequence : Nat) :
    Metered (handleCalls settings run granted turns calls conversation sequence) meter
      fun result final => final.Steady ∧ (result ≠ none → Looping origin turns final) := by
  induction calls generalizing meter conversation sequence with
  | nil => exact ⟨looping.steady, fun _ => looping⟩
  | cons call rest ih =>
      rw [handleCalls]
      refine follows_behind (quiet_emit (by simp)) looping.steady fun _ => ?_
      refine follows_behind (quiet_request trivial) looping.steady fun tool => ?_
      cases tool with
      | none => exact ih looping _ _
      | some tool =>
          refine follows_behind (quiet_invoke ..) looping.steady fun outcome => ?_
          cases outcome with
          | denial executionId denial =>
              refine follows_behind (quiet_emit (by simp)) looping.steady fun _ => ?_
              exact ih looping _ _
          | pending executionId execution =>
              refine meterProtocol.follows_bind (metered_suspend looping _ _ _) fun _ _ steady => ?_
              refine follows_behind (quiet_emit (by simp)) steady fun _ => ?_
              exact ⟨steady, fun some => absurd rfl some⟩
          | result executionId result =>
              refine follows_behind (quiet_emit (by simp)) looping.steady fun _ => ?_
              exact ih looping _ _

theorem metered_iterate (settings : AgentSettings) (spec : AgentSpec) (run : AgentRun)
    (servedModel : String) (left : Nat) {turns : Nat} {meter : Meter}
    (looping : Looping origin turns meter) (budget : left ≤ iterationLimit origin - turns)
    (conversation : List Entry) (sequence : Nat) :
    Metered (iterate settings spec run servedModel left conversation turns sequence) meter
      fun _ final => final.Steady := by
  induction left generalizing turns meter conversation sequence with
  | zero => exact looping.fails (by simp) trivial
  | succ left ih =>
      refine follows_ask looping (by omega) rfl fun reply next looping => ?_
      cases reply with
      | error reason => exact looping.fails (by simp) trivial
      | ok completion =>
          refine follows_behind (quiet_request trivial) looping.steady fun row => ?_
          have still : (RunAssignment.tokens (row.promptTokens + completion.promptTokens)
            (row.completionTokens + completion.completionTokens)).Still := trivial
          refine follows_still looping.steady ?_
          have looping := looping.assign still
          refine follows_behind (quiet_emit (by simp)) looping.steady fun _ => ?_
          split
          · exact looping.fails (by simp) trivial
          · refine meterProtocol.follows_bind
              (metered_handleCalls settings run _ _ looping _ _) fun result final after => ?_
            cases result with
            | none => exact after.1
            | some rest => exact ih (after.2 (by simp)) (by omega) _ _

theorem metered_converse (settings : AgentSettings) (spec : AgentSpec) (run : AgentRun)
    (looping : Looping origin turns meter) (budget : spec.maxIterations = iterationLimit origin)
    (conversation : List Entry) (sequence : Nat) :
    Metered (converse settings spec run conversation turns sequence) meter
      fun _ final => final.Steady := by
  refine follows_behind (quiet_request trivial) looping.steady fun reply => ?_
  cases reply with
  | error reason => exact looping.fails (by simp) trivial
  | ok servedModel => exact metered_iterate settings spec run servedModel _ looping (by rw [budget]) _ _

theorem metered_requireRun {runId : Nat} {tracked : Tracked runTable} (steady : meter.Steady)
    (found : meter.run = some tracked) :
    Metered (requireRun runId) meter fun run final => final = meter ∧ run = tracked.row := by
  have same (run : AgentRun) : meter.after (.getRun runId) (some run) = meter := by
    simp only [Meter.after, found, Option.some_or]
    rw [← found]
  refine ⟨steady.may rfl rfl (fun _ => nofun), fun reply trusted => ?_⟩
  obtain rfl : reply = some tracked.row := trusted tracked found
  change Metered _ (meter.after (.getRun runId) (some tracked.row)) _
  rw [same]
  exact ⟨rfl, rfl⟩

theorem Looping.found (looping : Looping origin turns meter) :
    ∃ tracked, meter.run = some tracked := by
  obtain ⟨assigned, fresh, found, _⟩ := looping.tracked
  exact ⟨_, found⟩

theorem metered_runLoop (settings : AgentSettings) (spec : AgentSpec) (context : RunContext)
    (looping : Looping origin turns meter) (budget : spec.maxIterations = iterationLimit origin)
    (conversation : List Entry) (startingSequence : Nat) :
    Metered (runLoop settings spec context conversation startingSequence turns) meter
      fun _ final => final.Steady := by
  obtain ⟨tracked, found⟩ := looping.found
  have steady := looping.steady
  refine meterProtocol.follows_bind (metered_requireRun steady found) ?_
  rintro run _ ⟨rfl, _⟩
  dsimp only
  split
  · refine follows_behind (quiet_emit (by simp)) steady fun _ => ?_
    split
    · refine follows_behind (quiet_retrieve ..) steady fun found => ?_
      exact metered_converse settings spec run looping budget _ _
    · exact metered_converse settings spec run looping budget _ _
  · exact metered_converse settings spec run looping budget _ _

structure Loaded (origin : AgentRun) (meter : Meter) : Prop where
  steady : meter.Steady
  run : meter.run = some (.load origin)
  silent : meter.announced = 0

theorem metered_proceed (settings : AgentSettings) {run : AgentRun} (loaded : Loaded run meter)
    (conversation : List Entry) (sequence : Nat) :
    Metered (proceed settings run conversation sequence (startIteration run)) meter
      fun _ final => final.Steady := by
  have still : (RunAssignment.state .running).Still := trivial
  refine follows_still loaded.steady ?_
  refine metered_runLoop settings _ _ ⟨loaded.steady.assign still, ?_, ?_⟩ rfl _ _
  · refine ⟨[.state .running], false, ?_, fun _ => nofun, fun checkpoint member => ?_⟩
    · simp only [Meter.after, loaded.run, Option.map_some]
      rfl
    · cases List.mem_singleton.mp member
  · change startIteration run = startIteration run + meter.announced
    rw [loaded.silent, Nat.add_zero]

theorem metered_resume (settings : AgentSettings) {run : AgentRun} (loaded : Loaded run meter)
    (runId : Nat) (approved : Bool) (approverId : Nat) (reason : Option String) :
    Metered (resume settings runId approved approverId reason) meter
      fun _ final => final.Steady := by
  have steady := loaded.steady
  have announces {pending : ToolExecution} {decision : ExecutionAssignment} {event : RunEvent}
      (other : event.type ≠ .llmRequest) : (announce pending decision event).Only Quiet :=
    Program.only_bind (quiet_request trivial) fun _ => quiet_emit other
  refine meterProtocol.follows_bind (metered_requireRun steady loaded.run) ?_
  rintro row _ ⟨rfl, rfl⟩
  refine follows_behind (quiet_request trivial) steady fun pending => ?_
  cases pending with
  | none => exact metered_quiet (quiet_emit (by simp)) steady
  | some pending =>
      dsimp only
      split
      · exact metered_quiet (quiet_emit (by simp)) steady
      · split
        · refine follows_behind (announces (by simp)) steady fun _ => ?_
          exact metered_proceed settings loaded _ _
        · refine follows_behind (announces (by simp)) steady fun _ => ?_
          refine follows_behind (quiet_request trivial) steady fun tool => ?_
          cases tool with
          | none => exact metered_proceed settings loaded _ _
          | some tool =>
              refine follows_behind (quiet_executeApproved ..) steady fun result => ?_
              refine follows_behind (quiet_emit (by simp)) steady fun _ => ?_
              exact metered_proceed settings loaded _ _

theorem steady_opened (request : AgentRequest) : (Meter.of (.opened request) 0).Steady :=
  ⟨rfl, fun _ found => (nomatch found), fun _ => rfl⟩

theorem follows_raises {α : Type} {post : α → Meter → Prop} (steady : meter.Steady)
    (error : ServiceError) : Metered (raise error) meter post :=
  ⟨steady.may rfl rfl (fun _ => nofun), fun nothing _ => nomatch nothing⟩

theorem level_loaded (run : AgentRun) : Meter.Level (.load run) 0 :=
  ⟨rfl, fun some => absurd rfl some, fun some => absurd rfl some, fun _ member => nomatch member⟩

theorem follows_getRun {request : AgentRequest} {runId : Nat} {rest : Option AgentRun → AgentProgram Unit}
    {post : Unit → Meter → Prop} (missing : Metered (rest none) (.of (.opened request) 0) post)
    (next : ∀ run meter, Loaded run meter → Metered (rest (some run)) meter post) :
    Metered (getRun runId >>= rest) (.of (.opened request) 0) post := by
  refine ⟨(steady_opened request).may rfl rfl (fun _ => nofun), fun reply _ => ?_⟩
  cases reply with
  | none => exact missing
  | some run =>
      refine next run _ ⟨⟨rfl, ?_, fun _ => rfl⟩, rfl, rfl⟩
      rintro tracked same
      cases same
      exact level_loaded run

theorem metered_start (request : AgentRequest) (agentId : Nat) (message : String) (actor : User)
    (conversationId : Option String) :
    Metered (start request.settings agentId message actor conversationId)
      (.of (.opened request) 0) fun _ final => final.Steady := by
  have steady := steady_opened request
  refine follows_behind (quiet_request trivial) steady fun agent => ?_
  cases agent with
  | none => exact follows_raises steady _
  | some agent =>
      dsimp only
      split
      · exact follows_raises steady _
      · refine meterProtocol.follows_request (steady.may rfl rfl fun _ => nofun) fun version _ => ?_
        cases version with
        | none => exact follows_raises steady _
        | some version =>
            have read : Meter.Steady ⟨some version.maxIterations, none, 0, 0⟩ :=
              ⟨rfl, fun _ found => (nomatch found), fun _ => rfl⟩
            refine meterProtocol.follows_request (read.may rfl rfl ?_) ?_
            · rintro draft same
              cases same
              exact ⟨rfl, rfl, rfl, _, rfl, rfl⟩
            · rintro run ⟨id, same⟩
              have inserted : Looping run 0 ⟨some version.maxIterations, some (.insert run), 0, 0⟩ := by
                refine ⟨⟨rfl, ?_, fun _ => rfl⟩, ⟨[], true, rfl, nofun, fun _ member => nomatch member⟩,
                  ?_⟩
                · rintro tracked found
                  cases found
                  exact ⟨rfl, fun some => absurd rfl some, fun some => absurd rfl some,
                    fun _ member => nomatch member⟩
                · rw [same]
                  rfl
              refine follows_behind (quiet_request trivial) inserted.steady fun _ => ?_
              refine metered_runLoop request.settings (buildSpec agent version) _ inserted ?_ _ _
              rw [same]
              rfl

theorem metered_approve (request : AgentRequest) (runId : Nat) (approved : Bool) (actor : User)
    (reason : Option String) :
    Metered (approve request.settings runId approved actor reason) (.of (.opened request) 0)
      fun _ final => final.Steady := by
  refine follows_getRun (follows_raises (steady_opened request) _) fun run meter loaded => ?_
  dsimp only
  split
  · exact follows_raises loaded.steady _
  · refine follows_behind (quiet_request trivial) loaded.steady fun pending => ?_
    cases pending with
    | none => exact follows_raises loaded.steady _
    | some pending =>
        dsimp only
        split
        · exact follows_raises loaded.steady _
        · refine follows_behind (quiet_request trivial) loaded.steady fun _ => ?_
          exact metered_resume request.settings loaded _ _ _ _

theorem metered_cancel (request : AgentRequest) (runId : Nat) :
    Metered (cancel runId) (.of (.opened request) 0) fun _ final => final.Steady := by
  refine follows_getRun (follows_raises (steady_opened request) _) fun run meter loaded => ?_
  dsimp only
  split
  · exact loaded.steady
  · have still : (RunAssignment.state .cancelled).Still := trivial
    refine follows_still loaded.steady ?_
    have steady := loaded.steady.assign still
    refine follows_behind (quiet_request trivial) steady fun pending => ?_
    cases pending with
    | none => exact steady
    | some pending => exact metered_quiet (quiet_request trivial) steady

theorem quiet_expireAll (stale : List ToolExecution) : (expireAll stale).Only Quiet := by
  induction stale with
  | nil => trivial
  | cons execution rest ih => exact Program.only_bind (quiet_request trivial) fun _ => ih

theorem program_metered (request : AgentRequest) :
    Metered (program request) (.of (.opened request) 0) fun _ final => final.Steady := by
  unfold program
  cases request.action with
  | start agentId message actor conversationId => exact metered_start ..
  | approve runId approved actor reason => exact metered_approve ..
  | cancel runId => exact metered_cancel ..
  | expireOlderThan cutoff =>
      exact metered_quiet (Program.only_bind (quiet_request trivial) quiet_expireAll)
        (steady_opened request)

end Loop

end AiPlatform.Agents
