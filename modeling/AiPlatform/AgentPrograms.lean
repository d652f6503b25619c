import AiPlatform.AgentDiscipline

/-!
The agent services follow their discipline. `Turn` is the invariant of a run in
the hands of one request: what the run row was when the request took it over,
whether the request inserted it, and the sequence number the next event gets.
One lemma for each function of the runtime says that it keeps the turn.
-/

namespace AiPlatform.Agents

open Session

def Steady (assigned : List RunAssignment) : Prop :=
  ∀ assignment ∈ assigned, assignment.plain = true

theorem Steady.append {assigned : List RunAssignment} {assignment : RunAssignment}
    (steady : Steady assigned) (plain : assignment.plain = true) :
    Steady (assigned ++ [assignment]) := by
  intro other member
  rcases List.mem_append.mp member with before | last
  · exact steady other before
  · rwa [List.mem_singleton.mp last]

theorem Steady.checkpoint {assigned : List RunAssignment} (steady : Steady assigned)
    (origin : AgentRun) :
    (Tracked.replay (T := runTable) assigned origin).checkpoint = origin.checkpoint :=
  Tracked.replay_keeps (T := runTable) (fun run => run.checkpoint = origin.checkpoint) assigned
    origin rfl fun assignment member run same =>
      (plain_checkpoint (steady assignment member) run).trans same

theorem replay_userPermissions (assigned : List RunAssignment) (origin : AgentRun) :
    (Tracked.replay (T := runTable) assigned origin).userPermissions = origin.userPermissions :=
  Tracked.replay_keeps (T := runTable) (fun run => run.userPermissions = origin.userPermissions)
    assigned origin rfl fun assignment _ run same =>
      (apply_userPermissions assignment run).trans same

theorem replay_runId (assigned : List RunAssignment) (origin : AgentRun) :
    (Tracked.replay (T := runTable) assigned origin).id = origin.id :=
  Tracked.key_replay (T := runTable) assigned origin

structure Turn (request : AgentRequest) (origin : AgentRun) (fresh : Bool) (pending : List Nat)
    (sequence : Nat) (session : Session) : Prop where
  request : session.request = request
  streams : session.streams = true
  waiting : fresh = false → origin.state = .waitingForApproval
  tracked : ∃ assigned, session.run = some ⟨origin, assigned, fresh⟩ ∧ Steady assigned
  begun : session.events ≠ []
  next : session.nextSequence = sequence
  suspendedOn : session.suspendedOn = pending
  taken : fresh = false → ∃ execution ∈ session.executions, execution.inserted = false
  decided : ∀ execution ∈ session.executions,
    execution.inserted = false → execution.assigned ≠ []

structure SameRun (run origin : AgentRun) : Prop where
  id : run.id = origin.id
  permissions : run.userPermissions = origin.userPermissions
  checkpoint : run.checkpoint = origin.checkpoint

def wrote (event : AgentRunEvent) (session : Session) : Session :=
  session.after (.writeEvent event) ()

@[simp] theorem wrote_run (event : AgentRunEvent) (session : Session) :
    (wrote event session).run = session.run := rfl

@[simp] theorem wrote_executions (event : AgentRunEvent) (session : Session) :
    (wrote event session).executions = session.executions := rfl

theorem wrote_begun (event : AgentRunEvent) (session : Session) :
    (wrote event session).events ≠ [] := by
  simp [wrote, Session.after, Session.flushed]

@[simp] theorem wrote_next (event : AgentRunEvent) (session : Session) :
    (wrote event session).nextSequence = event.sequence + 1 := by
  simp [wrote, Session.after, Session.flushed, Session.nextSequence]

theorem wrote_last (event : AgentRunEvent) (session : Session) :
    (wrote event session).events.getLast? = some event := by
  simp [wrote, Session.after, Session.flushed]

def persisted (event : RunEvent) : AgentRunEvent where
  runId := event.runId
  sequence := event.sequence
  type := event.type
  payload := redact event.payload

theorem follows_emit {event : RunEvent} {session : Session} {post : Unit → Session → Prop}
    (write : session.MayWriteEvent (persisted event))
    (deliver : (wrote (persisted event) session).MayDeliver event)
    (rest : post () (wrote (persisted event) session)) : Follows (emit event) session post :=
  ⟨write, fun _ _ => ⟨deliver, fun _ _ => rest⟩⟩

theorem after_assignRun_run {session : Session} {tracked : Tracked runTable}
    (run : session.run = some tracked) (assignment : RunAssignment) :
    (session.after (.assignRun assignment) ()).run = some (tracked.assign assignment) := by
  simp [Session.after, run]

theorem after_assignRun_next (session : Session) (assignment : RunAssignment) :
    (session.after (.assignRun assignment) ()).nextSequence = session.nextSequence := by
  cases run : session.run with
  | none => simp [Session.after, Session.nextSequence, Session.base, run]
  | some tracked => simp [Session.after, Session.nextSequence, Session.base, run]

section Turns

variable {request : AgentRequest} {origin : AgentRun} {fresh : Bool} {pending : List Nat}
  {sequence : Nat} {session : Session}

theorem Turn.written (turn : Turn request origin fresh pending sequence session)
    {event : AgentRunEvent} (numbered : event.sequence = sequence) :
    Turn request origin fresh pending (sequence + 1) (wrote event session) where
  request := turn.request
  streams := turn.streams
  waiting := turn.waiting
  tracked := turn.tracked
  begun := wrote_begun event session
  next := by rw [wrote_next, numbered]
  suspendedOn := turn.suspendedOn
  taken := turn.taken
  decided := turn.decided

theorem Turn.mayWrite (turn : Turn request origin fresh pending sequence session)
    {event : AgentRunEvent} (owner : event.runId = origin.id) (numbered : event.sequence = sequence) :
    session.MayWriteEvent event := by
  obtain ⟨assigned, tracked, _⟩ := turn.tracked
  refine ⟨turn.streams, ⟨_, tracked, owner.symm, turn.waiting, ?_⟩, ?_⟩
  · intro _ none
    exact absurd none turn.begun
  · rw [numbered, turn.next]

theorem Turn.settled (turn : Turn request origin fresh pending sequence session) :
    session.Settled := by
  obtain ⟨assigned, tracked, steady⟩ := turn.tracked
  constructor
  · intro other checkpoint same member
    rw [tracked] at same
    cases same
    have plain := steady _ member
    cases plain
  · intro _ none
    exact absurd none turn.begun

theorem mayDeliver_plain {event : RunEvent}
    (settled : (wrote (persisted event) session).Settled)
    (plain : event.type ≠ .toolApprovalRequired) :
    (wrote (persisted event) session).MayDeliver event :=
  ⟨settled, ⟨_, wrote_last _ _, rfl, rfl, rfl⟩, fun same => absurd same plain⟩

theorem Turn.emits_last (turn : Turn request origin fresh pending sequence session)
    {event : RunEvent} (owner : event.runId = origin.id) (numbered : event.sequence = sequence)
    (plain : event.type ≠ .toolApprovalRequired) :
    Follows (emit event) session fun _ next =>
      Turn request origin fresh pending (sequence + 1) next ∧
        next.events.getLast? = some (persisted event) := by
  have next : Turn request origin fresh pending (sequence + 1)
      (wrote (persisted event) session) := turn.written numbered
  exact follows_emit (turn.mayWrite owner numbered) (mayDeliver_plain next.settled plain)
    ⟨next, wrote_last _ _⟩

theorem Turn.emits (turn : Turn request origin fresh pending sequence session) {event : RunEvent}
    (owner : event.runId = origin.id) (numbered : event.sequence = sequence)
    (plain : event.type ≠ .toolApprovalRequired) :
    Follows (emit event) session fun _ next =>
      Turn request origin fresh pending (sequence + 1) next :=
  agentProtocol.follows_mono (turn.emits_last owner numbered plain) fun _ _ both => both.1

theorem Turn.assigned (turn : Turn request origin fresh pending sequence session)
    {assignment : RunAssignment} (plain : assignment.plain = true) :
    Turn request origin fresh pending sequence (session.after (.assignRun assignment) ()) := by
  obtain ⟨assigned, tracked, steady⟩ := turn.tracked
  refine ⟨turn.request, turn.streams, turn.waiting, ⟨assigned ++ [assignment], ?_, ?_⟩, turn.begun,
    ?_, turn.suspendedOn, turn.taken, turn.decided⟩
  · simp [Session.after, tracked, Tracked.assign]
  · exact steady.append plain
  · have next := turn.next
    simp only [Session.nextSequence, Session.base, Session.after, tracked] at next ⊢
    exact next

theorem Turn.assigns (turn : Turn request origin fresh pending sequence session)
    {assignment : RunAssignment} (plain : assignment.plain = true) :
    Follows (assignRun assignment) session fun _ next =>
      Turn request origin fresh pending sequence next := by
  obtain ⟨assigned, tracked, _⟩ := turn.tracked
  exact ⟨.step _ _ tracked turn.streams turn.begun turn.waiting turn.taken plain,
    fun _ _ => turn.assigned plain⟩

theorem Turn.sameRun (turn : Turn request origin fresh pending sequence session) {run : AgentRun}
    (read : ∃ tracked, session.run = some tracked ∧ run = tracked.row) : SameRun run origin := by
  obtain ⟨assigned, tracked, steady⟩ := turn.tracked
  obtain ⟨other, same, rfl⟩ := read
  rw [tracked] at same
  cases same
  exact ⟨replay_runId _ _, replay_userPermissions _ _, steady.checkpoint _⟩

theorem Turn.ends (turn : Turn request origin fresh [] sequence session)
    {assignment : RunAssignment}
    (final : (∃ output, assignment = .completed output) ∨ ∃ error, assignment = .failed error) :
    Follows (assignRun assignment) session fun _ last => last.Settled ∧ last.Finished := by
  obtain ⟨assigned, tracked, steady⟩ := turn.tracked
  refine ⟨.finish _ _ tracked turn.streams turn.begun turn.waiting turn.taken final, fun _ _ => ⟨⟨?_, ?_⟩, ?_⟩⟩
  · intro other checkpoint same member
    simp only [Session.after, tracked, Option.map_some, Option.some.injEq] at same
    subst same
    rcases List.mem_append.mp member with before | last
    · have plain := steady _ before
      cases plain
    · rcases final with ⟨output, rfl⟩ | ⟨error, rfl⟩ <;> simp at last
  · intro _ none
    exact absurd none turn.begun
  · intro other same
    simp only [Session.after, tracked, Option.map_some, Option.some.injEq] at same
    subst same
    refine .inr ⟨?_, turn.decided⟩
    simp only [Tracked.assign_assigned, lastState_append]
    rcases final with ⟨output, rfl⟩ | ⟨error, rfl⟩
    · exact ⟨.completed, rfl, .inl ⟨rfl, turn.suspendedOn⟩⟩
    · exact ⟨.failed, rfl, .inl ⟨rfl, turn.suspendedOn⟩⟩

theorem Turn.frame (turn : Turn request origin fresh pending sequence session) {next : Session}
    {marks : List Nat} (sameRequest : next.request = session.request)
    (sameRun : next.run = session.run) (sameEvents : next.events = session.events)
    (marked : next.suspendedOn = marks)
    (taken : fresh = false → ∃ execution ∈ next.executions, execution.inserted = false)
    (decided : ∀ execution ∈ next.executions,
      execution.inserted = false → execution.assigned ≠ []) :
    Turn request origin fresh marks sequence next where
  request := sameRequest.trans turn.request
  streams := by
    have streams := turn.streams
    simp only [Session.streams] at streams ⊢
    rw [sameRequest]
    exact streams
  waiting := turn.waiting
  tracked := by
    rw [sameRun]
    exact turn.tracked
  begun := by
    rw [sameEvents]
    exact turn.begun
  next := by
    have next := turn.next
    simp only [Session.nextSequence, Session.base] at next ⊢
    rw [sameEvents, sameRun]
    exact next
  suspendedOn := marked
  taken := taken
  decided := decided

theorem Turn.looked (turn : Turn request origin fresh pending sequence session) (name : String)
    (found : Option Tool) :
    Turn request origin fresh pending sequence (session.after (.getToolByName name) found) := by
  cases found with
  | none => exact turn
  | some tool => exact turn.frame rfl rfl rfl turn.suspendedOn turn.taken turn.decided

theorem looked_read (session : Session) (name : String) (tool : Tool) :
    tool ∈ (session.after (.getToolByName name) (some tool)).tools :=
  List.mem_append_right _ (List.mem_singleton.mpr rfl)

def Owned (session : Session) (executionId : Nat) : Prop :=
  ∃ execution ∈ session.executions, execution.key = executionId ∧
    (execution.inserted = true ∨ execution.assigned ≠ [])

theorem owned_assigned {executionId : Nat} {assignment : ExecutionAssignment}
    (owned : Owned session executionId) :
    Owned (session.after (.assignExecution executionId assignment) ()) executionId := by
  obtain ⟨execution, member, keyed, state⟩ := owned
  refine ⟨execution.assign assignment, ?_, keyed, ?_⟩
  · simp only [Session.after, List.mem_map]
    exact ⟨execution, member, by rw [if_pos keyed]⟩
  · rcases state with inserted | decided
    · exact .inl inserted
    · exact .inr (by simp)

theorem Turn.assignedExecution (turn : Turn request origin fresh pending sequence session)
    (executionId : Nat) (assignment : ExecutionAssignment) :
    Turn request origin fresh (Session.marked executionId pending assignment) sequence
      (session.after (.assignExecution executionId assignment) ()) := by
  refine turn.frame rfl rfl rfl ?_ ?_ ?_
  · simp only [Session.after, turn.suspendedOn]
  · intro loaded
    obtain ⟨execution, member, inserted⟩ := turn.taken loaded
    refine ⟨_, List.mem_map.mpr ⟨execution, member, rfl⟩, ?_⟩
    split <;> exact inserted
  · intro execution member loaded
    simp only [Session.after, List.mem_map] at member
    obtain ⟨old, before, rfl⟩ := member
    by_cases keyed : old.key = executionId
    · simp [keyed]
    · rw [if_neg keyed] at loaded ⊢
      exact turn.decided old before loaded

theorem follows_finish (turn : Turn request origin fresh [] sequence session)
    {execution : ToolExecution} (owned : Owned session execution.id) (run : AgentRun) (tool : Tool)
    (result : ToolResult) :
    Follows (finish execution run tool result) session fun _ next =>
      Turn request origin fresh [] sequence next := by
  obtain ⟨row, member, keyed, state⟩ := owned
  refine ⟨?_, fun _ _ => ⟨trivial, fun _ _ => ⟨trivial, fun _ _ => ?_⟩⟩⟩
  · cases inserted : row.inserted with
    | true =>
        exact .own row _ turn.streams member keyed inserted turn.suspendedOn (.inr (.inr ⟨_, _, _, _, rfl⟩))
    | false =>
        have decided := state.resolve_left (by simp [inserted])
        exact .finish row _ _ _ _ turn.streams member keyed inserted decided
  · have assigned := turn.assignedExecution execution.id (.finished result.success
      (if truthy result.content then some (clip result.content maxResultChars) else none)
      result.error result.truncated)
    exact assigned.frame rfl rfl rfl assigned.suspendedOn assigned.taken assigned.decided

theorem follows_executeApproved (turn : Turn request origin fresh [] sequence session)
    {execution : ToolExecution} {tool : Tool} {run : AgentRun}
    (owned : Owned session execution.id)
    (may : session.MayExecute execution.id tool (invocationOf execution tool run)) :
    Follows (executeApproved execution tool run) session fun _ next =>
      Turn request origin fresh [] sequence next := by
  unfold executeApproved
  by_cases served : tool.type ∈ buildExecutors
  · rw [if_pos served]
    refine agentProtocol.follows_request may fun reply _ => ?_
    have kept : Turn request origin fresh [] sequence
        (session.after (.execute execution.id tool (invocationOf execution tool run)) reply) :=
      turn.frame rfl rfl rfl turn.suspendedOn turn.taken turn.decided
    exact agentProtocol.follows_bind (follows_finish kept owned run tool _)
      fun _ next turn => turn
  · rw [if_neg served]
    exact agentProtocol.follows_bind (follows_finish turn owned run tool _)
      fun _ next turn => turn

theorem Turn.inserted (turn : Turn request origin fresh [] sequence session) (run : AgentRun)
    (tool : Tool) (arguments : Dict) (execution : ToolExecution) :
    Turn request origin fresh [] sequence
      (session.after (.addExecution run tool arguments) execution) := by
  refine turn.frame rfl rfl rfl turn.suspendedOn ?_ ?_
  · intro loaded
    obtain ⟨other, member, same⟩ := turn.taken loaded
    exact ⟨other, List.mem_append_left _ member, same⟩
  intro other member loaded
  rcases List.mem_append.mp member with before | last
  · exact turn.decided other before loaded
  · rw [List.mem_singleton.mp last] at loaded
    cases loaded

theorem follows_deny (turn : Turn request origin fresh [] sequence session)
    {execution : ToolExecution} {row : Tracked executionTable} (member : row ∈ session.executions)
    (keyed : row.key = execution.id) (inserted : row.inserted = true) (run : AgentRun) (tool : Tool)
    (denial : Denial) :
    Follows (deny execution run tool denial) session fun outcome next =>
      outcome = .denial execution.id denial ∧
        Turn request origin fresh [] sequence next := by
  refine ⟨.own row _ turn.streams member keyed inserted turn.suspendedOn (.inr (.inl ⟨_, _, rfl⟩)),
    fun _ _ => ⟨trivial, fun _ _ => ⟨trivial, fun _ _ => ⟨rfl, ?_⟩⟩⟩⟩
  have assigned := turn.assignedExecution execution.id (.denied denial.auditDetail denial.reason)
  exact assigned.frame rfl rfl rfl assigned.suspendedOn assigned.taken assigned.decided

def Invoked (request : AgentRequest) (origin : AgentRun) (fresh : Bool) (sequence : Nat) :
    PipelineOutcome → Session → Prop
  | .result _ _, next | .denial _ _, next => Turn request origin fresh [] sequence next
  | .pending executionId _, next => Turn request origin fresh [executionId] sequence next

theorem follows_invoke (turn : Turn request origin fresh [] sequence session) {run : AgentRun}
    (same : SameRun run origin) {tool : Tool} (read : tool ∈ session.tools) (arguments : Dict) :
    Follows (invoke request.settings run tool arguments (storedIds origin.checkpoint)) session
      (Invoked request origin fresh sequence) := by
  obtain ⟨assigned, tracked, _⟩ := turn.tracked
  refine agentProtocol.follows_request
    ⟨turn.streams, ⟨_, tracked, same.id.symm⟩, turn.begun⟩ fun execution trusted => ?_
  obtain ⟨owner, named, argued, _⟩ := trusted
  have next := turn.inserted run tool arguments execution
  set asked := session.after (.addExecution run tool arguments) execution with askedIs
  have member : (Tracked.insert execution : Tracked executionTable) ∈ asked.executions := by
    simp [askedIs, Session.after]
  have settings : asked.request.settings = request.settings := by
    rw [next.request]
  cases decision : authorise request.settings run tool (storedIds origin.checkpoint) with
  | some denial =>
      refine agentProtocol.follows_mono (follows_deny next member rfl rfl run tool denial) ?_
      rintro outcome last ⟨rfl, kept⟩
      exact kept
  | none =>
      have authorised := (authorise_none_iff _ _ _ _).mp decision
      rw [same.permissions, ← settings] at authorised
      by_cases risky : needsApproval request.settings tool = true
      · simp only [risky, if_true]
        refine ⟨.suspend _ _ tool tracked turn.streams member rfl rfl turn.suspendedOn ?_ authorised,
          fun _ _ => ⟨trivial, fun _ _ => ⟨trivial, fun _ _ => ?_⟩⟩⟩
        · exact List.mem_append_right _ (List.mem_singleton.mpr rfl)
        · have marked := next.assignedExecution execution.id (.approval .pending)
          exact marked.frame rfl rfl rfl marked.suspendedOn marked.taken marked.decided
      · simp only [risky]
        refine agentProtocol.follows_request
          (.own _ _ turn.streams member rfl rfl turn.suspendedOn (.inl rfl)) fun _ _ => ?_
        have marked := next.assignedExecution execution.id (.approval .notRequired)
        have owned : Owned (asked.after (.assignExecution execution.id (.approval .notRequired)) ())
            execution.id := owned_assigned ⟨_, member, rfl, .inl rfl⟩
        refine agentProtocol.follows_bind (follows_executeApproved marked owned ?_)
          fun _ _ kept => kept
        refine .direct _ ((Tracked.insert execution : Tracked executionTable).assign
          (.approval .notRequired)) tracked turn.streams ?_ rfl rfl authorised read rfl rfl same.id
        exact List.mem_map.mpr ⟨_, member, if_pos rfl⟩

/-- What a loop over tool calls leaves: a settled dialogue to go on with, or a
suspended run. -/
def Conversed (request : AgentRequest) (origin : AgentRun) (fresh : Bool) :
    Option (List Entry × Nat) → Session → Prop
  | none, next => next.Settled ∧ next.Finished
  | some (conversation, sequence), next => Turn request origin fresh [] sequence next ∧
      (Resumable origin fresh → unanswered conversation = some [])

theorem suspended_concluded {executionId : Nat}
    (turn : Turn request origin fresh [executionId] sequence session) (checkpoint : Checkpoint)
    {suspension : Suspension} (saved : checkpoint.suspension = some suspension)
    (numbered : suspension.sequence = sequence + 1) (event : AgentRunEvent)
    (last : event.sequence = sequence) :
    (wrote event (session.after (.assignRun (.suspended checkpoint)) ())).Settled ∧
      (wrote event (session.after (.assignRun (.suspended checkpoint)) ())).Finished := by
  obtain ⟨assigned, tracked, steady⟩ := turn.tracked
  refine ⟨⟨?_, fun _ none => absurd none (wrote_begun _ _)⟩, ?_⟩
  · intro other kept same member
    simp only [wrote_run, Session.after, tracked, Option.map_some, Option.some.injEq] at same
    subst same
    rcases List.mem_append.mp member with before | now
    · have plain := steady _ before
      cases plain
    · simp only [List.mem_singleton, RunAssignment.suspended.injEq] at now
      subst now
      exact ⟨suspension, saved, by rw [wrote_next, numbered, last]⟩
  · intro other same
    simp only [wrote_run, Session.after, tracked, Option.map_some, Option.some.injEq] at same
    subst same
    refine .inr ⟨⟨.waitingForApproval, ?_, .inr ⟨rfl, executionId, turn.suspendedOn⟩⟩, turn.decided⟩
    simp [lastState_append, RunAssignment.state?]

theorem follows_suspended {executionId : Nat}
    (turn : Turn request origin fresh [executionId] sequence session) {event : RunEvent}
    (owner : event.runId = origin.id) (numbered : event.sequence = sequence) {conversation : List Entry} {call : ToolCall}
    (iteration : Nat) (dialogue : Resumable origin fresh →
      ∃ rest, unanswered conversation = some (callId call :: rest)) :
    Follows (do
        suspend conversation call iteration (sequence + 1)
        emit event
        return none) session
      (Conversed request origin fresh) := by
  refine ⟨trivial, fun run read => ?_⟩
  obtain ⟨assigned, tracked, _⟩ := turn.tracked
  have same := turn.sameRun read
  set saved : Suspension := {
    conversation := conversation
    pendingCall := call
    iteration := iteration
    sequence := sequence + 1 } with savedIs
  have concluded := suspended_concluded turn ⟨run.checkpoint.spec, some saved⟩ rfl rfl
    (persisted event) numbered
  have spec : run.checkpoint.spec = origin.checkpoint.spec := by rw [same.checkpoint]
  have now := after_assignRun_run tracked (.suspended ⟨run.checkpoint.spec, some saved⟩)
  refine ⟨.suspend _ _ saved tracked turn.streams turn.begun turn.waiting turn.taken spec
    ⟨executionId, turn.suspendedOn⟩ rfl ?_ dialogue, fun _ _ => ⟨?_, fun _ _ => ⟨?_, fun _ _ =>
    concluded⟩⟩⟩
  · exact (congrArg (· + 1) turn.next).symm
  · refine ⟨turn.streams, ⟨_, now, owner.symm, turn.waiting, fun _ none => absurd none turn.begun⟩,
      ?_⟩
    exact numbered.trans ((after_assignRun_next session _).trans turn.next).symm
  · refine ⟨concluded.1, ⟨_, wrote_last _ _, rfl, rfl, rfl⟩, fun _ => ⟨concluded.2, ?_⟩⟩
    refine ⟨_, saved, now, ?_, ?_, ?_⟩
    · rw [Tracked.assign_row]
      rfl
    · rw [Tracked.assign_row]
      rfl
    · rw [numbered]

/-- One call of the list: it is answered and the rest goes on, or the run is
suspended on it. The induction is on the calls that are still unanswered. -/
theorem follows_handleCalls {run : AgentRun} (same : SameRun run origin) (iteration : Nat)
    (calls : List ToolCall) (conversation : List Entry) (sequence : Nat) (session : Session)
    (turn : Turn request origin fresh [] sequence session)
    (dialogue : Resumable origin fresh → unanswered conversation = some (calls.map callId)) :
    Follows (handleCalls request.settings run (storedIds origin.checkpoint) iteration calls
      conversation sequence) session (Conversed request origin fresh) := by
  induction calls generalizing conversation sequence session with
  | nil => exact ⟨turn, dialogue⟩
  | cons call rest ih =>
      have answered : ∀ content, Resumable origin fresh →
          unanswered (conversation ++ [toolMessage call content]) = some (rest.map callId) :=
        fun content resumable => unanswered_tool content (dialogue resumable)
      refine agentProtocol.follows_bind (turn.emits same.id rfl (by simp))
        fun _ requested turn => ?_
      refine agentProtocol.follows_request trivial fun found _ => ?_
      have turn := turn.looked (callName call) found
      cases found with
      | none => exact ih _ _ _ turn (answered _)
      | some tool =>
          refine agentProtocol.follows_bind (follows_invoke turn same (looked_read _ _ tool) _)
            fun outcome next invoked => ?_
          cases outcome with
          | denial executionId denial =>
              exact agentProtocol.follows_bind (Turn.emits invoked same.id rfl (by simp))
                fun _ next kept => ih _ _ _ kept (answered _)
          | pending executionId execution =>
              exact follows_suspended invoked same.id rfl iteration fun resumable =>
                ⟨rest.map callId, dialogue resumable⟩
          | result executionId result =>
              exact agentProtocol.follows_bind (Turn.emits invoked same.id rfl (by simp))
                fun _ next kept => ih _ _ _ kept (answered _)

abbrev Ended (_ : Unit) (next : Session) : Prop := next.Settled ∧ next.Finished

theorem follows_iterate {run : AgentRun} (same : SameRun run origin) {spec : AgentSpec}
    (granted : grantedIds spec.tools = storedIds origin.checkpoint) (servedModel : String)
    (left : Nat) (conversation : List Entry) (iteration sequence : Nat) (session : Session)
    (turn : Turn request origin fresh [] sequence session)
    (dialogue : Resumable origin fresh → unanswered conversation = some []) :
    Follows (iterate request.settings spec run servedModel left conversation iteration sequence)
      session Ended := by
  induction left generalizing conversation iteration sequence session with
  | zero =>
      exact agentProtocol.follows_bind (turn.emits same.id rfl (by simp))
        fun _ next kept => Turn.ends kept (.inr ⟨_, rfl⟩)
  | succ left ih =>
      refine agentProtocol.follows_bind (turn.assigns rfl) fun _ _ turn => ?_
      refine agentProtocol.follows_bind (Turn.emits_last turn same.id rfl (by simp))
        fun _ _ ⟨turn, last⟩ => ?_
      obtain ⟨assigned, tracked, _⟩ := turn.tracked
      refine agentProtocol.follows_request ⟨turn.settled, by rw [last]; rfl, _, tracked,
        turn.waiting, fun resumable => ?_⟩ fun reply _ => ?_
      · exact prompt_wellFormed spec.systemPrompt (dialogue resumable)
      · cases reply with
        | error reason =>
            exact agentProtocol.follows_bind (Turn.emits turn same.id rfl (by simp))
              fun _ next kept => Turn.ends kept (.inr ⟨_, rfl⟩)
        | ok completion =>
            refine agentProtocol.follows_request trivial fun row _ => ?_
            refine agentProtocol.follows_bind (turn.assigns rfl) fun _ _ turn => ?_
            refine agentProtocol.follows_bind (Turn.emits turn same.id rfl (by simp))
              fun _ next turn => ?_
            by_cases final : completion.toolCalls.isEmpty = true
            · rw [if_pos final]
              exact agentProtocol.follows_bind (Turn.emits turn same.id rfl (by simp))
                fun _ next kept => Turn.ends kept (.inl ⟨_, rfl⟩)
            · rw [if_neg final, granted]
              refine agentProtocol.follows_bind (follows_handleCalls same _ _ _ _ _ turn
                fun resumable => unanswered_assistant completion (dialogue resumable))
                fun outcome _ conversed => ?_
              cases outcome with
              | none => exact conversed
              | some pair =>
                  obtain ⟨conversation, sequence⟩ := pair
                  exact ih _ _ _ _ conversed.1 conversed.2

theorem follows_converse {run : AgentRun} (same : SameRun run origin) {spec : AgentSpec}
    (granted : grantedIds spec.tools = storedIds origin.checkpoint)
    (turn : Turn request origin fresh [] sequence session) {conversation : List Entry}
    (iteration : Nat) (dialogue : Resumable origin fresh → unanswered conversation = some []) :
    Follows (converse request.settings spec run conversation iteration sequence) session Ended := by
  refine agentProtocol.follows_request trivial fun reply _ => ?_
  cases reply with
  | error reason =>
      exact agentProtocol.follows_bind (Turn.emits turn same.id rfl (by simp))
        fun _ next kept => Turn.ends kept (.inr ⟨_, rfl⟩)
  | ok served => exact follows_iterate same granted served _ _ _ _ _ turn dialogue

theorem follows_emitIf (turn : Turn request origin fresh [] sequence session) (condition : Bool)
    {event : RunEvent} (owner : event.runId = origin.id) (numbered : event.sequence = sequence)
    (plain : event.type ≠ .toolApprovalRequired) :
    Follows (emitIf condition event) session fun yielded next =>
      Turn request origin fresh [] (sequence + yielded) next := by
  unfold emitIf
  cases condition with
  | false => exact turn
  | true => exact agentProtocol.follows_bind (turn.emits owner numbered plain) fun _ _ kept => kept

/-- The retrieval numbers its own events. The count it returns is the number of
them, so the counter of the loop goes on where the retrieval stopped. -/
theorem follows_retrieve (turn : Turn request origin fresh [] sequence session)
    {spec : AgentSpec} {context : RunContext} (owner : context.runId = origin.id)
    (conversation : List Entry) :
    Follows (retrieve spec context conversation sequence) session fun found next =>
      Turn request origin fresh [] (sequence + found.2) next ∧
        unanswered found.1 = unanswered conversation := by
  unfold retrieve
  generalize strip (question conversation) = asked
  by_cases blank : asked = ""
  · rw [if_pos blank]
    exact ⟨turn, rfl⟩
  · rw [if_neg blank]
    refine agentProtocol.follows_request trivial fun reply _ => ?_
    cases reply with
    | error reason => exact ⟨turn, rfl⟩
    | ok found =>
        dsimp only
        refine agentProtocol.follows_bind (follows_emitIf turn _ owner rfl (by simp))
          fun searched _ turn => ?_
        refine agentProtocol.follows_bind (follows_emitIf turn _ owner rfl (by simp))
          fun recalled _ turn => ?_
        refine ⟨by rwa [Nat.add_assoc] at turn, ?_⟩
        by_cases block : truthy found.contextBlock = true
        · simp only [block, if_true]
          exact unanswered_system conversation found.contextBlock
        · simp only [block]
          rfl

theorem follows_raise {α : Type} (error : ServiceError) (post : α → Session → Prop) :
    Follows (raise error) session post :=
  ⟨trivial, fun nothing => nomatch nothing⟩

theorem follows_requireRun {tracked : Tracked runTable} (held : session.run = some tracked)
    (runId : Nat) :
    Follows (requireRun runId) session fun run next =>
      next = session ∧ run = tracked.row ∧ tracked.key = runId := by
  refine agentProtocol.follows_request (fun none => ?_) fun reply trusted => ?_
  · rw [held] at none
    cases none
  simp only [Session.trusted, held] at trusted
  obtain ⟨keyed, rfl⟩ := trusted
  refine ⟨?_, rfl, keyed⟩
  simp only [Session.after, held]

theorem granted_specFromCheckpoint (checkpoint : Checkpoint) :
    grantedIds (specFromCheckpoint checkpoint).tools = storedIds checkpoint := by
  unfold specFromCheckpoint storedIds
  cases checkpoint.spec with
  | none => rfl
  | some stored => simp [grantedIds, List.filterMap_map]

theorem follows_runLoop {assigned : List RunAssignment}
    (held : session.run = some ⟨origin, assigned, fresh⟩) (steady : Steady assigned)
    {spec : AgentSpec} (granted : grantedIds spec.tools = storedIds origin.checkpoint)
    {context : RunContext} (owner : context.runId = origin.id) {conversation : List Entry}
    (iteration : Nat) (dialogue : Resumable origin fresh → unanswered conversation = some [])
    (first : sequence = 1 → ∀ event, event.runId = origin.id → event.sequence = 1 →
      event.type = .runStarted → Follows (emit event) session fun _ next =>
        Turn request origin fresh [] 2 next)
    (later : sequence ≠ 1 → Turn request origin fresh [] sequence session) :
    Follows (runLoop request.settings spec context conversation sequence iteration) session
      Ended := by
  refine agentProtocol.follows_bind (follows_requireRun held context.runId) ?_
  rintro run _ ⟨rfl, rfl, _⟩
  have same : SameRun (Tracked.row (T := runTable) ⟨origin, assigned, fresh⟩) origin :=
    ⟨replay_runId _ _, replay_userPermissions _ _, steady.checkpoint _⟩
  by_cases starts : sequence = 1
  · rw [if_pos starts]
    subst starts
    refine agentProtocol.follows_bind (first rfl _ owner rfl rfl) fun _ _ turn => ?_
    by_cases retrieves : request.settings.retrieval = true
    · rw [if_pos retrieves]
      -- The protocol is not to be unfolded along the program of the retrieval.
      have retrieved := @follows_retrieve _ _ _ _ _ turn spec context owner conversation
      generalize retrieve spec context conversation 2 = retrieval at retrieved ⊢
      refine agentProtocol.follows_bind retrieved ?_
      rintro ⟨extended, yielded⟩ next ⟨kept, unchanged⟩
      exact follows_converse same granted kept iteration fun resumable =>
        unchanged.trans (dialogue resumable)
    · rw [if_neg retrieves]
      exact follows_converse same granted turn iteration dialogue
  · rw [if_neg starts]
    exact follows_converse same granted (later starts) iteration dialogue

structure Starting (request : AgentRequest) (origin : AgentRun) (session : Session) : Prop where
  request : session.request = request
  streams : session.streams = true
  run : session.run = some (.insert origin)
  fresh : origin.checkpoint.suspension = none
  first : session.events = []
  executions : session.executions = []
  suspendedOn : session.suspendedOn = []

theorem Starting.begins (starting : Starting request origin session) {event : RunEvent}
    (owner : event.runId = origin.id) (numbered : event.sequence = 1)
    (started : event.type = .runStarted) :
    Follows (emit event) session fun _ next => Turn request origin true [] 2 next := by
  have next : session.nextSequence = 1 := by
    simp [Session.nextSequence, starting.first, Session.base, starting.run, Tracked.insert,
      starting.fresh]
  have turn : Turn request origin true [] 2 (wrote (persisted event) session) := {
    request := starting.request
    streams := starting.streams
    waiting := fun loaded => by cases loaded
    tracked := ⟨[], starting.run, fun _ member => by cases member⟩
    begun := wrote_begun _ _
    next := (wrote_next _ _).trans (congrArg (· + 1) numbered)
    suspendedOn := starting.suspendedOn
    taken := fun loaded => by cases loaded
    decided := by
      rw [wrote_executions, starting.executions]
      exact fun _ member => by cases member }
  refine follows_emit ⟨starting.streams, ⟨_, starting.run, owner.symm, ?_, fun _ _ => started⟩,
    numbered.trans next.symm⟩ (mayDeliver_plain turn.settled (by simp [started])) turn
  intro loaded
  cases loaded

variable (origin) in
theorem follows_started (starting : Starting request origin session) {spec : AgentSpec}
    (granted : grantedIds spec.tools = storedIds origin.checkpoint) {context : RunContext}
    (owner : context.runId = origin.id) (message : String) :
    Follows (runLoop request.settings spec context [plainMessage .user message] 1 0) session
      Ended :=
  follows_runLoop starting.run (fun _ member => by cases member) granted owner 0
    (fun _ => unanswered_user message)
    (fun _ _ same numbered started => starting.begins same numbered started)
    (fun later => absurd rfl later)

theorem follows_proceed (turn : Turn request origin fresh [] sequence session) {run : AgentRun}
    (same : SameRun run origin) {conversation : List Entry} (iteration : Nat)
    (dialogue : Resumable origin fresh → unanswered conversation = some []) :
    Follows (proceed request.settings run conversation sequence iteration) session Ended := by
  refine agentProtocol.follows_bind (turn.assigns rfl) fun _ next turn => ?_
  have turn : Turn request origin fresh [] sequence next := turn
  obtain ⟨assigned, held, steady⟩ := turn.tracked
  refine follows_runLoop held steady ?_ same.id iteration dialogue ?_ fun _ => turn
  · rw [same.checkpoint]
    exact granted_specFromCheckpoint _
  · rintro rfl event owner numbered started
    exact turn.emits owner numbered (by simp [started])

structure Approving (request : AgentRequest) (origin : AgentRun) (session : Session) : Prop where
  request : session.request = request
  streams : session.streams = true
  run : session.run = some (.load origin)
  waiting : origin.state = .waitingForApproval
  first : session.events = []
  untouched : ∀ execution ∈ session.executions,
    execution.inserted = false ∧ execution.assigned = []
  tools : session.tools = []
  suspendedOn : session.suspendedOn = []
  executed : session.executed = []

def resumedSequence (origin : AgentRun) : Nat :=
  (origin.checkpoint.suspension.map (·.sequence)).getD 1

theorem Approving.next {session : Session} (approving : Approving request origin session) :
    session.nextSequence = resumedSequence origin := by
  simp only [Session.nextSequence, approving.first, Session.base, approving.run, resumedSequence]
  cases saved : origin.checkpoint.suspension with
  | none => simp [saved]
  | some suspension => simp [saved]

theorem Approving.mayQuery (approving : Approving request origin session) :
    session.MayQueryPending origin.id :=
  ⟨⟨_, approving.run, rfl, rfl, fun _ => approving.waiting⟩, approving.first, approving.untouched⟩

theorem Approving.queried (approving : Approving request origin session)
    (pending : Option ToolExecution) :
    Approving request origin (session.after (.pendingForRun origin.id) pending) where
  request := approving.request
  streams := approving.streams
  run := approving.run
  waiting := approving.waiting
  first := approving.first
  untouched := by
    intro execution member
    simp only [Session.after, List.mem_map] at member
    obtain ⟨row, _, rfl⟩ := member
    exact ⟨rfl, rfl⟩
  tools := approving.tools
  suspendedOn := approving.suspendedOn
  executed := approving.executed

theorem Approving.audited (approving : Approving request origin session) (entry : AuditEntry) :
    Approving request origin (session.after (.audit entry) ()) :=
  ⟨approving.request, approving.streams, approving.run, approving.waiting, approving.first,
    approving.untouched, approving.tools, approving.suspendedOn, approving.executed⟩

theorem Approving.mayWrite (approving : Approving request origin session) {event : AgentRunEvent}
    (owner : event.runId = origin.id) (numbered : event.sequence = resumedSequence origin) :
    session.MayWriteEvent event :=
  ⟨approving.streams,
    ⟨_, approving.run, owner.symm, fun _ => approving.waiting, fun inserted => by cases inserted⟩,
    numbered.trans approving.next.symm⟩

theorem Approving.refuses (approving : Approving request origin session) {event : RunEvent}
    (owner : event.runId = origin.id) (numbered : event.sequence = resumedSequence origin)
    (plain : event.type ≠ .toolApprovalRequired) : Follows (emit event) session Ended := by
  have untouched : (wrote (persisted event) session).Untouched := by
    refine ⟨fun tracked same => ?_, approving.untouched⟩
    rw [wrote_run, approving.run] at same
    cases same
    exact ⟨rfl, rfl⟩
  have settled : (wrote (persisted event) session).Settled := by
    refine ⟨fun tracked checkpoint same member => ?_, fun _ none =>
      absurd none (wrote_begun _ _)⟩
    rw [(untouched.run tracked same).2] at member
    cases member
  exact follows_emit (approving.mayWrite owner numbered) (mayDeliver_plain settled plain)
    ⟨settled, fun _ _ => .inl untouched⟩

theorem Approving.decides (approving : Approving request origin session) {pending : ToolExecution}
    (only : session.executions = [.load pending]) (approver : Nat) (reason : Option String)
    {state : ApprovalState} (decision : state = .approved ∨ state = .rejected) {event : RunEvent}
    (owner : event.runId = origin.id) (numbered : event.sequence = resumedSequence origin)
    (plain : event.type ≠ .toolApprovalRequired) :
    Follows (announce pending (.decided approver reason state) event) session fun _ next =>
      Turn request origin false [] (resumedSequence origin + 1) next ∧
        next.executions = [(Tracked.load (T := executionTable) pending).assign (.decided approver reason state)] ∧
        .execution pending.id ∈ next.held ∧ next.tools = [] ∧ next.executed = [] := by
  refine agentProtocol.follows_request (.decide _ approver reason state approving.streams only rfl
    rfl rfl decision approving.first) fun _ _ => ?_
  set decided := session.after (.assignExecution pending.id (.decided approver reason state)) ()
    with decidedIs
  have rows : decided.executions =
      [(Tracked.load (T := executionTable) pending).assign (.decided approver reason state)] := by
    simp [decidedIs, Session.after, only, Tracked.key]
  have next : decided.nextSequence = resumedSequence origin := approving.next
  have turn : Turn request origin false [] (resumedSequence origin + 1)
      (wrote (persisted event) decided) := {
    request := approving.request
    streams := approving.streams
    waiting := fun _ => approving.waiting
    tracked := ⟨[], approving.run, fun _ member => by cases member⟩
    begun := wrote_begun _ _
    next := by rw [wrote_next, ← numbered]; rfl
    suspendedOn := approving.suspendedOn
    taken := fun _ => ⟨_, by rw [wrote_executions, rows]; exact List.mem_singleton.mpr rfl, rfl⟩
    decided := by
      intro execution member _
      rw [wrote_executions, rows, List.mem_singleton] at member
      rw [member]
      simp }
  refine follows_emit ⟨approving.streams, ⟨_, approving.run, owner.symm, fun _ => approving.waiting,
    fun inserted => by cases inserted⟩, numbered.trans next.symm⟩
    (mayDeliver_plain turn.settled plain) ⟨turn, rows, ?_, approving.tools, approving.executed⟩
  have dirty : LockKey.execution pending.id ∈ decided.dirty := by
    simp [Session.dirty, rows, Tracked.dirty, Tracked.key, Tracked.assign, Tracked.load]
  exact List.mem_append_right _ (List.mem_append_left _ dirty)

theorem follows_resume (approving : Approving request origin session) {approved : Bool}
    (approves : request.action.approves = approved) (approver : Nat) (reason : Option String) :
    Follows (resume request.settings origin.id approved approver reason) session Ended := by
  refine agentProtocol.follows_bind (follows_requireRun approving.run origin.id) ?_
  intro run next found
  obtain ⟨same, row, _⟩ := found
  rw [Tracked.load_row] at row
  rw [same, row]
  have settled : ∀ content, Resumable origin false → unanswered
      ((origin.checkpoint.suspension.map (·.conversation)).getD [] ++
        [toolMessage ((origin.checkpoint.suspension.map (·.pendingCall)).getD noCall) content]) =
      some [] := by
    intro content resumable
    obtain ⟨suspension, saved, open'⟩ := resumable rfl
    simp only [saved, Option.map_some, Option.getD_some]
    exact unanswered_tool content open'
  have itself : SameRun origin origin := ⟨rfl, rfl, rfl⟩
  refine agentProtocol.follows_request approving.mayQuery fun found _ => ?_
  have approving := approving.queried found
  cases found with
  | none => exact approving.refuses rfl rfl (by simp)
  | some pending =>
      by_cases empty : origin.checkpoint.isEmpty = true
      · simp only [empty, if_true]
        exact approving.refuses rfl rfl (by simp)
      · simp only [empty]
        cases approved with
        | false =>
            refine agentProtocol.follows_bind (approving.decides rfl approver reason (.inr rfl)
              rfl rfl (by simp)) fun _ next decided => ?_
            exact follows_proceed decided.1 itself _ (settled _)
        | true =>
            refine agentProtocol.follows_bind (approving.decides rfl approver reason (.inl rfl)
              rfl rfl (by simp)) fun _ next decided => ?_
            obtain ⟨turn, rows, held, tools, executed⟩ := decided
            refine agentProtocol.follows_request trivial fun tool named => ?_
            have turn := turn.looked pending.toolName tool
            cases tool with
            | none => exact follows_proceed turn itself _ (settled _)
            | some tool =>
                have owned : Owned (next.after (.getToolByName pending.toolName) (some tool))
                    pending.id :=
                  ⟨_, by rw [show (next.after (.getToolByName pending.toolName)
                    (some tool)).executions = _ from rows]; exact List.mem_singleton.mpr rfl,
                    rfl, .inr (by simp)⟩
                refine agentProtocol.follows_bind (follows_executeApproved turn owned ?_)
                  fun result _ turn => ?_
                · obtain ⟨assigned, tracked, _⟩ := turn.tracked
                  exact .approved _ _ tracked turn.streams rows rfl rfl (by simp)
                    ⟨rfl, turn.waiting rfl⟩ held turn.begun executed
                    (by rw [turn.request, approves]) (looked_read _ _ tool)
                    (named tools tool rfl) rfl rfl rfl
                · refine agentProtocol.follows_bind (Turn.emits turn rfl rfl (by simp))
                    fun _ _ turn => ?_
                  exact follows_proceed turn itself _ (settled _)

end Turns

theorem granted_buildSpec (agent : Agent) (version : AgentVersion) {id : Nat}
    (granted : id ∈ grantedIds (buildSpec agent version).tools) :
    id ∈ version.tools.map (·.id) := by
  simp only [grantedIds, buildSpec, List.mem_filterMap, List.mem_map] at granted
  obtain ⟨definition, ⟨tool, member, rfl⟩, same⟩ := granted
  rw [show (specDefinition tool).config.get "_tool_id" = some (.uuid tool.id) from
    specDefinition_toolId tool] at same
  simp only [Option.some.injEq] at same
  exact List.mem_map.mpr ⟨tool, List.mem_of_mem_filter member, same⟩

theorem follows_start (request : AgentRequest) (agentId : Nat) (message : String) (actor : User)
    (conversationId : Option String)
    (action : request.action = .start agentId message actor conversationId) :
    Follows (start request.settings agentId message actor conversationId) (.opened request)
      Ended := by
  have streams : (Session.opened request).streams = true := by
    simp [Session.streams, Session.opened, action]
  refine agentProtocol.follows_request trivial fun agent _ => ?_
  cases agent with
  | none => exact follows_raise _ _
  | some agent =>
      by_cases disabled : agent.enabled = false
      · simp only [disabled, if_true]
        exact follows_raise _ _
      · simp only [disabled]
        refine agentProtocol.follows_request trivial fun version _ => ?_
        cases version with
        | none => exact follows_raise _ _
        | some version =>
            refine agentProtocol.follows_request ⟨streams, ⟨rfl, rfl, rfl, rfl⟩, rfl, rfl,
              fun id granted => granted_buildSpec agent version granted⟩ fun run inserted => ?_
            obtain ⟨id, same⟩ := inserted
            have saved : run.checkpoint = ⟨some (specToJson (buildSpec agent version)), none⟩ := by
              rw [same]
              rfl
            refine agentProtocol.follows_request trivial fun _ _ => ?_
            refine follows_started run ?_ ?_ ?_ message
            · exact ⟨rfl, streams, rfl, by rw [saved], rfl, rfl, rfl⟩
            · rw [saved]
              rfl
            · rfl

theorem follows_approve (request : AgentRequest) (runId : Nat) (approved : Bool) (actor : User)
    (reason : Option String) (action : request.action = .approve runId approved actor reason) :
    Follows (approve request.settings runId approved actor reason) (.opened request) Ended := by
  have streams : (Session.opened request).streams = true := by
    simp [Session.streams, Session.opened, action]
  refine agentProtocol.follows_request (fun _ => ⟨rfl, rfl⟩) fun run _ => ?_
  cases run with
  | none => exact follows_raise _ _
  | some run =>
      by_cases waiting : run.state = .waitingForApproval
      · simp only [waiting, ne_eq, not_true_eq_false, if_false]
        have approving : Approving request run
            ((Session.opened request).after (.getRun runId) (some run)) := {
          request := rfl
          streams := streams
          run := rfl
          waiting := waiting
          first := rfl
          untouched := fun _ member => by cases member
          tools := rfl
          suspendedOn := rfl
          executed := rfl }
        refine agentProtocol.follows_request approving.mayQuery fun pending _ => ?_
        have approving := approving.queried pending
        cases pending with
        | none => exact follows_raise _ _
        | some pending =>
            by_cases own : (run.userId = some actor.id && !actor.isSuperuser) = true
            · simp only [own, if_true]
              exact follows_raise _ _
            · simp only [own]
              refine agentProtocol.follows_request trivial fun _ _ => ?_
              exact follows_resume (approving.audited _) (by rw [action]; rfl) actor.id reason
      · simp only [waiting, ne_eq, not_false_eq_true, if_true]
        exact follows_raise _ _

theorem settled_of_cancelled {session : Session} (streams : session.streams = false)
    (plain : ∀ tracked, session.run = some tracked → ∀ assignment ∈ tracked.assigned,
      assignment = .state .cancelled) : session.Settled := by
  refine ⟨fun tracked checkpoint same member => ?_, fun other => ?_⟩
  · cases plain tracked same _ member
  · rw [streams] at other
    cases other

theorem follows_cancel (request : AgentRequest) (runId : Nat)
    (action : request.action = .cancel runId) :
    Follows (cancel runId) (.opened request) Ended := by
  have streams : (Session.opened request).streams = false := by
    simp [Session.streams, Session.opened, action]
  refine agentProtocol.follows_request (fun _ => ⟨rfl, rfl⟩) fun run _ => ?_
  cases run with
  | none => exact follows_raise _ _
  | some run =>
      by_cases terminal : run.isTerminal = true
      · simp only [terminal, if_true]
        refine ⟨settled_of_cancelled streams ?_, fun tracked same => .inl ⟨?_, ?_⟩⟩
        · intro tracked same assignment member
          cases same
          cases member
        · intro tracked same
          cases same
          exact ⟨rfl, rfl⟩
        · intro execution member
          cases member
      · simp only [terminal]
        refine agentProtocol.follows_request (.cancel _ rfl streams rfl rfl
          (by simpa using terminal) rfl) fun _ _ => ?_
        refine agentProtocol.follows_request ⟨⟨_, rfl, rfl, rfl, fun other => ?_⟩, rfl,
          fun _ member => by cases member⟩ fun pending _ => ?_
        · exact False.elim (Bool.false_ne_true (streams.symm.trans other))
        · have cancelled : ∀ tracked : Tracked runTable,
              some ((Tracked.load (T := runTable) run).assign (.state .cancelled)) = some tracked →
              lastState tracked.assigned = some .cancelled ∧
                ∀ assignment ∈ tracked.assigned, assignment = .state .cancelled := by
            intro tracked same
            cases same
            exact ⟨rfl, fun assignment member => List.mem_singleton.mp member⟩
          cases pending with
          | none =>
              refine ⟨settled_of_cancelled streams fun tracked same => (cancelled tracked same).2,
                fun tracked same => .inr ⟨⟨.cancelled, (cancelled tracked same).1,
                  .inl ⟨rfl, rfl⟩⟩, fun execution member => by cases member⟩⟩
          | some pending =>
              refine ⟨.expire (.load pending) _ streams (List.mem_singleton.mpr rfl) rfl rfl,
                fun _ _ => ⟨settled_of_cancelled streams fun tracked same =>
                  (cancelled tracked same).2, fun tracked same => .inr ⟨⟨.cancelled,
                  (cancelled tracked same).1, .inl ⟨rfl, rfl⟩⟩, ?_⟩⟩⟩
              intro execution member _
              simp only [Session.after, Option.toList_some, List.map_cons, List.map_nil,
                List.mem_singleton, Tracked.load_key] at member
              rw [member]
              simp

theorem follows_expireAll (stale : List ToolExecution) (session : Session)
    (streams : session.streams = false) (none : session.run = none)
    (loaded : ∀ execution ∈ stale, ∃ row ∈ session.executions,
      row.key = execution.id ∧ row.inserted = false) :
    Follows (expireAll stale) session Ended := by
  induction stale generalizing session with
  | nil =>
      refine ⟨settled_of_cancelled streams ?_, ?_⟩
      · intro tracked same
        rw [none] at same
        cases same
      · intro tracked same
        rw [none] at same
        cases same
  | cons execution rest ih =>
      obtain ⟨row, member, keyed, isLoaded⟩ := loaded execution (by simp)
      refine agentProtocol.follows_request (.expire row _ streams member keyed isLoaded)
        fun _ _ => ?_
      refine ih _ streams none fun other listed => ?_
      obtain ⟨row, member, keyed, isLoaded⟩ := loaded other (List.mem_cons_of_mem _ listed)
      by_cases same : row.key = execution.id
      · exact ⟨_, List.mem_map.mpr ⟨row, member, if_pos same⟩, keyed, isLoaded⟩
      · exact ⟨_, List.mem_map.mpr ⟨row, member, if_neg same⟩, keyed, isLoaded⟩

theorem follows_expireOlderThan (request : AgentRequest) (cutoff : Nat)
    (action : request.action = .expireOlderThan cutoff) :
    Follows (expireOlderThan cutoff) (.opened request) Ended := by
  have streams : (Session.opened request).streams = false := by
    simp [Session.streams, Session.opened, action]
  refine agentProtocol.follows_request ⟨streams, rfl, rfl⟩ fun stale _ => ?_
  refine follows_expireAll stale _ streams rfl fun execution member => ?_
  exact ⟨.load execution, List.mem_map.mpr ⟨execution, member, rfl⟩, rfl, rfl⟩

theorem program_follows (request : AgentRequest) :
    Follows (program request) (.opened request) fun _ next => next.Settled ∧ next.Finished := by
  unfold program
  cases action : request.action with
  | start agentId message actor conversationId =>
      exact follows_start request agentId message actor conversationId action
  | approve runId approved actor reason =>
      exact follows_approve request runId approved actor reason action
  | cancel runId => exact follows_cancel request runId action
  | expireOlderThan cutoff => exact follows_expireOlderThan request cutoff action

end AiPlatform.Agents
