import AiPlatform.AgentPrograms

/-!
The interleaved system of the agent services. `Reaction` says once what an
operation does to the shared store, so that what an invariant needs of a single
operation is one case and of all the others the frame.
-/

namespace AiPlatform.Agents

def callsOf (i : Nat) (session : Session) (shared : Shared) : Op → List Call
  | .execute executionId tool invocation =>
      [shared.call i session executionId tool invocation]
  | _ => []

def promptsOf : Op → List (List ChatMessage)
  | .chat messages _ _ _ => [messages]
  | _ => []

def startedBy (session : Session) (shared : Shared) : Op → List Started
  | .addRun draft => [{
      runId := shared.nextId
      granted := (session.version.map fun version => version.tools.map (·.id)).getD []
      permissions := draft.userPermissions }]
  | _ => []

def shownBy (session : Session) (shared : Shared) : Op → List Shown
  | .assignExecution executionId assignment => shared.shownAfter session executionId assignment
  | _ => shared.shown

structure Reaction (i : Nat) (session : Session) (shared : Shared) (op : Op) (reply : Reply op)
    (next : Shared) : Prop where
  registry : next.registry = shared.registry
  runs : next.runs = shared.runs
  executions : next.executions = shared.executions
  events : next.events = shared.events
  locks : ∃ keys, (∀ key ∈ keys, shared.locks.free i key = true) ∧
    next.locks = shared.locks.acquire i keys ∧
    (session.after op reply).held = session.held ++ keys
  nextId : shared.nextId ≤ next.nextId
  started : next.started = shared.started ++ startedBy session shared op
  shown : next.shown = shownBy session shared op
  calls : next.calls = shared.calls ++ callsOf i session shared op
  prompts : next.prompts = shared.prompts ++ promptsOf op

theorem acquire_nothing (locks : Locks LockKey) (i : Nat) : locks.acquire i [] = locks := by
  funext key
  simp [Locks.acquire]

theorem Reaction.idle {i : Nat} {session : Session} {shared : Shared} {op : Op} {reply : Reply op}
    (held : (session.after op reply).held = session.held)
    (starts : startedBy session shared op = []) (shows : shownBy session shared op = shared.shown)
    (calls : callsOf i session shared op = []) (prompts : promptsOf op = []) :
    Reaction i session shared op reply shared := by
  refine ⟨rfl, rfl, rfl, rfl, ⟨[], by simp, (acquire_nothing _ _).symm, by simp [held]⟩,
    Nat.le_refl _, ?_, shows.symm, ?_, ?_⟩
  · simp [starts]
  · simp [calls]
  · simp [prompts]

theorem admits_free {shared : Shared} {i : Nat} {session : Session} {keys : List LockKey}
    (admits : shared.admits i session keys = true) :
    ∀ key ∈ session.dirty ++ keys, shared.locks.free i key = true := by
  exact List.all_eq_true.mp admits

theorem reaction {i : Nat} {session : Session} {shared next : Shared} {op : Op} {answer : Answer}
    {reply : Reply op} (reacts : shared.react i session op answer = some (reply, next)) :
    Reaction i session shared op reply next := by
  cases op with
  | getAgent agentId =>
      cases reacts
      exact .idle rfl rfl rfl rfl rfl
  | getCurrentVersion agentId =>
      cases reacts
      refine .idle ?_ rfl rfl rfl rfl
      cases shared.registry.getCurrent agentId <;> rfl
  | getRun runId =>
      simp only [Shared.react] at reacts
      cases held : session.run with
      | none =>
          rw [held] at reacts
          cases reacts
          refine .idle ?_ rfl rfl rfl rfl
          cases shared.run runId <;> simp [Session.after, held]
      | some tracked =>
          simp only [held] at reacts
          split at reacts
          · cases reacts
            refine .idle ?_ rfl rfl rfl rfl
            simp [Session.after, held]
          · cases reacts
  | addRun draft =>
      simp only [Shared.react] at reacts
      split at reacts
      · rename_i admits
        cases reacts
        exact ⟨rfl, rfl, rfl, rfl, ⟨_, admits_free admits, rfl, rfl⟩, Nat.le_succ _, rfl, rfl,
          (List.append_nil _).symm, (List.append_nil _).symm⟩
      · cases reacts
  | readRun =>
      simp only [Shared.react, Option.map_eq_some_iff] at reacts
      obtain ⟨tracked, _, same⟩ := reacts
      cases same
      exact .idle rfl rfl rfl rfl rfl
  | assignRun assignment =>
      cases reacts
      exact .idle rfl rfl rfl rfl rfl
  | addExecution run tool arguments =>
      cases answer with
      | now time =>
          simp only [Shared.react] at reacts
          split at reacts
          · rename_i admits
            cases reacts
            exact ⟨rfl, rfl, rfl, rfl, ⟨_, admits_free admits, rfl, rfl⟩, Nat.le_succ _,
              (List.append_nil _).symm, rfl, (List.append_nil _).symm, (List.append_nil _).symm⟩
          · cases reacts
      | _ => cases reacts
  | assignExecution executionId assignment =>
      cases reacts
      exact ⟨rfl, rfl, rfl, rfl, ⟨[], by simp, (acquire_nothing _ _).symm,
        (List.append_nil _).symm⟩, Nat.le_refl _, (List.append_nil _).symm, rfl,
        (List.append_nil _).symm, (List.append_nil _).symm⟩
  | flush =>
      simp only [Shared.react] at reacts
      split at reacts
      · rename_i admits
        cases reacts
        exact ⟨rfl, rfl, rfl, rfl, ⟨_, admits_free admits, rfl, rfl⟩, Nat.le_refl _,
          (List.append_nil _).symm, rfl, (List.append_nil _).symm, (List.append_nil _).symm⟩
      · cases reacts
  | pendingForRun runId =>
      cases reacts
      exact .idle rfl rfl rfl rfl rfl
  | pendingOlderThan cutoff =>
      cases reacts
      exact .idle rfl rfl rfl rfl rfl
  | getToolByName name =>
      have unchanged : next = shared := by
        cases answer with
        | retained kept =>
            simp only [Shared.react] at reacts
            split at reacts
            · cases reacts
              rfl
            · split at reacts <;> cases reacts <;> rfl
        | _ => cases reacts
      rw [unchanged]
      refine .idle ?_ rfl rfl rfl rfl
      cases reply <;> rfl
  | writeEvent event =>
      simp only [Shared.react] at reacts
      split at reacts
      · rename_i admits
        cases reacts
        exact ⟨rfl, rfl, rfl, rfl, ⟨_, admits_free (Bool.and_eq_true_iff.mp admits).1, rfl, rfl⟩,
          Nat.le_refl _, (List.append_nil _).symm, rfl, (List.append_nil _).symm,
          (List.append_nil _).symm⟩
      · cases reacts
  | deliver event =>
      cases reacts
      exact .idle rfl rfl rfl rfl rfl
  | audit entry =>
      cases reacts
      exact .idle rfl rfl rfl rfl rfl
  | auditIndependent entry =>
      cases reacts
      exact ⟨rfl, rfl, rfl, rfl, ⟨[], by simp, (acquire_nothing _ _).symm,
        (List.append_nil _).symm⟩, Nat.le_refl _, (List.append_nil _).symm, rfl,
        (List.append_nil _).symm, (List.append_nil _).symm⟩
  | gather spec context question =>
      cases answer with
      | retrieved result =>
          cases reacts
          exact .idle rfl rfl rfl rfl rfl
      | _ => cases reacts
  | providerFactory model =>
      cases answer with
      | provider result =>
          cases reacts
          exact .idle rfl rfl rfl rfl rfl
      | _ => cases reacts
  | chat messages model temperature tools =>
      cases answer with
      | completion result =>
          cases reacts
          exact ⟨rfl, rfl, rfl, rfl, ⟨[], by simp, (acquire_nothing _ _).symm,
            (List.append_nil _).symm⟩, Nat.le_refl _, (List.append_nil _).symm, rfl,
            (List.append_nil _).symm, rfl⟩
      | _ => cases reacts
  | execute executionId tool invocation =>
      cases answer with
      | result result =>
          cases reacts
          exact ⟨rfl, rfl, rfl, rfl, ⟨[], by simp, (acquire_nothing _ _).symm,
            (List.append_nil _).symm⟩, Nat.le_refl _, (List.append_nil _).symm, rfl, rfl,
            (List.append_nil _).symm⟩
      | _ => cases reacts
  | raise error => cases reply

theorem run_id {shared : Shared} {runId : Nat} {run : AgentRun} (found : shared.run runId = some run) :
    run ∈ shared.runs ∧ run.id = runId :=
  ⟨List.mem_of_find?_eq_some found, by simpa using List.find?_some found⟩

theorem earliest_mem (executions : List ToolExecution) {execution : ToolExecution}
    (found : Shared.earliest executions = some execution) : execution ∈ executions := by
  induction executions generalizing execution with
  | nil => cases found
  | cons head rest ih =>
      rw [Shared.earliest] at found
      cases tail : Shared.earliest rest with
      | none =>
          rw [tail] at found
          cases found
          exact List.mem_cons_self
      | some other =>
          simp only [tail] at found
          split at found
          · cases found
            exact List.mem_cons_self
          · cases found
            exact List.mem_cons_of_mem _ (ih tail)

theorem mem_pendingOf {shared : Shared} {runId : Nat} {execution : ToolExecution} :
    execution ∈ shared.pendingOf runId ↔ execution ∈ shared.executions ∧
      execution.runId = runId ∧ execution.approvalState = .pending := by
  simp [Shared.pendingOf]

theorem react_pendingForRun {i : Nat} {session : Session} {shared next : Shared} {answer : Answer}
    {runId : Nat} {execution : ToolExecution}
    (reacts : shared.react i session (.pendingForRun runId) answer = some (some execution, next)) :
    execution ∈ shared.pendingOf runId := by
  have found : Shared.earliest (shared.pendingOf runId) = some execution :=
    congrArg Prod.fst (Option.some.inj reacts)
  exact earliest_mem _ found

theorem react_getRun {i : Nat} {session : Session} {shared next : Shared} {answer : Answer}
    {runId : Nat} {run : AgentRun} (none : session.run = none)
    (reacts : shared.react i session (.getRun runId) answer = some (some run, next)) :
    run ∈ shared.runs ∧ run.id = runId := by
  simp only [Shared.react, none] at reacts
  have found : shared.run runId = some run := congrArg Prod.fst (Option.some.inj reacts)
  exact run_id found

theorem react_addRun {i : Nat} {session : Session} {shared next : Shared} {answer : Answer}
    {draft run : AgentRun}
    (reacts : shared.react i session (.addRun draft) answer = some (run, next)) :
    run = { draft with id := shared.nextId } ∧ next.nextId = shared.nextId + 1 := by
  simp only [Shared.react] at reacts
  split at reacts
  · cases reacts
    exact ⟨rfl, rfl⟩
  · cases reacts

theorem react_addExecution {i : Nat} {session : Session} {shared next : Shared} {answer : Answer}
    {run : AgentRun} {tool : Tool} {arguments : Dict} {execution : ToolExecution}
    (reacts : shared.react i session (.addExecution run tool arguments) answer =
      some (execution, next)) :
    execution.id = shared.nextId ∧ next.nextId = shared.nextId + 1 ∧ execution.runId = run.id ∧
      execution.toolName = tool.name ∧ execution.arguments = arguments ∧
      execution.approvalState = .notRequired := by
  cases answer with
  | now time =>
      simp only [Shared.react] at reacts
      split at reacts
      · cases reacts
        exact ⟨rfl, rfl, rfl, rfl, rfl, rfl⟩
      · cases reacts
  | _ => cases reacts

theorem react_writeEvent {i : Nat} {session : Session} {shared next : Shared} {answer : Answer}
    {event : AgentRunEvent} {reply : Unit}
    (reacts : shared.react i session (.writeEvent event) answer = some (reply, next)) :
    ∀ other ∈ shared.events ++ session.events,
      ¬(other.runId = event.runId ∧ other.sequence = event.sequence) := by
  simp only [Shared.react] at reacts
  split at reacts
  · rename_i admits
    have fresh := (Bool.and_eq_true_iff.mp admits).2
    simp only [Shared.numbered, Bool.not_eq_true', List.any_eq_false] at fresh
    intro other member
    simpa using fresh other member
  · cases reacts

theorem react_getToolByName {i : Nat} {session : Session} {shared next : Shared} {answer : Answer}
    {name : String} {tool : Tool} (none : session.tools = [])
    (reacts : shared.react i session (.getToolByName name) answer = some (some tool, next)) :
    tool.name = name := by
  cases answer with
  | retained kept =>
      simp only [Shared.react, none, List.find?_nil] at reacts
      cases found : shared.registry.getByName name with
      | none =>
          rw [found] at reacts
          cases reacts
      | some row =>
          rw [found] at reacts
          cases reacts
          exact Registry.getByName_name found
  | _ => cases reacts

theorem react_trusted {i : Nat} {session : Session} {shared next : Shared} {op : Op}
    {answer : Answer} {reply : Reply op}
    (reacts : shared.react i session op answer = some (reply, next)) : session.trusted op reply := by
  cases op with
  | getRun runId =>
      cases held : session.run with
      | none =>
          simp only [Session.trusted, held]
          intro run same
          subst same
          exact (react_getRun held reacts).2
      | some tracked =>
          simp only [Shared.react, held] at reacts
          split at reacts
          · cases reacts
            simp only [Session.trusted, held]
            exact ⟨‹_›, rfl⟩
          · cases reacts
  | addRun draft => exact ⟨_, (react_addRun reacts).1⟩
  | readRun =>
      simp only [Shared.react, Option.map_eq_some_iff] at reacts
      obtain ⟨tracked, held, same⟩ := reacts
      cases same
      exact ⟨tracked, held, rfl⟩
  | addExecution run tool arguments =>
      obtain ⟨_, _, owner, named, argued, state⟩ := react_addExecution reacts
      exact ⟨owner, named, argued, state⟩
  | pendingForRun runId =>
      intro execution same
      subst same
      exact (mem_pendingOf.mp (react_pendingForRun reacts)).2
  | getToolByName name =>
      intro none tool same
      subst same
      exact react_getToolByName none reacts
  | _ => trivial

inductive RunStep (session : Session) : (op : Op) → Reply op → Option (Tracked runTable) → Prop
  | same (op : Op) (reply : Reply op) : RunStep session op reply session.run
  | loaded (id : Nat) (run : AgentRun) (none : session.run = none) :
      RunStep session (.getRun id) (some run) (some (.load run))
  | inserted (draft run : AgentRun) : RunStep session (.addRun draft) run (some (.insert run))
  | assigned (assignment : RunAssignment) (tracked : Tracked runTable)
      (found : session.run = some tracked) :
      RunStep session (.assignRun assignment) () (some (tracked.assign assignment))

theorem run_step (session : Session) (op : Op) (reply : Reply op) :
    RunStep session op reply (session.after op reply).run := by
  cases op with
  | getCurrentVersion agentId => cases reply <;> exact .same _ _
  | getRun id =>
      cases reply with
      | none => exact .same _ _
      | some run =>
          cases none : session.run with
          | none =>
              simp only [Session.after, none]
              exact .loaded id run none
          | some tracked =>
              simp only [Session.after, none]
              rw [← none]
              exact .same _ _
  | addRun draft => exact .inserted draft reply
  | assignRun assignment =>
      cases found : session.run with
      | none =>
          simp only [Session.after, found, Option.map_none]
          rw [← found]
          exact .same _ _
      | some tracked =>
          simp only [Session.after, found, Option.map_some]
          exact .assigned assignment tracked found
  | getToolByName name => cases reply <;> exact .same _ _
  | raise error => cases reply
  | _ => exact .same _ _

inductive RowsStep (session : Session) :
    (op : Op) → Reply op → List (Tracked executionTable) → List Nat → Prop
  | same (op : Op) (reply : Reply op) :
      RowsStep session op reply session.executions session.suspendedOn
  | inserted (run : AgentRun) (tool : Tool) (arguments : Dict) (row : ToolExecution) :
      RowsStep session (.addExecution run tool arguments) row
        (session.executions ++ [.insert row]) session.suspendedOn
  | assigned (executionId : Nat) (assignment : ExecutionAssignment) :
      RowsStep session (.assignExecution executionId assignment) ()
        (session.executions.map fun tracked =>
          if tracked.key = executionId then tracked.assign assignment else tracked)
        (Session.marked executionId session.suspendedOn assignment)
  | pending (runId : Nat) (found : Option ToolExecution) :
      RowsStep session (.pendingForRun runId) found (found.toList.map .load) session.suspendedOn
  | stale (cutoff : Nat) (found : List ToolExecution) :
      RowsStep session (.pendingOlderThan cutoff) found (found.map .load) session.suspendedOn

theorem rows_step (session : Session) (op : Op) (reply : Reply op) :
    RowsStep session op reply (session.after op reply).executions
      (session.after op reply).suspendedOn := by
  cases op with
  | getCurrentVersion agentId => cases reply <;> exact .same _ _
  | getRun id =>
      cases reply with
      | none => exact .same _ _
      | some run =>
          simp only [Session.after]
          split <;> exact .same _ _
  | addExecution run tool arguments => exact .inserted run tool arguments reply
  | assignExecution executionId assignment => exact .assigned executionId assignment
  | pendingForRun runId => exact .pending runId reply
  | pendingOlderThan cutoff => exact .stale cutoff reply
  | getToolByName name => cases reply <;> exact .same _ _
  | raise error => cases reply
  | _ => exact .same _ _

def agentDiscipline : Discipline agentMachine where
  allowed := Session.allowed
  trusted := Session.trusted
  settled := Session.Settled
  finished := Session.Finished
  react_trusted _ _ _ _ _ _ _ reacts := react_trusted reacts
  awaits_settled session op allowed awaits := by
    cases op with
    | deliver event => exact allowed.settled
    | chat messages model temperature tools => exact allowed.1
    | _ => cases awaits
  program_follows := program_follows

abbrev AgentSystem := System agentMachine

abbrev AgentLabel := Label agentMachine

def idle (registry : Registry) : AgentSystem := ⟨.empty registry, fun _ => none⟩

/-- A schedule from the empty database whose steps meet a condition. -/
abbrev Reached (ok : AgentSystem → AgentLabel → Prop) (registry : Registry)
    (system : AgentSystem) : Prop :=
  System.Reaches ok (idle registry) system

abbrev anyStep (_ : AgentSystem) (_ : AgentLabel) : Prop := True

section Replays

variable (ok : AgentSystem → AgentLabel → Prop) [∀ system label, Decidable (ok system label)]

/-- Replays a schedule whose steps meet the condition. -/
abbrev replayed (system : AgentSystem) (labels : List AgentLabel) : Option AgentSystem :=
  System.replay (fun system label => decide (ok system label)) system labels

theorem reached_checked (registry : Registry) (labels : List AgentLabel)
    (check : AgentSystem → Bool) (checked : (replayed ok (idle registry) labels).any check = true) :
    ∃ system, Reached ok registry system ∧ check system = true :=
  System.reaches_checked labels check .start (fun _ _ => of_decide_eq_true) checked

theorem reached_later (registry : Registry) (first second : List AgentLabel)
    (check : AgentSystem → AgentSystem → Bool)
    (checked : (replayed ok (idle registry) first).any (fun system =>
      (replayed ok system second).any (check system)) = true) :
    ∃ system later, Reached ok registry system ∧ System.Reaches ok system later ∧
      check system later = true := by
  obtain ⟨system, reached, found⟩ := reached_checked ok registry first _ checked
  have here : System.Reaches ok system system := .start
  obtain ⟨later, goes, last⟩ := System.reaches_checked second (check system) here
    (fun _ _ => of_decide_eq_true) found
  exact ⟨system, later, reached, goes, last⟩

end Replays

/-! ## A platform to replay schedules on

One agent is granted one tool, whose calls need an approval. -/

def lookup : Tool where
  id := 100
  name := "lookup"
  description := "Look up a customer."
  type := .rest
  parametersSchema := []
  requiredPermission := "tools:lookup"
  riskLevel := .high
  endpoint := some "https://crm.internal/lookup"
  config := []
  credentialsEncrypted := some "sealed"
  enabled := true
  timeoutSeconds := 30
  mcpServerId := none

def desk : Registry where
  tools := [lookup]
  servers := []
  skills := []
  agents := [⟨1, "desk", "Desk", none, true, 1⟩]
  versions := [{
    id := 2, agentId := 1, version := 1, systemPrompt := "Help.", model := "small"
    temperature := 0, maxIterations := 3, knowledgeBaseIds := [], memoryEnabled := false
    toolIds := [100], skillIds := [] }]

def policy : AgentSettings where
  disabledToolTypes := []
  approvalRequiredRiskLevels := [.high]
  permissionCatalogue := ["tools:lookup"]
  retrieval := false

def openPolicy : AgentSettings := { policy with approvalRequiredRiskLevels := [] }

def requester : User := ⟨7, "requester", false, ["tools:lookup"]⟩

def approver : User := ⟨8, "approver", true, []⟩

def asks (calls : List ToolCall) : ChatCompletion := ⟨some "Let me look.", calls, 10, 5⟩

def answersWith (content : String) : ChatCompletion := ⟨some content, [], 10, 5⟩

def lookupCall (id : String) : ToolCall := ⟨some id, some "lookup", .dict [("customer", .str id)]⟩

def proceeds (i n : Nat) : List AgentLabel := List.replicate n (.perform i .nothing)

/-- Process `i` asks the model, which answers. -/
def converses (i : Nat) (completion : ChatCompletion) : List AgentLabel :=
  proceeds i 3 ++ .perform i (.completion (.ok completion)) :: proceeds i 4

/-- Process `i` starts a run and the model answers. -/
def starts (i : Nat) (settings : AgentSettings) (completion : ChatCompletion) : List AgentLabel :=
  .begin i ⟨settings, .start 1 "Who is this?" requester none⟩ :: proceeds i 7 ++
    .perform i (.provider (.ok "small")) :: converses i completion

/-- The next call of process `i` suspends its run. -/
def suspends (i : Nat) : List AgentLabel :=
  proceeds i 2 ++ .perform i (.retained true) :: .perform i (.now 0) :: proceeds i 7

/-- The next call of process `i` reaches its executor at once. -/
def calls (i : Nat) : List AgentLabel :=
  proceeds i 2 ++ .perform i (.retained true) :: .perform i (.now 0) :: proceeds i 1 ++
    [.perform i (.result (.ok ⟨true, "Ada", none, false⟩))]

/-- Process `i` reads the run and its pending call for a decision. -/
def reviews (i runId : Nat) (approved : Bool) : List AgentLabel :=
  .begin i ⟨policy, .approve runId approved approver none⟩ :: proceeds i 5

/-- Process `i` writes its decision and the event that announces it. -/
def decides (i : Nat) : List AgentLabel := proceeds i 3

/-- Process `i` cancels a run that waits for an approval. -/
def cancels (i runId : Nat) : List AgentLabel := .begin i ⟨policy, .cancel runId⟩ :: proceeds i 4

/-- Process `i` executes the approved call. -/
def executes (i : Nat) : List AgentLabel :=
  [.perform i (.retained true), .perform i (.result (.ok ⟨true, "Ada", none, false⟩))] ++
    proceeds i 7

/-- Process `i` goes on after a decision and the model answers. -/
def resumes (i : Nat) (completion : ChatCompletion) : List AgentLabel :=
  .perform i (.provider (.ok "small")) :: converses i completion

def completes (i : Nat) : List AgentLabel := proceeds i 3

end AiPlatform.Agents
