import AiPlatform.EventNumbers

/-!
Terminal runs. A request checks the state of its run once, when it reads the
row, and writes whole columns when it commits. What it wrote is lost, or
overwrites, where another request ended the run in between.
-/

namespace AiPlatform.Agents

def LeavesTerminal (session : Session) : Prop :=
  ∀ tracked, session.run = some tracked → tracked.inserted = false →
    tracked.original.isTerminal = true → tracked.assigned = []

theorem mayAssignRun_live {session : Session} {assignment : RunAssignment}
    (may : session.MayAssignRun assignment) {tracked : Tracked runTable}
    (found : session.run = some tracked) (loaded : tracked.inserted = false) :
    tracked.original.isTerminal = false := by
  have live : ∀ run : AgentRun, run.state = .waitingForApproval → run.isTerminal = false := by
    intro run waiting
    simp [AgentRun.isTerminal, waiting, RunState.isTerminal]
  cases may with
  | step other _ same _ _ waiting =>
      rw [found] at same
      cases same
      exact live _ (waiting loaded)
  | suspend other _ _ same _ _ waiting =>
      rw [found] at same
      cases same
      exact live _ (waiting loaded)
  | finish other _ same _ _ waiting =>
      rw [found] at same
      cases same
      exact live _ (waiting loaded)
  | cancel other same _ _ _ notEnded =>
      rw [found] at same
      cases same
      exact notEnded

theorem leavesTerminal_after (session : Session) (op : Op) (reply : Reply op)
    (allowed : session.allowed op) (leaves : LeavesTerminal session) :
    LeavesTerminal (session.after op reply) := by
  intro tracked found loaded ended
  have step := run_step session op reply
  generalize (session.after op reply).run = row at step found
  cases step with
  | same => exact leaves tracked found loaded ended
  | loaded id run none =>
      cases found
      rfl
  | inserted draft run =>
      cases found
      cases loaded
  | assigned assignment before kept =>
      cases found
      have live := mayAssignRun_live allowed kept loaded
      exact absurd (ended.symm.trans live) (by decide)

/-- Whoever commits to a run that has ended had read it as ended. -/
def CommitsKnowingly (system : AgentSystem) : AgentLabel → Prop
  | .commit i => ∀ session ∈ system.session? i, ∀ tracked ∈ session.run,
      ∀ run ∈ system.shared.runs, run.id = tracked.key → run.isTerminal = true →
        tracked.original.isTerminal = true
  | .begin _ _ | .perform _ _ | .stop _ | .abort _ | .change _ => True

instance (system : AgentSystem) (label : AgentLabel) :
    Decidable (CommitsKnowingly system label) :=
  match label with
  | .commit i => inferInstanceAs (Decidable (∀ session ∈ system.session? i,
      ∀ tracked ∈ session.run, ∀ run ∈ system.shared.runs, run.id = tracked.key →
        run.isTerminal = true → tracked.original.isTerminal = true))
  | .begin _ _ | .perform _ _ | .stop _ | .abort _ | .change _ => inferInstanceAs (Decidable True)

structure SameOutcome (later run : AgentRun) : Prop where
  id : later.id = run.id
  state : later.state = run.state
  output : later.output = run.output
  error : later.error = run.error

theorem terminal_step {registry : Registry} {system : AgentSystem} {next : Shared}
    {label : AgentLabel} (reached : Reached CommitsKnowingly registry system)
    (meets : CommitsKnowingly system label) (effect : Effect system label next) {run : AgentRun}
    (member : run ∈ system.shared.runs) (ended : run.isTerminal = true) :
    ∃ later ∈ next.runs, SameOutcome later run := by
  cases effect with
  | unchanged => exact ⟨run, member, rfl, rfl, rfl, rfl⟩
  | reacted i answer op session reply _ performing reacts =>
      rw [(reaction reacts).runs]
      exact ⟨run, member, rfl, rfl, rfl, rfl⟩
  | committed i session _ ending done =>
      have leaves := Invariant.session_reached (D := agentDiscipline) LeavesTerminal
        (fun _ _ same => by cases same)
        (fun session op reply allowed _ => leavesTerminal_after session op reply allowed)
        (fun _ => rfl) system reached ending.live
      rw [done.runs]
      refine ⟨_, Tracked.update_stored (T := runTable) member, ?_⟩
      rw [Tracked.update_clean (T := runTable)]
      · exact ⟨rfl, rfl, rfl, rfl⟩
      · intro tracked listed loaded keyed
        have found : session.run = some tracked := by simpa using listed
        exact leaves tracked found loaded
          (meets session ending.live.session? tracked found run member keyed.symm ended)
  | released i session live => exact ⟨run, member, rfl, rfl, rfl, rfl⟩
  | edited change => exact ⟨run, member, rfl, rfl, rfl, rfl⟩

/-- As long as nobody commits to a run that ended behind their back, the
outcome of a run is final. -/
theorem terminal_absorbing (registry : Registry) (system later : AgentSystem)
    (reached : Reached CommitsKnowingly registry system)
    (goes : System.Reaches CommitsKnowingly system later) :
    ∀ run ∈ system.shared.runs, run.isTerminal = true →
      ∃ row ∈ later.shared.runs, SameOutcome row run := by
  intro run member ended
  induction goes with
  | start => exact ⟨run, member, rfl, rfl, rfl, rfl⟩
  | step label before meets stepped ih =>
      obtain ⟨row, stored, same⟩ := ih
      have stays : row.isTerminal = true := by
        rw [AgentRun.isTerminal, same.state]
        exact ended
      obtain ⟨last, kept, again⟩ := terminal_step (reached.trans before) meets
        (effect (System.step_transition stepped)) stored stays
      exact ⟨last, kept, again.id.trans same.id, again.state.trans same.state,
        again.output.trans same.output, again.error.trans same.error⟩

/-- A run completes, and a cancel request that comes later reads it as completed. -/
theorem terminal_absorbing_lateCancel : ∃ system later : AgentSystem,
    system.shared.runs.any (·.isTerminal) = true ∧ (later.processes 1).isSome = true ∧
      ∀ run ∈ system.shared.runs, run.isTerminal = true →
        ∃ row ∈ later.shared.runs, SameOutcome row run := by
  obtain ⟨system, later, reached, goes, checked⟩ := reached_later CommitsKnowingly desk
    (starts 0 policy (answersWith "Hello.") ++ completes 0 ++ [.commit 0])
    [.begin 1 ⟨policy, .cancel 0⟩, .perform 1 .nothing, .commit 1]
    (fun system later => system.shared.runs.any (·.isTerminal) && (later.processes 1).isSome)
    (by decide +kernel)
  obtain ⟨ended, begun⟩ := Bool.and_eq_true_iff.mp checked
  exact ⟨system, later, ended, begun, terminal_absorbing desk system later reached goes⟩

/-- The approver has read the run when it is cancelled: the cancellation is
committed, and the approval then completes the run. -/
theorem terminal_not_absorbing : ∃ system later : AgentSystem, ∃ run row : AgentRun,
    Reached anyStep desk system ∧ System.Reaches anyStep system later ∧
      system.shared.run 0 = some run ∧ run.state = .cancelled ∧
      later.shared.run 0 = some row ∧ row.state = .completed := by
  obtain ⟨system, later, reached, goes, checked⟩ := reached_later anyStep desk
    (starts 0 policy (asks [lookupCall "c1"]) ++ suspends 0 ++ [.commit 0] ++ reviews 1 0 true ++
      cancels 2 0 ++ [.commit 2])
    (decides 1 ++ executes 1 ++ resumes 1 (answersWith "It is Ada.") ++ completes 1 ++ [.commit 1])
    (fun system later => (system.shared.run 0).any (·.state = .cancelled) &&
      (later.shared.run 0).any (·.state = .completed))
    (by decide +kernel)
  obtain ⟨before, after⟩ := Bool.and_eq_true_iff.mp checked
  obtain ⟨run, found, cancelled⟩ := (Option.any_eq_true _ _).mp before
  obtain ⟨row, stored, completed⟩ := (Option.any_eq_true _ _).mp after
  exact ⟨system, later, run, row, reached, goes, found, of_decide_eq_true cancelled, stored,
    of_decide_eq_true completed⟩

end AiPlatform.Agents
