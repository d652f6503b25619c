import AiPlatform.EventNumbers

/-!
The message lists that reach the model. A stream that starts or resumes from a
dialogue in which at most the pending call is open hands over well-formed lists
only. Whether a resumed stream starts so is decided at the suspension: the calls
of the assistant message that come after the pending one are not in the
checkpoint, and nobody answers them.
-/

namespace AiPlatform.Agents

/-- The suspension that process `i` is about to assign to its run. -/
def suspending (system : AgentSystem) (i : Nat) : Option Suspension :=
  match system.processes i with
  | some ⟨.perform (.assignRun (.suspended checkpoint)) _, _, .running⟩ => checkpoint.suspension
  | _ => none

theorem suspending_eq {system : AgentSystem} {i : Nat} {checkpoint : Checkpoint} {session : Session}
    (performing : system.Performing i (.assignRun (.suspended checkpoint)) session) :
    suspending system i = checkpoint.suspension := by
  obtain ⟨next, found⟩ := performing
  simp [suspending, found]

instance (suspension : Suspension) : Decidable suspension.lastOpen :=
  inferInstanceAs (Decidable (unanswered suspension.conversation =
    some [callId suspension.pendingCall]))

/-- A run is suspended on the last unanswered call of its assistant message only. -/
def SuspendsOnLast (system : AgentSystem) : AgentLabel → Prop
  | .perform i _ => ∀ suspension ∈ suspending system i, suspension.lastOpen
  | .begin _ _ | .stop _ | .commit _ | .abort _ | .change _ => True

instance (system : AgentSystem) (label : AgentLabel) : Decidable (SuspendsOnLast system label) :=
  match label with
  | .perform i _ =>
      inferInstanceAs (Decidable (∀ suspension ∈ suspending system i, suspension.lastOpen))
  | .begin _ _ | .stop _ | .commit _ | .abort _ | .change _ => inferInstanceAs (Decidable True)

def ResumesOpen (run : AgentRun) : Prop :=
  ∀ suspension, run.checkpoint.suspension = some suspension → suspension.lastOpen

def AssignsOpen (assignment : RunAssignment) : Prop :=
  ∀ checkpoint suspension, assignment = .suspended checkpoint →
    checkpoint.suspension = some suspension → suspension.lastOpen

theorem resumesOpen_replay {assigned : List RunAssignment} {run : AgentRun}
    (assigns : ∀ assignment ∈ assigned, AssignsOpen assignment) (resumes : ResumesOpen run) :
    ResumesOpen (Tracked.replay (T := runTable) assigned run) := by
  refine Tracked.replay_keeps (T := runTable) ResumesOpen _ _ resumes ?_
  intro assignment member row resumes suspension saved
  cases assignment with
  | state value => exact resumes suspension saved
  | iterations count => exact resumes suspension saved
  | tokens prompt completion => exact resumes suspension saved
  | suspended checkpoint => exact assigns _ member checkpoint suspension rfl saved
  | completed output => cases saved
  | failed error => exact resumes suspension saved

structure Talks (session : Session) : Prop where
  origin : ∀ tracked, session.run = some tracked → ResumesOpen tracked.original
  assigns : ∀ tracked, session.run = some tracked →
    ∀ assignment ∈ tracked.assigned, AssignsOpen assignment

theorem Talks.performed {i : Nat} {session : Session} {shared next : Shared} {op : Op}
    {answer : Answer} {reply : Reply op} (talks : Talks session) (allowed : session.allowed op)
    (stored : ∀ run ∈ shared.runs, ResumesOpen run)
    (assigns : ∀ assignment, op = .assignRun assignment → AssignsOpen assignment)
    (reacts : shared.react i session op answer = some (reply, next)) :
    Talks (session.after op reply) := by
  have step := run_step session op reply
  generalize found : (session.after op reply).run = row at step
  cases step with
  | same => exact ⟨found ▸ talks.origin, found ▸ talks.assigns⟩
  | loaded id run none =>
      have member := (react_getRun none reacts).1
      constructor
      · intro tracked same
        cases found.symm.trans same
        exact stored run member
      · intro tracked same assignment listed
        cases found.symm.trans same
        cases listed
  | inserted draft run =>
      obtain ⟨rfl, _⟩ := react_addRun reacts
      constructor
      · intro tracked same suspension saved
        cases found.symm.trans same
        rw [Tracked.insert_original, show _ = none from allowed.checkpoint] at saved
        cases saved
      · intro tracked same assignment listed
        cases found.symm.trans same
        cases listed
  | assigned assignment before kept =>
      constructor
      · intro tracked same
        cases found.symm.trans same
        exact talks.origin before kept
      · intro tracked same other listed
        cases found.symm.trans same
        rcases List.mem_append.mp listed with old | new
        · exact talks.assigns before kept other old
        · rw [List.mem_singleton.mp new]
          exact assigns assignment rfl

theorem chat_wellFormed {session : Session} {shared : Shared} {messages : List ChatMessage}
    (model : String) (temperature : Rat) (tools : List Dict) (talks : Talks session)
    (counting : Counting session shared)
    (allowed : session.allowed (.chat messages model temperature tools)) : WellFormed messages := by
  obtain ⟨_, _, tracked, found, waiting, wellFormed⟩ := allowed
  refine wellFormed fun loaded => ?_
  obtain ⟨suspension, saved, _⟩ := counting.taken tracked found loaded (waiting loaded)
  exact ⟨suspension, saved, talks.origin tracked found suspension saved⟩

def dialogues : Invariant agentDiscipline SuspendsOnLast
    (fun system => ownership.Holds system ∧ numbering.Holds system) where
  shared shared := (∀ run ∈ shared.runs, ResumesOpen run) ∧
    ∀ prompt ∈ shared.prompts, WellFormed prompt
  session _ session _ := Talks session
  begins _ _ _ _ _ _ := ⟨fun _ same => (by cases same), fun _ same => by cases same⟩
  performs system i answer op s reply after known meets performing allowed stored talks reacts := by
    have change := reaction reacts
    refine ⟨⟨?_, ?_⟩, talks.performed allowed stored.1 ?_ reacts, fun _ _ _ _ other => other⟩
    · rw [change.runs]
      exact stored.1
    · rw [change.prompts]
      intro prompt member
      rcases List.mem_append.mp member with before | now
      · exact stored.2 prompt before
      · cases op with
        | chat messages model temperature tools =>
            rw [List.mem_singleton.mp now]
            exact chat_wellFormed model temperature tools talks (known.2.2 i s performing.live) allowed
        | _ => cases now
    · rintro assignment rfl checkpoint suspension rfl saved
      refine meets suspension ?_
      rw [suspending_eq performing]
      exact saved
  commits system i s after known _ ending _ stored talks commits := by
    have done := committed commits
    refine ⟨⟨?_, ?_⟩, fun _ _ _ _ other => other⟩
    · intro run member
      rcases (known.1.2 i s ending.live).committed_runs done member with
        ⟨before, _⟩ | ⟨tracked, row, found, _, _, rfl, origin⟩
      · exact stored.1 run before
      · refine resumesOpen_replay (talks.assigns tracked found) ?_
        rcases origin with ⟨_, rfl⟩ | ⟨_, member⟩
        · exact talks.origin tracked found
        · exact stored.1 row member
    · rw [done.prompts]
      exact stored.2
  aborts _ _ _ _ _ _ stored _ := ⟨stored, fun _ _ _ _ other => other⟩
  changes _ _ _ _ stored := ⟨stored, fun _ _ _ other => other⟩

/-- As long as runs are suspended on the last call of a message only, every
message list handed to the model is well formed. -/
theorem prompts_wellFormed (registry : Registry) (system : AgentSystem)
    (reached : Reached SuspendsOnLast registry system) :
    ∀ prompt ∈ system.shared.prompts, WellFormed prompt := by
  have initially : dialogues.shared (idle registry).shared :=
    ⟨fun _ member => (nomatch member), fun _ member => nomatch member⟩
  exact (dialogues.reached (fun _ => rfl) initially
    (fun system reached => ⟨owned _ registry system reached, counted _ registry system reached⟩)
    system reached).1.2

/-- Two model calls with an approval in between. -/
theorem prompts_wellFormed_approvedLookup : ∃ system : AgentSystem,
    system.shared.prompts.length = 2 ∧ ∀ prompt ∈ system.shared.prompts, WellFormed prompt := by
  obtain ⟨system, reached, checked⟩ := reached_checked SuspendsOnLast desk approvedLookup
    (fun system => system.shared.prompts.length = 2) (by decide +kernel)
  exact ⟨system, of_decide_eq_true checked, prompts_wellFormed desk system reached⟩

def forgottenCall : List AgentLabel :=
  starts 0 policy (asks [lookupCall "c1", lookupCall "c2"]) ++ suspends 0 ++ [.commit 0] ++
    reviews 1 0 true ++ decides 1 ++ executes 1 ++ resumes 1 (answersWith "It is Ada.")

theorem prompt_not_wellFormed : ∃ system : AgentSystem, Reached anyStep desk system ∧
    ∃ prompt ∈ system.shared.prompts, ¬ WellFormed prompt := by
  obtain ⟨system, reached, checked⟩ := reached_checked anyStep desk forgottenCall
    (fun system => system.shared.prompts.any fun prompt =>
      match prompt.drop 2 with
      | message :: later => message.role = .assistant &&
          message.toolCalls.map callId = ["c1", "c2"] &&
          (answers (untilAssistant later)).count "c2" = 0
      | [] => false)
    (by decide +kernel)
  obtain ⟨prompt, member, shape⟩ := List.any_eq_true.mp checked
  refine ⟨system, reached, prompt, member, fun wellFormed => ?_⟩
  split at shape
  · rename_i message later split
    simp only [Bool.and_eq_true, decide_eq_true_eq] at shape
    obtain ⟨⟨role, ids⟩, count⟩ := shape
    have whole : prompt = prompt.take 2 ++ message :: later := by
      rw [← split, List.take_append_drop]
    have answered := wellFormed.answered _ _ _ whole role (by rw [ids]; decide) "c2"
    rw [count, ids] at answered
    simp at answered
  · cases shape

end AiPlatform.Agents
