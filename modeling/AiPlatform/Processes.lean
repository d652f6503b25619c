import AiPlatform.Program

/-!
Interleaved requests over a shared store. A machine gives each request a
program and a session, and says how the shared part reacts to an operation,
what a commit writes and what a rollback releases. A system holds the shared
part and the processes begun so far; each step of it is one label, so a list of
labels is a schedule. A stopped process is one whose program was abandoned
while it waited: it performs nothing more, but it can still commit.

A discipline is a protocol that every program of the machine follows. The rule
`Invariant.reached` reduces an invariant of all schedules to one obligation for
each kind of label.
-/

namespace AiPlatform

structure Machine (S : Signature) where
  Request : Type
  Session : Type
  Shared : Type
  Answer : Type
  Change : Type
  program : Request → Program S Unit
  opened : Request → Session
  after : Session → (op : S.Op) → S.Reply op → Session
  react : Nat → Session → Shared → (op : S.Op) → Answer → Option (S.Reply op × Shared)
  awaits : S.Op → Bool
  commit : Nat → Session → Shared → Option Shared
  release : Nat → Shared → Shared
  change : Change → Shared → Shared

inductive Status
  | running | stopped | committed | aborted
  deriving DecidableEq

variable {S : Signature}

structure Process (M : Machine S) where
  program : Program S Unit
  session : M.Session
  status : Status

structure System (M : Machine S) where
  shared : M.Shared
  processes : Nat → Option (Process M)

inductive Label (M : Machine S)
  | begin (i : Nat) (request : M.Request)
  | perform (i : Nat) (answer : M.Answer)
  | stop (i : Nat)
  | commit (i : Nat)
  | abort (i : Nat)
  | change (edit : M.Change)

namespace System

variable {M : Machine S}

def put (system : System M) (i : Nat) (process : Process M) (shared : M.Shared) : System M :=
  { shared := shared
    processes := fun j => if j = i then some process else system.processes j }

def step (system : System M) : Label M → Option (System M)
  | .begin i request =>
      match system.processes i with
      | some _ => none
      | none => some (system.put i ⟨M.program request, M.opened request, .running⟩ system.shared)
  | .perform i answer =>
      match system.processes i with
      | some ⟨.perform op next, session, .running⟩ =>
          match M.react i session system.shared op answer with
          | some (reply, shared) =>
              some (system.put i ⟨next reply, M.after session op reply, .running⟩ shared)
          | none => none
      | _ => none
  | .stop i =>
      match system.processes i with
      | some ⟨.perform op _, session, .running⟩ =>
          if M.awaits op then some (system.put i ⟨.done (), session, .stopped⟩ system.shared)
          else none
      | _ => none
  | .commit i =>
      match system.processes i with
      | some ⟨.done (), session, .running⟩ | some ⟨.done (), session, .stopped⟩ =>
          match M.commit i session system.shared with
          | some shared => some (system.put i ⟨.done (), session, .committed⟩ shared)
          | none => none
      | _ => none
  | .abort i =>
      match system.processes i with
      | some ⟨_, session, .running⟩ | some ⟨_, session, .stopped⟩ =>
          some (system.put i ⟨.done (), session, .aborted⟩ (M.release i system.shared))
      | _ => none
  | .change edit => some { system with shared := M.change edit system.shared }

def replay (meets : System M → Label M → Bool) (system : System M) :
    List (Label M) → Option (System M)
  | [] => some system
  | label :: rest =>
      if meets system label then (system.step label).bind fun next => next.replay meets rest
      else none

def session? (system : System M) (i : Nat) : Option M.Session :=
  match system.processes i with
  | some ⟨_, session, .running⟩ | some ⟨_, session, .stopped⟩ => some session
  | _ => none

def op? (system : System M) (i : Nat) : Option S.Op :=
  match system.processes i with
  | some ⟨.perform op _, _, .running⟩ => some op
  | _ => none

/-- The process is at the operation `op`. -/
def Performing (system : System M) (i : Nat) (op : S.Op) (session : M.Session) : Prop :=
  ∃ next, system.processes i = some ⟨.perform op next, session, .running⟩

def Live (system : System M) (i : Nat) (session : M.Session) : Prop :=
  ∃ process, system.processes i = some process ∧ process.session = session ∧
    (process.status = .running ∨ process.status = .stopped)

def Ending (system : System M) (i : Nat) (session : M.Session) : Prop :=
  system.processes i = some ⟨.done (), session, .running⟩ ∨
    system.processes i = some ⟨.done (), session, .stopped⟩

inductive Transition (system : System M) : Label M → System M → Prop
  | begin (i : Nat) (request : M.Request) (fresh : system.processes i = none) :
      Transition system (.begin i request)
        (system.put i ⟨M.program request, M.opened request, .running⟩ system.shared)
  | perform (i : Nat) (answer : M.Answer) (op : S.Op) (next : S.Reply op → Program S Unit)
      (session : M.Session) (reply : S.Reply op) (shared : M.Shared)
      (found : system.processes i = some ⟨.perform op next, session, .running⟩)
      (reacts : M.react i session system.shared op answer = some (reply, shared)) :
      Transition system (.perform i answer)
        (system.put i ⟨next reply, M.after session op reply, .running⟩ shared)
  | stop (i : Nat) (op : S.Op) (next : S.Reply op → Program S Unit) (session : M.Session)
      (found : system.processes i = some ⟨.perform op next, session, .running⟩)
      (awaits : M.awaits op = true) :
      Transition system (.stop i) (system.put i ⟨.done (), session, .stopped⟩ system.shared)
  | commit (i : Nat) (session : M.Session) (shared : M.Shared)
      (ending : system.Ending i session)
      (commits : M.commit i session system.shared = some shared) :
      Transition system (.commit i) (system.put i ⟨.done (), session, .committed⟩ shared)
  | abort (i : Nat) (session : M.Session) (live : system.Live i session) :
      Transition system (.abort i)
        (system.put i ⟨.done (), session, .aborted⟩ (M.release i system.shared))
  | change (edit : M.Change) :
      Transition system (.change edit) { system with shared := M.change edit system.shared }

@[simp] theorem put_shared (system : System M) (i : Nat) (process : Process M)
    (shared : M.Shared) : (system.put i process shared).shared = shared := rfl

@[simp] theorem put_same (system : System M) (i : Nat) (process : Process M)
    (shared : M.Shared) : (system.put i process shared).processes i = some process := by
  simp [put]

theorem put_other (system : System M) (i j : Nat) (process : Process M) (shared : M.Shared)
    (different : j ≠ i) :
    (system.put i process shared).processes j = system.processes j := by
  simp [put, different]

theorem put_found {system : System M} {i j : Nat} {process other : Process M} {shared : M.Shared}
    (found : (system.put i process shared).processes j = some other) :
    (j = i ∧ process = other) ∨ (j ≠ i ∧ system.processes j = some other) := by
  by_cases same : j = i
  · subst same
    rw [put_same] at found
    exact .inl ⟨rfl, Option.some.inj found⟩
  · rw [put_other _ _ _ _ _ same] at found
    exact .inr ⟨same, found⟩

theorem Performing.live {system : System M} {i : Nat} {op : S.Op} {session : M.Session}
    (performing : system.Performing i op session) : system.Live i session := by
  obtain ⟨next, found⟩ := performing
  exact ⟨_, found, rfl, .inl rfl⟩

theorem Ending.live {system : System M} {i : Nat} {session : M.Session}
    (ending : system.Ending i session) : system.Live i session := by
  rcases ending with found | found
  · exact ⟨_, found, rfl, .inl rfl⟩
  · exact ⟨_, found, rfl, .inr rfl⟩

theorem live_unique {system : System M} {i : Nat} {left right : M.Session}
    (first : system.Live i left) (second : system.Live i right) : left = right := by
  obtain ⟨process, found, rfl, _⟩ := first
  obtain ⟨other, again, rfl, _⟩ := second
  rw [found] at again
  cases again
  rfl

theorem Live.put_other {system : System M} {i j : Nat} {session : M.Session}
    (live : system.Live j session) (different : j ≠ i) (process : Process M) (shared : M.Shared) :
    (system.put i process shared).Live j session := by
  obtain ⟨other, found, same, status⟩ := live
  exact ⟨other, (System.put_other _ _ _ _ _ different).trans found, same, status⟩

theorem Live.put_same (system : System M) (i : Nat) {process : Process M} (shared : M.Shared)
    (status : process.status = .running ∨ process.status = .stopped) :
    (system.put i process shared).Live i process.session :=
  ⟨process, System.put_same _ _ _ _, rfl, status⟩

theorem Live.session? {system : System M} {i : Nat} {session : M.Session}
    (live : system.Live i session) : system.session? i = some session := by
  obtain ⟨⟨program, own, status⟩, found, rfl, running | stopped⟩ := live
  · cases running
    simp [System.session?, found]
  · cases stopped
    simp [System.session?, found]

theorem Performing.op? {system : System M} {i : Nat} {op : S.Op} {session : M.Session}
    (performing : system.Performing i op session) : system.op? i = some op := by
  obtain ⟨next, found⟩ := performing
  simp [System.op?, found]

theorem performing_of_op? {system : System M} {i : Nat} {op : S.Op}
    (found : system.op? i = some op) : ∃ session, system.Performing i op session := by
  simp only [System.op?] at found
  split at found
  · rename_i there
    cases found
    exact ⟨_, _, there⟩
  · cases found

theorem live_of_session? {system : System M} {i : Nat} {session : M.Session}
    (found : system.session? i = some session) : system.Live i session := by
  simp only [System.session?] at found
  split at found
  · rename_i there
    cases found
    exact ⟨_, there, rfl, .inl rfl⟩
  · rename_i there
    cases found
    exact ⟨_, there, rfl, .inr rfl⟩
  · cases found

theorem step_transition {system next : System M} {label : Label M}
    (stepped : system.step label = some next) : Transition system label next := by
  cases label with
  | begin i request =>
      simp only [step] at stepped
      split at stepped
      · cases stepped
      · cases stepped
        exact .begin i request ‹_›
  | perform i answer =>
      simp only [step] at stepped
      split at stepped
      · split at stepped
        · cases stepped
          exact .perform i answer _ _ _ _ _ ‹_› ‹_›
        · cases stepped
      · cases stepped
  | stop i =>
      simp only [step] at stepped
      split at stepped
      · split at stepped
        · cases stepped
          exact .stop i _ _ _ ‹_› ‹_›
        · cases stepped
      · cases stepped
  | commit i =>
      simp only [step] at stepped
      split at stepped
      · split at stepped
        · cases stepped
          exact .commit i _ _ (.inl ‹_›) ‹_›
        · cases stepped
      · split at stepped
        · cases stepped
          exact .commit i _ _ (.inr ‹_›) ‹_›
        · cases stepped
      · cases stepped
  | abort i =>
      simp only [step] at stepped
      split at stepped
      · cases stepped
        exact .abort i _ ⟨_, ‹_›, rfl, .inl rfl⟩
      · cases stepped
        exact .abort i _ ⟨_, ‹_›, rfl, .inr rfl⟩
      · cases stepped
  | change edit =>
      cases stepped
      exact .change edit

/-- The systems that schedules reach from `start` when every label meets the
condition `ok` in the system where it is taken. -/
inductive Reaches (ok : System M → Label M → Prop) (start : System M) : System M → Prop
  | start : Reaches ok start start
  | step {system next : System M} (label : Label M) (reached : Reaches ok start system)
      (meets : ok system label) (stepped : system.step label = some next) :
      Reaches ok start next

theorem Reaches.weaken {ok ok' : System M → Label M → Prop} {start system : System M}
    (reached : Reaches ok start system) (implied : ∀ s label, ok s label → ok' s label) :
    Reaches ok' start system := by
  induction reached with
  | start => exact .start
  | step label _ meets stepped ih => exact .step label ih (implied _ _ meets) stepped

theorem reaches_replay {ok : System M → Label M → Prop} {meets : System M → Label M → Bool}
    {start system final : System M} (labels : List (Label M)) (reached : Reaches ok start system)
    (implied : ∀ s label, meets s label = true → ok s label)
    (replayed : system.replay meets labels = some final) : Reaches ok start final := by
  induction labels generalizing system with
  | nil =>
      cases replayed
      exact reached
  | cons label rest ih =>
      rw [replay] at replayed
      split at replayed
      · rename_i met
        obtain ⟨next, stepped, tail⟩ := Option.bind_eq_some_iff.mp replayed
        exact ih (.step label reached (implied _ _ met) stepped) tail
      · cases replayed

theorem reaches_checked {ok : System M → Label M → Prop} {meets : System M → Label M → Bool}
    {start system : System M} (labels : List (Label M)) (check : System M → Bool)
    (reached : Reaches ok start system) (implied : ∀ s label, meets s label = true → ok s label)
    (checked : (system.replay meets labels).any check = true) :
    ∃ final, Reaches ok start final ∧ check final = true := by
  obtain ⟨final, replayed, found⟩ := (Option.any_eq_true _ _).mp checked
  exact ⟨final, reaches_replay labels reached implied replayed, found⟩

/-- No process has one of the numbers from `n` on. -/
def Below (n : Nat) (system : System M) : Prop := ∀ i, n ≤ i → system.processes i = none

def Label.below (n : Nat) : Label M → Bool
  | .begin i _ => i < n
  | .perform _ _ | .stop _ | .commit _ | .abort _ | .change _ => true

theorem Below.live {n i : Nat} {system : System M} {session : M.Session} (below : system.Below n)
    (live : system.Live i session) : i < n := by
  obtain ⟨process, found, _⟩ := live
  refine Nat.lt_of_not_le fun high => ?_
  rw [below i high] at found
  cases found

theorem Below.step {n : Nat} {system next : System M} {label : Label M} (below : system.Below n)
    (low : Label.below n label = true) (transition : Transition system label next) :
    next.Below n := by
  have put {i : Nat} (bound : i < n) (process : Process M) (shared : M.Shared) :
      (system.put i process shared).Below n := by
    intro j high
    rw [put_other _ _ _ _ _ (by omega)]
    exact below j high
  cases transition with
  | begin i request fresh => exact put (of_decide_eq_true low) _ _
  | perform i answer op rest session reply shared found reacts =>
      exact put (below.live (Performing.live ⟨rest, found⟩)) _ _
  | stop i op rest session found awaits =>
      exact put (below.live (Performing.live ⟨rest, found⟩)) _ _
  | commit i session shared ending commits => exact put (below.live ending.live) _ _
  | abort i session live => exact put (below.live live) _ _
  | change edit => exact below

theorem reaches_below {ok : System M → Label M → Prop} {meets : System M → Label M → Bool}
    {start system : System M} (n : Nat) (labels : List (Label M)) (check : System M → Bool)
    (reached : Reaches ok start system) (below : system.Below n)
    (implied : ∀ s label, s.Below n → meets s label = true → ok s label)
    (checked : (system.replay (fun s label => Label.below n label && meets s label) labels).any
      check = true) :
    ∃ final, Reaches ok start final ∧ final.Below n ∧ check final = true := by
  induction labels generalizing system with
  | nil => exact ⟨system, reached, below, checked⟩
  | cons label rest ih =>
      rw [replay] at checked
      split at checked
      · rename_i met
        obtain ⟨low, met⟩ := Bool.and_eq_true_iff.mp met
        cases stepped : system.step label with
        | none => simp [stepped] at checked
        | some next =>
            simp only [stepped, Option.bind_some] at checked
            exact ih (.step label reached (implied _ _ below met) stepped)
              (below.step low (step_transition stepped)) checked
      · cases checked

theorem Reaches.trans {ok : System M → Label M → Prop} {start middle system : System M}
    (first : Reaches ok start middle) (second : Reaches ok middle system) :
    Reaches ok start system := by
  induction second with
  | start => exact first
  | step label _ meets stepped ih => exact .step label ih meets stepped

theorem reaches_induction {ok : System M → Label M → Prop} {start : System M}
    (holds : System M → Prop) (initially : holds start)
    (preserved : ∀ system label next, Reaches ok start system → holds system →
      ok system label → Transition system label next → holds next) :
    ∀ system, Reaches ok start system → holds system := by
  intro system reached
  induction reached with
  | start => exact initially
  | step label reached meets stepped ih =>
      exact preserved _ label _ reached ih meets (step_transition stepped)

end System

/-- A protocol that all programs of the machine follow. An operation at which
the process can be abandoned is allowed in settled sessions only. -/
structure Discipline (M : Machine S) where
  allowed : M.Session → S.Op → Prop
  trusted : M.Session → (op : S.Op) → S.Reply op → Prop
  settled : M.Session → Prop
  finished : M.Session → Prop
  react_trusted : ∀ i session shared op answer reply shared',
    M.react i session shared op answer = some (reply, shared') → trusted session op reply
  awaits_settled : ∀ session op, allowed session op → M.awaits op = true → settled session
  program_follows : ∀ request,
    Protocol.Follows ⟨allowed, trusted, M.after⟩ (M.program request) (M.opened request)
      fun _ session => settled session ∧ finished session

namespace Discipline

variable {M : Machine S} (D : Discipline M)

def protocol : Protocol S M.Session := ⟨D.allowed, D.trusted, M.after⟩

def Kept (system : System M) : Prop :=
  ∀ i process, system.processes i = some process →
    (process.status = .running →
      D.protocol.Follows process.program process.session
        fun _ session => D.settled session ∧ D.finished session) ∧
    (process.status = .stopped → D.settled process.session)

theorem kept_put {system : System M} {i : Nat} {process : Process M} {shared : M.Shared}
    (kept : D.Kept system)
    (running : process.status = .running →
      D.protocol.Follows process.program process.session
        fun _ session => D.settled session ∧ D.finished session)
    (stopped : process.status = .stopped → D.settled process.session) :
    D.Kept (system.put i process shared) := by
  intro j other found
  rcases System.put_found found with ⟨_, rfl⟩ | ⟨_, before⟩
  · exact ⟨running, stopped⟩
  · exact kept j other before

theorem kept_preserved {system next : System M} {label : Label M} (kept : D.Kept system)
    (transition : System.Transition system label next) : D.Kept next := by
  cases transition with
  | begin i request fresh =>
      exact D.kept_put kept (fun _ => D.program_follows request) (fun h => by cases h)
  | perform i answer op next session reply shared found reacts =>
      have follows := (kept i _ found).1 rfl
      have trusted := D.react_trusted _ _ _ _ _ _ _ reacts
      exact D.kept_put kept (fun _ => follows.2 reply trusted) (fun h => by cases h)
  | stop i op next session found awaits =>
      have follows := (kept i _ found).1 rfl
      exact D.kept_put kept (fun h => by cases h)
        (fun _ => D.awaits_settled _ _ follows.1 awaits)
  | commit i session shared ending commits =>
      exact D.kept_put kept (fun h => by cases h) (fun h => by cases h)
  | abort i session live =>
      exact D.kept_put kept (fun h => by cases h) (fun h => by cases h)
  | change edit => exact kept

theorem kept_reached {ok : System M → Label M → Prop} {start : System M}
    (empty : ∀ i, start.processes i = none) (system : System M)
    (reached : System.Reaches ok start system) : D.Kept system := by
  refine System.reaches_induction D.Kept ?_ ?_ system reached
  · intro i process found
    rw [empty i] at found
    cases found
  · intro system label next _ kept _ transition
    exact D.kept_preserved kept transition

theorem Kept.allowed {D : Discipline M} {system : System M} (kept : D.Kept system) {i : Nat}
    {op : S.Op} {session : M.Session} (performing : system.Performing i op session) :
    D.allowed session op := by
  obtain ⟨next, found⟩ := performing
  exact ((kept i _ found).1 rfl).1

theorem Kept.settled {D : Discipline M} {system : System M} (kept : D.Kept system) {i : Nat}
    {session : M.Session} (ending : system.Ending i session) : D.settled session := by
  rcases ending with found | found
  · exact ((kept i _ found).1 rfl).1
  · exact (kept i _ found).2 rfl

theorem Kept.finished {D : Discipline M} {system : System M} (kept : D.Kept system) {i : Nat}
    {session : M.Session} (found : system.processes i = some ⟨.done (), session, .running⟩) :
    D.finished session :=
  ((kept i _ found).1 rfl).2

end Discipline

/-- An invariant of the shared part together with one of each live session.
`known` is what earlier invariants say of every reachable system. -/
structure Invariant {M : Machine S} (D : Discipline M) (ok : System M → Label M → Prop)
    (known : System M → Prop) where
  shared : M.Shared → Prop
  session : Nat → M.Session → M.Shared → Prop
  begins : ∀ (system : System M) i request, known system → ok system (.begin i request) →
    shared system.shared → session i (M.opened request) system.shared
  performs : ∀ (system : System M) i answer op s reply after, known system →
    ok system (.perform i answer) → system.Performing i op s → D.allowed s op →
    shared system.shared → session i s system.shared →
    M.react i s system.shared op answer = some (reply, after) →
    shared after ∧ session i (M.after s op reply) after ∧
      ∀ j t, j ≠ i → system.Live j t → session j t system.shared → session j t after
  commits : ∀ (system : System M) i s after, known system → ok system (.commit i) →
    system.Ending i s → D.settled s → shared system.shared → session i s system.shared →
    M.commit i s system.shared = some after →
    shared after ∧
      ∀ j t, j ≠ i → system.Live j t → session j t system.shared → session j t after
  aborts : ∀ (system : System M) i s, known system → ok system (.abort i) → system.Live i s →
    shared system.shared → session i s system.shared →
    shared (M.release i system.shared) ∧
      ∀ j t, j ≠ i → system.Live j t → session j t system.shared →
        session j t (M.release i system.shared)
  changes : ∀ (system : System M) edit, known system → ok system (.change edit) →
    shared system.shared →
    shared (M.change edit system.shared) ∧
      ∀ j t, system.Live j t → session j t system.shared →
        session j t (M.change edit system.shared)

namespace Invariant

variable {M : Machine S} {D : Discipline M} {ok : System M → Label M → Prop}
  {known : System M → Prop}

def Holds (I : Invariant D ok known) (system : System M) : Prop :=
  I.shared system.shared ∧ ∀ i session, system.Live i session → I.session i session system.shared

theorem live_put {system : System M} {i j : Nat} {process : Process M} {shared : M.Shared}
    {session : M.Session} (live : (system.put i process shared).Live j session) :
    (j = i ∧ process.session = session ∧
      (process.status = .running ∨ process.status = .stopped)) ∨
      (j ≠ i ∧ system.Live j session) := by
  obtain ⟨other, found, same, status⟩ := live
  rcases System.put_found found with ⟨self, rfl⟩ | ⟨different, before⟩
  · exact .inl ⟨self, same, status⟩
  · exact .inr ⟨different, other, before, same, status⟩

theorem preserved (I : Invariant D ok known) {system next : System M} {label : Label M}
    (kept : D.Kept system) (facts : known system) (holds : I.Holds system)
    (meets : ok system label) (transition : System.Transition system label next) :
    I.Holds next := by
  obtain ⟨store, sessions⟩ := holds
  cases transition with
  | begin i request fresh =>
      refine ⟨store, fun j session live => ?_⟩
      rcases live_put live with ⟨rfl, rfl, _⟩ | ⟨_, before⟩
      · exact I.begins system _ request facts meets store
      · exact sessions j session before
  | perform i answer op next session reply shared found reacts =>
      have performing : system.Performing i op session := ⟨next, found⟩
      obtain ⟨store', own, others⟩ := I.performs system i answer op session reply shared facts
        meets performing (kept.allowed performing) store (sessions i session performing.live) reacts
      refine ⟨store', fun j other live => ?_⟩
      rcases live_put live with ⟨rfl, rfl, _⟩ | ⟨different, before⟩
      · exact own
      · exact others j other different before (sessions j other before)
  | stop i op next session found awaits =>
      refine ⟨store, fun j other live => ?_⟩
      rcases live_put live with ⟨rfl, rfl, _⟩ | ⟨_, before⟩
      · exact sessions _ _ (System.Performing.live ⟨next, found⟩)
      · exact sessions j other before
  | commit i session shared ending commits =>
      obtain ⟨store', others⟩ := I.commits system i session shared facts meets ending
        (kept.settled ending) store (sessions i session ending.live) commits
      refine ⟨store', fun j other live => ?_⟩
      rcases live_put live with ⟨_, _, ended⟩ | ⟨different, before⟩
      · rcases ended with ended | ended <;> cases ended
      · exact others j other different before (sessions j other before)
  | abort i session live =>
      obtain ⟨store', others⟩ := I.aborts system i session facts meets live store
        (sessions i session live)
      refine ⟨store', fun j other now => ?_⟩
      rcases live_put now with ⟨_, _, ended⟩ | ⟨different, before⟩
      · rcases ended with ended | ended <;> cases ended
      · exact others j other different before (sessions j other before)
  | change edit =>
      obtain ⟨store', others⟩ := I.changes system edit facts meets store
      exact ⟨store', fun j other live => others j other live (sessions j other live)⟩

theorem reached (I : Invariant D ok known) {start : System M}
    (empty : ∀ i, start.processes i = none) (initially : I.shared start.shared)
    (facts : ∀ system, System.Reaches ok start system → known system)
    (system : System M) (reached : System.Reaches ok start system) : I.Holds system := by
  refine System.reaches_induction I.Holds ?_ ?_ system reached
  · refine ⟨initially, fun i session live => ?_⟩
    obtain ⟨process, found, _⟩ := live
    rw [empty i] at found
    cases found
  · intro system label next reached holds meets transition
    exact I.preserved (D.kept_reached empty system reached) (facts system reached) holds meets
      transition

def ofSession (holds : M.Session → Prop) (opened : ∀ request, holds (M.opened request))
    (after : ∀ session op reply, D.allowed session op → D.trusted session op reply →
      holds session → holds (M.after session op reply)) : Invariant D ok known where
  shared := fun _ => True
  session := fun _ session _ => holds session
  begins _ _ request _ _ _ := opened request
  performs _ _ _ op s reply _ _ _ _ allowed _ own reacts :=
    ⟨trivial, after s op reply allowed (D.react_trusted _ _ _ _ _ _ _ reacts) own,
      fun _ _ _ _ other => other⟩
  commits _ _ _ _ _ _ _ _ _ _ _ := ⟨trivial, fun _ _ _ _ other => other⟩
  aborts _ _ _ _ _ _ _ _ := ⟨trivial, fun _ _ _ _ other => other⟩
  changes _ _ _ _ _ := ⟨trivial, fun _ _ _ other => other⟩

theorem session_reached (holds : M.Session → Prop) (opened : ∀ request, holds (M.opened request))
    (after : ∀ session op reply, D.allowed session op → D.trusted session op reply →
      holds session → holds (M.after session op reply)) {start : System M}
    (empty : ∀ i, start.processes i = none) (system : System M)
    (reached : System.Reaches ok start system) {i : Nat} {session : M.Session}
    (live : system.Live i session) : holds session :=
  ((ofSession holds opened after : Invariant D ok fun _ => True).reached empty trivial
    (fun _ _ => trivial) system reached).2 i session live

end Invariant

end AiPlatform
