import AiPlatform.Histories
import AiPlatform.McpBridge
import AiPlatform.Positions

/-!
When a subprocess is written to. Its log keeps the order of the protocol as long as
nobody takes a subprocess that runs for one that is ready, and nobody who waits for the
write lock finds another subprocess when it is free.
-/

namespace AiPlatform.Bridge

open Agents (Dict Json)

def Due (log : List Event) : Event → Prop
  | .wrote (.request _ method _) =>
      method ≠ "initialize" → .answered ∈ log ∧ .wrote initialized ∈ log
  | .wrote (.notification _) => .answered ∈ log
  | .answered => True

/-- Every request but `initialize` comes after the answer to that one and after the
notification. -/
def InOrder (log : List Event) : Prop :=
  ∀ before event after, log = before ++ event :: after → Due before event

theorem inOrder_nil : InOrder [] := fun before event after same => by
  cases before <;> cases same

theorem inOrder_concat {log : List Event} {event : Event} (inOrder : InOrder log)
    (due : Due log event) : InOrder (log ++ [event]) := by
  intro before other after same
  rcases List.append_eq_append_iff.mp same with ⟨middle, rfl, rest⟩ | ⟨middle, rfl, rest⟩
  · cases middle with
    | nil =>
        cases rest
        rw [List.append_nil]
        exact due
    | cons first others =>
        cases others <;> cases rest
  · cases middle with
    | nil =>
        cases rest
        rw [List.append_nil] at due
        exact due
    | cons first others =>
        cases rest
        exact inOrder before other others rfl

namespace System

def Answered (system : System) (k : Nat) : Prop :=
  ∃ process, system.process k = some process ∧ .answered ∈ process.log

def Ready (system : System) (k : Nat) : Prop :=
  ∃ process, system.process k = some process ∧ .wrote initialized ∈ process.log

end System

def Line.Names (settings : Settings) (line : Line) (r : Nat) : Prop :=
  ∃ message id n, line = .value (.obj message) ∧ message.lookup "id" = some id ∧
    intOf settings id = some n ∧ (requestId r : Int) = n

/-- Who finds the subprocess running finds it ready, who gets the write lock has a
request for the subprocess there is, and `initialize` is answered by the subprocess that
it was written to. -/
def OnReady (settings : Settings) (system : System) : Label → Prop
  | .arrive .. | .enter _ => system.running = true → ∀ k, system.current = some k → system.Ready k
  | .write i => ∀ call r request, system.calls[i]? = some call →
      call.phase = .writeLock (.call r) → system.requests[r]? = some request →
      system.current = some request.found
  | .line k line => ∀ r ∈ system.pending, line.Names settings r →
      ∀ request, system.requests[r]? = some request → request.method = "initialize" →
      request.writtenTo = some k
  | .spawned _ | .drained _ | .resume _ | .timeout _ | .startupTimeout .. | .raises .. | .exit _
  | .eof _ => True

structure Extends (system after : System) : Prop where
  requests : ∀ (r : Nat) (request : Request), system.requests[r]? = some request → ∃ next : Request,
    after.requests[r]? = some next ∧ next.method = request.method ∧ next.found = request.found
  logs : ∀ (k : Nat) (process : Instance), system.process k = some process → ∃ next : Instance,
    after.process k = some next ∧ process.log ⊆ next.log

theorem Extends.refl (system : System) : Extends system system :=
  ⟨fun _ request found => ⟨request, found, rfl, rfl⟩, fun _ process found =>
    ⟨process, found, fun _ member => member⟩⟩

theorem Extends.trans {first second third : System} (earlier : Extends first second)
    (later : Extends second third) : Extends first third := by
  constructor
  · intro r request found
    obtain ⟨middle, there, method, place⟩ := earlier.requests r request found
    obtain ⟨last, known, method', place'⟩ := later.requests r middle there
    exact ⟨last, known, method'.trans method, place'.trans place⟩
  · intro k process found
    obtain ⟨middle, there, logged⟩ := earlier.logs k process found
    obtain ⟨last, known, logged'⟩ := later.logs k middle there
    exact ⟨last, known, fun _ member => logged' (logged member)⟩

theorem System.Ready.mono {system after : System} (extends' : Extends system after) {k : Nat}
    (ready : system.Ready k) : after.Ready k := by
  obtain ⟨process, found, logged⟩ := ready
  obtain ⟨next, there, grows⟩ := extends'.logs k process found
  exact ⟨next, there, grows logged⟩

theorem System.Answered.mono {system after : System} (extends' : Extends system after) {k : Nat}
    (answered : system.Answered k) : after.Answered k := by
  obtain ⟨process, found, logged⟩ := answered
  obtain ⟨next, there, grows⟩ := extends'.logs k process found
  exact ⟨next, there, grows logged⟩

def Handshake (system : System) (i : Nat) : Purpose → Prop
  | .handshake r => system.startLock = some i ∧ ∃ request, system.requests[r]? = some request ∧
      request.method = "initialize" ∧ system.current = some request.found
  | .notify => system.startLock = some i ∧ ∃ k, system.current = some k ∧ system.Answered k
  | .call r => ∃ request, system.requests[r]? = some request ∧ system.Ready request.found

def Phase.Holds (system : System) (i : Nat) : Phase → Prop
  | .startLock | .done _ => True
  | .spawning => system.startLock = some i
  | .writeLock purpose | .future purpose => Handshake system i purpose
  | .drain purpose => Handshake system i purpose ∧
      (purpose = .notify → ∀ k, system.current = some k → system.Ready k)

theorem Handshake.mono {system after : System} {i : Nat} {purpose : Purpose}
    (extends' : Extends system after)
    (kept : system.startLock = some i → after.startLock = some i ∧ after.current = system.current)
    (handshake : Handshake system i purpose) : Handshake after i purpose := by
  cases purpose with
  | handshake r =>
      obtain ⟨holds, request, found, method, current⟩ := handshake
      obtain ⟨still, same⟩ := kept holds
      obtain ⟨next, there, method', place⟩ := extends'.requests r request found
      exact ⟨still, next, there, method'.trans method, by rw [same, current, place]⟩
  | notify =>
      obtain ⟨holds, k, current, answered⟩ := handshake
      obtain ⟨still, same⟩ := kept holds
      exact ⟨still, k, same.trans current, answered.mono extends'⟩
  | call r =>
      obtain ⟨request, found, ready⟩ := handshake
      obtain ⟨next, there, _, place⟩ := extends'.requests r request found
      exact ⟨next, there, by rw [place]; exact ready.mono extends'⟩

theorem Phase.Holds.mono {system after : System} {i : Nat} {phase : Phase}
    (extends' : Extends system after)
    (kept : system.startLock = some i → after.startLock = some i ∧ after.current = system.current)
    (holds : phase.Holds system i) : phase.Holds after i := by
  cases phase with
  | startLock => trivial
  | done result => trivial
  | spawning => exact (kept holds).1
  | writeLock purpose => exact Handshake.mono extends' kept holds
  | future purpose => exact Handshake.mono extends' kept holds
  | drain purpose =>
      obtain ⟨handshake, notified⟩ := holds
      refine ⟨handshake.mono extends' kept, ?_⟩
      rintro rfl k current
      rw [(kept handshake.1).2] at current
      exact (notified rfl k current).mono extends'

namespace System

def logged (system : System) (k : Nat) (event : Event) : System :=
  system.onInstance k fun process => { process with log := process.log ++ [event] }

def sent (system : System) (k r : Nat) (late : Bool) : System :=
  system.onRequest r fun request => { request with writtenTo := some k, late := late }

end System

section Parts

variable {system after : System}

theorem extends_same (instances : after.instances = system.instances)
    (requests : after.requests = system.requests) : Extends system after := by
  constructor
  · intro r request found
    exact ⟨request, by rw [requests]; exact found, rfl, rfl⟩
  · intro k process found
    refine ⟨process, ?_, fun _ member => member⟩
    rw [System.process, instances]
    exact found

theorem extends_onRequest (r : Nat) {change : Request → Request}
    (kept : ∀ request, (change request).method = request.method ∧
      (change request).found = request.found) : Extends system (system.onRequest r change) := by
  constructor
  · intro other request found
    by_cases same : r = other
    · subst same
      exact ⟨change request, Positions.modify_own found, kept request⟩
    · exact ⟨request, Positions.modify_other same found, rfl, rfl⟩
  · intro k process found
    exact ⟨process, found, fun _ member => member⟩

theorem extends_onInstance (k : Nat) {change : Instance → Instance}
    (grows : ∀ process, process.log ⊆ (change process).log) :
    Extends system (system.onInstance k change) := by
  constructor
  · intro r request found
    exact ⟨request, found, rfl, rfl⟩
  · intro other process found
    by_cases same : k = other
    · subst same
      exact ⟨change process, Positions.modify_own found, grows process⟩
    · exact ⟨process, Positions.modify_other same found, fun _ member => member⟩

theorem onRequest_some {r s : Nat} {change : Request → Request} {request : Request}
    (found : (system.onRequest r change).requests[s]? = some request) :
    (∃ old, s = r ∧ system.requests[r]? = some old ∧ request = change old) ∨
      s ≠ r ∧ system.requests[s]? = some request := by
  rcases Positions.modify_some found with ⟨old, rfl, there, changed⟩ | ⟨other, there⟩
  · exact .inl ⟨old, rfl, there, changed⟩
  · exact .inr ⟨Ne.symm other, there⟩

structure Records (system : System) : Prop where
  logs : ∀ k process, system.process k = some process → InOrder process.log
  answers : ∀ (r : Nat) (request : Request) (value : Json), system.requests[r]? = some request →
    request.method = "initialize" → request.outcome = some (.result value) →
    system.Answered request.found
  places : ∀ (r : Nat) (request : Request) (k : Nat), system.requests[r]? = some request →
    request.method = "initialize" → request.writtenTo = some k → k = request.found

theorem records_same (records : Records system) (instances : after.instances = system.instances)
    (requests : after.requests = system.requests) : Records after := by
  obtain ⟨logs, answers, places⟩ := records
  unfold System.Answered at answers
  unfold System.process at logs answers
  rw [← instances] at logs
  rw [← requests, ← instances] at answers
  rw [← requests] at places
  exact ⟨logs, answers, places⟩

theorem records_onRequest (r : Nat) {change : Request → Request}
    (kept : ∀ request, (change request).method = request.method ∧
      (change request).found = request.found)
    (unanswered : ∀ request value, system.requests[r]? = some request →
      request.method = "initialize" → (change request).outcome = some (.result value) →
      system.Answered request.found)
    (placed : ∀ request k, system.requests[r]? = some request → request.method = "initialize" →
      (change request).writtenTo = some k → k = request.found)
    (records : Records system) : Records (system.onRequest r change) := by
  refine ⟨records.logs, ?_, ?_⟩
  · intro other request value found method outcome
    rcases onRequest_some found with ⟨old, rfl, there, rfl⟩ | ⟨_, there⟩
    · rw [(kept old).2]
      exact unanswered old value there ((kept old).1.symm.trans method) outcome
    · exact records.answers other request value there method outcome
  · intro other request k found method written
    rcases onRequest_some found with ⟨old, rfl, there, rfl⟩ | ⟨_, there⟩
    · rw [(kept old).2]
      exact placed old k there ((kept old).1.symm.trans method) written
    · exact records.places other request k there method written

theorem records_onInstance (k : Nat) {change : Instance → Instance}
    (grows : ∀ process, process.log ⊆ (change process).log)
    (inOrder : ∀ process, system.process k = some process → InOrder (change process).log)
    (records : Records system) : Records (system.onInstance k change) := by
  refine ⟨?_, ?_, records.places⟩
  · intro other process found
    rcases Positions.modify_some found with ⟨old, rfl, there, rfl⟩ | ⟨_, there⟩
    · exact inOrder old there
    · exact records.logs other process there
  · intro r request value found method outcome
    exact (records.answers r request value found method outcome).mono (extends_onInstance k grows)

def Phases (system : System) : Prop :=
  ∀ (i : Nat) (call : Call), system.calls[i]? = some call → call.phase.Holds system i

theorem phases_moved (i : Nat) (phase : Phase) (extends' : Extends system after)
    (calls : after.calls = system.calls.modify i fun call => { call with phase := phase })
    (others : ∀ j, j ≠ i → system.startLock = some j →
      after.startLock = some j ∧ after.current = system.current)
    (own : phase.Holds after i) (phases : Phases system) : Phases after := by
  intro j call found
  rw [calls] at found
  rcases Positions.modify_some found with ⟨_, rfl, _, rfl⟩ | ⟨other, there⟩
  · exact own
  · exact (phases j call there).mono extends' (others j (Ne.symm other))

theorem phases_same (extends' : Extends system after) (calls : after.calls = system.calls)
    (startLock : after.startLock = system.startLock) (current : after.current = system.current)
    (phases : Phases system) : Phases after := by
  intro j call found
  rw [calls] at found
  exact (phases j call found).mono extends' fun holds => ⟨startLock.trans holds, current⟩

theorem Records.answered (records : Records system) {k : Nat} (ready : system.Ready k) :
    system.Answered k := by
  obtain ⟨process, found, logged⟩ := ready
  obtain ⟨before, rest, split⟩ := List.append_of_mem logged
  have due := records.logs k process found before _ rest split
  refine ⟨process, found, ?_⟩
  rw [split]
  exact List.mem_append_left _ due

structure Known (system : System) : Prop where
  records : Records system
  phases : Phases system

theorem known_fail {middle : System} {i : Nat} {error : RpcError} (phases : Phases system)
    (extends' : Extends system middle) (records : Records middle)
    (calls : middle.calls = system.calls)
    (others : ∀ j, j ≠ i → system.startLock = some j →
      middle.startLock = some j ∧ middle.current = system.current) :
    Known (middle.fail i error) := by
  constructor
  · exact records_same records rfl rfl
  · have kept : Extends middle (middle.fail i error) := extends_same rfl rfl
    apply phases_moved i (.done (.error error)) (extends'.trans kept) _ _ trivial phases
    · rw [← calls]
      rfl
    · intro j other holds
      obtain ⟨still, same⟩ := others j other holds
      refine ⟨?_, same⟩
      have differs : middle.startLock ≠ some i := by
        rw [still]
        intro equal
        exact other (Option.some.inj equal)
      simp only [System.fail, if_neg differs, System.setPhase]
      exact still

theorem known_failed {i : Nat} {error : RpcError} (known : Known system) :
    Known (system.fail i error) :=
  known_fail known.phases (.refl _) known.records rfl fun _ _ holds => ⟨holds, rfl⟩

theorem register_some {i k : Nat} {purpose : Nat → Purpose} {method : String} {params : Dict}
    (current : system.current = some k) :
    system.register i purpose method params =
      { system with
        requests :=
          system.requests ++ [(⟨i, method, params, k, none, false, none, none⟩ : Request)]
        pending := system.pending ++ [system.requests.length] }.setPhase i
          (.writeLock (purpose system.requests.length)) := by
  simp only [System.register, current]

theorem extends_append (request : Request)
    (requests : after.requests = system.requests ++ [request])
    (instances : after.instances = system.instances) : Extends system after := by
  constructor
  · intro r old found
    refine ⟨old, ?_, rfl, rfl⟩
    rw [requests]
    exact Positions.concat_kept found _
  · intro k process found
    refine ⟨process, ?_, fun _ member => member⟩
    rw [System.process, instances]
    exact found

theorem records_append {request : Request} (records : Records system)
    (fresh : request.outcome = none) (unwritten : request.writtenTo = none)
    (requests : after.requests = system.requests ++ [request])
    (instances : after.instances = system.instances) : Records after := by
  have old : ∀ (r : Nat) (known : Request), after.requests[r]? = some known →
      system.requests[r]? = some known ∨ known = request := by
    intro r known found
    rw [requests] at found
    exact (Positions.concat_some found).imp_right And.right
  refine ⟨?_, ?_, ?_⟩
  · intro k process found
    rw [System.process, instances] at found
    exact records.logs k process found
  · intro r known value found method outcome
    rcases old r known found with before | rfl
    · exact (records.answers r known value before method outcome).mono
        (extends_append request requests instances)
    · rw [fresh] at outcome
      cases outcome
  · intro r known k found method written
    rcases old r known found with before | rfl
    · exact records.places r known k before method written
    · rw [unwritten] at written
      cases written

theorem known_register {middle : System} {i : Nat} {purpose : Nat → Purpose} {method : String}
    {params : Dict} (phases : Phases system) (extends' : Extends system middle)
    (records : Records middle) (calls : middle.calls = system.calls)
    (others : ∀ j, j ≠ i → system.startLock = some j →
      middle.startLock = some j ∧ middle.current = system.current)
    (own : ∀ k, middle.current = some k → Handshake (middle.register i purpose method params) i
      (purpose middle.requests.length)) : Known (middle.register i purpose method params) := by
  cases current : middle.current with
  | none =>
      simp only [System.register, current]
      exact known_fail phases extends' records calls others
  | some k =>
      have handshake := own k current
      have kept : Extends middle (middle.register i purpose method params) := by
        rw [register_some current]
        exact extends_append _ rfl rfl
      constructor
      · rw [register_some current]
        exact records_append records rfl rfl rfl rfl
      · apply phases_moved i (.writeLock (purpose middle.requests.length)) (extends'.trans kept) _ _
          handshake phases
        · rw [register_some current, ← calls]
          rfl
        · rw [register_some current]
          exact others

-- The subprocess there is has been told that the handshake is over.
theorem handshake_call {i k : Nat} {method : String} {params : Dict}
    (current : system.current = some k) (ready : system.Ready k) :
    Handshake (system.register i .call method params) i (.call system.requests.length) := by
  rw [register_some current]
  refine ⟨⟨i, method, params, k, none, false, none, none⟩, List.getElem?_concat_length, ?_⟩
  apply System.Ready.mono _ ready
  exact extends_append _ rfl rfl

theorem known_moved {i : Nat} {phase : Phase} (known : Known system)
    (instances : after.instances = system.instances) (requests : after.requests = system.requests)
    (moved : after.calls = system.calls.modify i fun call => { call with phase := phase })
    (others : ∀ j, j ≠ i → system.startLock = some j →
      after.startLock = some j ∧ after.current = system.current)
    (own : phase.Holds after i) : Known after :=
  ⟨records_same known.records instances requests,
    phases_moved i phase (extends_same instances requests) moved others own known.phases⟩

theorem known_kept (known : Known system) (extends' : Extends system after)
    (records : Records after) (calls : after.calls = system.calls)
    (startLock : after.startLock = system.startLock)
    (current : after.current = system.current) : Known after :=
  ⟨records, phases_same extends' calls startLock current known.phases⟩

end Parts

section Steps

variable {settings : Settings} {system after : System}

theorem known_arrived {method : String} {params : Dict} (known : Known system) :
    Known { system with calls := system.calls ++ [⟨method, params, .startLock⟩] } := by
  constructor
  · exact records_same known.records rfl rfl
  · intro j call found
    rcases Positions.concat_some found with old | ⟨_, rfl⟩
    · exact (known.phases j call old).mono (extends_same rfl rfl) fun holds => ⟨holds, rfl⟩
    · trivial

theorem known_arrive {method : String} {params : Dict}
    (met : OnReady settings system (.arrive method params))
    (stepped : system.step settings (.arrive method params) = some after)
    (known : Known system) : Known after := by
  have arrived := @known_arrived system method params known
  simp only [System.step] at stepped
  split at stepped
  · cases stepped
    exact known_failed arrived
  · split at stepped
    · rename_i running
      cases stepped
      apply known_register arrived.phases (.refl _) arrived.records rfl
      · intro j _ holds
        exact ⟨holds, rfl⟩
      · intro k current
        apply handshake_call current
        exact (met running k current).mono (extends_same rfl rfl)
    · cases stepped
      exact arrived

theorem known_enter {i : Nat} (met : OnReady settings system (.enter i))
    (stepped : system.step settings (.enter i) = some after) (known : Known system) :
    Known after := by
  simp only [System.step] at stepped
  split at stepped
  · split at stepped
    · rename_i call _ _ _ free
      split at stepped
      · rename_i running
        cases stepped
        apply known_register known.phases (.refl _) known.records rfl
        · intro j _ holds
          exact ⟨holds, rfl⟩
        · intro k current
          exact handshake_call current (met running k current)
      · split at stepped
        · cases stepped
          exact known_failed known
        · cases stepped
          refine known_moved known rfl rfl rfl ?_ rfl
          intro j _ holds
          rw [free] at holds
          cases holds
    · cases stepped
  · cases stepped

theorem alone {i j : Nat} (holds : system.startLock = some i) (other : j ≠ i) :
    system.startLock ≠ some j := by
  rw [holds]
  intro same
  exact other (Option.some.inj same).symm

theorem known_spawned {i : Nat} (stepped : system.step settings (.spawned i) = some after)
    (known : Known system) : Known after := by
  simp only [System.step] at stepped
  split at stepped
  · rename_i call found
    split at stepped
    · rename_i spawning
      cases stepped
      have holds := known.phases i call found
      rw [spawning] at holds
      have grown : Extends system { system with
          instances := system.instances ++ [⟨true, .reading, []⟩]
          current := some system.instances.length
          pending := [] } := by
        constructor
        · intro r request found
          exact ⟨request, found, rfl, rfl⟩
        · intro k process found
          exact ⟨process, Positions.concat_kept found _, fun _ member => member⟩
      refine known_register known.phases grown ?_ rfl ?_ ?_
      · constructor
        · intro k process found
          rcases Positions.concat_some found with old | ⟨_, rfl⟩
          · exact known.records.logs k process old
          · exact inOrder_nil
        · intro r request value found method outcome
          exact (known.records.answers r request value found method outcome).mono grown
        · exact known.records.places
      · intro j other held
        exact absurd held (alone holds other)
      · intro k current
        rw [register_some current]
        exact ⟨holds, _, List.getElem?_concat_length, rfl, current⟩
    · cases stepped
  · cases stepped

theorem records_logged {k : Nat} {event : Event} (records : Records system)
    (due : ∀ process, system.process k = some process → Due process.log event) :
    Records (system.logged k event) := by
  apply records_onInstance k _ _ records
  · intro process
    exact List.subset_append_left _ _
  · intro process found
    exact inOrder_concat (records.logs k process found) (due process found)

theorem extends_logged (k : Nat) (event : Event) : Extends system (system.logged k event) :=
  extends_onInstance k fun _ => List.subset_append_left _ _

theorem extends_sent (k r : Nat) (late : Bool) : Extends system (system.sent k r late) :=
  extends_onRequest r fun _ => ⟨rfl, rfl⟩

theorem records_sent {k r : Nat} (late : Bool) (records : Records system)
    (placed : ∀ request, system.requests[r]? = some request → request.method = "initialize" →
      k = request.found) : Records (system.sent k r late) := by
  refine records_onRequest r ?_ ?_ ?_ records
  · intro request
    exact ⟨rfl, rfl⟩
  · intro request value found method outcome
    exact records.answers r request value found method outcome
  · intro request other found method written
    cases written
    exact placed request found method

theorem writes_request {i k r : Nat} {purpose : Purpose} {request : Request}
    (own : purpose = .handshake r ∨ purpose = .call r)
    (requested : system.requests[r]? = some request) :
    system.writes i k purpose =
      { ((system.logged k (.wrote (.request (requestId r) request.method request.params))).sent k r
          ((system.process k).any fun process => process.reader ≠ .reading)).setPhase i
            (.drain purpose) with writeLock := some i } := by
  rcases own with rfl | rfl <;> simp only [System.writes, requested, System.logged, System.sent]

theorem due_of_handshake {i k r : Nat} {purpose : Purpose} {request : Request} {process : Instance}
    (handshake : Handshake system i purpose) (own : purpose = .handshake r ∨ purpose = .call r)
    (requested : system.requests[r]? = some request) (place : k = request.found)
    (found : system.process k = some process) (records : Records system) :
    Due process.log (.wrote (.request (requestId r) request.method request.params)) := by
  intro method
  rcases own with rfl | rfl
  · obtain ⟨_, known, there, initialize', _⟩ := handshake
    rw [requested] at there
    cases there
    exact absurd initialize' method
  · obtain ⟨known, there, ready⟩ := handshake
    rw [requested] at there
    cases there
    rw [← place] at ready
    obtain ⟨same, there, answered⟩ := records.answered ready
    rw [found] at there
    cases there
    obtain ⟨same, there, notified⟩ := ready
    rw [found] at there
    cases there
    exact ⟨answered, notified⟩

theorem known_sent {i k r : Nat} {purpose : Purpose} {call : Call}
    (found : system.calls[i]? = some call) (waits : call.phase = .writeLock purpose)
    (own : purpose = .handshake r ∨ purpose = .call r)
    (met : ∀ request, system.requests[r]? = some request → k = request.found)
    (known : Known system) : Known (system.writes i k purpose) := by
  have handshake := known.phases i call found
  rw [waits] at handshake
  have unnotified : purpose ≠ .notify := by
    rcases own with rfl | rfl <;> exact fun same => nomatch same
  obtain ⟨request, requested⟩ : ∃ request : Request, system.requests[r]? = some request := by
    rcases own with rfl | rfl
    · obtain ⟨_, request, requested, _⟩ := handshake
      exact ⟨request, requested⟩
    · obtain ⟨request, requested, _⟩ := handshake
      exact ⟨request, requested⟩
  rw [writes_request own requested]
  generalize ((system.process k).any fun process => process.reader ≠ .reading) = late
  have logged := records_logged known.records fun process there =>
    due_of_handshake handshake own requested (met request requested) there known.records
  have sent := records_sent late logged fun other there _ => met other there
  have grown : Extends system ((system.logged k
      (.wrote (.request (requestId r) request.method request.params))).sent k r late) :=
    (extends_logged k _).trans (extends_sent k r late)
  constructor
  · exact records_same sent rfl rfl
  · refine phases_moved i (.drain purpose) (grown.trans (extends_same rfl rfl)) rfl
      (fun _ _ holds => ⟨holds, rfl⟩) ⟨?_, ?_⟩ known.phases
    · exact Handshake.mono (grown.trans (extends_same rfl rfl)) (fun holds => ⟨holds, rfl⟩)
        handshake
    · intro notify
      exact absurd notify unnotified

theorem known_write {i : Nat} (met : OnReady settings system (.write i))
    (stepped : system.step settings (.write i) = some after) (known : Known system) :
    Known after := by
  simp only [System.step] at stepped
  split at stepped
  · rename_i call k found current
    split at stepped
    · rename_i purpose waits free
      cases stepped
      have handshake := known.phases i call found
      rw [waits] at handshake
      cases purpose with
      | handshake r =>
          apply known_sent found waits (.inl rfl) _ known
          intro request requested
          obtain ⟨_, other, there, _, place⟩ := handshake
          rw [requested] at there
          cases there
          rw [current] at place
          exact Option.some.inj place
      | call r =>
          apply known_sent found waits (.inr rfl) _ known
          intro request requested
          have place := met call r request found waits requested
          rw [current] at place
          exact Option.some.inj place
      | notify =>
          obtain ⟨holds, other, same, answered⟩ := handshake
          rw [current] at same
          cases same
          have told : Known { (system.logged k (.wrote initialized)).setPhase i
              (.drain .notify) with writeLock := some i } := by
            have kept : Extends system { (system.logged k (.wrote initialized)).setPhase i
                (.drain .notify) with writeLock := some i } :=
              (extends_logged k _).trans (extends_same rfl rfl)
            constructor
            · refine records_same (records_logged known.records ?_) rfl rfl
              intro process there
              obtain ⟨_, known', logged⟩ := answered
              rw [there] at known'
              cases known'
              exact logged
            · refine phases_moved i (.drain .notify) kept rfl (fun _ _ held => ⟨held, rfl⟩) ⟨?_, ?_⟩
                known.phases
              · exact ⟨holds, k, current, answered.mono kept⟩
              · intro _ other same
                have same : k = other := Option.some.inj (current.symm.trans same)
                obtain ⟨process, there, _⟩ := answered
                subst same
                refine ⟨{ process with log := process.log ++ [.wrote initialized] }, ?_, ?_⟩
                · rw [System.process] at there
                  simp [System.process, System.logged, System.onInstance, System.setPhase, there]
                · exact List.mem_append_right _ List.mem_cons_self
          exact told
    · cases stepped
  · cases stepped

theorem known_drained {i : Nat} (stepped : system.step settings (.drained i) = some after)
    (known : Known system) : Known after := by
  simp only [System.step] at stepped
  split at stepped
  · rename_i call found
    split at stepped
    · rename_i drains
      cases stepped
      have held := known.phases i call found
      rw [drains] at held
      obtain ⟨⟨holds, _⟩, ready⟩ := held
      refine known_register known.phases (extends_same rfl rfl)
        (records_same known.records rfl rfl) rfl ?_ ?_
      · intro j other same
        exact absurd same (alone holds other)
      · intro k current
        exact handshake_call current (ready rfl k current)
    · rename_i purpose _ drains
      cases stepped
      have held := known.phases i call found
      rw [drains] at held
      refine known_moved known rfl rfl rfl (fun _ _ same => ⟨same, rfl⟩) ?_
      exact Handshake.mono (extends_same rfl rfl) (fun same => ⟨same, rfl⟩) held.1
    · cases stepped
  · cases stepped

theorem known_resume {i : Nat} (stepped : system.step settings (.resume i) = some after)
    (known : Known system) : Known after := by
  simp only [System.step] at stepped
  split at stepped
  · rename_i call found
    split at stepped
    · rename_i r waits
      have handshake := known.phases i call found
      rw [waits] at handshake
      split at stepped
      · rename_i outcome
        cases stepped
        obtain ⟨holds, request, requested, method, current⟩ := handshake
        rw [requested] at outcome
        refine known_moved known rfl rfl rfl (fun _ _ same => ⟨same, rfl⟩) ?_
        refine ⟨holds, request.found, current, ?_⟩
        exact known.records.answers r request _ requested method outcome
      · cases stepped
        exact known_failed known
      · cases stepped
        exact known_failed known
      · cases stepped
      · cases stepped
    · split at stepped
      · cases stepped
        exact known_moved known rfl rfl rfl (fun _ _ same => ⟨same, rfl⟩) trivial
      · cases stepped
        exact known_failed known
      · cases stepped
      · cases stepped
    · cases stepped
  · cases stepped

theorem records_cancel (r : Nat) (records : Records system) :
    Records (system.onRequest r Request.cancel) := by
  refine records_onRequest r ?_ ?_ ?_ records
  · intro request
    exact ⟨rfl, rfl⟩
  · intro request value found method outcome
    apply records.answers r request value found method
    cases known : request.outcome with
    | none =>
        rw [Request.cancel, known] at outcome
        cases outcome
    | some old =>
        rw [Request.cancel, known] at outcome
        exact outcome
  · intro request k found method written
    exact records.places r request k found method written

theorem known_cancel (r : Nat) (known : Known system) :
    Known (system.onRequest r Request.cancel) :=
  known_kept known (extends_onRequest r fun _ => ⟨rfl, rfl⟩) (records_cancel r known.records)
    rfl rfl rfl

theorem known_pending (pending : List Nat) (known : Known system) :
    Known { system with pending := pending } :=
  known_kept known (extends_same rfl rfl) (records_same known.records rfl rfl) rfl rfl rfl

theorem known_timeout {i : Nat} (stepped : system.step settings (.timeout i) = some after)
    (known : Known system) : Known after := by
  simp only [System.step, System.expire] at stepped
  repeat' split at stepped
  all_goals cases stepped
  all_goals exact known_failed (known_cancel _ (known_pending _ known))

theorem known_startupTimeout {i : Nat} {stderr : String}
    (stepped : system.step settings (.startupTimeout i stderr) = some after)
    (known : Known system) : Known after := by
  simp only [System.step] at stepped
  repeat' split at stepped
  all_goals cases stepped
  exact known_failed (known_cancel _ known)

theorem known_raises {i : Nat} {error : RpcError}
    (stepped : system.step settings (.raises i error) = some after) (known : Known system) :
    Known after := by
  simp only [System.step] at stepped
  repeat' split at stepped
  all_goals cases stepped
  · exact known_failed (known_cancel _ known)
  · exact known_failed (known_cancel _ known)
  · exact known_failed known

theorem known_onInstance (k : Nat) {change : Instance → Instance}
    (kept : ∀ process, (change process).log = process.log) (known : Known system) :
    Known (system.onInstance k change) := by
  have grows : ∀ process, process.log ⊆ (change process).log := by
    intro process
    rw [kept process]
    exact List.Subset.refl _
  refine known_kept known (extends_onInstance k grows) ?_ rfl rfl rfl
  apply records_onInstance k grows _ known.records
  intro process found
  rw [kept process]
  exact known.records.logs k process found

theorem known_exit {k : Nat} (stepped : system.step settings (.exit k) = some after)
    (known : Known system) : Known after := by
  simp only [System.step] at stepped
  split at stepped
  · cases stepped
    exact known_onInstance k (fun _ => rfl) known
  · cases stepped

theorem known_die (k : Nat) (known : Known system) : Known (system.die k) :=
  known_onInstance k (fun _ => rfl) known

-- An outcome with a result is that of `initialize` only where the subprocess has answered it.
theorem known_settle {r : Nat} {outcome : Outcome} {settler : Nat × Option Dict}
    (answered : ∀ request value, system.requests[r]? = some request →
      request.method = "initialize" → outcome = .result value → system.Answered request.found)
    (known : Known system) : Known (system.onRequest r (·.settle outcome settler)) := by
  refine known_kept known (extends_onRequest r fun _ => ⟨rfl, rfl⟩) ?_ rfl rfl rfl
  refine records_onRequest r (fun _ => ⟨rfl, rfl⟩) ?_ ?_ known.records
  · intro request value found method settled
    exact answered request value found method (Option.some.inj settled)
  · intro request k found method written
    exact known.records.places r request k found method written

theorem known_answer {k r : Nat} {request : Request} {message : Dict} (known : Known system)
    (requested : system.requests[r]? = some request) (lives : (system.process k).isSome)
    (own : request.method = "initialize" → request.writtenTo = some k) :
    Known (system.answer k r request message) := by
  unfold System.answer
  split
  · rename_i method
    have logged : Known (system.logged k .answered) := by
      refine known_kept known (extends_logged k .answered) ?_ rfl rfl rfl
      exact records_logged known.records fun _ _ => trivial
    have settled : Known ((system.logged k .answered).onRequest r
        (·.settle (.result (resultOf message)) (k, some message))) := by
      apply known_settle _ logged
      intro other value there _ _
      have same : other = request := by
        rw [System.logged, System.onInstance, requested] at there
        exact (Option.some.inj there).symm
      have place := known.records.places r request k requested method (own method)
      rw [same, ← place]
      obtain ⟨process, found⟩ := Option.isSome_iff_exists.mp lives
      refine ⟨{ process with log := process.log ++ [.answered] }, ?_, ?_⟩
      · rw [System.process] at found
        simp [System.process, System.logged, System.onInstance, found]
      · exact List.mem_append_right _ List.mem_cons_self
    exact settled
  · rename_i method
    apply known_settle _ known
    intro other value there initialize' _
    rw [requested] at there
    cases there
    exact absurd initialize' method

theorem known_line {k : Nat} {line : Line} (met : OnReady settings system (.line k line))
    (stepped : system.step settings (.line k line) = some after) (known : Known system) :
    Known after := by
  simp only [System.step] at stepped
  split at stepped
  · rename_i reads
    cases stepped
    have lives : (system.process k).isSome := by
      cases there : system.process k with
      | none =>
          rw [there] at reads
          cases reads
      | some process => rfl
    unfold System.readLine
    split
    · exact known
    · rename_i message
      split
      · exact known
      · exact known
      · rename_i id _ found
        split
        · exact known_die k known
        · rename_i n read
          split
          · exact known
          · rename_i r named
            have popped := known_pending (system.pending.filter (· ≠ r)) known
            split
            · exact popped
            · rename_i request requested
              split
              · exact popped
              · split
                · apply known_answer popped requested lives
                  intro method
                  have names : (requestId r : Int) = n := by
                    simpa using List.find?_some named
                  exact met r (List.mem_of_find?_eq_some named)
                    ⟨message, id, n, rfl, found, read, names⟩ request requested method
                · apply known_settle _ popped
                  intro other value there _ wrong
                  cases wrong
                · exact known_die k popped
    · exact known_die k known
  · cases stepped

theorem known_eof {k : Nat} (stepped : system.step settings (.eof k) = some after)
    (known : Known system) : Known after := by
  simp only [System.step] at stepped
  split at stepped
  · cases stepped
    rw [System.readEof]
    refine known_onInstance k (fun _ => rfl) ?_
    have kept : Extends system { system with
        requests := system.requests.mapIdx fun r request =>
          if system.pending.contains r && request.outcome.isNone then
            request.settle (.error "The MCP server exited.") (k, none)
          else request
        pending := [] } := by
      constructor
      · intro r request found
        simp only [List.getElem?_mapIdx, found, Option.map_some, Option.some.injEq,
          exists_eq_left']
        split <;> exact ⟨rfl, rfl⟩
      · intro other process found
        exact ⟨process, found, List.Subset.refl _⟩
    refine known_kept known kept ⟨known.records.logs, ?_, ?_⟩ rfl rfl rfl
    · intro r request value found method outcome
      simp only [List.getElem?_mapIdx, Option.map_eq_some_iff] at found
      obtain ⟨old, there, rfl⟩ := found
      split at outcome
      · cases outcome
      · rename_i unsettled
        rw [if_neg unsettled] at method ⊢
        exact (known.records.answers r old value there method outcome).mono kept
    · intro r request other found method written
      simp only [List.getElem?_mapIdx, Option.map_eq_some_iff] at found
      obtain ⟨old, there, rfl⟩ := found
      split at method
      · rename_i settled
        rw [if_pos settled] at written ⊢
        exact known.records.places r old other there method written
      · rename_i unsettled
        rw [if_neg unsettled] at written ⊢
        exact known.records.places r old other there method written
  · cases stepped

theorem known_step (label : Label) (met : OnReady settings system label)
    (stepped : system.step settings label = some after) (known : Known system) : Known after := by
  cases label with
  | arrive method params => exact known_arrive met stepped known
  | enter i => exact known_enter met stepped known
  | spawned i => exact known_spawned stepped known
  | write i => exact known_write met stepped known
  | drained i => exact known_drained stepped known
  | resume i => exact known_resume stepped known
  | timeout i => exact known_timeout stepped known
  | startupTimeout i stderr => exact known_startupTimeout stepped known
  | raises i error => exact known_raises stepped known
  | exit k => exact known_exit stepped known
  | line k line => exact known_line met stepped known
  | eof k => exact known_eof stepped known

end Steps

theorem known_idle : Known System.idle := by
  constructor
  · constructor
    · intro k process found
      cases found
    · intro r request value found
      cases found
    · intro r request k found
      cases found
  · intro i call found
    cases found

/-- Whenever a subprocess was written a request other than `initialize`, it had answered
`initialize` with a result and been written the notification before. -/
theorem written_after_handshake {settings : Settings} {system : System}
    (run : History (System.step settings) (OnReady settings) System.idle system) :
    ∀ (k : Nat) (process : Instance) (before after : List Event) (id : Nat) (method : String)
      (params : Dict), system.instances[k]? = some process →
      process.log = before ++ .wrote (.request id method params) :: after →
      method ≠ "initialize" → .answered ∈ before ∧ .wrote initialized ∈ before := by
  have known : Known system :=
    run.keeps Known known_idle fun _ label _ met stepped known => known_step label met stepped known
  intro k process before after id method params found log other
  exact known.records.logs k process found before _ after log other

def mcpServer : Settings where
  commandConfigured := true
  protocolVersion := "2024-11-05"
  requestTimeout := "60"
  startupTimeout := "30"
  parseInt text :=
    if text ≠ "" ∧ text.toList.all Char.isDigit then
      some (text.toList.foldl (fun value digit => 10 * value + (digit.toNat - 48 : Nat)) (0 : Int))
    else none
  str json := match json with
    | .str text => text
    | .num value => toString value.floor
    | .bool value => if value then "True" else "False"
    | .null => "None"
    | .uuid _ | .arr _ | .obj _ => ""
  typeName json := match json with
    | .str _ => "str"
    | .num _ => "int"
    | .bool _ => "bool"
    | .null => "NoneType"
    | .uuid _ => "UUID"
    | .arr _ => "list"
    | .obj _ => "dict"

def Event.isNotified : Event → Bool
  | .wrote (.notification method) => method = "notifications/initialized"
  | _ => false

theorem notified_of_isNotified {event : Event} (notified : event.isNotified = true) :
    event = .wrote initialized := by
  cases event with
  | answered => cases notified
  | wrote message =>
      cases message with
      | request id method params => cases notified
      | notification method =>
          have same : method = "notifications/initialized" := of_decide_eq_true notified
          rw [same]
          rfl

/-- `OnReady`, computed; a line is not looked into. -/
def onReady (system : System) : Label → Bool
  | .arrive .. | .enter _ => !system.running || system.current.all fun k =>
      (system.process k).any fun process => process.log.any Event.isNotified
  | .write i => (system.calls[i]?).all fun call =>
      match call.phase with
      | .writeLock (.call r) => (system.requests[r]?).all fun request =>
          system.current = some request.found
      | _ => true
  | .line k _ => system.pending.all fun r => (system.requests[r]?).all fun request =>
      request.method ≠ "initialize" || request.writtenTo = some k
  | _ => true

theorem onReady_sound {settings : Settings} (system : System) (label : Label)
    (meets : onReady system label = true) : OnReady settings system label := by
  have ready (checked : (!system.running || system.current.all fun k =>
      (system.process k).any fun process => process.log.any Event.isNotified) = true) :
      system.running = true → ∀ k, system.current = some k → system.Ready k := by
    intro running k current
    rw [running, current] at checked
    obtain ⟨process, found, logged⟩ : ∃ process, system.process k = some process ∧
        process.log.any Event.isNotified = true := by
      simpa [Option.any_eq_true] using checked
    obtain ⟨event, member, notified⟩ := List.any_eq_true.mp logged
    rw [notified_of_isNotified notified] at member
    exact ⟨process, found, member⟩
  cases label with
  | arrive method params => exact ready meets
  | enter i => exact ready meets
  | write i =>
      intro call r request found waits requested
      simpa [onReady, found, waits, requested] using meets
  | line k line =>
      intro r pending _ request requested method
      simp only [onReady, List.all_eq_true] at meets
      have checked := meets r pending
      simpa [requested, method] using checked
  | _ => trivial

def listing : List Label :=
  [.arrive "tools/list" [], .enter 0, .spawned 0, .write 0, .drained 0,
    .line 0 (.value (.obj [("id", .num 1), ("result", .obj [])])), .resume 0, .write 0, .drained 0,
    .write 0]

def handshake : List Event :=
  [.wrote (.request 1 "initialize" (initializeParams mcpServer)), .answered, .wrote initialized]

theorem listing_after_handshake : ∃ system process,
    History (System.step mcpServer) (OnReady mcpServer) System.idle system ∧
    system.instances[0]? = some process ∧
    process.log = handshake ++ [.wrote (.request 2 "tools/list" [])] ∧
    (.answered ∈ handshake ∧ .wrote initialized ∈ handshake) := by
  have run := @history_replay _ _ (System.step mcpServer) onReady (OnReady mcpServer) onReady_sound
    System.idle _ listing rfl
  exact ⟨_, _, run, rfl, rfl,
    written_after_handshake run 0 _ handshake [] 2 "tools/list" [] rfl rfl (by decide)⟩

/-- A call that comes while another one is waiting for the answer to `initialize`. -/
def impatient : List Label :=
  [.arrive "tools/list" [], .enter 0, .spawned 0, .write 0, .drained 0, .arrive "tools/call" [],
    .write 1]

theorem call_before_answer : ∃ system process before,
    History (System.step mcpServer) (fun _ _ => True) System.idle system ∧
    system.instances[0]? = some process ∧
    process.log = before ++ [.wrote (.request 2 "tools/call" [])] ∧
    ¬(.answered ∈ before ∧ .wrote initialized ∈ before) := by
  have run := @history_replay _ _ (System.step mcpServer) (fun _ _ => true) (fun _ _ => True)
    (fun _ _ _ => trivial) System.idle _ impatient rfl
  refine ⟨_, _, [.wrote (.request 1 "initialize" (initializeParams mcpServer))], run, rfl, rfl, ?_⟩
  rintro ⟨answered, _⟩
  cases List.mem_singleton.mp answered

end AiPlatform.Bridge
