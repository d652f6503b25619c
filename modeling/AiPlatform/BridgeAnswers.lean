import AiPlatform.BridgeOrder

/-!
What becomes of the calls of the bridge. As long as no line makes a reader stop or settle
a call that it does not answer, and no subprocess is started while the output of an older
one is still read, every call ends with its own answer or an error, and the end of the
output fails the calls of its own subprocess and no others.
-/

namespace AiPlatform.Bridge

open Agents (Dict Json)

/-- The message may be an answer to the request, from the subprocess that it was written
to. -/
structure Message.Answers (message : Dict) (k r : Nat) (request : Request) : Prop where
  placed : request.writtenTo = some k
  id : message.lookup "id" = some (.num (requestId r))
  method : message.lookup "method" = none

/-- The line is no JSON, a notification, or a message whose id is a number, with an
answer to the request that has this id if one is still open. -/
def Line.Benign (settings : Settings) (system : System) (k : Nat) : Line → Prop
  | .unreadable => True
  | .value (.obj message) => ∀ id, message.lookup "id" = some id → id ≠ .null →
      ∃ n, intOf settings id = some n ∧ ∀ r ∈ system.pending, (requestId r : Int) = n →
        ∀ request, system.requests[r]? = some request → request.outcome = none →
          Message.Answers message k r request ∧
          ∀ error, message.lookup "error" = some error → ∃ fields, error = .obj fields
  | .value _ => False

namespace System

def Reads (system : System) (k : Nat) : Prop :=
  ∃ process, system.process k = some process ∧ process.reader = .reading

end System

/-- Lines are benign, a subprocess is started when no output is read any more, and who
gets the write lock has a request for the subprocess there is. -/
def OnAnswers (settings : Settings) (system : System) : Label → Prop
  | .line k line => line.Benign settings system k
  | .spawned _ => ∀ k, ¬system.Reads k
  | .write i => ∀ call r request, system.calls[i]? = some call →
      call.phase = .writeLock (.handshake r) ∨ call.phase = .writeLock (.call r) →
      system.requests[r]? = some request → system.current = some request.found
  | .arrive .. | .enter _ | .drained _ | .resume _ | .timeout _ | .startupTimeout .. | .raises ..
  | .exit _ | .eof _ => True

structure Request.Fair (r : Nat) (request : Request) : Prop where
  placed : ∀ k, request.writtenTo = some k → k = request.found
  ended : ∀ k, request.settledBy = some (k, none) → k = request.found
  answered : ∀ k message, request.settledBy = some (k, some message) →
    Message.Answers message k r request
  result : ∀ value, request.outcome = some (.result value) → ∃ k message,
    request.settledBy = some (k, some message) ∧ message.lookup "error" = none ∧
    value = resultOf message

structure Fair (system : System) : Prop where
  sole : ∀ k, system.Reads k → system.current = some k
  lives : ∀ k process, system.process k = some process → process.reader ≠ .died
  requests : ∀ (r : Nat) (request : Request), system.requests[r]? = some request → request.Fair r
  places : ∀ (r : Nat) (request : Request), system.requests[r]? = some request →
    request.found < system.instances.length
  current : ∀ k, system.current = some k → k < system.instances.length
  pending : ∀ r ∈ system.pending, ∃ request, system.requests[r]? = some request ∧
    system.current = some request.found
  listed : ∀ (r : Nat) (request : Request), system.requests[r]? = some request →
    request.outcome = none → system.Reads request.found → r ∈ system.pending
  awaited : ∀ (r : Nat) (request : Request) (k : Nat), system.requests[r]? = some request →
    request.outcome = none → request.writtenTo = some k → request.late = false → system.Reads k

section Requests

variable {system after : System}

theorem fair_onRequest {r : Nat} {change : Request → Request} {pending : List Nat}
    (fair : Fair system) (kept : pending ⊆ system.pending)
    (found : ∀ old, (change old).found = old.found)
    (stays : ∀ old, system.requests[r]? = some old → old.Fair r → (change old).Fair r)
    (opened : ∀ old, system.requests[r]? = some old → (change old).outcome = none →
      old.outcome = none ∧ ∀ k, (change old).writtenTo = some k → (change old).late = false →
        system.Reads k)
    (removed : ∀ s ∈ system.pending, s ∈ pending ∨ s = r ∧
      ∀ old, system.requests[r]? = some old → (change old).outcome ≠ none) :
    Fair ({ system with pending := pending }.onRequest r change) := by
  constructor
  · exact fair.sole
  · exact fair.lives
  · intro s request there
    rcases onRequest_some there with ⟨old, rfl, was, rfl⟩ | ⟨_, was⟩
    · exact stays old was (fair.requests s old was)
    · exact fair.requests s request was
  · intro s request there
    rcases onRequest_some there with ⟨old, rfl, was, rfl⟩ | ⟨_, was⟩
    · rw [found]
      exact fair.places s old was
    · exact fair.places s request was
  · exact fair.current
  · intro s listed
    obtain ⟨request, there, current⟩ := fair.pending s (kept listed)
    by_cases same : r = s
    · subst same
      refine ⟨change request, Positions.modify_own there, ?_⟩
      rw [found]
      exact current
    · exact ⟨request, Positions.modify_other same there, current⟩
  · intro s request there unsettled reads
    rcases onRequest_some there with ⟨old, rfl, was, rfl⟩ | ⟨other, was⟩
    · rw [found] at reads
      have member := fair.listed s old was (opened old was unsettled).1 reads
      rcases removed s member with still | ⟨_, settled⟩
      · exact still
      · exact absurd unsettled (settled old was)
    · rcases removed s (fair.listed s request was unsettled reads) with still | ⟨same, _⟩
      · exact still
      · exact absurd same other
  · intro s request k there unsettled written late
    rcases onRequest_some there with ⟨old, rfl, was, rfl⟩ | ⟨_, was⟩
    · exact (opened old was unsettled).2 k written late
    · exact fair.awaited s request k was unsettled written late

theorem fair_same (fair : Fair system) (instances : after.instances = system.instances)
    (current : after.current = system.current) (requests : after.requests = system.requests)
    (pending : after.pending = system.pending) : Fair after := by
  obtain ⟨sole, lives, whole, places, bound, listed, unsettled, awaited⟩ := fair
  unfold System.Reads System.process at *
  rw [← instances, ← current] at sole
  rw [← instances] at lives
  rw [← requests] at whole
  rw [← requests, ← instances] at places
  rw [← current, ← instances] at bound
  rw [← pending, ← requests, ← current] at listed
  rw [← requests, ← instances, ← pending] at unsettled
  rw [← requests, ← instances] at awaited
  exact ⟨sole, lives, whole, places, bound, listed, unsettled, awaited⟩

theorem fair_append {request : Request} {k : Nat} (fair : Fair system)
    (current : system.current = some k) (found : request.found = k)
    (fresh : request.outcome = none) (unwritten : request.writtenTo = none)
    (unsettled : request.settledBy = none) :
    Fair { system with
      requests := system.requests ++ [request]
      pending := system.pending ++ [system.requests.length] } := by
  constructor
  · exact fair.sole
  · exact fair.lives
  · intro r known there
    rcases Positions.concat_some there with old | ⟨rfl, rfl⟩
    · exact fair.requests r known old
    · constructor
      · intro other written
        rw [unwritten] at written
        cases written
      · intro other settled
        rw [unsettled] at settled
        cases settled
      · intro other message settled
        rw [unsettled] at settled
        cases settled
      · intro value outcome
        rw [fresh] at outcome
        cases outcome
  · intro r known there
    rcases Positions.concat_some there with old | ⟨rfl, rfl⟩
    · exact fair.places r known old
    · rw [found]
      exact fair.current k current
  · exact fair.current
  · intro r member
    rcases List.mem_append.mp member with old | new
    · obtain ⟨known, there, place⟩ := fair.pending r old
      exact ⟨known, Positions.concat_kept there _, place⟩
    · rw [List.mem_singleton.mp new]
      exact ⟨request, List.getElem?_concat_length, by rw [found]; exact current⟩
  · intro r known there outcome reads
    rcases Positions.concat_some there with old | ⟨rfl, rfl⟩
    · exact List.mem_append_left _ (fair.listed r known old outcome reads)
    · exact List.mem_append_right _ List.mem_cons_self
  · intro r known other there outcome written late
    rcases Positions.concat_some there with old | ⟨rfl, rfl⟩
    · exact fair.awaited r known other old outcome written late
    · rw [unwritten] at written
      cases written

theorem process_onInstance {k other : Nat} {change : Instance → Instance} {process : Instance}
    (there : (system.onInstance k change).process other = some process) :
    ∃ old, system.process other = some old ∧
      ((∀ process, (change process).reader = process.reader) → process.reader = old.reader) := by
  rcases Positions.modify_some there with ⟨old, _, was, rfl⟩ | ⟨_, was⟩
  · exact ⟨old, was, fun kept => kept old⟩
  · exact ⟨process, was, fun _ => rfl⟩

theorem reads_onInstance {k other : Nat} {change : Instance → Instance}
    (kept : ∀ process, (change process).reader = process.reader) :
    (system.onInstance k change).Reads other ↔ system.Reads other := by
  constructor
  · rintro ⟨process, there, reads⟩
    obtain ⟨old, was, same⟩ := process_onInstance there
    exact ⟨old, was, same kept ▸ reads⟩
  · rintro ⟨process, there, reads⟩
    by_cases same : k = other
    · subst same
      exact ⟨change process, Positions.modify_own there, (kept process).trans reads⟩
    · exact ⟨process, Positions.modify_other same there, reads⟩

theorem fair_onInstance {k : Nat} {change : Instance → Instance} (fair : Fair system)
    (kept : ∀ process, (change process).reader = process.reader) :
    Fair (system.onInstance k change) := by
  have length : (system.onInstance k change).instances.length = system.instances.length :=
    List.length_modify ..
  constructor
  · intro other reads
    exact fair.sole other ((reads_onInstance kept).mp reads)
  · intro other process there
    obtain ⟨old, was, same⟩ := process_onInstance there
    rw [same kept]
    exact fair.lives other old was
  · exact fair.requests
  · intro r request there
    rw [length]
    exact fair.places r request there
  · intro other current
    rw [length]
    exact fair.current other current
  · exact fair.pending
  · intro r request there outcome reads
    exact fair.listed r request there outcome ((reads_onInstance kept).mp reads)
  · intro r request other there outcome written late
    exact (reads_onInstance kept).mpr (fair.awaited r request other there outcome written late)

theorem reads_logged {k other : Nat} {event : Event} :
    (system.logged k event).Reads other ↔ system.Reads other :=
  reads_onInstance fun _ => rfl

theorem fair_logged (k : Nat) (event : Event) (fair : Fair system) : Fair (system.logged k event) :=
  fair_onInstance fair fun _ => rfl

theorem fair_spawned (fair : Fair system) (ended : ∀ k, ¬system.Reads k) :
    Fair { system with
      instances := system.instances ++ [⟨true, .reading, []⟩]
      current := some system.instances.length
      pending := [] } := by
  have old : ∀ k process, (system.instances ++ [(⟨true, .reading, []⟩ : Instance)])[k]? =
      some process → system.process k = some process ∨
        k = system.instances.length ∧ process.reader = .reading := by
    intro k process there
    rcases Positions.concat_some there with before | ⟨last, rfl⟩
    · exact .inl before
    · exact .inr ⟨last, rfl⟩
  constructor
  · rintro k ⟨process, there, reads⟩
    rcases old k process there with was | ⟨same, _⟩
    · exact absurd ⟨process, was, reads⟩ (ended k)
    · rw [same]
  · intro k process there
    rcases old k process there with was | ⟨_, reads⟩
    · exact fair.lives k process was
    · rw [reads]
      exact fun same => nomatch same
  · exact fair.requests
  · intro r request there
    have inside := fair.places r request there
    simp only [List.length_append, List.length_singleton]
    omega
  · intro k current
    cases current
    simp
  · intro r member
    cases member
  · rintro r request there outcome ⟨process, known, reads⟩
    rcases old request.found process known with was | ⟨same, _⟩
    · exact absurd ⟨process, was, reads⟩ (ended request.found)
    · have inside := fair.places r request there
      omega
  · intro r request k there outcome written late
    exact absurd (fair.awaited r request k there outcome written late) (ended k)

theorem fair_sent {k r : Nat} {late : Bool} (fair : Fair system)
    (placed : ∀ request, system.requests[r]? = some request → k = request.found)
    (reads : late = false → system.Reads k) : Fair (system.sent k r late) := by
  refine fair_onRequest fair (List.Subset.refl _) (fun _ => rfl) ?_ ?_ fun s member => .inl member
  · intro old there fairly
    refine ⟨?_, fairly.ended, ?_, fairly.result⟩
    · intro other written
      cases written
      exact placed old there
    · intro other message settled
      have answers := fairly.answered other message settled
      refine ⟨?_, answers.id, answers.method⟩
      rw [fairly.placed other answers.placed, placed old there]
  · intro old there unsettled
    refine ⟨unsettled, ?_⟩
    intro other written inTime
    cases written
    exact reads inTime

theorem fair_settle {k r : Nat} {request : Request} {message : Dict} {outcome : Outcome}
    (fair : Fair system) (requested : system.requests[r]? = some request)
    (answers : Message.Answers message k r request)
    (result : ∀ value, outcome = .result value → message.lookup "error" = none ∧
      value = resultOf message) :
    Fair ({ system with pending := system.pending.filter (· ≠ r) }.onRequest r
      (·.settle outcome (k, some message))) := by
  refine fair_onRequest fair List.filter_sublist.subset (fun _ => rfl) ?_ ?_ ?_
  · intro old there fairly
    rw [requested] at there
    cases there
    refine ⟨fairly.placed, ?_, ?_, ?_⟩
    · intro other settled
      cases settled
    · intro other message' settled
      cases settled
      exact ⟨answers.placed, answers.id, answers.method⟩
    · intro value settled
      exact ⟨k, message, rfl, result value (Option.some.inj settled)⟩
  · intro old there unsettled
    cases unsettled
  · intro s member
    by_cases same : s = r
    · exact .inr ⟨same, fun old _ unsettled => nomatch unsettled⟩
    · exact .inl (List.mem_filter.mpr ⟨member, by simpa using same⟩)

theorem fair_popped {r : Nat} {request : Request} (fair : Fair system)
    (requested : system.requests[r]? = some request) (settled : request.outcome ≠ none) :
    Fair { system with pending := system.pending.filter (· ≠ r) } := by
  have whole : { system with pending := system.pending.filter (· ≠ r) } =
      { system with pending := system.pending.filter (· ≠ r) }.onRequest r id := by
    simp [System.onRequest]
  rw [whole]
  refine fair_onRequest fair List.filter_sublist.subset (fun _ => rfl) (fun _ _ same => same) ?_ ?_
  · intro old there unsettled
    rw [requested] at there
    cases there
    exact absurd unsettled settled
  · intro s member
    by_cases same : s = r
    · refine .inr ⟨same, ?_⟩
      intro old there
      rw [requested] at there
      cases there
      exact settled
    · exact .inl (List.mem_filter.mpr ⟨member, by simpa using same⟩)

theorem fair_cancel {r : Nat} {pending : List Nat} (fair : Fair system)
    (kept : pending ⊆ system.pending) (removed : ∀ s ∈ system.pending, s ∈ pending ∨ s = r) :
    Fair ({ system with pending := pending }.onRequest r Request.cancel) := by
  have settled : ∀ old : Request, old.cancel.outcome ≠ none := by
    intro old unsettled
    cases known : old.outcome <;> simp [Request.cancel, known] at unsettled
  refine fair_onRequest fair kept (fun _ => rfl) ?_ ?_ ?_
  · intro old there fairly
    refine ⟨fairly.placed, fairly.ended, ?_, ?_⟩
    · intro k message by'
      have answers := fairly.answered k message by'
      exact ⟨answers.placed, answers.id, answers.method⟩
    · intro value outcome
      apply fairly.result value
      cases known : old.outcome with
      | none =>
          rw [Request.cancel, known] at outcome
          cases outcome
      | some earlier =>
          rw [Request.cancel, known] at outcome
          exact outcome
  · intro old there unsettled
    exact absurd unsettled (settled old)
  · intro s member
    rcases removed s member with still | same
    · exact .inl still
    · exact .inr ⟨same, fun old _ => settled old⟩

theorem fair_eof {k : Nat} (fair : Fair system) (reads : system.Reads k) :
    Fair (system.readEof k) := by
  have current := fair.sole k reads
  have process' : ∀ other process, (system.readEof k).process other = some process →
      (other = k ∧ process.reader = .ended) ∨ other ≠ k ∧ system.process other = some process := by
    intro other process there
    rcases Positions.modify_some there with ⟨_, same, _, rfl⟩ | ⟨differs, was⟩
    · exact .inl ⟨same.symm, rfl⟩
    · exact .inr ⟨Ne.symm differs, was⟩
  have quiet : ∀ other, ¬(system.readEof k).Reads other := by
    rintro other ⟨process, there, reads'⟩
    rcases process' other process there with ⟨_, ended⟩ | ⟨differs, was⟩
    · rw [ended] at reads'
      cases reads'
    · have same := fair.sole other ⟨process, was, reads'⟩
      rw [current] at same
      exact differs (Option.some.inj same).symm
  have request' : ∀ r request, (system.readEof k).requests[r]? = some request →
      ∃ old, system.requests[r]? = some old ∧
        ((r ∈ system.pending ∧ old.outcome = none ∧
            request = old.settle (.error "The MCP server exited.") (k, none)) ∨
          ¬(r ∈ system.pending ∧ old.outcome = none) ∧ request = old) := by
    intro r request there
    simp only [System.readEof, System.onInstance, List.getElem?_mapIdx,
      Option.map_eq_some_iff] at there
    obtain ⟨old, was, same⟩ := there
    refine ⟨old, was, ?_⟩
    by_cases opened : r ∈ system.pending ∧ old.outcome = none
    · left
      refine ⟨opened.1, opened.2, ?_⟩
      rw [← same, if_pos (by simp [opened.1, opened.2])]
    · right
      refine ⟨opened, ?_⟩
      rw [← same, if_neg (by simpa using opened)]
  have length : (system.readEof k).instances.length = system.instances.length :=
    List.length_modify ..
  constructor
  · intro other reads'
    exact absurd reads' (quiet other)
  · intro other process there
    rcases process' other process there with ⟨_, ended⟩ | ⟨_, was⟩
    · rw [ended]
      intro same
      cases same
    · exact fair.lives other process was
  · intro r request there
    obtain ⟨old, was, ⟨member, _, rfl⟩ | ⟨_, rfl⟩⟩ := request' r request there
    · refine ⟨(fair.requests r old was).placed, ?_, ?_, ?_⟩
      · intro other ended
        cases ended
        obtain ⟨same, there', place⟩ := fair.pending r member
        rw [was] at there'
        cases there'
        rw [current] at place
        exact Option.some.inj place
      · intro other message settled
        cases settled
      · intro value outcome
        cases outcome
    · exact fair.requests r request was
  · intro r request there
    rw [length]
    obtain ⟨old, was, ⟨_, _, rfl⟩ | ⟨_, rfl⟩⟩ := request' r request there
    · exact fair.places r old was
    · exact fair.places r request was
  · intro other same
    rw [length]
    exact fair.current other same
  · intro r member
    cases member
  · intro r request there outcome reads'
    exact absurd reads' (quiet _)
  · intro r request other there outcome written late
    obtain ⟨old, was, ⟨_, _, rfl⟩ | ⟨unlisted, rfl⟩⟩ := request' r request there
    · cases outcome
    · have reads' := fair.awaited r request other was outcome written late
      have same := (fair.requests r request was).placed other written
      rw [same] at reads'
      exact absurd ⟨fair.listed r request was outcome reads', outcome⟩ unlisted

end Requests

def Call.Made (call : Call) (i : Nat) (request : Request) : Prop :=
  request.caller = i ∧ request.method = call.method ∧ request.params = call.params

def Call.Holds (system : System) (i : Nat) (call : Call) : Prop :=
  match call.phase with
  | .writeLock (.call r) | .drain (.call r) | .future (.call r) =>
      ∃ request, system.requests[r]? = some request ∧ call.Made i request
  | .done (.ok value) => ∃ (r : Nat) (request : Request), system.requests[r]? = some request ∧
      call.Made i request ∧ request.outcome = some (.result value)
  | _ => True

def Keeps (system after : System) : Prop :=
  ∀ (r : Nat) (request : Request), system.requests[r]? = some request → ∃ next : Request,
    after.requests[r]? = some next ∧
    (∀ call i, Call.Made call i request → Call.Made call i next) ∧
    ∀ value, request.outcome = some (.result value) → next.outcome = some (.result value)

structure Served (system : System) : Prop where
  fair : Fair system
  holds : ∀ (i : Nat) (call : Call), system.calls[i]? = some call → call.Holds system i

section Coroutines

variable {system after : System}

theorem keeps_same (requests : after.requests = system.requests) : Keeps system after := by
  intro r request found
  refine ⟨request, ?_, fun _ _ made => made, fun _ outcome => outcome⟩
  rw [requests]
  exact found

theorem keeps_onRequest (r : Nat) {change : Request → Request} (pending : List Nat)
    (kept : ∀ old, (change old).caller = old.caller ∧ (change old).method = old.method ∧
      (change old).params = old.params)
    (result : ∀ old value, system.requests[r]? = some old →
      old.outcome = some (.result value) → (change old).outcome = some (.result value)) :
    Keeps system ({ system with pending := pending }.onRequest r change) := by
  intro other request found
  by_cases same : r = other
  · subst same
    refine ⟨change request, Positions.modify_own found, ?_, ?_⟩
    · rintro call i ⟨caller, method, params⟩
      obtain ⟨caller', method', params'⟩ := kept request
      exact ⟨caller'.trans caller, method'.trans method, params'.trans params⟩
    · intro value outcome
      exact result request value found outcome
  · exact ⟨request, Positions.modify_other same found, fun _ _ made => made,
      fun _ outcome => outcome⟩

theorem Call.Holds.mono {i : Nat} {call : Call} (keeps : Keeps system after)
    (holds : call.Holds system i) : call.Holds after i := by
  have owned : ∀ r : Nat, (∃ request, system.requests[r]? = some request ∧ call.Made i request) →
      ∃ request, after.requests[r]? = some request ∧ call.Made i request := by
    rintro r ⟨request, found, made⟩
    obtain ⟨next, there, made', _⟩ := keeps r request found
    exact ⟨next, there, made' call i made⟩
  unfold Call.Holds at holds ⊢
  split at holds
  · exact owned _ holds
  · exact owned _ holds
  · exact owned _ holds
  · obtain ⟨r, request, found, made, outcome⟩ := holds
    obtain ⟨next, there, made', outcome'⟩ := keeps r request found
    exact ⟨r, next, there, made' call i made, outcome' _ outcome⟩
  · trivial

theorem served_moved (i : Nat) (phase : Phase) (served : Served system) (fair : Fair after)
    (keeps : Keeps system after)
    (calls : after.calls = system.calls.modify i fun call => { call with phase := phase })
    (own : ∀ call, system.calls[i]? = some call →
      Call.Holds after i { call with phase := phase }) : Served after := by
  refine ⟨fair, ?_⟩
  intro j call found
  rw [calls] at found
  rcases Positions.modify_some found with ⟨old, rfl, there, rfl⟩ | ⟨_, there⟩
  · exact own old there
  · exact (served.holds j call there).mono keeps

theorem served_kept (served : Served system) (fair : Fair after) (keeps : Keeps system after)
    (calls : after.calls = system.calls) : Served after := by
  refine ⟨fair, ?_⟩
  intro j call found
  rw [calls] at found
  exact (served.holds j call found).mono keeps

theorem served_fail {i : Nat} {error : RpcError} (served : Served system) :
    Served (system.fail i error) :=
  served_moved i (.done (.error error)) served (fair_same served.fair rfl rfl rfl rfl)
    (keeps_same rfl) rfl fun _ _ => trivial

theorem served_register {i : Nat} {purpose : Nat → Purpose} {method : String} {params : Dict}
    (served : Served system)
    (own : (∀ r, purpose r = .handshake r) ∨ (∀ r, purpose r = .call r) ∧
      ∀ call, system.calls[i]? = some call → call.method = method ∧ call.params = params) :
    Served (system.register i purpose method params) := by
  cases current : system.current with
  | none =>
      simp only [System.register, current]
      exact served_fail served
  | some k =>
      rw [register_some current]
      have appended := @fair_append system ⟨i, method, params, k, none, false, none, none⟩ k
        served.fair current rfl rfl rfl rfl
      have keeps : Keeps system { system with
          requests :=
            system.requests ++ [(⟨i, method, params, k, none, false, none, none⟩ : Request)]
          pending := system.pending ++ [system.requests.length] } := by
        intro r request found
        exact ⟨request, Positions.concat_kept found _, fun _ _ made => made,
          fun _ outcome => outcome⟩
      refine served_moved i _ served (fair_same appended rfl rfl rfl rfl) keeps rfl ?_
      intro call found
      rcases own with handshake | ⟨proceeds, asked⟩
      · rw [handshake]
        trivial
      · rw [proceeds]
        obtain ⟨method', params'⟩ := asked call found
        exact ⟨_, List.getElem?_concat_length, rfl, method'.symm, params'.symm⟩

theorem served_proceed {i : Nat} {call : Call} (served : Served system)
    (found : system.calls[i]? = some call) : Served (system.proceed i call) := by
  apply served_register served
  right
  refine ⟨fun _ => rfl, ?_⟩
  intro other there
  rw [found] at there
  cases there
  exact ⟨rfl, rfl⟩

theorem served_cancel {r : Nat} {pending : List Nat} (served : Served system)
    (kept : pending ⊆ system.pending) (removed : ∀ s ∈ system.pending, s ∈ pending ∨ s = r) :
    Served ({ system with pending := pending }.onRequest r Request.cancel) := by
  apply served_kept served (fair_cancel served.fair kept removed) _ rfl
  apply keeps_onRequest r pending
  · intro old
    exact ⟨rfl, rfl, rfl⟩
  · intro old value _ outcome
    rw [Request.cancel, outcome]
    rfl

end Coroutines

section Steps

variable {settings : Settings} {system after : System}

theorem served_arrive {method : String} {params : Dict}
    (stepped : system.step settings (.arrive method params) = some after)
    (served : Served system) : Served after := by
  have arrived : Served { system with calls := system.calls ++ [⟨method, params, .startLock⟩] } := by
    refine ⟨fair_same served.fair rfl rfl rfl rfl, ?_⟩
    intro j call found
    rcases Positions.concat_some found with old | ⟨_, rfl⟩
    · exact (served.holds j call old).mono (keeps_same rfl)
    · trivial
  simp only [System.step] at stepped
  split at stepped
  · cases stepped
    exact served_fail arrived
  · split at stepped
    · cases stepped
      exact served_proceed arrived List.getElem?_concat_length
    · cases stepped
      exact arrived

theorem served_enter {i : Nat} (stepped : system.step settings (.enter i) = some after)
    (served : Served system) : Served after := by
  simp only [System.step] at stepped
  split at stepped
  · rename_i call found
    split at stepped
    · split at stepped
      · cases stepped
        exact served_proceed served found
      · split at stepped
        · cases stepped
          exact served_fail served
        · cases stepped
          exact served_moved i .spawning served (fair_same served.fair rfl rfl rfl rfl)
            (keeps_same rfl) rfl fun _ _ => trivial
    · cases stepped
  · cases stepped

theorem served_spawned {i : Nat} (met : OnAnswers settings system (.spawned i))
    (stepped : system.step settings (.spawned i) = some after) (served : Served system) :
    Served after := by
  simp only [System.step] at stepped
  split at stepped
  · split at stepped
    · cases stepped
      have spawned := served_kept served (fair_spawned served.fair met) (keeps_same rfl) rfl
      exact served_register spawned (.inl fun _ => rfl)
    · cases stepped
  · cases stepped

theorem served_drains {i : Nat} {purpose : Purpose} {call : Call} (served : Served system)
    (found : system.calls[i]? = some call) (waits : call.phase = .writeLock purpose)
    (fair : Fair after) (keeps : Keeps system after) (calls : after.calls = system.calls) :
    Served { after.setPhase i (.drain purpose) with writeLock := some i } := by
  have kept : Keeps system { after.setPhase i (.drain purpose) with writeLock := some i } := keeps
  refine served_moved i (.drain purpose) served (fair_same fair rfl rfl rfl rfl) kept ?_ ?_
  · rw [← calls]
    rfl
  · intro other there
    rw [found] at there
    cases there
    have holds := (served.holds i call found).mono kept
    unfold Call.Holds at holds ⊢
    rw [waits] at holds
    cases purpose with
    | handshake r => trivial
    | notify => trivial
    | call r => exact holds

theorem served_sent {i k r : Nat} {purpose : Purpose} {call : Call}
    (found : system.calls[i]? = some call) (waits : call.phase = .writeLock purpose)
    (own : purpose = .handshake r ∨ purpose = .call r)
    (placed : ∀ request, system.requests[r]? = some request → k = request.found)
    (served : Served system) : Served (system.writes i k purpose) := by
  cases requested : system.requests[r]? with
  | none =>
      have same : system.writes i k purpose =
          { system.setPhase i (.drain purpose) with writeLock := some i } := by
        rcases own with rfl | rfl <;> simp only [System.writes, requested]
      rw [same]
      exact served_drains served found waits served.fair (keeps_same rfl) rfl
  | some request =>
      rw [writes_request own requested]
      have logged := fair_logged k (.wrote (.request (requestId r) request.method request.params))
        served.fair
      apply served_drains served found waits (fair_sent logged placed _) _ rfl
      · intro inTime
        apply reads_logged.mpr
        have inside := served.fair.places r request requested
        rw [← placed request requested] at inside
        refine ⟨system.instances[k], List.getElem?_eq_getElem inside, ?_⟩
        by_contra other
        simp [System.process, List.getElem?_eq_getElem inside, other] at inTime
      · exact keeps_onRequest r system.pending (fun _ => ⟨rfl, rfl, rfl⟩) fun _ _ _ outcome => outcome

theorem served_write {i : Nat} (met : OnAnswers settings system (.write i))
    (stepped : system.step settings (.write i) = some after) (served : Served system) :
    Served after := by
  simp only [System.step] at stepped
  split at stepped
  · rename_i call k found current
    split at stepped
    · rename_i purpose waits free
      cases stepped
      have placed (r : Nat) (own : purpose = .handshake r ∨ purpose = .call r)
          (request : Request) (requested : system.requests[r]? = some request) :
          k = request.found := by
        have same : system.current = some request.found := by
          apply met call r request found _ requested
          rw [waits]
          rcases own with rfl | rfl
          · exact .inl rfl
          · exact .inr rfl
        rw [current] at same
        exact Option.some.inj same
      cases purpose with
      | handshake r => exact served_sent found waits (.inl rfl) (placed r (.inl rfl)) served
      | call r => exact served_sent found waits (.inr rfl) (placed r (.inr rfl)) served
      | notify =>
          exact served_drains served found waits (fair_logged k _ served.fair) (keeps_same rfl) rfl
    · cases stepped
  · cases stepped

theorem served_drained {i : Nat} (stepped : system.step settings (.drained i) = some after)
    (served : Served system) : Served after := by
  simp only [System.step] at stepped
  split at stepped
  · rename_i call found
    split at stepped
    · cases stepped
      have released : Served { system with startLock := none, writeLock := none } :=
        served_kept served (fair_same served.fair rfl rfl rfl rfl) (keeps_same rfl) rfl
      exact served_proceed released found
    · rename_i purpose _ drains
      cases stepped
      refine served_moved i (.future purpose) served (fair_same served.fair rfl rfl rfl rfl)
        (keeps_same rfl) rfl ?_
      intro other there
      rw [found] at there
      cases there
      have holds := served.holds i call found
      unfold Call.Holds at holds ⊢
      rw [drains] at holds
      cases purpose with
      | handshake r => trivial
      | notify => trivial
      | call r => exact holds
    · cases stepped
  · cases stepped

theorem served_resume {i : Nat} (stepped : system.step settings (.resume i) = some after)
    (served : Served system) : Served after := by
  simp only [System.step] at stepped
  split at stepped
  · rename_i call found
    split at stepped
    · split at stepped
      · cases stepped
        exact served_moved i (.writeLock .notify) served (fair_same served.fair rfl rfl rfl rfl)
          (keeps_same rfl) rfl fun _ _ => trivial
      · cases stepped
        exact served_fail served
      · cases stepped
        exact served_fail served
      · cases stepped
      · cases stepped
    · rename_i r waits
      split at stepped
      · rename_i value outcome
        cases stepped
        refine served_moved i (.done (.ok value)) served (fair_same served.fair rfl rfl rfl rfl)
          (keeps_same rfl) rfl ?_
        intro other there
        rw [found] at there
        cases there
        have holds := served.holds i call found
        unfold Call.Holds at holds ⊢
        rw [waits] at holds
        obtain ⟨request, requested, made⟩ := holds
        rw [requested] at outcome
        exact ⟨r, request, requested, made, outcome⟩
      · cases stepped
        exact served_fail served
      · cases stepped
      · cases stepped
    · cases stepped
  · cases stepped

theorem served_timeout {i : Nat} (stepped : system.step settings (.timeout i) = some after)
    (served : Served system) : Served after := by
  have expired (r : Nat) : Served ({ system with pending := system.pending.filter (· ≠ r) }.onRequest
      r Request.cancel) := by
    apply served_cancel served List.filter_sublist.subset
    intro s member
    by_cases same : s = r
    · exact .inr same
    · exact .inl (List.mem_filter.mpr ⟨member, by simpa using same⟩)
  simp only [System.step, System.expire] at stepped
  repeat' split at stepped
  all_goals cases stepped
  all_goals exact served_fail (expired _)

theorem served_dropped (r : Nat) (served : Served system) :
    Served (system.onRequest r Request.cancel) :=
  served_cancel served (List.Subset.refl _) fun _ member => .inl member

theorem served_startupTimeout {i : Nat} {stderr : String}
    (stepped : system.step settings (.startupTimeout i stderr) = some after)
    (served : Served system) : Served after := by
  simp only [System.step] at stepped
  repeat' split at stepped
  all_goals cases stepped
  exact served_fail (served_dropped _ served)

theorem served_raises {i : Nat} {error : RpcError}
    (stepped : system.step settings (.raises i error) = some after) (served : Served system) :
    Served after := by
  simp only [System.step] at stepped
  repeat' split at stepped
  all_goals cases stepped
  · exact served_fail (served_dropped _ served)
  · exact served_fail (served_dropped _ served)
  · exact served_fail served

theorem served_exit {k : Nat} (stepped : system.step settings (.exit k) = some after)
    (served : Served system) : Served after := by
  simp only [System.step] at stepped
  split at stepped
  · cases stepped
    exact served_kept served (fair_onInstance served.fair fun _ => rfl) (keeps_same rfl) rfl
  · cases stepped

theorem served_settle {k r : Nat} {request : Request} {message : Dict} {outcome : Outcome}
    (requested : system.requests[r]? = some request) (unsettled : request.outcome = none)
    (answers : Message.Answers message k r request)
    (result : ∀ value, outcome = .result value → message.lookup "error" = none ∧
      value = resultOf message)
    (served : Served system) :
    Served ({ system with pending := system.pending.filter (· ≠ r) }.onRequest r
      (·.settle outcome (k, some message))) := by
  apply served_kept served (fair_settle served.fair requested answers result) _ rfl
  apply keeps_onRequest r
  · intro old
    exact ⟨rfl, rfl, rfl⟩
  · intro old value there settled
    rw [requested] at there
    cases there
    rw [unsettled] at settled
    cases settled

theorem served_answer {k r : Nat} {request : Request} {message : Dict}
    (requested : system.requests[r]? = some request) (unsettled : request.outcome = none)
    (answers : Message.Answers message k r request) (result : message.lookup "error" = none)
    (served : Served system) :
    Served ({ system with pending := system.pending.filter (· ≠ r) }.answer k r request
      message) := by
  have settled : Served ({ system with pending := system.pending.filter (· ≠ r) }.onRequest r
      (·.settle (.result (resultOf message)) (k, some message))) := by
    apply served_settle requested unsettled answers _ served
    intro value same
    cases same
    exact ⟨result, rfl⟩
  unfold System.answer
  split
  · exact served_kept settled (fair_logged k .answered settled.fair) (keeps_same rfl) rfl
  · exact settled

theorem served_line {k : Nat} {line : Line} (met : OnAnswers settings system (.line k line))
    (stepped : system.step settings (.line k line) = some after) (served : Served system) :
    Served after := by
  simp only [System.step] at stepped
  split at stepped
  · cases stepped
    unfold System.readLine
    split
    · exact served
    · rename_i message
      split
      · exact served
      · exact served
      · rename_i id present found
        obtain ⟨n, read, open'⟩ := met id found present
        simp only [read]
        split
        · exact served
        · rename_i r named
          have listed := List.mem_of_find?_eq_some named
          have names : (requestId r : Int) = n := by
            simpa using List.find?_some named
          obtain ⟨request, requested, _⟩ := served.fair.pending r listed
          simp only [requested]
          split
          · rename_i settled
            apply served_kept served (fair_popped served.fair requested _) (keeps_same rfl) rfl
            intro unsettled
            rw [unsettled] at settled
            cases settled
          · rename_i unsettled
            have unsettled : request.outcome = none := by simpa using unsettled
            obtain ⟨answers, shape⟩ := open' r listed names request requested unsettled
            split
            · rename_i result
              exact served_answer requested unsettled answers result served
            · apply served_settle requested unsettled answers _ served
              intro value wrong
              cases wrong
            · rename_i error other failed
              obtain ⟨fields, same⟩ := shape error failed
              exact absurd same (other fields)
    · rename_i json other
      cases json with
      | obj message => exact absurd rfl (other message)
      | _ => exact absurd met id
  · cases stepped

theorem served_eof {k : Nat} (stepped : system.step settings (.eof k) = some after)
    (served : Served system) : Served after := by
  simp only [System.step] at stepped
  split at stepped
  · rename_i reads
    cases stepped
    have reads : system.Reads k := by
      simpa [System.Reads, Option.any_eq_true] using reads
    apply served_kept served (fair_eof served.fair reads) _ rfl
    intro r request found
    by_cases opened : r ∈ system.pending ∧ request.outcome = none
    · refine ⟨request.settle (.error "The MCP server exited.") (k, none), ?_,
        fun _ _ made => made, ?_⟩
      · simp [System.readEof, System.onInstance, found, opened.1, opened.2]
      · intro value outcome
        rw [opened.2] at outcome
        cases outcome
    · refine ⟨request, ?_, fun _ _ made => made, fun _ outcome => outcome⟩
      simp only [System.readEof, System.onInstance, List.getElem?_mapIdx, found, Option.map_some]
      rw [if_neg (by simpa using opened)]
  · cases stepped

end Steps

theorem served_step {settings : Settings} {system after : System} (label : Label)
    (met : OnAnswers settings system label) (stepped : system.step settings label = some after)
    (served : Served system) : Served after := by
  cases label with
  | arrive method params => exact served_arrive stepped served
  | enter i => exact served_enter stepped served
  | spawned i => exact served_spawned met stepped served
  | write i => exact served_write met stepped served
  | drained i => exact served_drained stepped served
  | resume i => exact served_resume stepped served
  | timeout i => exact served_timeout stepped served
  | startupTimeout i stderr => exact served_startupTimeout stepped served
  | raises i error => exact served_raises stepped served
  | exit k => exact served_exit stepped served
  | line k line => exact served_line met stepped served
  | eof k => exact served_eof stepped served

theorem served_idle : Served System.idle := by
  refine ⟨⟨?_, ?_, ?_, ?_, ?_, ?_, ?_, ?_⟩, ?_⟩
  · rintro k ⟨process, found, _⟩
    cases found
  · intro k process found
    cases found
  · intro r request found
    cases found
  · intro r request found
    cases found
  · intro k current
    cases current
  · intro r member
    cases member
  · intro r request found
    cases found
  · intro r request k found
    cases found
  · intro i call found
    cases found

/-- A call that ended with a value had its own request answered: by the subprocess it was
written to, with a message of its id. -/
def OwnAnswers (system : System) : Prop :=
  ∀ (i : Nat) (call : Call) (value : Json), system.calls[i]? = some call →
    call.phase = .done (.ok value) →
    ∃ (r : Nat) (request : Request) (k : Nat) (message : Dict),
      system.requests[r]? = some request ∧ call.Made i request ∧
      request.settledBy = some (k, some message) ∧ Message.Answers message k r request ∧
      message.lookup "error" = none ∧ value = resultOf message

/-- No reader stops before the end of the output. -/
def NoneDied (system : System) : Prop :=
  ∀ (k : Nat) (process : Instance), system.instances[k]? = some process → process.reader ≠ .died

/-- When the output of a subprocess has ended, nothing that was written to it before is
open. -/
def EndFails (system : System) : Prop :=
  ∀ (r : Nat) (request : Request) (k : Nat) (process : Instance),
    system.requests[r]? = some request → request.writtenTo = some k → request.late = false →
    system.instances[k]? = some process → process.reader = .ended → request.outcome ≠ none

/-- What the end of the output fails was made for that subprocess, and what was made for
one whose output is read is in the map as long as it is open. -/
def EndSpares (system : System) : Prop :=
  (∀ (r : Nat) (request : Request) (k : Nat), system.requests[r]? = some request →
    request.settledBy = some (k, none) → request.found = k) ∧
  ∀ (r : Nat) (request : Request), system.requests[r]? = some request → request.outcome = none →
    system.Reads request.found → r ∈ system.pending

theorem calls_get_own_answers {settings : Settings} {system : System}
    (run : History (System.step settings) (OnAnswers settings) System.idle system) :
    OwnAnswers system ∧ NoneDied system ∧ EndFails system ∧ EndSpares system := by
  have served : Served system := run.keeps Served served_idle
    fun _ label _ met stepped served => served_step label met stepped served
  obtain ⟨fair, holds⟩ := served
  refine ⟨?_, fair.lives, ?_, ?_, fair.listed⟩
  · intro i call value found phase
    have done := holds i call found
    unfold Call.Holds at done
    rw [phase] at done
    obtain ⟨r, request, requested, made, outcome⟩ := done
    obtain ⟨k, message, settled, result, same⟩ := (fair.requests r request requested).result value
      outcome
    have answers := (fair.requests r request requested).answered k message settled
    exact ⟨r, request, k, message, requested, made, settled, answers, result, same⟩
  · intro r request k process requested written late found ended unsettled
    obtain ⟨other, there, reads⟩ := fair.awaited r request k requested unsettled written late
    rw [System.process, found] at there
    cases there
    rw [ended] at reads
    cases reads
  · intro r request k requested settled
    exact ((fair.requests r request requested).ended k settled).symm

/-- `Message.Answers` and no error, computed. -/
def mayAnswer (message : Dict) (value : Rat) (k r : Nat) (request : Request) : Bool :=
  request.outcome.isSome || (request.writtenTo = some k && value = requestId r &&
    (message.lookup "method").isNone && (message.lookup "error").isNone)

/-- `OnAnswers`, computed for ids that are numbers. -/
def onAnswers (system : System) : Label → Bool
  | .line k line => match line with
      | .unreadable => true
      | .value (.obj message) => match message.lookup "id" with
          | none => true
          | some (.num value) => system.pending.all fun r =>
              (system.requests[r]?).all fun request => mayAnswer message value k r request
          | some _ => false
      | .value _ => false
  | .spawned _ => system.instances.all fun process => process.reader ≠ .reading
  | .write i => (system.calls[i]?).all fun call =>
      match call.phase with
      | .writeLock (.handshake r) | .writeLock (.call r) => (system.requests[r]?).all fun request =>
          system.current = some request.found
      | _ => true
  | _ => true

theorem onAnswers_sound {settings : Settings} (system : System) (label : Label)
    (meets : onAnswers system label = true) : OnAnswers settings system label := by
  cases label with
  | line k line =>
      cases line with
      | unreadable => trivial
      | value json =>
          cases json with
          | obj message =>
              intro id found present
              simp only [onAnswers, found] at meets
              cases id with
              | num value =>
                  refine ⟨_, rfl, ?_⟩
                  intro r listed _ request requested unsettled
                  have checked := List.all_eq_true.mp meets r listed
                  simp only [requested, Option.all_some, mayAnswer, unsettled, Option.isSome_none,
                    Bool.false_or, Bool.and_eq_true, decide_eq_true_eq,
                    Option.isNone_iff_eq_none] at checked
                  obtain ⟨⟨⟨placed, same⟩, method⟩, result⟩ := checked
                  refine ⟨⟨placed, by rw [found, same], method⟩, ?_⟩
                  intro error failed
                  rw [result] at failed
                  cases failed
              | null => exact absurd rfl present
              | _ => cases meets
          | _ => cases meets
  | spawned i =>
      rintro k ⟨process, found, reads⟩
      have checked := List.all_eq_true.mp meets process (List.mem_of_getElem? found)
      simp [reads] at checked
  | write i =>
      intro call r request found waits requested
      rcases waits with waits | waits
      · simpa [onAnswers, found, waits, requested] using meets
      · simpa [onAnswers, found, waits, requested] using meets
  | _ => trivial

def toolList : Dict := [("tools", .arr [])]

def answered : List Label :=
  listing ++ [.drained 0, .line 0 (.value (.obj [("id", .num 2), ("result", .obj toolList)])),
    .resume 0, .eof 0]

theorem listing_gets_own_answer : ∃ system,
    system.calls = [⟨"tools/list", [], .done (.ok (.obj toolList))⟩] ∧
    (OwnAnswers system ∧ NoneDied system ∧ EndFails system ∧ EndSpares system) := by
  have run := @history_replay _ _ (System.step mcpServer) onAnswers (OnAnswers mcpServer)
    onAnswers_sound System.idle _ answered rfl
  exact ⟨_, rfl, calls_get_own_answers run⟩

def pinged : List Label :=
  listing ++ [.line 0 (.value (.obj [("id", .str "ping-1"), ("method", .str "ping")]))]

/-- The subprocess exits, another one is started, and the output of the first one ends. -/
def restarted : List Label :=
  listing ++ [.drained 0, .exit 0, .arrive "tools/list" [], .enter 1, .spawned 1, .eof 0]

/-- The string id stops the reader, and the end of the old output fails the handshake
with the new subprocess. -/
theorem lines_and_restarts_break_calls :
    (∃ system, History (System.step mcpServer) (fun _ _ => True) System.idle system ∧
      ¬NoneDied system) ∧
    ∃ system, History (System.step mcpServer) (fun _ _ => True) System.idle system ∧
      ¬EndSpares system := by
  constructor
  · have readers : (replay (System.step mcpServer) (fun _ _ => true) System.idle pinged).bind
        (fun system => (system.instances[0]?).map Instance.reader) = some .died := by
      decide +kernel
    obtain ⟨system, replayed, reader⟩ := Option.bind_eq_some_iff.mp readers
    obtain ⟨process, found, died⟩ := Option.map_eq_some_iff.mp reader
    have run := @history_replay _ _ (System.step mcpServer) (fun _ _ => true) (fun _ _ => True)
      (fun _ _ _ => trivial) System.idle _ pinged replayed
    refine ⟨system, run, ?_⟩
    intro lives
    exact lives 0 process found died
  · have run := @history_replay _ _ (System.step mcpServer) (fun _ _ => true) (fun _ _ => True)
      (fun _ _ _ => trivial) System.idle _ restarted rfl
    refine ⟨_, run, ?_⟩
    intro spares
    exact absurd (spares.1 2 _ 0 rfl rfl) (by decide)

end AiPlatform.Bridge
