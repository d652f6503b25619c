import AiPlatform.EnrollmentSteps

/-!
The discipline of the requests on enrolments: which statements a request uses at
which point, and which writes it ends with. An enrolment ends with the claim, the
node and nothing else; what `_fail` has counted never ends well.
-/

namespace AiPlatform.Enrollments

def Op.reads : Op → Bool
  | .byId _ | .pendingForName _ | .listFiltered _ | .nodeById _ | .nodeNamed _ | .resolveUrl _
  | .readAgain _ | .mint | .syncNode _ | .write _ => true
  | .byTokenHash _ | .probe _ _ _ | .record _ _ _ | .claim _ _ | .expireStale | .purgeSettled
  | .newNode | .raise _ => false

def Shared.lockedBy (shared : Shared) (i : Nat) (ids : List Nat) : Shared :=
  { shared with locks := shared.locks.acquire i ids }

inductive Effect (settings : Settings) (i : Nat) (session : Session) (shared : Shared) :
    (op : Op) → Reply op → Shared → Prop
  | read (op : Op) (reply : Reply op) (reads : op.reads = true) :
      Effect settings i session shared op reply shared
  | resolved (tokenHash : String) (now : Int) :
      Effect settings i session shared (.byTokenHash tokenHash)
        ((shared.seen session).find? fun row => row.tokenHash = tokenHash, now)
        (shared.attempting settings i session
          ((shared.seen session).find? fun row => row.tokenHash = tokenHash, now))
  | probed (agentUrl agentToken : String) (verifyTls : Bool) (result : Except CallFailure Health) :
      Effect settings i session shared (.probe agentUrl agentToken verifyTls) result
        { shared with
          probes := shared.probes ++ (session.attempt.toList.map fun row => (i, row.id)) }
  | gone (loaded : NodeEnrollment) (error : String) (url : Option String) :
      Effect settings i session shared (.record loaded error url) false shared
  | recorded (loaded : NodeEnrollment) (error : String) (url : Option String)
      (free : shared.locks.free i loaded.id = true) :
      Effect settings i session shared (.record loaded error url) true
        { shared with
          enrollments := Rows.amend NodeEnrollment.id loaded.id
            (settings.recorded loaded error url) shared.enrollments
          underway := shared.underway.erase (i, loaded.id)
          failed := shared.failed ++ [(i, loaded.id)] }
  | claimed (tokenHash : String) (sourceIp : Option String) (ids : List Nat)
      (found : ∀ id ∈ ids, ∃ row ∈ shared.seen session, row.id = id ∧
        row.tokenHash = tokenHash ∧ row.status = .pending)
      (free : ∀ id ∈ ids, shared.locks.free i id = true) :
      Effect settings i session shared (.claim tokenHash sourceIp) ids (shared.lockedBy i ids)
  | expired (ids : List Nat)
      (found : ∀ id ∈ ids, ∃ row ∈ shared.seen session, row.id = id ∧ row.status = .pending)
      (free : ∀ id ∈ ids, shared.locks.free i id = true) :
      Effect settings i session shared .expireStale ids (shared.lockedBy i ids)
  | purged (ids : List Nat) (free : ∀ id ∈ ids, shared.locks.free i id = true) :
      Effect settings i session shared .purgeSettled ids (shared.lockedBy i ids)
  | newNode :
      Effect settings i session shared .newNode shared.nextId
        { shared with nextId := shared.nextId + 1 }

section Effects

variable {settings : Settings} {i : Nat} {session : Session} {shared next : Shared} {op : Op}
  {answer : Answer} {reply : Reply op}

theorem locking_some {ids found : List Nat} (locked : shared.locking i ids = some (found, next)) :
    found = ids ∧ next = shared.lockedBy i ids ∧ ∀ id ∈ ids, shared.locks.free i id = true := by
  unfold Shared.locking at locked
  split at locked
  · rename_i free
    cases locked
    exact ⟨rfl, rfl, fun id member => List.all_eq_true.mp free id member⟩
  · cases locked

theorem mem_matching {wanted : NodeEnrollment → Bool} {id : Nat}
    (member : id ∈ shared.matching session wanted) :
    ∃ row ∈ shared.seen session, row.id = id ∧ wanted row = true := by
  obtain ⟨row, listed, rfl⟩ := List.mem_map.mp member
  obtain ⟨seen, holds⟩ := List.mem_filter.mp listed
  exact ⟨row, seen, rfl, holds⟩

theorem effect (reacts : shared.react settings i session op answer = some (reply, next)) :
    Effect settings i session shared op reply next := by
  cases op with
  | byTokenHash tokenHash =>
      cases answer with
      | time now =>
          cases reacts
          exact .resolved tokenHash now
      | nothing | resolved | health | purged | minted => cases reacts
  | byId | pendingForName | listFiltered | nodeById | nodeNamed | readAgain | syncNode | write =>
      cases reacts
      exact .read _ _ rfl
  | resolveUrl candidate =>
      cases answer with
      | resolved result =>
          cases reacts
          exact .read _ _ rfl
      | nothing | time | health | purged | minted => cases reacts
  | mint =>
      cases answer with
      | minted drawn =>
          cases reacts
          exact .read _ _ rfl
      | nothing | time | resolved | health | purged => cases reacts
  | probe agentUrl agentToken verifyTls =>
      cases answer with
      | health result =>
          cases reacts
          exact .probed agentUrl agentToken verifyTls _
      | nothing | time | resolved | purged | minted => cases reacts
  | record loaded error url =>
      simp only [Shared.react, Shared.record] at reacts
      split at reacts
      · cases reacts
        exact .gone loaded error url
      · split at reacts
        · rename_i free
          cases reacts
          exact .recorded loaded error url free
        · cases reacts
  | claim tokenHash sourceIp =>
      cases answer with
      | time now =>
          obtain ⟨rfl, rfl, free⟩ := locking_some reacts
          refine .claimed tokenHash sourceIp _ (fun id member => ?_) free
          obtain ⟨row, seen, same, wanted⟩ := mem_matching member
          simp only [Bool.and_eq_true, decide_eq_true_eq] at wanted
          exact ⟨row, seen, same, wanted.1.1, wanted.1.2⟩
      | nothing | resolved | health | purged | minted => cases reacts
  | expireStale =>
      cases answer with
      | time now =>
          obtain ⟨rfl, rfl, free⟩ := locking_some reacts
          refine .expired _ (fun id member => ?_) free
          obtain ⟨row, seen, same, wanted⟩ := mem_matching member
          simp only [Bool.and_eq_true, decide_eq_true_eq] at wanted
          exact ⟨row, seen, same, wanted.1⟩
      | nothing | resolved | health | purged | minted => cases reacts
  | purgeSettled =>
      cases answer with
      | purged ids =>
          obtain ⟨rfl, rfl, free⟩ := locking_some reacts
          exact .purged _ free
      | nothing | time | resolved | health | minted => cases reacts
  | newNode =>
      cases reacts
      exact .newNode
  | raise failure => cases reply

end Effects

def Write.maintains : Write → Bool
  | .issue draft => draft.status = .pending && draft.attempts = 0
  | .expire _ | .purge _ => true
  | .claim _ _ | .revoke _ _ | .describe _ _ _ | .accept _ _ _ | .link _ _ => false

def Enrols (attempt : NodeEnrollment) (writes : List Write) : Prop :=
  ∃ id sourceIp url resolvedIp existing node nodeId,
    writes = [.claim id sourceIp, .describe attempt url resolvedIp,
      .accept attempt.id existing node, .link attempt nodeId]

namespace Session

/-- The request is about to enrol a host with the invitation, and has not failed. -/
structure Attempting (session : Session) (row : NodeEnrollment) : Prop where
  enrolls : session.request.enrolls = true
  attempt : session.attempt = some row
  recorded : session.recorded = false
  clean : session.writes = []

inductive Ends (session : Session) : Prop
  | enrols (row : NodeEnrollment) (request : session.request.enrolls = true)
      (attempt : session.attempt = some row) (writes : Enrols row session.writes)
  | revokes (request : session.request.enrolls = false)
      (writes : ∀ write ∈ session.writes, ∃ loaded actor, write = .revoke loaded actor)
  | maintains (request : session.request.enrolls = false)
      (writes : ∀ write ∈ session.writes, write.maintains = true)

def Complete (session : Session) : Prop := session.recorded = false ∧ session.Ends

def Permits (session : Session) : Op → Prop
  | .byTokenHash _ => session.attempt = none ∧ session.recorded = false
  | .probe _ _ _ => session.probed = false ∧ ∃ row, session.Attempting row
  | .record loaded _ _ => ∃ row, session.Attempting row ∧ row.id = loaded.id
  | .claim tokenHash _ => ∃ row, session.Attempting row ∧ row.tokenHash = tokenHash
  | .write write => write.taken = none
  | .byId _ | .pendingForName _ | .listFiltered _ | .nodeById _ | .nodeNamed _ | .resolveUrl _
  | .readAgain _ | .expireStale | .purgeSettled | .mint | .newNode | .syncNode _ | .raise _ => True

end Session

def Replied : (op : Op) → Reply op → Prop
  | .readAgain id, row => ∀ found, row = some found → found.id = id
  | _, _ => True

theorem replied {settings : Settings} {i : Nat} {session : Session} {shared next : Shared} {op : Op}
    {answer : Answer} {reply : Reply op}
    (reacts : shared.react settings i session op answer = some (reply, next)) :
    Replied op reply := by
  cases op with
  | readAgain id =>
      cases reacts
      exact fun found same => (Rows.get_some same).2
  | _ => trivial

def enrollmentProtocol (settings : Settings) : Protocol enrollmentSignature Session :=
  ⟨Session.Permits, fun _ => Replied, Session.after settings⟩

section Programs

variable {settings : Settings} {session : Session} {row : NodeEnrollment}

theorem follows_raise {α : Type} (failure : Refusal) (session : Session)
    (post : α → Session → Prop) :
    (enrollmentProtocol settings).Follows (raise failure) session post :=
  ⟨trivial, fun reply => nomatch reply⟩

theorem follows_statement {α : Type} {op : Op} {rest : Reply op → EnrollmentProgram α}
    {post : α → Session → Prop} (permitted : session.Permits op)
    (next : ∀ reply, Replied op reply →
      (enrollmentProtocol settings).Follows (rest reply) (session.after settings op reply) post) :
    (enrollmentProtocol settings).Follows (perform op >>= rest) session post :=
  ⟨permitted, next⟩

theorem follows_read {op : Op} (permitted : session.Permits op)
    (same : ∀ reply, session.after settings op reply = session) :
    (enrollmentProtocol settings).Follows (perform op) session fun reply after =>
      after = session ∧ Replied op reply :=
  ⟨permitted, fun reply trusted => ⟨same reply, trusted⟩⟩

theorem follows_fail (attempting : session.Attempting row) (error : String)
    (url : Option String) :
    (enrollmentProtocol settings).Follows (fail row error url) session fun _ _ => True := by
  refine follows_statement trivial fun found same => ?_
  cases found with
  | none => trivial
  | some again =>
      refine follows_statement ⟨row, attempting, (same again rfl).symm⟩ fun reply _ => ?_
      cases reply with
      | true => trivial
      | false => exact follows_raise _ _ _

theorem follows_failing {α : Type} (attempting : session.Attempting row) (error : String)
    (url : Option String) (refusal : Refusal) (post : α → Session → Prop) :
    (enrollmentProtocol settings).Follows (failing row error url refusal) session post :=
  Protocol.follows_bind _ (follows_fail attempting error url) fun _ _ _ => follows_raise ..

theorem follows_candidateUrl (request : EnrollRequest) :
    (enrollmentProtocol settings).Follows (candidateUrl settings request) session
      fun _ after => after = session := by
  unfold candidateUrl
  cases request.advertisedUrl.filter Agents.truthy with
  | some url => exact rfl
  | none =>
      simp only [fromSource]
      split
      · exact follows_raise _ _ _
      · rfl

theorem follows_validated (attempting : session.Attempting row) (request : EnrollRequest)
    (candidate : String) :
    (enrollmentProtocol settings).Follows (validated settings row request candidate) session
      fun _ after => after = session := by
  refine Protocol.follows_bind _ (follows_read trivial fun _ => rfl) ?_
  rintro result after ⟨rfl, _⟩
  cases result with
  | error failure =>
      cases failure with
      | refused message => exact follows_failing attempting _ _ _ _
      | raised message => exact follows_raise _ _ _
  | ok target =>
      simp only
      split
      · exact follows_failing attempting _ _ _ _
      · rfl

theorem follows_probeAgent (attempting : session.Attempting row) (unprobed : session.probed = false)
    (target : Target) (agentToken : String) :
    (enrollmentProtocol settings).Follows (probeAgent row target agentToken) session
      fun _ after => after = { session with probed := true } := by
  refine ⟨⟨unprobed, row, attempting⟩, fun result _ => ?_⟩
  have still : { session with probed := true }.Attempting row :=
    ⟨attempting.enrolls, attempting.attempt, attempting.recorded, attempting.clean⟩
  cases result with
  | error failure =>
      cases failure with
      | refused message => exact follows_failing still _ _ _ _
      | raised message => exact follows_raise _ _ _
  | ok health => rfl

theorem follows_checkNames (attempting : session.Attempting row) (target : Target)
    (reportedName : Option String) (health : Health) :
    (enrollmentProtocol settings).Follows (checkNames settings row target reportedName health)
      session fun _ after => after = session := by
  unfold checkNames
  simp only
  split
  · exact follows_failing attempting _ _ _ _
  · split
    · exact follows_failing attempting _ _ _ _
    · rfl

theorem follows_existingNode (attempting : session.Attempting row) (target : Target) :
    (enrollmentProtocol settings).Follows (existingNode row target) session
      fun _ after => after = session := by
  have named : (enrollmentProtocol settings).Follows (nodeIfFree row target) session
      fun _ after => after = session := by
    refine Protocol.follows_bind _ (follows_read trivial fun _ => rfl) ?_
    rintro found after ⟨rfl, _⟩
    cases found with
    | none => rfl
    | some other => exact follows_failing attempting _ _ _ _
  unfold existingNode
  cases row.nodeId with
  | none => exact named
  | some id =>
      refine Protocol.follows_bind _ (follows_read trivial fun _ => rfl) ?_
      rintro found after ⟨rfl, _⟩
      cases found with
      | none => exact named
      | some node => rfl

theorem follows_acceptNode (target : Target) (agentToken : String) (health : Health)
    (existing : Option Node) :
    (enrollmentProtocol settings).Follows
      (acceptNode settings row target agentToken health existing) session fun _ after =>
        ∃ node, after = session.writing [.accept row.id existing node] := by
  unfold acceptNode
  have accepts (id : Nat) :
      (enrollmentProtocol settings).Follows (do
        write (.accept row.id existing
          (acceptedNode settings row target agentToken health existing id))
        perform (.syncNode id)
        return id) session fun _ after =>
          ∃ node, after = session.writing [.accept row.id existing node] :=
    ⟨rfl, fun _ _ => ⟨trivial, fun _ _ => ⟨_, rfl⟩⟩⟩
  cases existing with
  | some node => exact accepts node.id
  | none => exact ⟨trivial, fun id _ => accepts id⟩

theorem follows_claimAndCreate (attempting : session.Attempting row)
    (request : EnrollRequest) (target : Target) (health : Health) (existing : Option Node) :
    (enrollmentProtocol settings).Follows
      (claimAndCreate settings row request target health existing) session fun _ after =>
        after.request = session.request ∧ after.recorded = false ∧ after.attempt = some row ∧
          Enrols row after.writes := by
  refine follows_statement ⟨row, attempting, rfl⟩ fun claimed _ => ?_
  split
  · rename_i single
    obtain ⟨id, rfl⟩ := List.length_eq_one_iff.mp single
    refine follows_statement rfl fun _ _ => ?_
    refine Protocol.follows_bind _ (follows_acceptNode target request.agentToken health existing) ?_
    rintro nodeId after ⟨node, rfl⟩
    refine ⟨rfl, fun _ _ => ⟨rfl, attempting.recorded, attempting.attempt, ?_⟩⟩
    simp only [enrollmentProtocol, Session.after, Session.writing, attempting.clean]
    exact ⟨id, request.sourceIp, target.url, _, existing, node, nodeId, rfl⟩
  · exact follows_raise _ _ _

theorem follows_consume (attempting : session.Attempting row) (unprobed : session.probed = false)
    (request : EnrollRequest) :
    (enrollmentProtocol settings).Follows (consume settings row request) session fun _ after =>
      after.request = session.request ∧ after.recorded = false ∧ after.attempt = some row ∧
        Enrols row after.writes := by
  unfold consume
  split
  · exact follows_raise _ _ _
  · have still : { session with probed := true }.Attempting row :=
      ⟨attempting.enrolls, attempting.attempt, attempting.recorded, attempting.clean⟩
    refine Protocol.follows_bind _ (follows_candidateUrl request) fun candidate after same => ?_
    rw [same]
    refine Protocol.follows_bind _ (follows_validated attempting request candidate)
      fun target after same => ?_
    rw [same]
    refine Protocol.follows_bind _ (follows_probeAgent attempting unprobed target _)
      fun health after same => ?_
    rw [same]
    refine Protocol.follows_bind _ (follows_checkNames still target request.nodeName health)
      fun _ after same => ?_
    rw [same]
    refine Protocol.follows_bind _ (follows_existingNode still target) fun existing after same => ?_
    rw [same]
    exact follows_claimAndCreate still request target health existing

theorem follows_resolveToken (unresolved : session.attempt = none)
    (unrecorded : session.recorded = false) (presented : String) :
    (enrollmentProtocol settings).Follows (resolveToken settings presented) session
      fun row after => after = { session with attempt := some row } := by
  unfold resolveToken
  split
  · exact follows_raise _ _ _
  · refine follows_statement ⟨unresolved, unrecorded⟩ fun reply _ => ?_
    obtain ⟨found, now⟩ := reply
    cases found with
    | none => exact follows_raise _ _ _
    | some row =>
        simp only
        split
        · exact follows_raise _ _ _
        · rename_i live
          simp [Session.after, Session.resolved, live]

theorem follows_get (enrollmentId : Nat) :
    (enrollmentProtocol settings).Follows (get enrollmentId) session
      fun _ after => after = session := by
  refine Protocol.follows_bind _ (follows_read trivial fun _ => rfl) ?_
  rintro found after ⟨rfl, _⟩
  cases found with
  | none => exact follows_raise _ _ _
  | some row => rfl

structure Maintaining (session after : Session) : Prop where
  request : after.request = session.request
  recorded : after.recorded = false
  writes : ∀ write ∈ after.writes, write.maintains = true

theorem Maintaining.writing {after : Session} {writes : List Write}
    (maintaining : Maintaining session after)
    (maintains : ∀ write ∈ writes, write.maintains = true) :
    Maintaining session (after.writing writes) where
  request := maintaining.request
  recorded := maintaining.recorded
  writes := by
    intro write member
    rcases List.mem_append.mp member with old | new
    · exact maintaining.writes write old
    · exact maintains write new

theorem Maintaining.expired (settings : Settings) {after : Session} (maintaining : Maintaining session after)
    (ids : Reply .expireStale) : Maintaining session (after.after settings .expireStale ids) := by
  refine maintaining.writing fun write member => ?_
  obtain ⟨id, _, rfl⟩ := List.mem_map.mp member
  rfl

theorem Maintaining.purged (settings : Settings) {after : Session} (maintaining : Maintaining session after)
    (ids : Reply .purgeSettled) : Maintaining session (after.after settings .purgeSettled ids) := by
  refine maintaining.writing fun write member => ?_
  obtain ⟨id, _, rfl⟩ := List.mem_map.mp member
  rfl

theorem maintaining_self (clean : session.writes = []) (unrecorded : session.recorded = false) :
    Maintaining session session where
  request := rfl
  recorded := unrecorded
  writes := by
    rw [clean]
    exact fun write member => nomatch member

theorem follows_create (request : CreateRequest) (actor : Nat)
    (maintaining : Maintaining session session) :
    (enrollmentProtocol settings).Follows (create settings request actor) session
      fun _ after => Maintaining session after := by
  refine follows_statement trivial fun ids _ => ?_
  refine follows_statement trivial fun existing _ => ?_
  simp only
  split
  · exact follows_raise _ _ _
  · refine follows_statement trivial fun pending _ => ?_
    split
    · exact follows_raise _ _ _
    · refine follows_statement trivial fun minted _ => ⟨rfl, fun _ _ => ?_⟩
      apply (maintaining.expired settings ids).writing
      intro write member
      rw [List.mem_singleton.mp member]
      rfl

theorem follows_sweep (maintaining : Maintaining session session) :
    (enrollmentProtocol settings).Follows sweep session
      fun _ after => Maintaining session after := by
  refine follows_statement trivial fun expired _ => ?_
  refine follows_statement trivial fun purged _ => ?_
  exact (maintaining.expired settings expired).purged settings purged

theorem follows_list (status : Option EnrollmentStatus)
    (maintaining : Maintaining session session) :
    (enrollmentProtocol settings).Follows (list status) session
      fun _ after => Maintaining session after :=
  follows_statement trivial fun expired _ => ⟨trivial, fun _ _ => maintaining.expired settings expired⟩

theorem follows_revoke (enrollmentId actor : Nat) (clean : session.writes = [])
    (unrecorded : session.recorded = false) :
    (enrollmentProtocol settings).Follows (revoke enrollmentId actor) session fun _ after =>
      after.recorded = false ∧ after.request = session.request ∧
        ∀ write ∈ after.writes, ∃ loaded actor, write = .revoke loaded actor := by
  refine Protocol.follows_bind _ (follows_get enrollmentId) ?_
  rintro row after rfl
  simp only
  split
  · exact follows_raise _ _ _
  · split
    · refine ⟨rfl, fun _ _ => ⟨unrecorded, rfl, fun write member => ?_⟩⟩
      simp only [enrollmentProtocol, Session.after, Session.writing, clean, List.nil_append,
        List.mem_singleton] at member
      exact ⟨row, actor, member⟩
    · refine ⟨unrecorded, rfl, fun write member => ?_⟩
      rw [clean] at member
      cases member

end Programs

theorem Maintaining.complete {session after : Session} (maintaining : Maintaining session after)
    (request : session.request.enrolls = false) : after.Complete :=
  ⟨maintaining.recorded, .maintains (by rw [maintaining.request, request]) maintaining.writes⟩

theorem requests_follow (settings : Settings) (request : Request) :
    (enrollmentProtocol settings).Follows (run settings request) (Session.opened request)
      fun _ after => after.Complete := by
  cases request with
  | enroll request =>
      refine Protocol.follows_bind _ (follows_resolveToken rfl rfl request.token) ?_
      rintro row after rfl
      refine Protocol.follows_mono _ (follows_consume ⟨rfl, rfl, rfl, rfl⟩ rfl request) ?_
      rintro _ after ⟨same, unrecorded, attempt, enrols⟩
      exact ⟨unrecorded, .enrols row (by rw [same]; rfl) attempt enrols⟩
  | bundle token =>
      refine Protocol.follows_bind _ (follows_resolveToken rfl rfl token) ?_
      rintro row after rfl
      exact ⟨rfl, .maintains rfl fun write member => nomatch member⟩
  | create request actor =>
      refine Protocol.follows_mono _ (follows_create request actor (maintaining_self rfl rfl)) ?_
      exact fun _ after maintaining => maintaining.complete rfl
  | list status =>
      refine Protocol.follows_bind _ (follows_list status (maintaining_self rfl rfl)) ?_
      exact fun _ after maintaining => maintaining.complete rfl
  | get enrollmentId =>
      refine Protocol.follows_bind _ (follows_get enrollmentId) ?_
      rintro row after rfl
      exact ⟨rfl, .maintains rfl fun write member => nomatch member⟩
  | revoke enrollmentId actor =>
      refine Protocol.follows_mono _ (follows_revoke enrollmentId actor rfl rfl) ?_
      rintro _ after ⟨unrecorded, same, revokes⟩
      exact ⟨unrecorded, .revokes (by rw [same]; rfl) revokes⟩
  | sweep =>
      refine Protocol.follows_mono _ (follows_sweep (maintaining_self rfl rfl)) ?_
      exact fun _ after maintaining => maintaining.complete rfl

def enrollmentDiscipline (settings : Settings) : Discipline (enrollmentMachine settings) where
  allowed := Session.Permits
  trusted := fun _ => Replied
  settled := Session.Complete
  finished := fun _ => True
  react_trusted := fun _ _ _ _ _ _ _ reacts => replied reacts
  awaits_settled := fun _ _ _ awaits => nomatch awaits
  program_follows := fun request =>
    Protocol.follows_mono _ (requests_follow settings request) fun _ _ complete => ⟨complete, trivial⟩

end AiPlatform.Enrollments
