import AiPlatform.AgentModel
import AiPlatform.Errors
import AiPlatform.Processes

/-!
Node enrolment: the rows of `node_enrollments` and `nodes`, and what each
statement of a request does to them. A request writes at its commit, where the
constraints are checked and an inserted invitation gets its id, as no other
transaction sees it before; an `UPDATE` or a `DELETE` of several rows locks them
until then. `_fail` reads, writes and commits on a session of its own. What the
clock says at a statement, what a resolver or an agent answers, and what a token
generator draws, comes with the answer to the operation.
-/

namespace AiPlatform.Enrollments

inductive EnrollmentStatus
  | pending | consumed | expired | revoked
  deriving DecidableEq

/-- `status.lower()` -/
def EnrollmentStatus.lower : EnrollmentStatus → String
  | .pending => "pending"
  | .consumed => "consumed"
  | .expired => "expired"
  | .revoked => "revoked"

structure NodeEnrollment where
  id : Nat
  nodeName : String
  description : Option String
  labels : List (String × String)
  verifyTls : Bool
  /-- The node that a re-enrolment rotates, or the one that the enrolment produced. -/
  nodeId : Option Nat
  tokenPrefix : String
  tokenHash : String
  status : EnrollmentStatus
  expiresAt : Int
  consumedFromIp : Option String
  advertisedUrl : Option String
  resolvedIp : Option String
  attempts : Nat
  lastError : Option String
  createdBy : Nat
  revokedBy : Option Nat
  deriving DecidableEq

structure Node where
  id : Nat
  name : String
  description : Option String
  agentUrl : String
  agentTokenEncrypted : String
  agentVerifyTls : Bool
  agentVersion : Option String
  status : String
  statusDetail : Option String
  role : String
  gpuProbe : Option String
  labels : List (String × String)
  deriving DecidableEq

/-- `EnrollmentSettings`, with the hash of tokens and the cipher of agent tokens. -/
structure Settings where
  hash : String → String
  encrypt : String → String
  tokenTtlSeconds : Int
  maxAttemptsPerToken : Nat
  defaultAgentPort : Nat
  requireSourceIpMatch : Bool
  allowNodeNameMismatch : Bool
  enrollDisabled : Bool

/-- Why `resolve_token` turns a row away, if it does. -/
def Settings.denies (settings : Settings) (row : NodeEnrollment) (now : Int) : Option String :=
  if row.status = .consumed then some "token already used"
  else if row.status ≠ .pending ∨ row.expiresAt ≤ now then some ("token " ++ row.status.lower)
  else if settings.maxAttemptsPerToken ≤ row.attempts then some "too many attempts"
  else none

/-- The row as `_fail` leaves the instance it read. -/
def Settings.failed (settings : Settings) (row : NodeEnrollment) (error : String)
    (url : Option String) : NodeEnrollment :=
  let attempts := row.attempts + 1
  let counted := { row with
    attempts := attempts
    lastError := some (Agents.clip error 500)
    advertisedUrl := url }
  if settings.maxAttemptsPerToken ≤ attempts then
    { counted with
      status := .revoked
      lastError := some (Agents.clip error 400 ++ s!" (revoked after {attempts} attempts)") }
  else counted

/-- What `validate_agent_url` returns; the port is part of the URL. -/
structure Target where
  url : String
  host : String
  addresses : List String

/-- `AgentUrlError` or `NodeAgentError`, or anything else that is raised. -/
inductive CallFailure
  | refused (message : String)
  | raised (message : String)

/-- The part of an agent's answer that enrolment reads. -/
structure Health where
  nodeName : Option String
  gpuCount : Int
  agentVersion : Option String
  gpuProbe : Option String

structure Minted where
  token : String
  tokenPrefix : String
  now : Int

inductive Write
  | issue (draft : NodeEnrollment)
  | claim (id : Nat) (sourceIp : Option String)
  | expire (id : Nat)
  | purge (id : Nat)
  | revoke (loaded : NodeEnrollment) (actor : Nat)
  | describe (loaded : NodeEnrollment) (url : String) (resolvedIp : Option String)
  -- The node that `accept_node` creates, or updates where there is one.
  | accept (enrollmentId : Nat) (existing : Option Node) (node : Node)
  | link (loaded : NodeEnrollment) (nodeId : Nat)

inductive Op
  | byTokenHash (tokenHash : String)
  | byId (id : Nat)
  | pendingForName (nodeName : String)
  | listFiltered (status : Option EnrollmentStatus)
  | nodeById (id : Nat)
  | nodeNamed (name : String)
  | resolveUrl (candidate : String)
  | probe (agentUrl agentToken : String) (verifyTls : Bool)
  -- The session of `_fail`: its read, then its flush and commit.
  | readAgain (id : Nat)
  | record (loaded : NodeEnrollment) (error : String) (url : Option String)
  | claim (tokenHash : String) (sourceIp : Option String)
  | expireStale
  | purgeSettled
  | mint
  | newNode
  | syncNode (nodeId : Nat)
  | write (write : Write)
  | raise (failure : Refusal)

def Reply : Op → Type
  -- With the time at which the row is judged.
  | .byTokenHash _ => Option NodeEnrollment × Int
  | .byId _ | .pendingForName _ | .readAgain _ => Option NodeEnrollment
  | .listFiltered _ => List NodeEnrollment
  | .nodeById _ | .nodeNamed _ => Option Node
  | .resolveUrl _ => Except CallFailure Target
  | .probe _ _ _ => Except CallFailure Health
  -- Whether the row was still there.
  | .record _ _ _ => Bool
  -- The rows that the statement matched.
  | .claim _ _ | .expireStale | .purgeSettled => List Nat
  | .mint => Minted
  | .newNode => Nat
  | .syncNode _ | .write _ => Unit
  | .raise _ => Empty

abbrev enrollmentSignature : Signature := ⟨Op, Reply⟩

abbrev EnrollmentProgram := Program enrollmentSignature

/-- What `NodeEnrollRequest` and its headers carry. -/
structure EnrollRequest where
  token : String
  agentToken : String
  advertisedUrl : Option String
  nodeName : Option String
  sourceIp : Option String

structure CreateRequest where
  name : String
  description : Option String
  labels : List (String × String)
  verifyTls : Bool
  ttlSeconds : Option Int
  reenroll : Bool

inductive Request
  | enroll (request : EnrollRequest)
  | bundle (token : String)
  | create (request : CreateRequest) (actor : Nat)
  | list (status : Option EnrollmentStatus)
  | get (id : Nat)
  | revoke (id actor : Nat)
  | sweep

def Request.enrolls : Request → Bool
  | .enroll _ => true
  | _ => false

structure Session where
  request : Request
  /-- The invitation that `resolve_token` found live. -/
  attempt : Option NodeEnrollment
  probed : Bool
  /-- `_fail` has counted the attempt. -/
  recorded : Bool
  writes : List Write

namespace Session

def opened (request : Request) : Session := ⟨request, none, false, false, []⟩

def resolved (settings : Settings) (session : Session) :
    Option NodeEnrollment × Int → Session
  | (some row, now) =>
      if settings.denies row now = none then { session with attempt := some row } else session
  | (none, _) => session

def writing (session : Session) (writes : List Write) : Session :=
  { session with writes := session.writes ++ writes }

def after (settings : Settings) (session : Session) : (op : Op) → Reply op → Session
  | .byTokenHash _, reply => session.resolved settings reply
  | .probe _ _ _, _ => { session with probed := true }
  | .record _ _ _, true => { session with recorded := true }
  | .claim _ sourceIp, ids => session.writing (List.map (fun id => .claim id sourceIp) ids)
  | .expireStale, ids => session.writing (List.map .expire ids)
  | .purgeSettled, ids => session.writing (List.map .purge ids)
  | .write write, _ => session.writing [write]
  | .byId _, _ | .pendingForName _, _ | .listFiltered _, _ | .nodeById _, _ | .nodeNamed _, _
  | .resolveUrl _, _ | .readAgain _, _ | .record _ _ _, false | .mint, _ | .newNode, _
  | .syncNode _, _ | .raise _, _ => session

end Session

/-- The audit record of `accept_node`: the node, the invitation it was made for
and the request that made it. -/
structure Acceptance where
  enrollmentId : Nat
  nodeId : Nat
  process : Nat
  deriving DecidableEq

/-- Besides the rows: the hashes of the tokens issued so far, the row locks, and
the attempts, each as the request and the invitation it found live. An attempt is
under way until it has failed or its node is committed. -/
structure Shared where
  enrollments : List NodeEnrollment
  nodes : List Node
  accepted : List Acceptance
  nextId : Nat
  issued : List String
  locks : Locks Nat
  underway : List (Nat × Nat)
  failed : List (Nat × Nat)
  probes : List (Nat × Nat)

def Shared.empty : Shared := ⟨[], [], [], 0, [], fun _ => none, [], [], []⟩

inductive Answer
  | nothing
  | time (now : Int)
  | resolved (result : Except CallFailure Target)
  | health (result : Except CallFailure Health)
  | purged (ids : List Nat)
  | minted (minted : Minted)

inductive Change
  | addNode (node : Node)
  | removeNode (id : Nat)

def column {α : Type} [DecidableEq α] (loaded value stored : α) : α :=
  if value = loaded then stored else value

/-- A stored row as the commit of `_fail` writes it. -/
def Settings.recorded (settings : Settings) (loaded : NodeEnrollment) (error : String)
    (url : Option String) (stored : NodeEnrollment) : NodeEnrollment :=
  let row := settings.failed loaded error url
  { stored with
    attempts := row.attempts
    status := column loaded.status row.status stored.status
    lastError := column loaded.lastError row.lastError stored.lastError
    advertisedUrl := column loaded.advertisedUrl row.advertisedUrl stored.advertisedUrl }

def Node.updated (loaded node stored : Node) : Node :=
  { stored with
    description := column loaded.description node.description stored.description
    agentUrl := column loaded.agentUrl node.agentUrl stored.agentUrl
    agentTokenEncrypted :=
      column loaded.agentTokenEncrypted node.agentTokenEncrypted stored.agentTokenEncrypted
    agentVerifyTls := column loaded.agentVerifyTls node.agentVerifyTls stored.agentVerifyTls
    agentVersion := column loaded.agentVersion node.agentVersion stored.agentVersion
    status := column loaded.status node.status stored.status
    statusDetail := column loaded.statusDetail node.statusDetail stored.statusDetail
    role := column loaded.role node.role stored.role
    gpuProbe := column loaded.gpuProbe node.gpuProbe stored.gpuProbe
    labels := column loaded.labels node.labels stored.labels }

def Write.onRow : Write → NodeEnrollment → NodeEnrollment
  | .claim _ sourceIp, row => { row with status := .consumed, consumedFromIp := sourceIp }
  | .expire _, row => { row with status := .expired }
  | .revoke loaded actor, row =>
      { row with
        status := column loaded.status .revoked row.status
        revokedBy := column loaded.revokedBy (some actor) row.revokedBy }
  | .describe loaded url resolvedIp, row =>
      { row with
        advertisedUrl := column loaded.advertisedUrl (some url) row.advertisedUrl
        resolvedIp := column loaded.resolvedIp resolvedIp row.resolvedIp }
  | .link loaded nodeId, row =>
      { row with nodeId := column loaded.nodeId (some nodeId) row.nodeId }
  | .issue _, row | .purge _, row | .accept _ _ _, row => row

def Write.target : Write → Option Nat
  | .claim id _ | .expire id => some id
  | .revoke loaded _ | .describe loaded _ _ | .link loaded _ => some loaded.id
  | .issue _ | .purge _ | .accept _ _ _ => none

def Write.taken : Write → Option Nat
  | .claim id _ | .expire id | .purge id => some id
  | .revoke _ _ | .describe _ _ _ | .link _ _ | .issue _ | .accept _ _ _ => none

namespace Shared

def enrollment (shared : Shared) (id : Nat) : Option NodeEnrollment :=
  Rows.get NodeEnrollment.id shared.enrollments id

def rewritten (write : Write) (rows : List NodeEnrollment) : List NodeEnrollment :=
  match write with
  | .purge id => rows.filter fun row => row.id ≠ id
  | write =>
      match write.target with
      | some id => Rows.amend NodeEnrollment.id id write.onRow rows
      | none => rows

def seen (shared : Shared) (session : Session) : List NodeEnrollment :=
  session.writes.foldl (fun rows write => rewritten write rows) shared.enrollments

def permits (shared : Shared) (i : Nat) : Write → Bool
  | .issue draft =>
      draft.tokenHash ∉ shared.issued &&
        (shared.enrollments.all fun row => row.status ≠ .pending || row.nodeName ≠ draft.nodeName) &&
        draft.nodeId.all fun id => shared.nodes.any fun node => node.id = id
  | .accept _ (some loaded) _ => shared.nodes.any fun other => other.id = loaded.id
  | .accept _ none node => shared.nodes.all fun other => other.name ≠ node.name
  | .claim _ _ | .expire _ | .purge _ => true
  | .revoke loaded _ | .describe loaded _ _ | .link loaded _ =>
      shared.locks.free i loaded.id && (shared.enrollment loaded.id).isSome

def written (shared : Shared) (i : Nat) (write : Write) : Shared :=
  match write with
  | .issue draft =>
      { shared with
        enrollments := shared.enrollments ++ [{ draft with id := shared.nextId }]
        nextId := shared.nextId + 1
        issued := shared.issued ++ [draft.tokenHash] }
  | .accept enrollmentId existing node =>
      { shared with
        nodes := match existing with
          | some loaded => Rows.amend Node.id loaded.id (Node.updated loaded node) shared.nodes
          | none => shared.nodes ++ [node]
        accepted := shared.accepted ++ [⟨enrollmentId, node.id, i⟩]
        underway := shared.underway.filter fun attempt => attempt.1 ≠ i }
  | write => { shared with enrollments := rewritten write shared.enrollments }

def writeAll (shared : Shared) (i : Nat) : List Write → Option Shared
  | [] => some shared
  | write :: rest =>
      if shared.permits i write then (shared.written i write).writeAll i rest else none

def commit (shared : Shared) (i : Nat) (session : Session) : Option Shared :=
  (shared.writeAll i session.writes).map fun shared =>
    { shared with locks := shared.locks.release i }

def release (shared : Shared) (i : Nat) : Shared :=
  { shared with
    locks := shared.locks.release i
    underway := shared.underway.filter fun attempt => attempt.1 ≠ i
    failed := shared.failed ++ shared.underway.filter fun attempt => attempt.1 = i }

def locking (shared : Shared) (i : Nat) (ids : List Nat) : Option (List Nat × Shared) :=
  if ids.all fun id => shared.locks.free i id then
    some (ids, { shared with locks := shared.locks.acquire i ids })
  else none

/-- The rows with the ids, as `UPDATE` and `DELETE` match them. -/
def matching (shared : Shared) (session : Session) (wanted : NodeEnrollment → Bool) : List Nat :=
  ((shared.seen session).filter wanted).map NodeEnrollment.id

def attempting (settings : Settings) (shared : Shared) (i : Nat) (session : Session) :
    Option NodeEnrollment × Int → Shared
  | (some row, now) =>
      if session.request.enrolls ∧ settings.denies row now = none then
        { shared with underway := shared.underway ++ [(i, row.id)] }
      else shared
  | (none, _) => shared

/-- The commit of `_fail`. -/
def record (settings : Settings) (shared : Shared) (i : Nat) (loaded : NodeEnrollment)
    (error : String) (url : Option String) : Option (Bool × Shared) :=
  if (shared.enrollment loaded.id).isNone then some (false, shared)
  else if shared.locks.free i loaded.id then
    some (true, { shared with
      enrollments := Rows.amend NodeEnrollment.id loaded.id (settings.recorded loaded error url)
        shared.enrollments
      underway := shared.underway.erase (i, loaded.id)
      failed := shared.failed ++ [(i, loaded.id)] })
  else none

def react (settings : Settings) (i : Nat) (session : Session) (shared : Shared) :
    (op : Op) → Answer → Option (Reply op × Shared)
  | .byTokenHash tokenHash, .time now =>
      let reply := ((shared.seen session).find? fun row => row.tokenHash = tokenHash, now)
      some (reply, shared.attempting settings i session reply)
  | .byId id, _ => some ((shared.seen session).find? fun row => row.id = id, shared)
  | .pendingForName nodeName, _ =>
      some ((shared.seen session).find? fun row =>
        row.nodeName = nodeName && row.status = .pending, shared)
  | .listFiltered status, _ =>
      some ((shared.seen session).filter fun row => status.all fun status => row.status = status,
        shared)
  | .nodeById id, _ => some (shared.nodes.find? fun node => node.id = id, shared)
  | .nodeNamed name, _ => some (shared.nodes.find? fun node => node.name = name, shared)
  | .resolveUrl _, .resolved result => some (result, shared)
  | .probe _ _ _, .health result =>
      some (result, { shared with
        probes := shared.probes ++ (session.attempt.toList.map fun row => (i, row.id)) })
  | .readAgain id, _ => some (shared.enrollment id, shared)
  | .record loaded error url, _ => shared.record settings i loaded error url
  | .claim tokenHash _, .time now =>
      shared.locking i (shared.matching session fun row =>
        row.tokenHash = tokenHash && row.status = .pending && decide (now < row.expiresAt))
  | .expireStale, .time now =>
      shared.locking i (shared.matching session fun row =>
        row.status = .pending && decide (row.expiresAt ≤ now))
  | .purgeSettled, .purged ids =>
      shared.locking i (shared.matching session fun row =>
        row.status ≠ .pending && decide (row.id ∈ ids))
  | .mint, .minted minted => some (minted, shared)
  | .newNode, _ => some (shared.nextId, { shared with nextId := shared.nextId + 1 })
  | .syncNode _, _ => some ((), shared)
  | .write _, _ => some ((), shared)
  | .byTokenHash _, _ | .resolveUrl _, _ | .probe _ _ _, _ | .claim _ _, _ | .expireStale, _
  | .purgeSettled, _ | .mint, _ | .raise _, _ => none

def change (shared : Shared) : Change → Shared
  | .addNode node =>
      if shared.nodes.all fun other => other.name ≠ node.name && other.id ≠ node.id then
        { shared with nodes := shared.nodes ++ [node] }
      else shared
  | .removeNode id =>
      if shared.enrollments.all fun row => row.nodeId ≠ some id || shared.locks row.id = none then
        { shared with
          nodes := shared.nodes.filter fun node => node.id ≠ id
          enrollments := shared.enrollments.filter fun row => row.nodeId ≠ some id }
      else shared

end Shared

end AiPlatform.Enrollments
