import AiPlatform.EnrollmentModel

/-!
`NodeEnrollmentService` of `app/services/node_enrollment.py`, with `probe_agent` and
`accept_node` of the node service, and the requests that reach it. The audit
records of refused attempts are left out: they are written on sessions of their own.
-/

namespace AiPlatform.Enrollments

open Agents (truthy)

def raise {α : Type} (failure : Refusal) : EnrollmentProgram α :=
  .perform (.raise failure) fun impossible => nomatch impossible

def perform (op : Op) : EnrollmentProgram (Reply op) :=
  @Program.request enrollmentSignature op

def write (write : Write) : EnrollmentProgram Unit := perform (.write write)

/-- `_REJECTED`; a `TokenError` is an authentication error. -/
def rejected : String :=
  "That enrolment token is not valid. Ask an administrator to issue a new one."

def conflictOn (message field : String) : Refusal := .app (conflictError message [("field", field)])

def invalid (message field : String) : Refusal := .app (validationError message [("field", field)])

def create (settings : Settings) (request : CreateRequest) (actor : Nat) :
    EnrollmentProgram Unit := do
  let _ ← perform .expireStale
  let name := request.name
  let existing ← perform (.nodeNamed name)
  if existing.isSome ∧ request.reenroll = false then
    raise (conflictOn (s!"A node named '{name}' is already registered. Re-enrol it to replace its " ++
      "agent token, or remove it first.") "name")
  else do
    let pending ← perform (.pendingForName name)
    if pending.isSome then
      raise (conflictOn (s!"An enrolment for '{name}' is already open. Revoke it before issuing " ++
        "another.") "name")
    else do
      let minted ← perform .mint
      let ttl := min ((request.ttlSeconds.filter (· ≠ 0)).getD settings.tokenTtlSeconds) 86400
      write (.issue {
        id := 0
        nodeName := name
        description := request.description
        labels := request.labels
        verifyTls := request.verifyTls
        nodeId := existing.map Node.id
        tokenPrefix := minted.tokenPrefix
        tokenHash := settings.hash minted.token
        status := .pending
        expiresAt := minted.now + ttl
        consumedFromIp := none
        advertisedUrl := none
        resolvedIp := none
        attempts := 0
        lastError := none
        createdBy := actor
        revokedBy := none })

def list (status : Option EnrollmentStatus) : EnrollmentProgram (List NodeEnrollment) := do
  let _ ← perform .expireStale
  perform (.listFiltered status)

def get (enrollmentId : Nat) : EnrollmentProgram NodeEnrollment := do
  match ← perform (.byId enrollmentId) with
  | none => raise (.app (notFoundError s!"No enrolment with id {enrollmentId}."))
  | some enrollment => return enrollment

def revoke (enrollmentId actor : Nat) : EnrollmentProgram Unit := do
  let enrollment ← get enrollmentId
  let name := enrollment.nodeName
  if enrollment.status = .consumed then
    raise (.app (conflictError
      s!"That enrolment already produced node '{name}'. Remove the node instead." []))
  else if enrollment.status ≠ .revoked then write (.revoke enrollment actor)
  else return ()

def resolveToken (settings : Settings) (presented : String) :
    EnrollmentProgram NodeEnrollment := do
  if presented = "" then raise (.app (authenticationError rejected))
  else do
    let found ← perform (.byTokenHash (settings.hash presented))
    match found with
    | (none, _) => raise (.app (authenticationError rejected))
    | (some enrollment, now) =>
        match settings.denies enrollment now with
        | some _ => raise (.app (authenticationError rejected))
        | none => return enrollment

def fail (enrollment : NodeEnrollment) (error : String) (url : Option String) :
    EnrollmentProgram Unit := do
  match ← perform (.readAgain enrollment.id) with
  | none => return ()
  | some row =>
      match ← perform (.record row error url) with
      | true => return ()
      | false => raise (.raised "UPDATE statement on table 'node_enrollments' matched no row.")

def failing {α : Type} (enrollment : NodeEnrollment) (error : String) (url : Option String)
    (refusal : Refusal) : EnrollmentProgram α := do
  fail enrollment error url
  raise refusal

def fromSource (settings : Settings) (sourceIp : Option String) : EnrollmentProgram String :=
  match sourceIp.filter truthy with
  | none =>
      raise (invalid "No agent address was given and it could not be inferred from the request."
        "advertised_url")
  | some sourceIp =>
      let host := if ':' ∈ sourceIp.toList then "[" ++ sourceIp ++ "]" else sourceIp
      let port := settings.defaultAgentPort
      return s!"http://{host}:{port}"

def candidateUrl (settings : Settings) (request : EnrollRequest) : EnrollmentProgram String :=
  match request.advertisedUrl.filter truthy with
  | some url => pure url
  | none => fromSource settings request.sourceIp

/-- The address that is probed, once it has passed `validate_agent_url` and, where
it is required, matches the source of the request. -/
def validated (settings : Settings) (enrollment : NodeEnrollment) (request : EnrollRequest)
    (candidate : String) : EnrollmentProgram Target := do
  match ← perform (.resolveUrl candidate) with
  | .error (.raised message) => raise (.raised message)
  | .error (.refused message) =>
      failing enrollment message (some candidate) (invalid message "advertised_url")
  | .ok target =>
      if settings.requireSourceIpMatch ∧ ∀ ip ∈ request.sourceIp, ip ∉ target.addresses then
        let sourceIp := request.sourceIp.getD "None"
        let host := target.host
        let addresses := String.intercalate ", " target.addresses
        let message := s!"This enrolment came from {sourceIp}, but {host} resolves to {addresses}."
        failing enrollment message (some target.url) (invalid message "advertised_url")
      else return target

/-- `probe_agent` as enrolment calls it -/
def probeAgent (enrollment : NodeEnrollment) (target : Target) (agentToken : String) :
    EnrollmentProgram Health := do
  match ← perform (.probe target.url agentToken enrollment.verifyTls) with
  | .error (.raised message) => raise (.raised message)
  | .error (.refused message) =>
      let agentUrl := target.url
      let message := s!"Could not reach a node agent at {agentUrl}: {message}"
      failing enrollment message (some target.url) (invalid message "agent_url")
  | .ok health => return health

def checkNames (settings : Settings) (enrollment : NodeEnrollment) (target : Target)
    (reportedName : Option String) (health : Health) : EnrollmentProgram Unit :=
  let name := enrollment.nodeName
  let url := target.url
  let asked := (reportedName.filter truthy).getD name
  let reported := (health.nodeName.filter truthy).getD name
  if asked ≠ name ∧ settings.allowNodeNameMismatch = false then
    let message := s!"This enrolment is for '{name}', but the request asked to " ++
      s!"enrol '{asked}'. The name is fixed when the enrolment is issued."
    failing enrollment message (some url) (invalid message "node_name")
  else if reported ≠ name ∧ settings.allowNodeNameMismatch = false then
    let message := s!"The agent at {url} reports node_name='{reported}', but this " ++
      s!"enrolment is for '{name}'. Set NODE_AGENT_NODE_NAME={name} and restart the agent."
    failing enrollment message (some url) (invalid message "node_name")
  else return ()

def nodeIfFree (enrollment : NodeEnrollment) (target : Target) :
    EnrollmentProgram (Option Node) := do
  let name := enrollment.nodeName
  match ← perform (.nodeNamed name) with
  | none => return none
  | some _ =>
      let message := s!"A node named '{name}' was registered in the meantime."
      failing enrollment message (some target.url) (conflictOn message "name")

def existingNode (enrollment : NodeEnrollment) (target : Target) :
    EnrollmentProgram (Option Node) := do
  let existing ← match enrollment.nodeId with
    | some id => perform (.nodeById id)
    | none => pure none
  match existing with
  | some node => return some node
  | none => nodeIfFree enrollment target

/-- The node that `accept_node` makes of a health response. -/
def acceptedNode (settings : Settings) (enrollment : NodeEnrollment) (target : Target)
    (agentToken : String) (health : Health) (existing : Option Node) (id : Nat) : Node :=
  let labels := if settings.enrollDisabled then
      (enrollment.labels.filter fun label => label.1 ≠ "disabled") ++ [("disabled", "true")]
    else enrollment.labels
  let role := if health.gpuCount > 0 then "GPU" else "CPU"
  match existing with
  | some node =>
      { node with
        agentUrl := target.url
        agentTokenEncrypted := settings.encrypt agentToken
        agentVerifyTls := enrollment.verifyTls
        agentVersion := health.agentVersion
        status := "ONLINE"
        statusDetail := none
        role := role
        gpuProbe := health.gpuProbe
        description := enrollment.description.or node.description
        labels := if labels.isEmpty then node.labels else labels }
  | none =>
      { id := id
        name := enrollment.nodeName
        description := enrollment.description
        agentUrl := target.url
        agentTokenEncrypted := settings.encrypt agentToken
        agentVerifyTls := enrollment.verifyTls
        agentVersion := health.agentVersion
        status := "ONLINE"
        statusDetail := none
        role := role
        gpuProbe := health.gpuProbe
        labels := labels }

def acceptNode (settings : Settings) (enrollment : NodeEnrollment) (target : Target)
    (agentToken : String) (health : Health) (existing : Option Node) : EnrollmentProgram Nat := do
  let id ← match existing with
    | some node => pure node.id
    | none => perform .newNode
  write (.accept enrollment.id existing
    (acceptedNode settings enrollment target agentToken health existing id))
  perform (.syncNode id)
  return id

def claimAndCreate (settings : Settings) (enrollment : NodeEnrollment) (request : EnrollRequest)
    (target : Target) (health : Health) (existing : Option Node) : EnrollmentProgram Unit := do
  let claimed ← perform (.claim enrollment.tokenHash request.sourceIp)
  if List.length claimed = 1 then do
    write (.describe enrollment target.url target.addresses.head?)
    let nodeId ← acceptNode settings enrollment target request.agentToken health existing
    write (.link enrollment nodeId)
  else raise (.app (conflictError rejected []))

def consume (settings : Settings) (enrollment : NodeEnrollment) (request : EnrollRequest) :
    EnrollmentProgram Unit := do
  if request.agentToken.length < 32 then
    raise (invalid "The agent token must be at least 32 characters." "agent_token")
  else do
    let candidate ← candidateUrl settings request
    let target ← validated settings enrollment request candidate
    let health ← probeAgent enrollment target request.agentToken
    checkNames settings enrollment target request.nodeName health
    let existing ← existingNode enrollment target
    claimAndCreate settings enrollment request target health existing

def sweep : EnrollmentProgram Unit := do
  let _ ← perform .expireStale
  let _ ← perform .purgeSettled
  return ()

/-- `enroll_node`, behind `get_enrollment_context` -/
def enroll (settings : Settings) (request : EnrollRequest) : EnrollmentProgram Unit := do
  let enrollment ← resolveToken settings request.token
  consume settings enrollment request

def run (settings : Settings) : Request → EnrollmentProgram Unit
  | .enroll request => enroll settings request
  -- `download_node_bundle` resolves the token and does not consume it.
  | .bundle token => do
      let _ ← resolveToken settings token
      return ()
  | .create request actor => create settings request actor
  | .list status => do
      let _ ← list status
      return ()
  | .get enrollmentId => do
      let _ ← get enrollmentId
      return ()
  | .revoke enrollmentId actor => revoke enrollmentId actor
  | .sweep => sweep

def enrollmentMachine (settings : Settings) : Machine enrollmentSignature where
  Request := Request
  Session := Session
  Shared := Shared
  Answer := Answer
  Change := Change
  program := run settings
  opened := Session.opened
  after := Session.after settings
  react := Shared.react settings
  awaits := fun _ => false
  commit := fun i session shared => shared.commit i session
  release := fun i shared => shared.release i
  change := fun change shared => shared.change change

abbrev EnrollmentSystem (settings : Settings) := System (enrollmentMachine settings)

end AiPlatform.Enrollments
