import AiPlatform.AgentModel

/-!
`McpProcess` of `src/mcp/bridge/app/main.py`: HTTP calls are coroutines that share one
subprocess at a time, a map of pending futures, a start lock and a write lock. A
coroutine runs without interruption from one `await` to the next; everything else may
happen between two of them. What a subprocess was written and what became of a request
is recorded beside the system. A caller of a free lock may be overtaken here as one of
a taken lock is.
-/

namespace AiPlatform.Bridge

open Agents (Dict Json)

structure Settings where
  /-- `MCP_COMMAND` is not empty. -/
  commandConfigured : Bool
  protocolVersion : String
  /-- The timeouts as they are printed. -/
  requestTimeout : String
  startupTimeout : String
  /-- `int(text)`, `str(value)` and `type(value).__name__`. -/
  parseInt : String → Option Int
  str : Json → String
  typeName : Json → String

inductive Message
  | request (id : Nat) (method : String) (params : Dict)
  | notification (method : String)

def initialized : Message := .notification "notifications/initialized"

inductive Line
  | unreadable
  | value (json : Json)

inductive Reader
  | reading | ended | died
  deriving DecidableEq

/-- What a subprocess has been written, and whether it has answered `initialize` with a
result. -/
inductive Event
  | wrote (message : Message)
  | answered

structure Instance where
  /-- `returncode is None` -/
  alive : Bool
  reader : Reader
  log : List Event

inductive Outcome
  | result (value : Json)
  | error (message : String)
  | cancelled

/-- An entry of `_pending` with its future: the coroutine that made it, the subprocess there
was then, the one it was written to and whether that one's output had ended by then, and
whose reader settled it, with the message if it was one. -/
structure Request where
  caller : Nat
  method : String
  params : Dict
  found : Nat
  writtenTo : Option Nat
  late : Bool
  outcome : Option Outcome
  settledBy : Option (Nat × Option Dict)

/-- What a coroutine writes: a request by its place in the list of them, or the
notification that ends a handshake. -/
inductive Purpose
  | handshake (request : Nat)
  | notify
  | call (request : Nat)
  deriving DecidableEq

structure RpcError where
  code : Int
  message : String

/-- What `rpc` makes of a `BridgeError`. -/
def bridgeError (message : String) : RpcError := ⟨-32000, message⟩

/-- What a coroutine waits for. -/
inductive Phase
  | startLock
  | spawning
  | writeLock (purpose : Purpose)
  | drain (purpose : Purpose)
  | future (purpose : Purpose)
  | done (result : Except RpcError Json)

structure Call where
  method : String
  params : Dict
  phase : Phase

structure System where
  instances : List Instance
  /-- `self._process` -/
  current : Option Nat
  requests : List Request
  /-- `self._pending`, by the places of the requests. -/
  pending : List Nat
  calls : List Call
  startLock : Option Nat
  writeLock : Option Nat

namespace System

def idle : System := ⟨[], none, [], [], [], none, none⟩

def running (system : System) : Bool :=
  (system.current.bind (system.instances[·]?)).any Instance.alive

def setPhase (system : System) (i : Nat) (phase : Phase) : System :=
  { system with calls := system.calls.modify i fun call => { call with phase := phase } }

def onRequest (system : System) (r : Nat) (change : Request → Request) : System :=
  { system with requests := system.requests.modify r change }

def onInstance (system : System) (k : Nat) (change : Instance → Instance) : System :=
  { system with instances := system.instances.modify k change }

def fail (system : System) (i : Nat) (error : RpcError) : System :=
  { system.setPhase i (.done (.error error)) with
    startLock := if system.startLock = some i then none else system.startLock
    writeLock := if system.writeLock = some i then none else system.writeLock }

/-- `request`, from the check of the subprocess to the write lock. -/
def register (system : System) (i : Nat) (purpose : Nat → Purpose) (method : String)
    (params : Dict) : System :=
  match system.current with
  | none => system.fail i (bridgeError "The MCP server subprocess is not running.")
  | some k =>
      let request : Request := ⟨i, method, params, k, none, false, none, none⟩
      { system with
        requests := system.requests ++ [request]
        pending := system.pending ++ [system.requests.length] }.setPhase i
          (.writeLock (purpose system.requests.length))

end System

/-- The id of the request at a place: `_next_id` is counted up before it is taken. -/
def requestId (r : Nat) : Nat := r + 1

def initializeParams (settings : Settings) : Dict :=
  [("protocolVersion", .str settings.protocolVersion), ("capabilities", .obj []),
    ("clientInfo", .obj [("name", .str "ai-platform-bridge"), ("version", .str "0.1.0")])]

/-- The methods that `rpc` forwards. -/
def proxied : List String := ["tools/list", "tools/call", "prompts/list", "resources/list"]

/-- `int(request_id)` -/
def intOf (settings : Settings) : Json → Option Int
  | .num value => some (if 0 ≤ value then value.floor else value.ceil)
  | .bool value => some (if value then 1 else 0)
  | .str text => settings.parseInt text
  | .uuid _ | .null | .arr _ | .obj _ => none

/-- `message.get("result") or {}` -/
def resultOf (message : Dict) : Json :=
  match message.lookup "result" with
  | none | some .null | some (.bool false) | some (.str "") | some (.arr []) => .obj []
  | some (.num value) => if value = 0 then .obj [] else .num value
  | some value => value

def Request.cancel (request : Request) : Request :=
  { request with outcome := request.outcome.or (some .cancelled) }

def Request.settle (request : Request) (outcome : Outcome) (by' : Nat × Option Dict) : Request :=
  { request with outcome := some outcome, settledBy := some by' }

namespace System

def die (system : System) (k : Nat) : System :=
  system.onInstance k fun process => { process with reader := .died }

/-- The settled future of an answer with a result; the answer to `initialize` is recorded. -/
def answer (system : System) (k r : Nat) (request : Request) (message : Dict) : System :=
  let settled :=
    system.onRequest r (·.settle (.result (resultOf message)) (k, some message))
  if request.method = "initialize" then
    settled.onInstance k fun process => { process with log := process.log ++ [.answered] }
  else settled

/-- One line of `_read_stdout`. -/
def readLine (settings : Settings) (system : System) (k : Nat) : Line → System
  | .unreadable => system
  | .value (.obj message) =>
      match message.lookup "id" with
      | none | some .null => system
      | some id =>
          match intOf settings id with
          -- `int` raises, and the reader with it.
          | none => system.die k
          | some n =>
              match system.pending.find? fun r => (requestId r : Int) = n with
              | none => system
              | some r =>
                  let popped := { system with pending := system.pending.filter (· ≠ r) }
                  match system.requests[r]? with
                  | none => popped
                  | some request =>
                      if request.outcome.isSome then popped
                      else
                        match message.lookup "error" with
                        | none => popped.answer k r request message
                        | some (.obj error) =>
                            let code := settings.str ((error.lookup "code").getD (.str "?"))
                            let text :=
                              settings.str ((error.lookup "message").getD (.str "unknown error"))
                            popped.onRequest r
                              (·.settle (.error s!"{code}: {text}") (k, some message))
                        | some _ => popped.die k
  | .value _ => system.die k

/-- The end of `_read_stdout`. -/
def readEof (system : System) (k : Nat) : System :=
  let failed := system.requests.mapIdx fun r request =>
    if system.pending.contains r && request.outcome.isNone then
      request.settle (.error "The MCP server exited.") (k, none)
    else request
  { system with requests := failed, pending := [] }.onInstance k
    fun process => { process with reader := .ended }

end System

inductive Label
  /-- `rpc` is called. -/
  | arrive (method : String) (params : Dict)
  /-- The start lock is taken. -/
  | enter (i : Nat)
  /-- `create_subprocess_exec` returns. -/
  | spawned (i : Nat)
  /-- The write lock is taken, and the line written. -/
  | write (i : Nat)
  | drained (i : Nat)
  /-- The future is done. -/
  | resume (i : Nat)
  /-- The timeout of a request. -/
  | timeout (i : Nat)
  /-- The timeout of a whole handshake. -/
  | startupTimeout (i : Nat) (stderr : String)
  /-- What is awaited raises, or the coroutine is cancelled. -/
  | raises (i : Nat) (error : RpcError)
  /-- The subprocess exits. -/
  | exit (k : Nat)
  | line (k : Nat) (line : Line)
  | eof (k : Nat)

namespace System

def process (system : System) (k : Nat) : Option Instance := system.instances[k]?

def writes (system : System) (i k : Nat) (purpose : Purpose) : System :=
  let logged (message : Message) :=
    system.onInstance k fun process => { process with log := process.log ++ [.wrote message] }
  let late := (system.process k).any fun process => process.reader ≠ .reading
  let sent (r : Nat) : System :=
    match system.requests[r]? with
    | none => system
    | some request => (logged (.request (requestId r) request.method request.params)).onRequest r
        fun request => { request with writtenTo := some k, late := late }
  let after := match purpose with
    | .handshake r | .call r => sent r
    | .notify => logged initialized
  { after.setPhase i (.drain purpose) with writeLock := some i }

def waiting (system : System) (r : Nat) : Bool :=
  (system.requests[r]?).any fun request => request.outcome.isNone

/-- `except TimeoutError` of `request` -/
def expire (settings : Settings) (system : System) (i r : Nat) (method : String) :
    Option System :=
  if system.waiting r then
    let timeout := settings.requestTimeout
    some ({ system with pending := system.pending.filter (· ≠ r) }.onRequest r Request.cancel
      |>.fail i (bridgeError s!"The MCP server did not answer '{method}' within {timeout}s."))
  else none

def proceed (system : System) (i : Nat) (call : Call) : System :=
  system.register i .call call.method call.params

def step (settings : Settings) (system : System) : Label → Option System
  | .arrive method params =>
      let i := system.calls.length
      let arrived : System :=
        { system with calls := system.calls ++ [⟨method, params, .startLock⟩] }
      if !proxied.contains method then
        some (arrived.fail i ⟨-32601, s!"Method '{method}' is not proxied."⟩)
      else if system.running then some (arrived.proceed i ⟨method, params, .startLock⟩)
      else some arrived
  | .enter i =>
      match system.calls[i]? with
      | some call =>
          match call.phase, system.startLock with
          | .startLock, none =>
              if system.running then some (system.proceed i call)
              else if !settings.commandConfigured then
                some (system.fail i (bridgeError ("No MCP_COMMAND is configured. This image " ++
                  "was built without an MCP server.")))
              else some { system.setPhase i .spawning with startLock := some i }
          | _, _ => none
      | none => none
  | .spawned i =>
      match system.calls[i]? with
      | some call =>
          match call.phase with
          | .spawning =>
              let spawned : System := { system with
                instances := system.instances ++ [⟨true, .reading, []⟩]
                current := some system.instances.length
                pending := [] }
              some (spawned.register i .handshake "initialize" (initializeParams settings))
          | _ => none
      | none => none
  | .write i =>
      match system.calls[i]?, system.current with
      | some call, some k =>
          match call.phase, system.writeLock with
          | .writeLock purpose, none => some (system.writes i k purpose)
          | _, _ => none
      | _, _ => none
  | .drained i =>
      match system.calls[i]? with
      | some call =>
          match call.phase with
          | .drain .notify =>
              some ({ system with startLock := none, writeLock := none }.proceed i call)
          | .drain purpose => some { system.setPhase i (.future purpose) with writeLock := none }
          | _ => none
      | none => none
  | .resume i =>
      match system.calls[i]? with
      | some call =>
          match call.phase with
          | .future (.handshake r) =>
              match (system.requests[r]?).bind Request.outcome with
              | some (.result (.obj _)) => some (system.setPhase i (.writeLock .notify))
              | some (.result value) =>
                  let typeName := settings.typeName value
                  some (system.fail i
                    ⟨-32603, s!"AttributeError: '{typeName}' object has no attribute 'get'"⟩)
              | some (.error message) => some (system.fail i (bridgeError message))
              | some .cancelled | none => none
          | .future (.call r) =>
              match (system.requests[r]?).bind Request.outcome with
              | some (.result value) => some (system.setPhase i (.done (.ok value)))
              | some (.error message) => some (system.fail i (bridgeError message))
              | some .cancelled | none => none
          | _ => none
      | none => none
  | .timeout i =>
      match system.calls[i]? with
      | some call =>
          match call.phase with
          | .future (.handshake r) => system.expire settings i r "initialize"
          | .future (.call r) => system.expire settings i r call.method
          | _ => none
      | none => none
  | .startupTimeout i stderr =>
      match system.calls[i]? with
      | some call =>
          match call.phase with
          | .future (.handshake r) =>
              if system.waiting r then
                let timeout := settings.startupTimeout
                -- The entry stays in the map, with a future that is done.
                let text := s!"The MCP server did not complete its handshake within {timeout}s."
                some ((system.onRequest r Request.cancel).fail i
                  (bridgeError s!"{text} stderr: {stderr}"))
              else none
          | _ => none
      | none => none
  | .raises i error =>
      match system.calls[i]? with
      | some call =>
          match call.phase with
          | .done _ => none
          | .future (.handshake r) | .future (.call r) =>
              some ((system.onRequest r Request.cancel).fail i error)
          | _ => some (system.fail i error)
      | none => none
  | .exit k =>
      if (system.process k).isSome then
        some (system.onInstance k fun process => { process with alive := false })
      else none
  | .line k line =>
      if (system.process k).any fun process => process.reader = .reading then
        some (system.readLine settings k line)
      else none
  | .eof k =>
      if (system.process k).any fun process => process.reader = .reading then
        some (system.readEof k)
      else none

end System

end AiPlatform.Bridge
