import AiPlatform.DeploymentModel
import AiPlatform.Histories
import Mathlib.Data.List.Perm.Basic

/-!
The jobs of `workers/scheduler.py` that write the status of nodes, with `sync_node` of
`services/infrastructure.py`: the inventory sweep, the stale-node job and forced checks of
one node. Each has a session and a transaction of its own under READ COMMITTED. A flush
writes the fields of a node that differ from the row as the session knows it, and waits
for a row that another transaction has written. Nodes are known by their places in the
order of their names.
-/

namespace AiPlatform.NodeSweeps

open Deployments (NodeStatus)

structure Settings where
  /-- `poll_interval_seconds * STALE_POLL_MULTIPLIER` -/
  threshold : Nat
  isoformat : Int → String

/-- The columns of a node that the jobs decide on or write. -/
structure Fields where
  status : NodeStatus
  statusDetail : Option String
  lastSeenAt : Option Int
  deriving DecidableEq

/-- A row, with the cutoff of the stale-node job if that one wrote its status last. -/
structure Row where
  /-- The label `disabled` is `"true"`. -/
  disabled : Bool
  fields : Fields
  markedBy : Option Int

structure Patch where
  status : Option NodeStatus
  statusDetail : Option (Option String)
  lastSeenAt : Option (Option Int)

namespace Patch

def empty : Patch := ⟨none, none, none⟩

def between (loaded now : Fields) : Patch where
  status := if now.status = loaded.status then none else some now.status
  statusDetail := if now.statusDetail = loaded.statusDetail then none else some now.statusDetail
  lastSeenAt := if now.lastSeenAt = loaded.lastSeenAt then none else some now.lastSeenAt

def onto (later earlier : Patch) : Patch where
  status := later.status.or earlier.status
  statusDetail := later.statusDetail.or earlier.statusDetail
  lastSeenAt := later.lastSeenAt.or earlier.lastSeenAt

def apply (patch : Patch) (fields : Fields) : Fields where
  status := patch.status.getD fields.status
  statusDetail := patch.statusDetail.getD fields.statusDetail
  lastSeenAt := patch.lastSeenAt.getD fields.lastSeenAt

end Patch

/-- A node in a session: the row as the session knows it, the attributes, and what the
transaction has written of it. -/
structure Held where
  loaded : Fields
  now : Fields
  patch : Patch
  /-- The transaction has updated the row. -/
  updated : Bool

def Held.of (fields : Fields) : Held := ⟨fields, fields, .empty, false⟩

def Held.dirty (held : Held) : Bool := held.now ≠ held.loaded

/-- `UPDATE` of the fields that have changed. -/
def Held.update (held : Held) : Held :=
  ⟨held.now, held.now, (Patch.between held.loaded held.now).onto held.patch, true⟩

inductive Job
  | sweep
  | stale (cutoff : Int)
  | check
  deriving DecidableEq

/-- Where a session is: before the query of the stale-node job, before `client_for` and
`health` of the next node, in a section of `sync_node` of a node with its result so far,
in the flush of `_sync_gpus`, or before the end. -/
inductive Stage
  | listing
  | polling
  | system (node : Nat) (result : NodeStatus)
  | gpus (node : Nat) (result : NodeStatus)
  | flushing (node : Nat) (result : NodeStatus)
  | containers (node : Nat) (result : NodeStatus)
  | committing
  deriving DecidableEq

structure Session where
  job : Job
  ids : List Nat
  held : Nat → Option Held
  /-- The nodes still to be polled. -/
  queue : List Nat
  stage : Stage
  /-- The statuses of the results of `sync_node`; the nodes that the stale-node job marked. -/
  results : List (Nat × NodeStatus)

namespace Session

def onNode (session : Session) (n : Nat) (change : Held → Held) : Session :=
  { session with held := fun m => if m = n then (session.held m).map change else session.held m }

def assign (session : Session) (n : Nat) (change : Fields → Fields) : Session :=
  session.onNode n fun held => { held with now := change held.now }

def dirty (session : Session) : Bool :=
  session.ids.any fun n => (session.held n).any Held.dirty

/-- The end of `sync_node`: the next node is polled, or the transaction ends. -/
def finish (session : Session) (n : Nat) (result : NodeStatus) : Session :=
  { session with
    results := session.results ++ [(n, result)]
    stage := if session.queue = [] then .committing else .polling }

end Session

/-- What `client_for` and `health` come to. -/
inductive Answer
  | noClient (text : String)
  | unreachable (text : String)
  | failed (text : String)
  | healthy (degraded : Bool) (detail : Option String)

/-- `str(exc)[:500]` -/
def shortened (text : String) : String := String.ofList (text.toList.take 500)

/-- `sync_node` of the next node, up to its first section. -/
def Session.polled (session : Session) (now : Int) (n : Nat) (rest : List Nat) (answer : Answer) :
    Session :=
  let failed (status : NodeStatus) (detail : String) : Session :=
    ({ session with queue := rest }.assign n fun fields =>
      { fields with status := status, statusDetail := some detail }).finish n status
  match answer with
  | .noClient text => failed .unknown text
  | .unreachable text => failed .offline (shortened text)
  | .failed text => failed .degraded (shortened text)
  | .healthy degraded detail =>
      let status : NodeStatus := if degraded then .degraded else .online
      { { session with queue := rest }.assign n fun _ => ⟨status, detail, some now⟩ with
        stage := .system n status }

/-- A section that ends, with `NodeAgentError` or without. -/
def Session.sectionEnded (session : Session) (n : Nat) (result : NodeStatus) (failed : Bool)
    (next : NodeStatus → Session → Session) : Session :=
  if failed then
    next .degraded (session.assign n fun fields => { fields with status := .degraded })
  else next result session

def Fields.stale (cutoff : Int) (fields : Fields) : Bool :=
  fields.status ≠ .offline && fields.lastSeenAt.all (· < cutoff)

def Fields.marked (settings : Settings) (fields : Fields) : Fields :=
  { fields with
    status := .offline
    statusDetail := some (match fields.lastSeenAt with
      | some seen => s!"No response since {settings.isoformat seen}"
      | none => "Never reported since registration") }

/-- The loop of `mark_stale_nodes`, on one node. -/
def Held.listed (settings : Settings) (cutoff : Int) (held : Held) : Held :=
  if held.now.stale cutoff then { held with now := held.now.marked settings } else held

structure System where
  rows : List Row
  /-- Sessions that have ended are `none`. -/
  sessions : List (Option Session)
  clock : Int
  /-- What sweeps that have committed determined, and what was committed then. -/
  swept : List (NodeStatus × Option NodeStatus)

inductive Label
  | tick (seconds : Nat)
  /-- `sync_nodes` reads the nodes, in some order. -/
  | sweep (order : List Nat)
  /-- `mark_stale_nodes` is called, and reads the nodes. -/
  | stale
  | listed (t : Nat)
  /-- `check_node` reads the node. -/
  | check (n : Nat)
  | polled (t : Nat) (answer : Answer)
  | system (t : Nat) (failed : Bool)
  /-- The node has cards, or none, or the agent fails. -/
  | gpus (t : Nat) (cards : Bool) (failed : Bool)
  | containers (t : Nat) (failed : Bool)
  | update (t : Nat) (n : Nat)
  | flushed (t : Nat)
  | commit (t : Nat)
  /-- Anything is raised that is not caught before the end. -/
  | rollback (t : Nat)

namespace System

def session (system : System) (t : Nat) : Option Session := (system.sessions[t]?).join

def opened (system : System) (job : Job → Bool) : Bool :=
  system.sessions.any fun session => session.any fun session => job session.job

def open' (system : System) (session : Session) : System :=
  { system with sessions := system.sessions ++ [some session] }

def put (system : System) (t : Nat) (session : Option Session) : System :=
  { system with sessions := system.sessions.set t session }

def load (system : System) (n : Nat) : Option Held := (system.rows[n]?).map fun row => .of row.fields

def pollable (system : System) : List Nat :=
  (List.range system.rows.length).filter fun n => (system.rows[n]?).any fun row => !row.disabled

def locked (system : System) (t n : Nat) : Bool :=
  (List.range system.sessions.length).any fun u =>
    u ≠ t && (system.session u).any fun session => (session.held n).any Held.updated

end System

def Row.committed (row : Row) (job : Job) (patch : Patch) : Row where
  disabled := row.disabled
  fields := patch.apply row.fields
  markedBy := match patch.status, job with
    | none, _ => row.markedBy
    | some _, .stale cutoff => some cutoff
    | some _, _ => none

namespace System

def commit (system : System) (t : Nat) (session : Session) : System :=
  let rows := system.rows.mapIdx fun n row =>
    match session.held n with
    | none => row
    | some held => row.committed session.job held.patch
  { system.put t none with
    rows := rows
    swept := if session.job = .sweep then
        system.swept ++ session.results.map fun result =>
          (result.2, (rows[result.1]?).map fun row => row.fields.status)
      else system.swept }

/-- `mark_stale_nodes` from its query to its commit. -/
def listing (settings : Settings) (system : System) (cutoff : Int) (session : Session) : Session :=
  let ids := List.range (min 1000 system.rows.length)
  { session with
    ids := ids
    held := fun n =>
      if n ∈ ids then (system.load n).map (Held.listed settings cutoff) else none
    results := (ids.filter fun n => (system.rows[n]?).any fun row => row.fields.stale cutoff).map
      fun n => (n, .offline)
    stage := .committing }

def advance (system : System) (t : Nat) (stage : Session → Option Session) : Option System :=
  (system.session t).bind fun session =>
    (stage session).map fun after => system.put t (some after)

def step (settings : Settings) (system : System) : Label → Option System
  | .tick seconds => some { system with clock := system.clock + seconds }
  | .sweep order =>
      if !system.opened (· = .sweep) && order.isPerm system.pollable && order ≠ [] then
        some (system.open' ⟨.sweep, order, fun n => if n ∈ order then system.load n else none, order,
          .polling, []⟩)
      else none
  | .stale =>
      if system.opened fun job => match job with | .stale _ => true | _ => false then none
      else
        let cutoff := system.clock - settings.threshold
        some (system.open' ⟨.stale cutoff, [], fun _ => none, [], .listing, []⟩)
  | .listed t => system.advance t fun session =>
      match session.job, session.stage with
      | .stale cutoff, .listing =>
          some (system.listing settings cutoff session)
      | _, _ => none
  | .check n =>
      match system.load n with
      | none => none
      | some held => some (system.open' ⟨.check, [n], fun m => if m = n then some held else none,
          [n], .polling, []⟩)
  | .polled t answer => system.advance t fun session =>
      match session.stage, session.queue with
      | .polling, n :: rest => some (session.polled system.clock n rest answer)
      | _, _ => none
  | .system t failed => system.advance t fun session =>
      match session.stage with
      | .system n result => some (session.sectionEnded n result failed fun result session =>
          { session with stage := .gpus n result })
      | _ => none
  | .gpus t cards failed => system.advance t fun session =>
      match session.stage with
      | .gpus n result => some (session.sectionEnded n result failed fun result session =>
          { session with stage := if cards && !failed then .flushing n result
              else .containers n result })
      | _ => none
  | .containers t failed => system.advance t fun session =>
      match session.stage with
      | .containers n result => some (session.sectionEnded n result failed fun result session =>
          session.finish n result)
      | _ => none
  | .update t n => system.advance t fun session =>
      match session.stage with
      | .flushing _ _ | .committing =>
          if (session.held n).any Held.dirty && !system.locked t n then
            some (session.onNode n Held.update)
          else none
      | _ => none
  | .flushed t => system.advance t fun session =>
      match session.stage with
      | .flushing n result =>
          if session.dirty then none else some { session with stage := .containers n result }
      | _ => none
  | .commit t =>
      match system.session t with
      | some session =>
          if session.stage = .committing && !session.dirty then some (system.commit t session)
          else none
      | none => none
  | .rollback t => (system.session t).map fun _ => system.put t none

end System

def start (rows : List (Bool × Fields)) (clock : Int) : System :=
  ⟨rows.map fun row => ⟨row.1, row.2, none⟩, [], clock, []⟩

end AiPlatform.NodeSweeps
