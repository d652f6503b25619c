import AiPlatform.Accounts
import AiPlatform.RequestContexts

/-!
The audit log: the columns of `app/models/audit.py` and what `AuditService` writes.
A refusal is recorded in a transaction of its own, whose failure is swallowed. The
database refuses a row whose text is too long for its column or holds a NUL; what
exceeds a column by blanks alone is cut off.
-/

namespace AiPlatform.Audit

open Agents (Dict Json clip)
open Accounts (Casing)
open Requests (RequestContext)

inductive AuditAction
  | userLogin | userCreated | userUpdated
  deriving DecidableEq

def AuditAction.text : AuditAction → String
  | .userLogin => "USER_LOGIN"
  | .userCreated => "USER_CREATED"
  | .userUpdated => "USER_UPDATED"

inductive AuditResult
  | success | failure | denied
  deriving DecidableEq

def AuditResult.text : AuditResult → String
  | .success => "SUCCESS"
  | .failure => "FAILURE"
  | .denied => "DENIED"

structure AuditLog where
  action : String
  result : String
  userId : Option Uuid
  username : String
  resourceType : Option String
  resourceId : Option String
  message : Option String
  metadata : Json
  sourceIp : Option String
  requestId : Option String
  userAgent : Option String

def clean (text : String) : Bool := !text.toList.contains (Char.ofNat 0)

/-- A `String(limit)` column takes the text. -/
def fits (limit : Nat) (text : String) : Bool :=
  clean text && (text.toList.drop limit).all (· = ' ')

mutual

/-- A `JSONB` column takes the value. -/
def cleanJson : Json → Bool
  | .str value => clean value
  | .arr items => cleanItems items
  | .obj fields => cleanFields fields
  | .null | .bool _ | .num _ | .uuid _ => true

def cleanItems : List Json → Bool
  | [] => true
  | item :: rest => cleanJson item && cleanItems rest

def cleanFields : List (String × Json) → Bool
  | [] => true
  | (key, value) :: rest => clean key && cleanJson value && cleanFields rest

end

def AuditLog.accepted (row : AuditLog) : Bool :=
  fits 64 row.action && fits 16 row.result && fits 150 row.username &&
    row.resourceType.all (fits 64) && row.resourceId.all (fits 255) && row.message.all clean &&
    cleanJson row.metadata && row.sourceIp.all (fits 45) && row.requestId.all (fits 64) &&
    row.userAgent.all (fits 512)

def AuditLog.stored (row : AuditLog) : AuditLog :=
  { row with
    username := clip row.username 150
    resourceType := row.resourceType.map (clip · 64)
    resourceId := row.resourceId.map (clip · 255)
    sourceIp := row.sourceIp.map (clip · 45)
    requestId := row.requestId.map (clip · 64)
    userAgent := row.userAgent.map (clip · 512) }

def redactKeys : List String :=
  ["password", "new_password", "old_password", "secret", "token", "access_token", "refresh_token",
    "api_key", "apikey", "authorization", "private_key", "bind_password", "encryption_key",
    "credentials", "agent_token", "agent_token_encrypted", "enrollment_token"]

/-- `redact`, with the levels it may still go down. -/
def redactTo (casing : Casing) : Nat → Json → Json
  | 0, value => value
  | depth + 1, .obj fields =>
      .obj (fields.map fun (key, value) =>
        (key, if redactKeys.contains (casing.lower key) then .str "[REDACTED]"
          else redactTo casing depth value))
  | depth + 1, .arr items => .arr (items.map (redactTo casing depth))
  | _ + 1, .null => .null
  | _ + 1, .bool value => .bool value
  | _ + 1, .num value => .num value
  | _ + 1, .str value => .str value
  | _ + 1, .uuid id => .uuid id

def redact (casing : Casing) (value : Json) : Json := redactTo casing 7 value

structure Entry where
  action : AuditAction
  result : AuditResult
  userId : Option Uuid
  username : String
  resourceType : Option String
  resourceId : Option String
  message : Option String
  metadata : Dict
  userAgent : Option String

def build (casing : Casing) (context : RequestContext) (entry : Entry) : AuditLog where
  action := entry.action.text
  result := entry.result.text
  userId := entry.userId
  username := entry.username
  resourceType := entry.resourceType
  resourceId := entry.resourceId
  message := entry.message
  metadata := redact casing (.obj entry.metadata)
  sourceIp := context.clientIp
  requestId := some context.requestId
  userAgent := entry.userAgent

/-- `record_independent`, on the committed rows. -/
def recordIndependent (casing : Casing) (context : RequestContext) (rows : List AuditLog)
    (entry : Entry) : List AuditLog :=
  let row := build casing context entry
  if row.accepted then rows ++ [row.stored] else rows

def contextFits (context : RequestContext) : Bool :=
  context.clientIp.all (fits 45) && fits 64 context.requestId

section Records

variable {casing : Casing} {context : RequestContext} {rows : List AuditLog} {entry : Entry}

theorem accepted_iff (username : fits 150 entry.username = true)
    (resourceType : entry.resourceType = none) (resourceId : entry.resourceId = none)
    (message : entry.message.all clean = true)
    (metadata : cleanJson (redact casing (.obj entry.metadata)) = true) :
    (build casing context entry).accepted = true ↔
      contextFits context = true ∧ entry.userAgent.all (fits 512) = true := by
  have action : fits 64 entry.action.text = true := by
    cases entry.action <;> decide
  have result : fits 16 entry.result.text = true := by
    cases entry.result <;> decide
  simp only [AuditLog.accepted, build, contextFits, action, result, username, resourceType,
    resourceId, message, metadata, Option.all_none, Option.all_some, Bool.true_and, Bool.and_true,
    Bool.and_eq_true]

theorem recordIndependent_once (refuses : entry.result ≠ .success) :
    (∃ row, recordIndependent casing context rows entry = rows ++ [row] ∧
        (row.result = AuditResult.failure.text ∨ row.result = AuditResult.denied.text)) ↔
      (build casing context entry).accepted = true := by
  by_cases accepted : (build casing context entry).accepted = true
  · have written : recordIndependent casing context rows entry =
        rows ++ [(build casing context entry).stored] := if_pos accepted
    refine ⟨fun _ => accepted, fun _ => ⟨_, written, ?_⟩⟩
    change entry.result.text = _ ∨ entry.result.text = _
    cases result : entry.result with
    | success => exact absurd result refuses
    | failure => exact .inl rfl
    | denied => exact .inr rfl
  · have unwritten : recordIndependent casing context rows entry = rows := if_neg accepted
    refine ⟨fun once => ?_, fun taken => absurd taken accepted⟩
    obtain ⟨row, same, _⟩ := once
    rw [unwritten] at same
    simpa using congrArg List.length same

end Records

end AiPlatform.Audit
