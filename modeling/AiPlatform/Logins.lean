import AiPlatform.AuditTrail
import AiPlatform.SignIns

/-!
`POST /auth/login`: `AuthService.login` of `app/services/auth.py` within the
transaction of its request. A handler that raises loses what it has changed, and
keeps what the audit service has committed on its own. A password provider other
than the platform is a directory, which answers with the person's entry.
-/

namespace AiPlatform.Logins

open Accounts (Casing Directory ExternalIdentity FederationSettings User)
open Agents (Dict Json)
open Audit (AuditLog AuditResult Entry build clean contextFits fits recordIndependent)
open Requests (Request RequestContext dispatch)

structure TokenPair where
  accessToken : String
  refreshToken : String
  expiresIn : Int

/-- `PasswordHasherService.verify` and `needs_rehash`, the token service and the casing
functions are parameters. -/
structure Settings where
  casing : Casing
  verify : String → String → Bool
  needsRehash : String → Bool
  createAccessToken : String → Dict → String
  createRefreshToken : String → String
  accessTtlSeconds : Int
  federation : FederationSettings
  trustedCidrs : List String

structure LoginRequest where
  username : String
  password : String
  named : 1 ≤ username.length
  short : username.length ≤ 150

/-- What the directory says of a person whose password it has accepted. -/
structure DirectoryEntry where
  dn : String
  email : String
  fullName : Option String
  groups : List String

/-- A login: what the caller sends, and what is drawn or answered while it is handled,
for each external password provider in turn. -/
structure Attempt where
  payload : LoginRequest
  request : Request
  requestId : Uuid
  accountId : Uuid
  hash : String
  answers : List (Except Refusal (Option DirectoryEntry))

def Attempt.context (attempt : Attempt) (settings : Settings) : RequestContext :=
  dispatch attempt.request settings.trustedCidrs attempt.requestId

def Attempt.userAgent (attempt : Attempt) : Option String := attempt.request.headers.get "user-agent"

structure Platform where
  directory : Directory
  failedLoginCount : Uuid → Nat
  auditLogs : List AuditLog

/-- The tables as a request sees them: its own changes and audit rows, and the rows
committed in the meantime. -/
structure Work where
  directory : Directory
  failedLoginCount : Uuid → Nat
  pending : List AuditLog
  committed : List AuditLog

inductive Cause
  | unknownUser | wrongPassword | disabled
  deriving DecidableEq

inductive Raised
  | refused (cause : Cause) (error : AppError)
  | failed (refusal : Refusal)
  -- A row of its own waits for a lock of the request.
  | waits

abbrev Handler := ExceptT Raised (StateM Work)

def orRaise {α : Type} : Except Refusal α → Handler α
  | .ok value => pure value
  | .error refusal => throw (.failed refusal)

def store (directory : Directory) : Handler Unit := modify fun work => { work with directory := directory }

def setCount (id : Uuid) (count : Nat) : Handler Unit :=
  modify fun work => { work with failedLoginCount := Function.update work.failedLoginCount id count }

def getByUsername (settings : Settings) (username : String) : Handler (Option User) := do
  let work ← get
  if clean username then orRaise (work.directory.getByUsername settings.casing username)
  else throw (.failed (.raised "invalid byte sequence for encoding \"UTF8\": 0x00"))

def record (settings : Settings) (context : RequestContext) (entry : Entry) : Handler Unit :=
  let row := build settings.casing context entry
  if row.accepted then modify fun work => { work with pending := work.pending ++ [row.stored] }
  else throw (.failed (.constraint "audit_logs"))

/-- `record_independent`, and the refusal it records. -/
def refuse {α : Type} (settings : Settings) (context : RequestContext) (entry : Entry)
    (cause : Cause) (message : String) : Handler α := do
  modify fun work =>
    { work with committed := recordIndependent settings.casing context work.committed entry }
  throw (.refused cause (authenticationError message))

/-- A `USER_LOGIN` entry. -/
def loginEntry (result : AuditResult) (user : Option User) (username : String)
    (message : Option String) (metadata : Dict) (userAgent : Option String) : Entry :=
  ⟨.userLogin, result, user.map User.id, username, none, none, message, metadata, userAgent⟩

def issue (settings : Settings) (user : User) : TokenPair where
  accessToken := settings.createAccessToken user.id.str
    [("username", .str user.username), ("roles", .arr (user.roles.map .str))]
  refreshToken := settings.createRefreshToken user.id.str
  expiresIn := settings.accessTtlSeconds

def names (items : List String) : Json := .arr (items.map .str)

/-- `sorted` of a set of names. -/
def sorted (items : List String) : Json := names (items.dedup.insertionSort (· ≤ ·))

/-- The values that `_reconcile` has changed. -/
def changed (before after : User) : Dict :=
  (if after.email = before.email then [] else [("email", .str after.email)]) ++
    (if after.fullName = before.fullName then []
      else [("full_name", .str (after.fullName.getD ""))]) ++
    if before.roles ⊆ after.roles ∧ after.roles ⊆ before.roles then []
    else [("roles", sorted after.roles), ("roles_before", sorted before.roles)]

def accountEntry (action : Audit.AuditAction) (user : User) (metadata : Dict) : Entry :=
  ⟨action, .success, some user.id, user.username, some "user", some user.id.str, none, metadata, none⟩

def provision (settings : Settings) (context : RequestContext) (identity : ExternalIdentity)
    (id : Uuid) : Handler User := do
  let work ← get
  let (user, directory) ← orRaise
    (work.directory.provision settings.casing settings.federation identity id)
  store directory
  record settings context (accountEntry .userCreated user
    [("provider", .str identity.provider), ("groups", names identity.groups),
      ("roles", names user.roles), ("auto_provisioned", .bool true)])
  return user

def reconcile (settings : Settings) (context : RequestContext) (identity : ExternalIdentity)
    (user : User) : Handler User := do
  let work ← get
  let (reconciled, directory) ← orRaise
    (work.directory.reconcile settings.casing settings.federation user identity)
  store directory
  let changes := changed user reconciled
  if changes.isEmpty then return reconciled
  else do
    record settings context (accountEntry .userUpdated reconciled
      [("provider", .str identity.provider), ("synced", .obj changes)])
    return reconciled

def resolve (settings : Settings) (context : RequestContext) (identity : ExternalIdentity)
    (id : Uuid) : Handler User := do
  let work ← get
  match ← orRaise (work.directory.find settings.casing identity) with
  | none =>
      if settings.federation.autoProvision then provision settings context identity id
      else
        let provider := identity.provider
        refuse settings context (loginEntry .denied none identity.username
          (some s!"No account, and auto-provisioning is off ({provider})") [] none) .unknownUser
          ("You authenticated successfully, but this platform has no account for you and does " ++
            "not create them automatically. Ask an administrator.")
  | some user => do
      let reconciled ← reconcile settings context identity user
      if reconciled.isActive then return reconciled
      -- The row that was given another address is locked for its key, which the audit
      -- row refers to.
      else if reconciled.email ≠ user.email then throw .waits
      else refuse settings context (loginEntry .denied (some reconciled) reconciled.username
        (some "Account is disabled in the platform") [] none) .disabled "This account is disabled."

def ldap : String := "ldap"

def identityOf (attempt : Attempt) (entry : DirectoryEntry) : ExternalIdentity :=
  ⟨entry.dn, attempt.payload.username, entry.email, ldap, entry.fullName, entry.groups⟩

def tryExternal (settings : Settings) (context : RequestContext) (attempt : Attempt) :
    List (Except Refusal (Option DirectoryEntry)) → Handler (Option TokenPair)
  | [] => return none
  | .error refusal :: _ => throw (.failed refusal)
  | .ok none :: rest => tryExternal settings context attempt rest
  | .ok (some entry) :: _ => do
      let user ← resolve settings context (identityOf attempt entry) attempt.accountId
      setCount user.id 0
      record settings context (loginEntry .success (some user) user.username none
        [("provider", .str ldap)] attempt.userAgent)
      return some (issue settings user)

def localHash (user : User) : Option String :=
  if user.authProvider = "local" then user.hashedPassword else none

def login (settings : Settings) (context : RequestContext) (attempt : Attempt) :
    Handler TokenPair := do
  let found ← getByUsername settings attempt.payload.username
  match found.bind fun user => (localHash user).map fun hash => (user, hash) with
  | none => do
      match ← tryExternal settings context attempt attempt.answers with
      | some pair => return pair
      | none =>
          refuse settings context (loginEntry .failure none attempt.payload.username
            (some "Unknown user, or no provider accepted the credential") [] attempt.userAgent)
            .unknownUser "Incorrect username or password."
  | some (user, hash) => do
      if !settings.verify hash attempt.payload.password then do
        let work ← get
        let count := work.failedLoginCount user.id + 1
        setCount user.id count
        refuse settings context (loginEntry .failure (some user) user.username
          (some "Incorrect password") [("failed_login_count", .num count)] attempt.userAgent)
          .wrongPassword "Incorrect username or password."
      else if !user.isActive then
        refuse settings context (loginEntry .denied (some user) user.username
          (some "Account is disabled") [] attempt.userAgent) .disabled "This account is disabled."
      else do
        if settings.needsRehash hash then
          let work ← get
          store (← orRaise (work.directory.put { user with hashedPassword := some attempt.hash }))
        setCount user.id 0
        record settings context
          (loginEntry .success (some user) user.username none [] attempt.userAgent)
        return issue settings user

inductive Ending
  | answered (pair : TokenPair)
  | raised (raised : Raised)

/-- The endpoint within `session_scope`. -/
def serve (settings : Settings) (attempt : Attempt) (platform : Platform) : Ending × Platform :=
  let work : Work := ⟨platform.directory, platform.failedLoginCount, [], platform.auditLogs⟩
  match ((login settings (attempt.context settings) attempt).run).run work with
  | (.ok pair, after) =>
      (.answered pair, ⟨after.directory, after.failedLoginCount, after.committed ++ after.pending⟩)
  | (.error raised, after) => (.raised raised, { platform with auditLogs := after.committed })

end AiPlatform.Logins
