import AiPlatform.Errors
import AiPlatform.Histories
import AiPlatform.Rows
import AiPlatform.Uuid
import Mathlib.Data.List.Dedup

/-!
The `users` table of `app/models/auth.py` with its unique columns, the lookups of
`app/repositories/user.py`, and what `app/services/user.py` lets an
administrator do. The roles of an account are a set of names; `lower` and
`casefold` are those of Python, `dbLower` is that of the database. Times of
sign-ins and failure counts are left out, which nothing here reads.
-/

namespace AiPlatform.Accounts

structure Casing where
  lower : String → String
  casefold : String → String
  dbLower : String → String

structure User where
  id : Uuid
  username : String
  email : String
  fullName : Option String
  hashedPassword : Option String
  authProvider : String
  externalSubject : Option String
  isActive : Bool
  isSuperuser : Bool
  roles : List String
  deriving DecidableEq

structure Directory where
  users : List User
  /-- The names in the `roles` table. -/
  roles : List String

/-- The pair of `uq_users_provider_subject`, which skips rows without a subject. -/
def User.claim (user : User) : Option (String × String) :=
  user.externalSubject.map fun subject => (user.authProvider, subject)

namespace Directory

/-- The unique columns. -/
abbrev Constrained (directory : Directory) : Prop :=
  (directory.users.map User.id).Nodup ∧ (directory.users.map User.username).Nodup ∧
    (directory.users.map User.email).Nodup ∧ (directory.users.filterMap User.claim).Nodup

def store (directory : Directory) (users : List User) : Except Refusal Directory :=
  if Constrained { directory with users := users } then .ok { directory with users := users }
  else .error (.constraint "users")

def scalarOneOrNone {Row : Type} : List Row → Except Refusal (Option Row)
  | [] => .ok none
  | [row] => .ok (some row)
  | _ => .error (.raised "Multiple rows were found when one or none was required")

def getByUsername (directory : Directory) (casing : Casing) (username : String) :
    Except Refusal (Option User) :=
  scalarOneOrNone (directory.users.filter fun user =>
    casing.dbLower user.username = casing.lower username)

def getByExternalSubject (directory : Directory) (provider subject : String) :
    Except Refusal (Option User) :=
  scalarOneOrNone (directory.users.filter fun user =>
    user.authProvider = provider && user.externalSubject = some subject)

def getByEmail (directory : Directory) (casing : Casing) (email : String) :
    Except Refusal (Option User) :=
  scalarOneOrNone (directory.users.filter fun user =>
    casing.dbLower user.email = casing.lower email)

/-- The rows of `user_roles` after an assignment. A role that is added twice
breaks the key of that table; one the account already has is left alone. -/
def storeRoles (before desired : List String) : Except Refusal (List String) :=
  if (desired.filter (· ∉ before)).Nodup then .ok desired.dedup
  else .error (.constraint "user_roles")

def put (directory : Directory) (user : User) : Except Refusal Directory :=
  directory.store (Rows.amend User.id user.id (fun _ => user) directory.users)

def requireRoles (directory : Directory) (roleNames : List String)
    (details : String → List (String × String)) : Except Refusal Unit :=
  match roleNames.find? (· ∉ directory.roles) with
  | some name => .error (.app (validationError s!"No such role: '{name}'." (details name)))
  | none => .ok ()

/-- `create_user`, with the hash of the password. -/
def createUser (directory : Directory) (casing : Casing) (id : Uuid) (username email : String)
    (password hash : String) (fullName : Option String) (roleNames : List String) :
    Except Refusal (User × Directory) := do
  raiseIf (password.length < 12) (.app (validationError
    "Password must be at least 12 characters." [("field", "password")]))
  let named ← directory.getByUsername casing username
  raiseIf named.isSome (.app (conflictError
    s!"The username '{username}' is already taken." [("field", "username")]))
  let addressed ← directory.getByEmail casing email
  raiseIf addressed.isSome (.app (conflictError
    s!"The email '{email}' is already registered." [("field", "email")]))
  directory.requireRoles roleNames fun name => [("field", "roles"), ("value", name)]
  let roles ← storeRoles [] roleNames
  let user : User := {
    id := id
    username := username
    email := email
    fullName := fullName
    hashedPassword := some hash
    authProvider := "local"
    externalSubject := none
    isActive := true
    isSuperuser := false
    roles := roles }
  let directory ← directory.store (directory.users ++ [user])
  return (user, directory)

def getUser (directory : Directory) (userId : Uuid) : Except Refusal User :=
  match Rows.get User.id directory.users userId with
  | none => .error (.app (notFoundError s!"No user with id {userId.str}."))
  | some user => .ok user

def setActive (directory : Directory) (userId : Uuid) (active : Bool) (actor : Uuid) :
    Except Refusal Directory := do
  let user ← directory.getUser userId
  raiseIf (user.id = actor ∧ active = false) (.app (validationError
    "You cannot disable your own account." []))
  directory.put { user with isActive := active }

def assignRoles (directory : Directory) (userId : Uuid) (roleNames : List String) :
    Except Refusal Directory := do
  let user ← directory.getUser userId
  directory.requireRoles roleNames fun _ => []
  let roles ← storeRoles user.roles roleNames
  directory.put { user with roles := roles }

end Directory

end AiPlatform.Accounts
