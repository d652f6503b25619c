import AiPlatform.Accounts

/-!
`FederationService` of `app/services/federation.py`: what an identity asserted by
an external provider resolves to. Audit records and warnings are left out.
-/

namespace AiPlatform.Accounts

structure ExternalIdentity where
  subject : String
  username : String
  email : String
  provider : String
  fullName : Option String
  groups : List String

structure FederationSettings where
  roleMapping : List (String × String)
  defaultRoles : List String
  syncRolesOnLogin : Bool
  autoProvision : Bool

/-- `Role.SUPER_ADMIN` -/
def superAdmin : String := "SUPER_ADMIN"

/-- `{k.casefold(): v for k, v in role_mapping.items()}.get(group.casefold())`: of
keys that fold to one text the last one counts. -/
def FederationSettings.mapped (settings : FederationSettings) (casing : Casing)
    (group : String) : Option String :=
  (settings.roleMapping.reverse.find? fun entry =>
    casing.casefold entry.1 = casing.casefold group).map (·.2)

def wantRole (settings : FederationSettings) (casing : Casing) (wanted : List String)
    (group : String) : List String :=
  match settings.mapped casing group with
  | some name => if name ≠ "" ∧ name ∉ wanted then wanted ++ [name] else wanted
  | none => wanted

def wantedRoles (settings : FederationSettings) (casing : Casing) (groups : List String) :
    List String :=
  groups.foldl (wantRole settings casing) []

namespace Directory

def rolesFor (directory : Directory) (casing : Casing) (settings : FederationSettings)
    (identity : ExternalIdentity) : List String :=
  let wanted := wantedRoles settings casing identity.groups
  let wanted := if wanted.isEmpty then settings.defaultRoles else wanted
  wanted.filter fun name => name ≠ superAdmin && name ∈ directory.roles

/-- `_find`. An account found without a subject comes back with the one asserted. -/
def find (directory : Directory) (casing : Casing) (identity : ExternalIdentity) :
    Except Refusal (Option User) := do
  match ← directory.getByExternalSubject identity.provider identity.subject with
  | some existing => return some existing
  | none =>
      match ← directory.getByUsername casing identity.username with
      | none => return none
      | some byUsername =>
          if byUsername.authProvider = "local" then
            throw (.app (authenticationError (s!"A local platform account already uses the " ++
              s!"name '{identity.username}'. Sign in with its password, or ask an " ++
              "administrator to rename one of them. The platform will not attach a directory " ++
              "identity to a local account.")))
          else if byUsername.authProvider ≠ identity.provider then
            throw (.app (authenticationError (s!"The account '{identity.username}' belongs to " ++
              s!"the '{byUsername.authProvider}' provider, not '{identity.provider}'.")))
          else if byUsername.externalSubject ≠ none ∧
              byUsername.externalSubject ≠ some identity.subject then
            throw (.app (authenticationError (s!"The username '{identity.username}' already " ++
              "belongs to a different directory account on this platform. An administrator " ++
              "needs to rename or remove the old one — the platform will not transfer an " ++
              "existing account to a new directory identity.")))
          else return some { byUsername with externalSubject := some identity.subject }

def provision (directory : Directory) (casing : Casing) (settings : FederationSettings)
    (identity : ExternalIdentity) (id : Uuid) : Except Refusal (User × Directory) := do
  let holder ← directory.getByEmail casing identity.email
  raiseIf holder.isSome (.app (authenticationError
    s!"Another platform account already uses the address '{identity.email}'."))
  let roles ← storeRoles [] (directory.rolesFor casing settings identity)
  let user : User := {
    id := id
    username := identity.username
    email := identity.email
    fullName := identity.fullName
    hashedPassword := none
    authProvider := identity.provider
    externalSubject := some identity.subject
    isActive := true
    isSuperuser := false
    roles := roles }
  let directory ← directory.store (directory.users ++ [user])
  return (user, directory)

/-- The address after `_reconcile`: one that another account holds is skipped. -/
def reconciledEmail (directory : Directory) (casing : Casing) (user : User)
    (identity : ExternalIdentity) : Except Refusal String := do
  if identity.email ≠ "" ∧ user.email ≠ identity.email then
    match ← directory.getByEmail casing identity.email with
    | none => return identity.email
    | some _ => return user.email
  else return user.email

/-- The roles after `_reconcile`. -/
def reconciledRoles (directory : Directory) (casing : Casing) (settings : FederationSettings)
    (user : User) (identity : ExternalIdentity) : Except Refusal (List String) :=
  let desired := directory.rolesFor casing settings identity
  if settings.syncRolesOnLogin ∧ ¬ (user.roles ⊆ desired ∧ desired ⊆ user.roles) then
    storeRoles user.roles desired
  else .ok user.roles

def reconcile (directory : Directory) (casing : Casing) (settings : FederationSettings)
    (user : User) (identity : ExternalIdentity) : Except Refusal (User × Directory) := do
  let email ← directory.reconciledEmail casing user identity
  let fullName := (identity.fullName.filter (· ≠ "")).or user.fullName
  let roles ← directory.reconciledRoles casing settings user identity
  let user := { user with email := email, fullName := fullName, roles := roles }
  let directory ← directory.put user
  return (user, directory)

/-- The account of the identity; `id` is the one a new row would get. -/
def findOrProvision (directory : Directory) (casing : Casing) (settings : FederationSettings)
    (identity : ExternalIdentity) (id : Uuid) : Except Refusal (User × Directory) := do
  match ← directory.find casing identity with
  | none =>
      if settings.autoProvision then directory.provision casing settings identity id
      else throw (.app (authenticationError ("You authenticated successfully, but this " ++
        "platform has no account for you and does not create them automatically. Ask an " ++
        "administrator.")))
  | some user => directory.reconcile casing settings user identity

def resolve (directory : Directory) (casing : Casing) (settings : FederationSettings)
    (identity : ExternalIdentity) (id : Uuid) : Except Refusal (User × Directory) := do
  let (user, directory) ← directory.findOrProvision casing settings identity id
  raiseIf (user.isActive = false) (.app (authenticationError "This account is disabled."))
  return (user, directory)

end Directory

/-- What happens to the accounts. `addRow` stands for any insertion outside the
services, as of an account made ahead of the first sign-in. -/
inductive Op
  | signIn (settings : FederationSettings) (identity : ExternalIdentity) (id : Uuid)
  | createUser (id : Uuid) (username email password hash : String) (fullName : Option String)
      (roleNames : List String)
  | addRow (user : User)
  | setActive (userId : Uuid) (active : Bool) (actor : Uuid)
  | assignRoles (userId : Uuid) (roleNames : List String)
  | addRole (name : String)

def Directory.step (casing : Casing) (directory : Directory) : Op → Option Directory
  | .signIn settings identity id =>
      (directory.resolve casing settings identity id).toOption.map (·.2)
  | .createUser id username email password hash fullName roleNames =>
      (directory.createUser casing id username email password hash fullName
        roleNames).toOption.map (·.2)
  | .addRow user => (directory.store (directory.users ++ [user])).toOption
  | .setActive userId active actor => (directory.setActive userId active actor).toOption
  | .assignRoles userId roleNames => (directory.assignRoles userId roleNames).toOption
  | .addRole name =>
      if name ∈ directory.roles then none
      else some { directory with roles := directory.roles ++ [name] }

end AiPlatform.Accounts
