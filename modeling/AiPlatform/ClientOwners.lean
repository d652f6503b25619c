import AiPlatform.Accounts
import AiPlatform.ApiKeys

/-!
Whose permissions an agent run has that is started through the gateway. An API
client belongs to the person who registered it, and a run with a key of the client
takes that person's permissions. Whoever may manage API keys may mint and rotate
keys of any client. The requests are those of `app/api/v1/models.py` and
`app/services/api_keys.py`, and the run's actor is that of `resolve_actor` in
`app/services/agent_gateway.py`.
-/

namespace AiPlatform.ClientOwners

open Accounts (Directory User)
open ApiKeys (ApiKey Keyring Minted)

/-- `api_clients`, with the columns of a registration. -/
structure ApiClient extends ApiKeys.ApiClient where
  description : Option String
  ownerId : Option Uuid
  trustedIdentityHeaders : Bool
  identityJwtSecretEncrypted : Option String

/-- `PERMISSION_CATALOGUE`, and what the cipher makes of a secret. -/
structure Settings where
  permissionCatalogue : List String
  encrypt : String → String

structure Portal where
  directory : Directory
  /-- The permissions of each role. -/
  permissions : String → List String
  clients : List ApiClient
  keys : List ApiKey
  now : Int

inductive Denial
  | tokenError (message : String)
  | permissionDenied (message : String) (details : List (String × String))
  | refused (refusal : Refusal)

namespace Portal

def effectivePermissions (portal : Portal) (user : User) : List String :=
  user.roles.flatMap portal.permissions

def hasPermission (portal : Portal) (user : User) (permission : String) : Bool :=
  user.isSuperuser || (portal.effectivePermissions user).contains permission

/-- `_permissions_of`, of a run with the actor. -/
def permissionsOf (settings : Settings) (portal : Portal) (user : User) : List String :=
  if user.isSuperuser then settings.permissionCatalogue else portal.effectivePermissions user

/-- `UserRepository.get` -/
def getUser (portal : Portal) (id : Uuid) : Option User := Rows.get User.id portal.directory.users id

/-- `Perm.APIKEY_MANAGE` -/
def apikeyManage : String := "apikey.manage"

/-- `require_permission`, for the user of an access token. -/
def requirePermission (portal : Portal) (userId : Uuid) (permission : String) :
    Except Denial User :=
  match portal.getUser userId with
  | none => .error (.tokenError "The user this token refers to no longer exists.")
  | some user =>
      if !user.isActive then .error (.refused (.app (authenticationError "This account is disabled.")))
      else if !portal.hasPermission user permission then
        .error (.permissionDenied s!"This action requires the '{permission}' permission."
          [("required_permission", permission)])
      else .ok user

def resolveActor (portal : Portal) (key : Option ApiKey) : Except Denial User :=
  let client := key.bind fun key => Rows.get (·.id) portal.clients key.clientId
  match client.bind ApiClient.ownerId with
  | none => .error (.permissionDenied ("This API client has no owner, so agent runs cannot be " ++
      "authorised. Assign an owner to the client before invoking an agent through the gateway.") [])
  | some ownerId =>
      match portal.getUser ownerId with
      | none => .error (.permissionDenied ("The owner of this API client is missing or " ++
          "disabled, so agent runs cannot be authorised.") [])
      | some owner =>
          if owner.isActive then .ok owner
          else .error (.permissionDenied ("The owner of this API client is missing or " ++
            "disabled, so agent runs cannot be authorised.") [])

def ring (portal : Portal) : Keyring :=
  ⟨portal.clients.map ApiClient.toApiClient, portal.keys, portal.now⟩

def withRing (portal : Portal) (ring : Keyring) : Portal :=
  { portal with keys := ring.keys, now := ring.now }

/-- `create_client`, where the database refuses an id that is taken. -/
def createClient (settings : Settings) (portal : Portal) (id : Uuid) (name : String)
    (description : Option String) (actor : User) (trustedIdentityHeaders : Bool)
    (identityJwtSecret : Option String) : Except Refusal (ApiClient × Portal) := do
  raiseIf (portal.clients.any fun client => client.name = name)
    (.app (conflictError s!"An API client named '{name}' already exists." []))
  raiseIf (identityJwtSecret.any (· ≠ "") ∧ trustedIdentityHeaders = false)
    (.app (validationError ("identity_jwt_secret is meaningless without " ++
      "trusted_identity_headers: the signature would be verified and then the identity " ++
      "discarded.") []))
  raiseIf (portal.clients.any fun client => client.id = id) (.constraint "api_clients")
  let client : ApiClient := {
    id := id
    name := name
    description := description
    ownerId := some actor.id
    trustedIdentityHeaders := trustedIdentityHeaders
    identityJwtSecretEncrypted := (identityJwtSecret.filter (· ≠ "")).map settings.encrypt }
  return (client, { portal with clients := portal.clients ++ [client] })

end Portal

/-- A request of the person with the id. Administration comes as what it makes of the
accounts and of the permissions of roles; no account is ever removed. -/
inductive Op
  | administer (directory : Directory) (permissions : String → List String)
  | createClient (actorId id : Uuid) (name : String) (description : Option String)
      (trustedIdentityHeaders : Bool) (identityJwtSecret : Option String)
  | createKey (actorId : Uuid) (minted : Minted) (clientId : Uuid) (name : String)
      (rateLimitPerMinute : Int) (expiresAt : Option Int) (scopes : List String)
  | rotateKey (actorId : Uuid) (minted : Minted) (pause : Nat) (keyId : Uuid) (graceHours : Int)
  | revokeKey (actorId keyId : Uuid)
  | wait (moments : Nat)

structure Handing where
  actor : User
  key : ApiKey
  plaintext : String

namespace Portal

def checked {α : Type} (result : Except Refusal α) : Except Denial α :=
  result.mapError .refused

/-- `create_api_key` and `rotate_api_key`, the requests that answer with a plaintext. -/
def mint (portal : Portal) : Op → Except Denial (Handing × Portal)
  | .createKey actorId minted clientId name rateLimitPerMinute expiresAt scopes => do
      let actor ← portal.requirePermission actorId apikeyManage
      let (key, secret, ring) ← checked (portal.ring.createKey minted clientId name
        rateLimitPerMinute expiresAt scopes actor.id)
      return (⟨actor, key, secret⟩, portal.withRing ring)
  | .rotateKey actorId minted pause keyId graceHours => do
      let actor ← portal.requirePermission actorId apikeyManage
      let (newKey, secret, _, ring) ← checked (portal.ring.rotateKey minted pause keyId graceHours
        actor.id)
      return (⟨actor, newKey, secret⟩, portal.withRing ring)
  | .administer .. | .createClient .. | .revokeKey .. | .wait _ =>
      .error (.refused (.raised "Not a request that mints a key."))

/-- The accounts are still there. -/
abbrev Keeps (before after : Directory) : Prop :=
  after.Constrained ∧ ∀ user ∈ before.users, user.id ∈ after.users.map User.id

end Portal

/-- The portal, and the person who sent each request that registered a client. -/
structure Ledger where
  portal : Portal
  registered : List (Uuid × Uuid)

open Portal in
def Ledger.step (settings : Settings) (ledger : Ledger) : Op → Option Ledger
  | .administer directory permissions =>
      if Keeps ledger.portal.directory directory then
        some { ledger with
          portal := { ledger.portal with directory := directory, permissions := permissions } }
      else none
  | .createClient actorId id name description trusted secret =>
      match ledger.portal.requirePermission actorId apikeyManage with
      | .error _ => none
      | .ok actor =>
          match ledger.portal.createClient settings id name description actor trusted secret with
          | .error _ => none
          | .ok (client, portal) => some ⟨portal, ledger.registered ++ [(client.id, actorId)]⟩
  | .revokeKey actorId keyId =>
      match ledger.portal.requirePermission actorId apikeyManage with
      | .error _ => none
      | .ok _ =>
          match ledger.portal.ring.revokeKey keyId with
          | .error _ => none
          | .ok (_, ring) => some { ledger with portal := ledger.portal.withRing ring }
  | .wait moments =>
      some { ledger with portal := ledger.portal.withRing (ledger.portal.ring.wait moments) }
  | op =>
      match ledger.portal.mint op with
      | .error _ => none
      | .ok (_, portal) => some { ledger with portal := portal }

/-- A run with the key, started when the key is handed over, may do nothing that the
person may not. -/
def Contained (settings : Settings) (portal : Portal) (handing : Handing) : Prop :=
  ∀ owner, portal.resolveActor (some handing.key) = .ok owner →
    portal.permissionsOf settings owner ⊆ portal.permissionsOf settings handing.actor

def Op.actorId : Op → Option Uuid
  | .administer .. | .wait _ => none
  | .createClient actorId .. | .createKey actorId .. | .rotateKey actorId ..
  | .revokeKey actorId _ => some actorId

def Op.clientId (portal : Portal) : Op → Option Uuid
  | .createKey _ _ clientId _ _ _ _ => some clientId
  | .rotateKey _ _ _ keyId _ => (Rows.get ApiKey.id portal.keys keyId).map ApiKey.clientId
  | .administer .. | .createClient .. | .revokeKey .. | .wait _ => none

/-- The person has every permission of whoever registered the client, unless that
account is disabled. -/
def Covered (settings : Settings) (ledger : Ledger) (op : Op) : Prop :=
  ∀ clientId registrant, op.clientId ledger.portal = some clientId →
    (clientId, registrant) ∈ ledger.registered →
    ∀ owner, ledger.portal.getUser registrant = some owner → owner.isActive = true →
    ∀ actor, op.actorId.bind ledger.portal.getUser = some actor →
      ledger.portal.permissionsOf settings owner ⊆ ledger.portal.permissionsOf settings actor

def opened (directory : Directory) (permissions : String → List String) (now : Int) : Ledger :=
  ⟨⟨directory, permissions, [], [], now⟩, []⟩

structure Owned (ledger : Ledger) : Prop where
  ids : (ledger.portal.clients.map (·.id)).Nodup
  owner : ∀ client ∈ ledger.portal.clients, ∃ registrant,
    client.ownerId = some registrant ∧ (client.id, registrant) ∈ ledger.registered
  client : ∀ clientId registrant, (clientId, registrant) ∈ ledger.registered →
    ∃ client ∈ ledger.portal.clients, client.id = clientId ∧ client.ownerId = some registrant

section Steps

variable {settings : Settings} {ledger : Ledger} {portal after : Portal}

theorem requirePermission_ok {userId : Uuid} {permission : String} {user : User}
    (passes : portal.requirePermission userId permission = .ok user) :
    portal.getUser userId = some user := by
  unfold Portal.requirePermission at passes
  split at passes
  · cases passes
  · rename_i found
    split at passes
    · cases passes
    · split at passes
      · cases passes
      · rw [found, Except.ok.inj passes]

theorem createKey_client {ring next : Keyring} {minted : Minted} {clientId actor : Uuid}
    {name plaintext : String} {rateLimit : Int} {expiresAt : Option Int} {scopes : List String}
    {key : ApiKey}
    (created : ring.createKey minted clientId name rateLimit expiresAt scopes actor =
      .ok (key, plaintext, next)) : key.clientId = clientId := by
  unfold Keyring.createKey at created
  split at created
  · cases created
  · rename_i client found
    split at created
    · cases created
    · split at created
      · cases created
      · cases created
        exact (Rows.get_some found).2

theorem rotateKey_client {ring next : Keyring} {minted : Minted} {pause : Nat}
    {keyId actor : Uuid} {graceHours : Int} {plaintext : String} {key superseded : ApiKey}
    (rotated : ring.rotateKey minted pause keyId graceHours actor =
      .ok (key, plaintext, superseded, next)) :
    (Rows.get ApiKey.id ring.keys keyId).map ApiKey.clientId = some key.clientId := by
  unfold Keyring.rotateKey at rotated
  split at rotated
  · cases rotated
  · rename_i old found
    split at rotated
    · cases rotated
    · split at rotated
      · cases rotated
      · obtain ⟨⟨newKey, secret, ring⟩, created, rest⟩ := bind_ok.mp rotated
        cases rest
        rw [found, createKey_client created]
        rfl

theorem checked_ok {α : Type} {result : Except Refusal α} {value : α}
    (passes : Portal.checked result = .ok value) : result = .ok value := by
  cases result with
  | error refusal => cases passes
  | ok value => exact congrArg Except.ok (Except.ok.inj passes)

structure Mints (portal : Portal) (op : Op) (handing : Handing) (after : Portal) : Prop where
  actor : op.actorId.bind portal.getUser = some handing.actor
  client : op.clientId portal = some handing.key.clientId
  same : ∃ ring, after = portal.withRing ring

theorem mint_ok {op : Op} {handing : Handing} (minted : portal.mint op = .ok (handing, after)) :
    Mints portal op handing after := by
  cases op with
  | createKey actorId drawn clientId name rateLimit expiresAt scopes =>
      obtain ⟨actor, passes, minted⟩ := bind_ok.mp minted
      obtain ⟨⟨key, secret, ring⟩, created, minted⟩ := bind_ok.mp minted
      cases minted
      refine ⟨requirePermission_ok passes, ?_, ring, rfl⟩
      exact congrArg some (createKey_client (checked_ok created)).symm
  | rotateKey actorId drawn pause keyId graceHours =>
      obtain ⟨actor, passes, minted⟩ := bind_ok.mp minted
      obtain ⟨⟨key, secret, old, ring⟩, rotated, minted⟩ := bind_ok.mp minted
      cases minted
      exact ⟨requirePermission_ok passes, rotateKey_client (checked_ok rotated), ring, rfl⟩
  | administer directory permissions => cases minted
  | createClient actorId id name description trusted secret => cases minted
  | revokeKey actorId keyId => cases minted
  | wait moments => cases minted

theorem createClient_ok {id : Uuid} {name : String} {description : Option String} {actor : User}
    {trusted : Bool} {secret : Option String} {client : ApiClient}
    (created : portal.createClient settings id name description actor trusted secret =
      .ok (client, after)) :
    (∀ other ∈ portal.clients, other.id ≠ client.id) ∧ client.ownerId = some actor.id ∧
      after = { portal with clients := portal.clients ++ [client] } := by
  obtain ⟨_, _, created⟩ := bind_ok.mp created
  obtain ⟨_, _, created⟩ := bind_ok.mp created
  obtain ⟨_, free, created⟩ := bind_ok.mp created
  cases created
  rw [raiseIf_ok] at free
  refine ⟨fun other member same => free ?_, rfl, rfl⟩
  exact List.any_eq_true.mpr ⟨other, member, decide_eq_true same⟩

theorem owned_step {op : Op} {next : Ledger} (stepped : ledger.step settings op = some next)
    (owned : Owned ledger) : Owned next := by
  cases op with
  | administer directory permissions =>
      simp only [Ledger.step] at stepped
      split at stepped
      · cases stepped
        exact ⟨owned.ids, owned.owner, owned.client⟩
      · cases stepped
  | createClient actorId id name description trusted secret =>
      simp only [Ledger.step] at stepped
      split at stepped
      · cases stepped
      · rename_i actor passes
        split at stepped
        · cases stepped
        · rename_i client portal created
          cases stepped
          obtain ⟨fresh, own, rfl⟩ := createClient_ok created
          obtain ⟨_, same⟩ := Rows.get_some (requirePermission_ok passes)
          rw [same] at own
          constructor
          · exact distinct_concat _ owned.ids fresh
          · intro other member
            obtain before | last := List.mem_append.mp member
            · obtain ⟨registrant, owner, there⟩ := owned.owner other before
              exact ⟨registrant, owner, List.mem_append_left _ there⟩
            · rw [List.mem_singleton.mp last]
              exact ⟨actorId, own, List.mem_append_right _ (List.mem_singleton_self _)⟩
          · intro clientId registrant member
            obtain before | last := List.mem_append.mp member
            · obtain ⟨other, there, found⟩ := owned.client clientId registrant before
              exact ⟨other, List.mem_append_left _ there, found⟩
            · cases List.mem_singleton.mp last
              exact ⟨client, List.mem_append_right _ (List.mem_singleton_self _), rfl, own⟩
  | revokeKey actorId keyId =>
      simp only [Ledger.step] at stepped
      split at stepped
      · cases stepped
      · split at stepped
        · cases stepped
        · cases stepped
          exact ⟨owned.ids, owned.owner, owned.client⟩
  | wait moments =>
      cases stepped
      exact ⟨owned.ids, owned.owner, owned.client⟩
  | createKey actorId minted clientId name rateLimit expiresAt scopes =>
      simp only [Ledger.step] at stepped
      split at stepped
      · cases stepped
      · rename_i portal minted
        cases stepped
        obtain ⟨ring, rfl⟩ := (mint_ok minted).same
        exact ⟨owned.ids, owned.owner, owned.client⟩
  | rotateKey actorId minted pause keyId graceHours =>
      simp only [Ledger.step] at stepped
      split at stepped
      · cases stepped
      · rename_i portal minted
        cases stepped
        obtain ⟨ring, rfl⟩ := (mint_ok minted).same
        exact ⟨owned.ids, owned.owner, owned.client⟩

theorem resolveActor_iff (owned : Owned ledger) (key : ApiKey) (owner : User) :
    ledger.portal.resolveActor (some key) = .ok owner ↔
      ∃ registrant, (key.clientId, registrant) ∈ ledger.registered ∧
        ledger.portal.getUser registrant = some owner ∧ owner.isActive = true := by
  unfold Portal.resolveActor
  constructor
  · intro resolved
    simp only [Option.bind_some] at resolved
    split at resolved
    · cases resolved
    · rename_i ownerId found
      obtain ⟨client, present, own⟩ := Option.bind_eq_some_iff.mp found
      obtain ⟨member, same⟩ := Rows.get_some present
      obtain ⟨registrant, owner', there⟩ := owned.owner client member
      rw [own] at owner'
      cases owner'
      rw [same] at there
      split at resolved
      · cases resolved
      · rename_i user known
        split at resolved
        · rename_i active
          cases resolved
          exact ⟨ownerId, there, known, active⟩
        · cases resolved
  · rintro ⟨registrant, there, known, active⟩
    obtain ⟨client, member, same, own⟩ := owned.client _ _ there
    have present : Rows.get (·.id) ledger.portal.clients key.clientId = some client := by
      rw [← same]
      exact Rows.get_row owned.ids member
    simp [present, own, known, active]

end Steps

section Runs

variable {settings : Settings} {directory : Directory} {permissions : String → List String}
  {now : Int} {ledger : Ledger}

theorem owned_reached
    (reached : History (Ledger.step settings) (fun _ _ => True) (opened directory permissions now)
      ledger) : Owned ledger := by
  have first : Owned (opened directory permissions now) :=
    ⟨List.nodup_nil, fun _ member => (nomatch member), fun _ _ member => nomatch member⟩
  exact reached.keeps Owned first fun _ _ _ _ stepped owned => owned_step stepped owned

-- Whoever registered the client of a rotated key did so for every key before it.
theorem key_is_contained_iff
    (reached : History (Ledger.step settings) (fun _ _ => True) (opened directory permissions now)
      ledger)
    {op : Op} {handing : Handing} {after : Portal}
    (minted : ledger.portal.mint op = .ok (handing, after)) :
    Contained settings after handing ↔ Covered settings ledger op := by
  have owned := owned_reached reached
  obtain ⟨actor, client, ring, rfl⟩ := mint_ok minted
  have resolves (owner : User) :
      (ledger.portal.withRing ring).resolveActor (some handing.key) = .ok owner ↔ _ :=
    resolveActor_iff owned handing.key owner
  constructor
  · intro contained clientId registrant named there owner known active person asked
    cases client.symm.trans named
    cases actor.symm.trans asked
    exact contained owner ((resolves owner).mpr ⟨registrant, there, known, active⟩)
  · intro covered owner resolved
    obtain ⟨registrant, there, known, active⟩ := (resolves owner).mp resolved
    exact covered _ registrant client there owner known active _ actor

end Runs

def site : Settings := ⟨["apikey.manage", "tool.execute"], id⟩

def admin : User :=
  ⟨⟨1⟩, "admin", "admin@example.com", none, none, "local", none, true, true, []⟩

def developer : User :=
  ⟨⟨2⟩, "dev", "dev@example.com", none, none, "local", none, true, false, ["DEVELOPER"]⟩

def start : Ledger := opened ⟨[admin, developer], ["DEVELOPER"]⟩ (fun _ => ["apikey.manage"]) 0

def registers : Op := .createClient admin.id ⟨10⟩ "chat" none false none

def drawn : Minted := ⟨⟨20⟩, "sk-1", "sk-", "hash"⟩

def asks (person : User) : Op := .createKey person.id drawn ⟨10⟩ "key" 120 none []

def handed (person : User) : Option (Ledger × Handing × Portal) :=
  (replay (Ledger.step site) (fun _ _ => true) start [registers]).bind fun ledger =>
    (ledger.portal.mint (asks person)).toOption.map fun minted => (ledger, minted)

theorem handed_some {person : User} {ledger : Ledger} {handing : Handing} {portal : Portal}
    (found : handed person = some (ledger, handing, portal)) :
    History (Ledger.step site) (fun _ _ => True) start ledger ∧
      ledger.portal.mint (asks person) = .ok (handing, portal) := by
  simp only [handed, Option.bind_eq_some_iff, Option.map_eq_some_iff, Prod.mk.injEq] at found
  obtain ⟨_, replayed, _, minted, rfl, rfl⟩ := found
  exact ⟨history_replay (fun _ _ _ => trivial) [registers] replayed, toOption_some.mp minted⟩

theorem own_key_is_contained : ∃ ledger handing portal,
    handed admin = some (ledger, handing, portal) ∧
      (Contained site portal handing ↔ Covered site ledger (asks admin)) := by
  refine ⟨_, _, _, rfl, ?_⟩
  obtain ⟨reached, minted⟩ := @handed_some admin _ _ _ rfl
  exact key_is_contained_iff reached minted

/-- The developer is handed a key whose runs may execute tools. -/
theorem foreign_key_escalates : ∃ ledger handing portal,
    History (Ledger.step site) (fun _ _ => True) start ledger ∧
      ledger.portal.mint (asks developer) = .ok (handing, portal) ∧
      handing.actor = developer ∧ ¬Contained site portal handing := by
  obtain ⟨reached, minted⟩ := @handed_some developer _ _ _ rfl
  refine ⟨_, _, _, reached, minted, rfl, fun contained => ?_⟩
  have more := contained admin rfl
  have escalates : "tool.execute" ∈ ["apikey.manage"] := more (by decide)
  exact absurd escalates (by decide)

end AiPlatform.ClientOwners
