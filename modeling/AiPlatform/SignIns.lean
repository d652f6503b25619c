import AiPlatform.Federation

/-!
Sign-ins over whole histories of the accounts. What a row is bound to, the
provider, the subject once it has one and whether it is a superuser, is never
rebound, so an identity keeps its account and an account its identity.
-/

namespace AiPlatform.Accounts

def FederationSettings.Maps (settings : FederationSettings) (casing : Casing)
    (groups : List String) (name : String) : Prop :=
  name ≠ "" ∧ ∃ group ∈ groups, settings.mapped casing group = some name

/-- The roles that the mapping gives, or the defaults where no group matches:
those the platform knows, and never the one that bypasses all checks. -/
def Directory.Grants (directory : Directory) (casing : Casing) (settings : FederationSettings)
    (groups : List String) (name : String) : Prop :=
  name ≠ superAdmin ∧ name ∈ directory.roles ∧
    (settings.Maps casing groups name ∨
      (∀ other, ¬ settings.Maps casing groups other) ∧ name ∈ settings.defaultRoles)

variable {casing : Casing} {settings : FederationSettings}

theorem mem_wantRole {wanted : List String} {group name : String} :
    name ∈ wantRole settings casing wanted group ↔
      name ∈ wanted ∨ name ≠ "" ∧ settings.mapped casing group = some name := by
  unfold wantRole
  cases mapped : settings.mapped casing group with
  | none => simp
  | some role =>
      by_cases fresh : role ≠ "" ∧ role ∉ wanted
      · simp only [fresh, if_pos, ne_eq, not_false_eq_true, and_self, List.mem_append,
          List.mem_singleton, Option.some.injEq]
        grind
      · simp only [if_neg fresh, Option.some.injEq]
        grind

theorem mem_foldl_wantRole (groups wanted : List String) (name : String) :
    name ∈ groups.foldl (wantRole settings casing) wanted ↔
      name ∈ wanted ∨ settings.Maps casing groups name := by
  induction groups generalizing wanted with
  | nil => simp [FederationSettings.Maps]
  | cons group rest ih =>
      rw [List.foldl_cons, ih, mem_wantRole]
      simp only [FederationSettings.Maps, List.mem_cons, exists_eq_or_imp]
      tauto

theorem mem_wantedRoles {groups : List String} {name : String} :
    name ∈ wantedRoles settings casing groups ↔ settings.Maps casing groups name := by
  rw [wantedRoles, mem_foldl_wantRole]
  simp

theorem mem_rolesFor {directory : Directory} {identity : ExternalIdentity} {name : String} :
    name ∈ directory.rolesFor casing settings identity ↔
      directory.Grants casing settings identity.groups name := by
  simp only [Directory.rolesFor, Directory.Grants, List.mem_filter, Bool.and_eq_true,
    decide_eq_true_eq]
  by_cases none : wantedRoles settings casing identity.groups = []
  · have unmapped : ∀ other, ¬ settings.Maps casing identity.groups other := by
      intro other maps
      have listed := mem_wantedRoles.mpr maps
      rw [none] at listed
      cases listed
    simp [none, unmapped]
    tauto
  · obtain ⟨other, listed⟩ := List.exists_mem_of_ne_nil _ none
    have some : ¬ ∀ other, ¬ settings.Maps casing identity.groups other :=
      fun unmapped => unmapped other (mem_wantedRoles.mp listed)
    simp [none, some, mem_wantedRoles]
    tauto

theorem storeRoles_ok {before desired roles : List String}
    (stored : Directory.storeRoles before desired = .ok roles) (name : String) :
    name ∈ roles ↔ name ∈ desired := by
  unfold Directory.storeRoles at stored
  split at stored
  · cases stored
    exact List.mem_dedup
  · cases stored

structure Persists (old new : User) : Prop where
  id : new.id = old.id
  provider : new.authProvider = old.authProvider
  subject : ∀ subject, old.externalSubject = some subject → new.externalSubject = some subject
  superuser : new.isSuperuser = old.isSuperuser

theorem Persists.refl (user : User) : Persists user user :=
  ⟨rfl, rfl, fun _ same => same, rfl⟩

theorem Persists.trans {first second third : User} (earlier : Persists first second)
    (later : Persists second third) : Persists first third where
  id := later.id.trans earlier.id
  provider := later.provider.trans earlier.provider
  subject := fun subject same => later.subject subject (earlier.subject subject same)
  superuser := later.superuser.trans earlier.superuser

theorem scalarOneOrNone_none {Row : Type} {rows : List Row}
    (found : Directory.scalarOneOrNone rows = .ok none) : rows = [] := by
  match rows, found with
  | [], _ => rfl
  | _ :: _ :: _, found => cases found
  | [_], found => cases found

theorem scalarOneOrNone_some {Row : Type} {rows : List Row} {row : Row}
    (found : Directory.scalarOneOrNone rows = .ok (some row)) : rows = [row] := by
  match rows, found with
  | [_], rfl => rfl

namespace Directory

variable {directory after : Directory}

theorem store_ok {users : List User} (stored : directory.store users = .ok after) :
    after = { directory with users := users } ∧ after.Constrained := by
  unfold store at stored
  split at stored
  · rename_i constrained
    cases stored
    exact ⟨rfl, constrained⟩
  · cases stored

theorem put_ok {user : User} (stored : directory.put user = .ok after) :
    after = { directory with
      users := Rows.amend User.id user.id (fun _ => user) directory.users } ∧
      after.Constrained :=
  store_ok stored

theorem getUser_ok {user : User} {userId : Uuid} (found : directory.getUser userId = .ok user) :
    user ∈ directory.users := by
  unfold getUser at found
  split at found
  · cases found
  · rename_i there
    cases found
    exact (Rows.get_some there).1

/-- The account that an identity has: the one with its subject, or else one of
its provider that no subject has claimed. -/
structure Finds (directory : Directory) (identity : ExternalIdentity) (old user : User) : Prop where
  listed : old ∈ directory.users
  provider : old.authProvider = identity.provider
  bound : user = { old with externalSubject := some identity.subject }
  unclaimed : old.externalSubject = none ∨ old.externalSubject = some identity.subject
  sole : ∀ other ∈ directory.users, other.claim = some (identity.provider, identity.subject) →
    other = old

theorem mem_claimants {identity : ExternalIdentity} {user : User} :
    user ∈ directory.users.filter (fun user => user.authProvider = identity.provider &&
        user.externalSubject = some identity.subject) ↔
      user ∈ directory.users ∧ user.claim = some (identity.provider, identity.subject) := by
  rw [List.mem_filter]
  cases subject : user.externalSubject with
  | none => simp [User.claim, subject]
  | some value => simp [User.claim, subject]

theorem claim_eq {user : User} {provider subject : String} :
    user.claim = some (provider, subject) ↔
      user.authProvider = provider ∧ user.externalSubject = some subject := by
  cases own : user.externalSubject with
  | none => simp [User.claim, own]
  | some value => simp [User.claim, own]

theorem find_some {identity : ExternalIdentity} {user : User}
    (found : directory.find casing identity = .ok (some user)) :
    ∃ old, directory.Finds identity old user := by
  unfold find at found
  obtain ⟨existing, bySubject, found⟩ := bind_ok.mp found
  cases existing with
  | some existing =>
      cases found
      have only := scalarOneOrNone_some bySubject
      obtain ⟨listed, claim⟩ := mem_claimants.mp (only ▸ List.mem_singleton_self user)
      obtain ⟨provider, subject⟩ := claim_eq.mp claim
      refine ⟨user, listed, provider, ?_, .inr subject, fun other there claims => ?_⟩
      · rw [← subject]
      · have again := mem_claimants.mpr ⟨there, claims⟩
        rw [only] at again
        exact List.mem_singleton.mp again
  | none =>
      have nobody := scalarOneOrNone_none bySubject
      obtain ⟨byUsername, named, found⟩ := bind_ok.mp found
      cases byUsername with
      | none => cases found
      | some old =>
          have listed := List.mem_of_mem_filter
            (scalarOneOrNone_some named ▸ List.mem_singleton_self old)
          simp only at found
          split at found
          · cases found
          · split at found
            · cases found
            · split at found
              · cases found
              · rename_i same unclaimed
                cases found
                refine ⟨old, listed, not_not.mp same, rfl, ?_, fun other there claims => ?_⟩
                · by_cases free : old.externalSubject = none
                  · exact .inl free
                  · exact .inr (not_not.mp fun other => unclaimed ⟨free, other⟩)
                · have again := mem_claimants.mpr ⟨there, claims⟩
                  rw [nobody] at again
                  cases again

theorem find_none {identity : ExternalIdentity}
    (found : directory.find casing identity = .ok none) :
    ∀ other ∈ directory.users, other.claim ≠ some (identity.provider, identity.subject) := by
  unfold find at found
  obtain ⟨existing, bySubject, found⟩ := bind_ok.mp found
  cases existing with
  | some existing => cases found
  | none =>
      intro other listed claims
      have there := mem_claimants.mpr ⟨listed, claims⟩
      rw [scalarOneOrNone_none bySubject] at there
      cases there

structure Keeps (directory after : Directory) : Prop where
  constrained : after.Constrained
  persists : ∀ old ∈ directory.users, ∃ new ∈ after.users, Persists old new

theorem Keeps.trans {middle : Directory} (first : directory.Keeps middle)
    (second : middle.Keeps after) : directory.Keeps after where
  constrained := second.constrained
  persists := by
    intro old listed
    obtain ⟨new, there, earlier⟩ := first.persists old listed
    obtain ⟨last, here, later⟩ := second.persists new there
    exact ⟨last, here, earlier.trans later⟩

inductive Writes (directory : Directory) (user : User) : Directory → Prop
  | inserted (after : Directory) (users : after.users = directory.users ++ [user])
      (constrained : after.Constrained) : Writes directory user after
  | rewritten (after : Directory) (old : User) (listed : old ∈ directory.users)
      (persists : Persists old user)
      (users : after.users = Rows.amend User.id user.id (fun _ => user) directory.users)
      (constrained : after.Constrained) : Writes directory user after

theorem Writes.listed {user : User} (writes : directory.Writes user after) :
    user ∈ after.users := by
  cases writes with
  | inserted users constrained =>
      rw [users]
      exact List.mem_append_right _ (List.mem_singleton_self user)
  | rewritten old listed persists users constrained =>
      rw [users]
      exact Rows.mem_amend.mpr (.inl ⟨old, listed, persists.id.symm, rfl⟩)

theorem Writes.keeps {user : User} (writes : directory.Writes user after)
    (before : directory.Constrained) : directory.Keeps after := by
  cases writes with
  | inserted users constrained =>
      refine ⟨constrained, fun other listed => ⟨other, ?_, .refl other⟩⟩
      rw [users]
      exact List.mem_append_left _ listed
  | rewritten old listed persists users constrained =>
      refine ⟨constrained, fun other there => ?_⟩
      rw [users]
      apply Rows.amend_persists Persists (.refl other) _ there
      intro keyed
      rwa [Rows.key_unique before.1 listed there (keyed.trans persists.id)]

theorem Writes.other {user other : User} (writes : directory.Writes user after)
    (listed : other ∈ after.users) (apart : other.id ≠ user.id) : other ∈ directory.users := by
  cases writes with
  | inserted users constrained =>
      rw [users] at listed
      rcases List.mem_append.mp listed with old | new
      · exact old
      · rw [List.mem_singleton.mp new] at apart
        exact absurd rfl apart
  | rewritten old _ persists users constrained =>
      rw [users] at listed
      rcases Rows.mem_amend.mp listed with ⟨_, _, _, rfl⟩ | ⟨there, _⟩
      · exact absurd rfl apart
      · exact there

/-- What a sign-in does: the account it resolves to is bound to the identity, as
it was before unless no subject had claimed it, and has the roles of the groups. -/
structure SignsIn (directory : Directory) (casing : Casing) (settings : FederationSettings)
    (identity : ExternalIdentity) (user : User) (after : Directory) : Prop where
  writes : directory.Writes user after
  provider : user.authProvider = identity.provider
  subject : user.externalSubject = some identity.subject
  superuser : user.isSuperuser = true → ∃ old ∈ directory.users, old.id = user.id ∧
    old.isSuperuser = true
  claimed : ∀ other ∈ directory.users,
    other.claim = some (identity.provider, identity.subject) → other.id = user.id
  known : ∀ old ∈ directory.users, old.id = user.id → old.authProvider = identity.provider
  roles : settings.syncRolesOnLogin = true → ∀ name, name ∈ user.roles ↔
    directory.Grants casing settings identity.groups name
  superAdmin : superAdmin ∈ user.roles → ∃ old ∈ directory.users, old.id = user.id ∧
    superAdmin ∈ old.roles

theorem superAdmin_ungranted (groups : List String) :
    ¬ directory.Grants casing settings groups Accounts.superAdmin :=
  fun granted => granted.1 rfl

theorem provision_ok {identity : ExternalIdentity} {id : Uuid} {user : User}
    (absent : ∀ other ∈ directory.users,
      other.claim ≠ some (identity.provider, identity.subject))
    (provisioned : directory.provision casing settings identity id = .ok (user, after)) :
    directory.SignsIn casing settings identity user after := by
  unfold provision at provisioned
  obtain ⟨holder, _, provisioned⟩ := bind_ok.mp provisioned
  obtain ⟨_, _, provisioned⟩ := bind_ok.mp provisioned
  obtain ⟨roles, given, provisioned⟩ := bind_ok.mp provisioned
  obtain ⟨stored, written, provisioned⟩ := bind_ok.mp provisioned
  cases provisioned
  obtain ⟨rfl, constrained⟩ := store_ok written
  have granted := fun name => (storeRoles_ok given name).trans mem_rolesFor
  have fresh : ∀ old ∈ directory.users, old.id ≠ id := by
    intro old listed same
    have distinct := constrained.1
    rw [List.map_append] at distinct
    exact (List.disjoint_of_nodup_append distinct) (List.mem_map_of_mem listed) (by simp [same])
  constructor
  · exact .inserted _ rfl constrained
  · rfl
  · rfl
  · intro superuser
    cases superuser
  · exact fun other listed claims => absurd claims (absent other listed)
  · exact fun old listed same => absurd same (fresh old listed)
  · exact fun _ => granted
  · exact fun held => absurd ((granted _).mp held) (superAdmin_ungranted _)

theorem reconciledRoles_ok {identity : ExternalIdentity} {user : User} {roles : List String}
    (reconciled : directory.reconciledRoles casing settings user identity = .ok roles) :
    (settings.syncRolesOnLogin = true → ∀ name, name ∈ roles ↔
      directory.Grants casing settings identity.groups name) ∧
      (Accounts.superAdmin ∈ roles → Accounts.superAdmin ∈ user.roles) := by
  unfold reconciledRoles at reconciled
  simp only at reconciled
  split at reconciled
  · have granted := fun name => (storeRoles_ok reconciled name).trans mem_rolesFor
    exact ⟨fun _ => granted, fun held =>
      absurd ((granted _).mp held) (superAdmin_ungranted _)⟩
  · rename_i same
    cases reconciled
    refine ⟨fun syncs name => ?_, fun held => held⟩
    -- The roles are not written because they are those of the groups already.
    have equal := not_not.mp fun differ => same ⟨syncs, differ⟩
    exact ⟨fun held => mem_rolesFor.mp (equal.1 held),
      fun granted => equal.2 (mem_rolesFor.mpr granted)⟩

theorem reconcile_ok {identity : ExternalIdentity} {old found user : User}
    (before : directory.Constrained) (finds : directory.Finds identity old found)
    (reconciled : directory.reconcile casing settings found identity = .ok (user, after)) :
    directory.SignsIn casing settings identity user after := by
  unfold reconcile at reconciled
  obtain ⟨email, _, reconciled⟩ := bind_ok.mp reconciled
  obtain ⟨roles, given, reconciled⟩ := bind_ok.mp reconciled
  obtain ⟨stored, written, reconciled⟩ := bind_ok.mp reconciled
  cases reconciled
  obtain ⟨rfl, constrained⟩ := put_ok written
  obtain ⟨granted, superAdmin⟩ := reconciledRoles_ok given
  have bound := finds.bound
  subst bound
  constructor
  · refine .rewritten _ old finds.listed ⟨rfl, rfl, fun subject own => ?_, rfl⟩ rfl constrained
    rcases finds.unclaimed with free | mine
    · rw [free] at own
      cases own
    · rw [mine] at own
      exact own
  · exact finds.provider
  · rfl
  · exact fun superuser => ⟨old, finds.listed, rfl, superuser⟩
  · intro other listed claims
    rw [finds.sole other listed claims]
  · intro other listed same
    rw [Rows.key_unique before.1 finds.listed listed same]
    exact finds.provider
  · exact granted
  · exact fun held => ⟨old, finds.listed, rfl, superAdmin held⟩

theorem resolve_ok {identity : ExternalIdentity} {id : Uuid} {user : User}
    (before : directory.Constrained)
    (resolved : directory.resolve casing settings identity id = .ok (user, after)) :
    directory.SignsIn casing settings identity user after := by
  unfold resolve at resolved
  obtain ⟨⟨account, stored⟩, done, resolved⟩ := bind_ok.mp resolved
  obtain ⟨_, _, resolved⟩ := bind_ok.mp resolved
  cases resolved
  unfold findOrProvision at done
  obtain ⟨result, found, done⟩ := bind_ok.mp done
  cases result with
  | none =>
      simp only at done
      split at done
      · exact provision_ok (find_none found) done
      · cases done
  | some result =>
      obtain ⟨old, finds⟩ := find_some found
      exact reconcile_ok before finds done

theorem createUser_ok {id : Uuid} {username email password hash : String}
    {fullName : Option String} {roleNames : List String} {user : User}
    (created : directory.createUser casing id username email password hash fullName roleNames =
      .ok (user, after)) : directory.Writes user after := by
  unfold createUser at created
  obtain ⟨_, _, created⟩ := bind_ok.mp created
  obtain ⟨_, _, created⟩ := bind_ok.mp created
  obtain ⟨_, _, created⟩ := bind_ok.mp created
  obtain ⟨_, _, created⟩ := bind_ok.mp created
  obtain ⟨_, _, created⟩ := bind_ok.mp created
  obtain ⟨_, _, created⟩ := bind_ok.mp created
  obtain ⟨roles, _, created⟩ := bind_ok.mp created
  obtain ⟨stored, written, created⟩ := bind_ok.mp created
  cases created
  obtain ⟨rfl, constrained⟩ := store_ok written
  exact .inserted _ rfl constrained

theorem setActive_ok {userId actor : Uuid} {active : Bool}
    (done : directory.setActive userId active actor = .ok after) :
    ∃ user, directory.Writes user after := by
  unfold setActive at done
  obtain ⟨user, found, done⟩ := bind_ok.mp done
  obtain ⟨_, _, done⟩ := bind_ok.mp done
  obtain ⟨rfl, constrained⟩ := put_ok done
  exact ⟨{ user with isActive := active }, .rewritten _ user (getUser_ok found) ⟨rfl, rfl, fun _ same => same, rfl⟩ rfl
    constrained⟩

theorem assignRoles_ok {userId : Uuid} {roleNames : List String}
    (done : directory.assignRoles userId roleNames = .ok after) :
    ∃ user, directory.Writes user after := by
  unfold assignRoles at done
  obtain ⟨user, found, done⟩ := bind_ok.mp done
  obtain ⟨_, _, done⟩ := bind_ok.mp done
  obtain ⟨roles, _, done⟩ := bind_ok.mp done
  obtain ⟨rfl, constrained⟩ := put_ok done
  exact ⟨{ user with roles := roles }, .rewritten _ user (getUser_ok found) ⟨rfl, rfl, fun _ same => same, rfl⟩ rfl
    constrained⟩

theorem step_keeps {op : Op} (before : directory.Constrained)
    (stepped : directory.step casing op = some after) : directory.Keeps after := by
  cases op with
  | signIn settings identity id =>
      obtain ⟨⟨user, stored⟩, done, rfl⟩ := Option.map_eq_some_iff.mp stepped
      exact (resolve_ok before (toOption_some.mp done)).writes.keeps before
  | createUser id username email password hash fullName roleNames =>
      obtain ⟨⟨user, stored⟩, done, rfl⟩ := Option.map_eq_some_iff.mp stepped
      exact (createUser_ok (toOption_some.mp done)).keeps before
  | addRow user =>
      obtain ⟨rfl, constrained⟩ := store_ok (toOption_some.mp stepped)
      have inserted : directory.Writes user _ := .inserted _ rfl constrained
      exact inserted.keeps before
  | setActive userId active actor =>
      obtain ⟨user, writes⟩ := setActive_ok (toOption_some.mp stepped)
      exact writes.keeps before
  | assignRoles userId roleNames =>
      obtain ⟨user, writes⟩ := assignRoles_ok (toOption_some.mp stepped)
      exact writes.keeps before
  | addRole name =>
      simp only [step] at stepped
      split at stepped
      · cases stepped
      · cases stepped
        exact ⟨before, fun user listed => ⟨user, listed, .refl user⟩⟩

abbrev Runs (casing : Casing) (start directory : Directory) : Prop :=
  History (step casing) (fun _ _ => True) start directory

theorem runs_keep {start : Directory} (run : Runs casing start directory)
    (before : start.Constrained) : start.Keeps directory := by
  apply History.keeps start.Keeps _ _ run
  · exact ⟨before, fun user listed => ⟨user, listed, .refl user⟩⟩
  · intro middle op next _ stepped keeps
    exact keeps.trans (step_keeps keeps.constrained stepped)

structure SignInLaw (casing : Casing) (settings : FederationSettings)
    (identity : ExternalIdentity) (directory : Directory) (user : User) (after : Directory) :
    Prop where
  account : user ∈ after.users
  provider : user.authProvider = identity.provider ∧ user.authProvider ≠ "local"
  known : ∀ old ∈ directory.users, old.id = user.id →
    old.authProvider = identity.provider ∧ old.authProvider ≠ "local"
  superuser : ∀ new ∈ after.users, ∀ old ∈ directory.users, old.id = new.id →
    new.isSuperuser = old.isSuperuser
  noSuperuser : ∀ new ∈ after.users, new.isSuperuser = true →
    ∃ old ∈ directory.users, old.id = new.id
  superAdmin : ∀ new ∈ after.users, Accounts.superAdmin ∈ new.roles →
    ∃ old ∈ directory.users, old.id = new.id ∧ Accounts.superAdmin ∈ old.roles
  roles : settings.syncRolesOnLogin = true → ∀ name, name ∈ user.roles ↔
    directory.Grants casing settings identity.groups name

theorem SignsIn.law {identity : ExternalIdentity} {user : User}
    (signs : directory.SignsIn casing settings identity user after)
    (before : directory.Constrained) (external : identity.provider ≠ "local") :
    SignInLaw casing settings identity directory user after := by
  have keeps := signs.writes.keeps before
  have only : ∀ new ∈ after.users, new.id = user.id → new = user := fun new listed same =>
    Rows.key_unique keeps.constrained.1 signs.writes.listed listed same
  constructor
  · exact signs.writes.listed
  · rw [signs.provider]
    exact ⟨rfl, external⟩
  · intro old listed same
    rw [signs.known old listed same]
    exact ⟨rfl, external⟩
  · intro new listed old there same
    obtain ⟨next, here, persists⟩ := keeps.persists old there
    rw [← Rows.key_unique keeps.constrained.1 listed here (persists.id.trans same)]
    exact persists.superuser
  · intro new listed superuser
    by_cases own : new.id = user.id
    · rw [only new listed own] at superuser ⊢
      obtain ⟨old, there, same, _⟩ := signs.superuser superuser
      exact ⟨old, there, same⟩
    · exact ⟨new, signs.writes.other listed own, rfl⟩
  · intro new listed held
    by_cases own : new.id = user.id
    · rw [only new listed own] at held ⊢
      exact signs.superAdmin held
    · exact ⟨new, signs.writes.other listed own, rfl, held⟩
  · exact signs.roles

theorem identities_keep_accounts {start first later final : Directory}
    {identity identity' : ExternalIdentity} {settings' : FederationSettings} {id id' : Uuid}
    {user other : User} (constrained : start.Constrained) (reached : Runs casing start directory)
    (signed : directory.resolve casing settings identity id = .ok (user, first))
    (goesOn : Runs casing first later)
    (again : later.resolve casing settings' identity' id' = .ok (other, final))
    (external : identity.provider ≠ "local") (external' : identity'.provider ≠ "local") :
    (user.id = other.id ↔
        identity.provider = identity'.provider ∧ identity.subject = identity'.subject) ∧
      SignInLaw casing settings identity directory user first ∧
      SignInLaw casing settings' identity' later other final := by
  have before := (runs_keep reached constrained).constrained
  have signs := resolve_ok before signed
  have middle := (signs.writes.keeps before).constrained
  obtain ⟨constrained', persists⟩ := runs_keep goesOn middle
  have signs' := resolve_ok constrained' again
  refine ⟨?_, signs.law before external, signs'.law constrained' external'⟩
  -- The account of the first sign-in is still there, bound to its identity.
  obtain ⟨still, listed, kept⟩ := persists user signs.writes.listed
  have subject := kept.subject _ signs.subject
  have provider := kept.provider.trans signs.provider
  constructor
  · intro same
    obtain ⟨last, here, lastKept⟩ :=
      (signs'.writes.keeps constrained').persists still listed
    have one : last = other := Rows.key_unique (signs'.writes.keeps constrained').constrained.1
      signs'.writes.listed here (lastKept.id.trans (kept.id.trans same))
    rw [one] at lastKept
    constructor
    · rw [← provider, ← lastKept.provider, signs'.provider]
    · have own := lastKept.subject _ subject
      rw [signs'.subject] at own
      exact (Option.some.inj own).symm
  · rintro ⟨sameProvider, sameSubject⟩
    have claims : still.claim = some (identity'.provider, identity'.subject) := by
      rw [claim_eq, ← sameProvider, ← sameSubject]
      exact ⟨provider, subject⟩
    rw [← kept.id]
    exact signs'.claimed still listed claims

def plainCasing : Casing := ⟨id, id, id⟩

def installed : Directory where
  users := [⟨⟨1⟩, "root", "root@site", none, some "hash", "local", none, true, true,
    [Accounts.superAdmin]⟩]
  roles := [Accounts.superAdmin, "USER", "DEVELOPER"]

def groupSettings : FederationSettings where
  roleMapping := [("gpu-team", "DEVELOPER"), ("owners", Accounts.superAdmin)]
  defaultRoles := ["USER"]
  syncRolesOnLogin := true
  autoProvision := true

def fatima (username : String) (groups : List String) : ExternalIdentity :=
  ⟨"S-1-5-21", username, "fatima@site", "ldap", none, groups⟩

def fatimaUser (roles : List String) : User :=
  ⟨⟨2⟩, "fatima", "fatima@site", none, none, "ldap", some "S-1-5-21", true, false, roles⟩

def staffed (roles : List String) : Directory :=
  { installed with users := installed.users ++ [fatimaUser roles] }

theorem identities_keep_accounts_renamed :
    SignInLaw plainCasing groupSettings (fatima "fsmith" ["owners"]) (staffed ["DEVELOPER"])
      (fatimaUser []) (staffed []) := by
  have constrained : installed.Constrained := by decide
  have signed : installed.resolve plainCasing groupSettings (fatima "fatima" ["gpu-team"]) ⟨2⟩ =
      .ok (fatimaUser ["DEVELOPER"], staffed ["DEVELOPER"]) := rfl
  have again : (staffed ["DEVELOPER"]).resolve plainCasing groupSettings
      (fatima "fsmith" ["owners"]) ⟨3⟩ = .ok (fatimaUser [], staffed []) := rfl
  exact (identities_keep_accounts constrained .start signed .start again (by decide)
    (by decide)).2.2

end Directory

end AiPlatform.Accounts
