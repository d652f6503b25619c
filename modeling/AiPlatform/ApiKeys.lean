import AiPlatform.Errors
import AiPlatform.Histories
import AiPlatform.Rows
import AiPlatform.Uuid
import Mathlib.Algebra.Order.Ring.Int
import Mathlib.Data.Int.ConditionallyCompleteOrder
import Mathlib.Order.ConditionallyCompleteLattice.Basic
import Mathlib.Order.WithBot
import Mathlib.Logic.Relation

/-!
`ApiKeyService` of `app/services/api_keys.py`: keys are minted, rotated and
revoked against a clock. Times are microseconds. What the generator of a key
draws comes with the request; the database refuses an id or a hash that is
taken. `last_used_at` is left out, which no operation here reads.
-/

namespace AiPlatform.ApiKeys

structure ApiClient where
  id : Uuid
  name : String

structure ApiKey where
  id : Uuid
  clientId : Uuid
  name : String
  keyPrefix : String
  keyHash : String
  rateLimitPerMinute : Int
  scopes : List String
  expiresAt : Option Int
  revokedAt : Option Int
  rotatedTo : Option Uuid
  createdBy : Uuid
  deriving DecidableEq

def ApiKey.isActive (key : ApiKey) (now : Int) : Bool :=
  key.revokedAt.isNone && !key.expiresAt.any (· ≤ now)

def ApiKey.expiry (key : ApiKey) : WithTop Int :=
  match key.expiresAt with
  | none => ⊤
  | some moment => moment

/-- `min(expires_at, deadline) if expires_at else deadline` -/
def sooner (expiresAt : Option Int) (deadline : Int) : Int :=
  match expiresAt with
  | none => deadline
  | some moment => min moment deadline

def ApiKey.supersede (key : ApiKey) (deadline : Int) (replacement : Uuid) : ApiKey :=
  { key with expiresAt := some (sooner key.expiresAt deadline), rotatedTo := some replacement }

/-- `if key.revoked_at is None: key.revoked_at = now` -/
def ApiKey.revoke (key : ApiKey) (now : Int) : ApiKey :=
  { key with revokedAt := some (key.revokedAt.getD now) }

/-- `generate_api_key`, with the id of the row. -/
structure Minted where
  id : Uuid
  fullKey : String
  keyPrefix : String
  keyHash : String

structure Keyring where
  clients : List ApiClient
  keys : List ApiKey
  now : Int

namespace Keyring

def wait (ring : Keyring) (moments : Nat) : Keyring := { ring with now := ring.now + moments }

def createKey (ring : Keyring) (minted : Minted) (clientId : Uuid) (name : String)
    (rateLimitPerMinute : Int) (expiresAt : Option Int) (scopes : List String) (actor : Uuid) :
    Except Refusal (ApiKey × String × Keyring) :=
  match Rows.get ApiClient.id ring.clients clientId with
  | none => .error (.app (notFoundError s!"No API client with id {clientId.str}."))
  | some client =>
      if expiresAt.any (· ≤ ring.now) then
        .error (.app (validationError "expires_at must be in the future." []))
      else if ring.keys.any fun key => key.id = minted.id || key.keyHash = minted.keyHash then
        .error (.constraint "api_keys")
      else
        let key : ApiKey := {
          id := minted.id
          clientId := client.id
          name := name
          keyPrefix := minted.keyPrefix
          keyHash := minted.keyHash
          rateLimitPerMinute := rateLimitPerMinute
          scopes := scopes
          expiresAt := expiresAt
          revokedAt := none
          rotatedTo := none
          createdBy := actor }
        .ok (key, minted.fullKey, { ring with keys := ring.keys ++ [key] })

/-- `dt.timedelta(hours=hours)` -/
def hours (count : Int) : Int := count * 3600000000

/-- `rotate_key`. The clock is read once to check the expiry of the new key, and
`pause` later to find the deadline of the old one. -/
def rotateKey (ring : Keyring) (minted : Minted) (pause : Nat) (keyId : Uuid)
    (graceHours : Int) (actor : Uuid) : Except Refusal (ApiKey × String × ApiKey × Keyring) :=
  match Rows.get ApiKey.id ring.keys keyId with
  | none => .error (.app (notFoundError s!"No API key with id {keyId.str}."))
  | some old =>
      if old.revokedAt.isSome then
        .error (.app (validationError ("That key is already revoked. Rotation replaces a " ++
          "live key; create a new one instead.") []))
      else if graceHours < 0 then
        .error (.app (validationError "grace_hours cannot be negative." []))
      else do
        let (newKey, plaintext, ring) ← ring.createKey minted old.clientId
          s!"{old.name} (rotated)" old.rateLimitPerMinute old.expiresAt old.scopes actor
        let ring := ring.wait pause
        let deadline := ring.now + hours graceHours
        .ok (newKey, plaintext, old.supersede deadline newKey.id,
          { ring with
            keys := Rows.amend ApiKey.id old.id (·.supersede deadline newKey.id) ring.keys })

def revokeKey (ring : Keyring) (keyId : Uuid) : Except Refusal (ApiKey × Keyring) :=
  match Rows.get ApiKey.id ring.keys keyId with
  | none => .error (.app (notFoundError s!"No API key with id {keyId.str}."))
  | some key =>
      .ok (key.revoke ring.now,
        { ring with keys := Rows.amend ApiKey.id key.id (·.revoke ring.now) ring.keys })

end Keyring

inductive Op
  | create (minted : Minted) (clientId : Uuid) (name : String) (rateLimitPerMinute : Int)
      (expiresAt : Option Int) (scopes : List String) (actor : Uuid)
  | rotate (minted : Minted) (pause : Nat) (keyId : Uuid) (graceHours : Int) (actor : Uuid)
  | revoke (keyId : Uuid)
  | wait (moments : Nat)

/-- A key as it was issued. One issued by a rotation replaces `replaces`, whose
grace period ends at `deadline`. -/
structure Issue where
  key : ApiKey
  replaces : Option Uuid
  deadline : Int

structure Ledger where
  ring : Keyring
  issues : List Issue

def Ledger.step (ledger : Ledger) : Op → Option Ledger
  | .create minted clientId name rateLimitPerMinute expiresAt scopes actor =>
      match ledger.ring.createKey minted clientId name rateLimitPerMinute expiresAt scopes
          actor with
      | .error _ => none
      | .ok (key, _, ring) => some ⟨ring, ledger.issues ++ [⟨key, none, 0⟩]⟩
  | .rotate minted pause keyId graceHours actor =>
      match ledger.ring.rotateKey minted pause keyId graceHours actor with
      | .error _ => none
      | .ok (key, _, old, ring) =>
          some ⟨ring, ledger.issues ++ [⟨key, some old.id, ring.now + Keyring.hours graceHours⟩]⟩
  | .revoke keyId =>
      match ledger.ring.revokeKey keyId with
      | .error _ => none
      | .ok (_, ring) => some { ledger with ring := ring }
  | .wait moments => some { ledger with ring := ledger.ring.wait moments }

structure Ages (old new : ApiKey) : Prop where
  id : new.id = old.id
  scopes : new.scopes = old.scopes
  rateLimit : new.rateLimitPerMinute = old.rateLimitPerMinute
  expiry : new.expiry ≤ old.expiry
  revoked : old.revokedAt.isSome → new.revokedAt.isSome

theorem Ages.refl (key : ApiKey) : Ages key key := ⟨rfl, rfl, rfl, le_refl _, fun revoked => revoked⟩

theorem Ages.trans {first second third : ApiKey} (earlier : Ages first second)
    (later : Ages second third) : Ages first third where
  id := later.id.trans earlier.id
  scopes := later.scopes.trans earlier.scopes
  rateLimit := later.rateLimit.trans earlier.rateLimit
  expiry := le_trans later.expiry earlier.expiry
  revoked := fun revoked => later.revoked (earlier.revoked revoked)

theorem isActive_iff (key : ApiKey) (now : Int) :
    key.isActive now = true ↔ key.revokedAt = none ∧ (now : WithTop Int) < key.expiry := by
  cases expires : key.expiresAt with
  | none => simp [ApiKey.isActive, ApiKey.expiry, expires]
  | some moment => simp [ApiKey.isActive, ApiKey.expiry, expires, Option.isNone_iff_eq_none]

theorem Ages.inactive {old new : ApiKey} (ages : Ages old new) {before after : Int}
    (passed : before ≤ after) (inactive : old.isActive before = false) :
    new.isActive after = false := by
  cases active : new.isActive after with
  | false => rfl
  | true =>
      obtain ⟨live, early⟩ := (isActive_iff _ _).mp active
      have unrevoked : old.revokedAt = none := by
        cases gone : old.revokedAt with
        | none => rfl
        | some moment =>
            have still := ages.revoked (by rw [gone]; rfl)
            rw [live] at still
            cases still
      have sooner : (before : WithTop Int) ≤ after := WithTop.coe_le_coe.mpr passed
      have still := (isActive_iff old before).mpr
        ⟨unrevoked, lt_of_le_of_lt sooner (lt_of_lt_of_le early ages.expiry)⟩
      rw [inactive] at still
      cases still

theorem expiry_supersede (key : ApiKey) (deadline : Int) (replacement : Uuid) :
    (key.supersede deadline replacement).expiry = min key.expiry deadline := by
  cases expires : key.expiresAt with
  | none => simp [ApiKey.supersede, ApiKey.expiry, sooner, expires]
  | some moment => simp [ApiKey.supersede, ApiKey.expiry, sooner, expires]

theorem ages_supersede (key : ApiKey) (deadline : Int) (replacement : Uuid) :
    Ages key (key.supersede deadline replacement) where
  id := rfl
  scopes := rfl
  rateLimit := rfl
  expiry := by
    rw [expiry_supersede]
    exact min_le_left _ _
  revoked := fun revoked => revoked

theorem ages_revoke (key : ApiKey) (now : Int) : Ages key (key.revoke now) where
  id := rfl
  scopes := rfl
  rateLimit := rfl
  expiry := le_refl _
  revoked := fun _ => rfl

structure Inherits (key parent : ApiKey) : Prop where
  scopes : key.scopes = parent.scopes
  rateLimit : key.rateLimitPerMinute = parent.rateLimitPerMinute
  expiry : key.expiry ≤ parent.expiry

theorem Inherits.trans {first second third : ApiKey} (inherits : Inherits first second)
    (before : Inherits second third) : Inherits first third where
  scopes := inherits.scopes.trans before.scopes
  rateLimit := inherits.rateLimit.trans before.rateLimit
  expiry := le_trans inherits.expiry before.expiry

theorem Ages.inherits {old new : ApiKey} (ages : Ages old new) : Inherits new old :=
  ⟨ages.scopes, ages.rateLimit, ages.expiry⟩

def Keyring.Fresh (ring : Keyring) (key : ApiKey) : Prop := ∀ other ∈ ring.keys, other.id ≠ key.id

inductive Effect (ledger : Ledger) : Ledger → Prop
  | created (key : ApiKey) (fresh : ledger.ring.Fresh key) :
      Effect ledger
        ⟨{ ledger.ring with keys := ledger.ring.keys ++ [key] }, ledger.issues ++ [⟨key, none, 0⟩]⟩
  | rotated (old key : ApiKey) (pause : Nat) (deadline : Int) (member : old ∈ ledger.ring.keys)
      (fresh : ledger.ring.Fresh key) (inherits : Inherits key old) :
      Effect ledger
        ⟨{ ledger.ring with
            keys := Rows.amend ApiKey.id old.id (·.supersede deadline key.id)
              (ledger.ring.keys ++ [key])
            now := ledger.ring.now + pause },
          ledger.issues ++ [⟨key, some old.id, deadline⟩]⟩
  | revoked (keyId : Uuid) :
      Effect ledger
        { ledger with
          ring := { ledger.ring with
            keys := Rows.amend ApiKey.id keyId (·.revoke ledger.ring.now) ledger.ring.keys } }
  | waited (moments : Nat) :
      Effect ledger { ledger with ring := ledger.ring.wait moments }

theorem createKey_ok {ring after : Keyring} {minted : Minted} {clientId actor : Uuid}
    {name plaintext : String} {rateLimit : Int} {expiresAt : Option Int} {scopes : List String}
    {key : ApiKey}
    (created : ring.createKey minted clientId name rateLimit expiresAt scopes actor =
      .ok (key, plaintext, after)) :
    ring.Fresh key ∧ key.scopes = scopes ∧ key.rateLimitPerMinute = rateLimit ∧
      key.expiresAt = expiresAt ∧ after = { ring with keys := ring.keys ++ [key] } := by
  unfold Keyring.createKey at created
  split at created
  · cases created
  · split at created
    · cases created
    · split at created
      · cases created
      · rename_i free
        cases created
        refine ⟨fun other member same => free ?_, rfl, rfl, rfl, rfl⟩
        exact List.any_eq_true.mpr ⟨other, member, by simp [same]⟩

theorem expiry_congr {left right : ApiKey} (same : left.expiresAt = right.expiresAt) :
    left.expiry = right.expiry := by
  rw [ApiKey.expiry, ApiKey.expiry, same]

theorem rotateKey_ok {ring after : Keyring} {minted : Minted} {pause : Nat} {keyId actor : Uuid}
    {graceHours : Int} {plaintext : String} {key superseded : ApiKey}
    (rotated : ring.rotateKey minted pause keyId graceHours actor =
      .ok (key, plaintext, superseded, after)) :
    ∃ old ∈ ring.keys, superseded.id = old.id ∧ ring.Fresh key ∧ Inherits key old ∧
      after = {
        ring with
        keys := Rows.amend ApiKey.id old.id
          (·.supersede (ring.now + pause + Keyring.hours graceHours) key.id) (ring.keys ++ [key])
        now := ring.now + pause } := by
  unfold Keyring.rotateKey at rotated
  split at rotated
  · cases rotated
  · rename_i old found
    split at rotated
    · cases rotated
    · split at rotated
      · cases rotated
      · cases created : ring.createKey minted old.clientId s!"{old.name} (rotated)"
          old.rateLimitPerMinute old.expiresAt old.scopes actor with
        | error refusal =>
            rw [created] at rotated
            cases rotated
        | ok issued =>
            obtain ⟨fresh, scopes, rateLimit, expires, same⟩ := createKey_ok created
            rw [created] at rotated
            cases rotated
            have inherits : Inherits issued.1 old :=
              ⟨scopes, rateLimit, le_of_eq (expiry_congr expires)⟩
            refine ⟨old, (Rows.get_some found).1, rfl, fresh, inherits, ?_⟩
            rw [same]
            rfl

theorem step_effect {ledger after : Ledger} {op : Op} (stepped : ledger.step op = some after) :
    Effect ledger after := by
  cases op with
  | create minted clientId name rateLimit expiresAt scopes actor =>
      simp only [Ledger.step] at stepped
      split at stepped
      · cases stepped
      · rename_i created
        cases stepped
        obtain ⟨fresh, _, _, _, rfl⟩ := createKey_ok created
        exact .created _ fresh
  | rotate minted pause keyId graceHours actor =>
      simp only [Ledger.step] at stepped
      split at stepped
      · cases stepped
      · rename_i rotated
        cases stepped
        obtain ⟨old, member, same, fresh, inherits, rfl⟩ := rotateKey_ok rotated
        rw [same]
        exact .rotated old _ pause _ member fresh inherits
  | revoke keyId =>
      simp only [Ledger.step] at stepped
      split at stepped
      · cases stepped
      · rename_i revoked
        cases stepped
        unfold Keyring.revokeKey at revoked
        split at revoked
        · cases revoked
        · cases revoked
          exact .revoked _
  | wait moments =>
      cases stepped
      exact .waited moments

/-- Every key of the first ring is in the second one, aged. -/
def Keyring.AgesTo (before after : Keyring) : Prop :=
  before.now ≤ after.now ∧ ∀ key ∈ before.keys, ∃ next ∈ after.keys, Ages key next

theorem Effect.ages {ledger after : Ledger} (effect : Effect ledger after) :
    ledger.ring.AgesTo after.ring := by
  cases effect with
  | created key fresh =>
      exact ⟨le_refl _, fun other member => ⟨other, List.mem_append_left _ member, .refl other⟩⟩
  | rotated old key pause deadline member fresh inherits =>
      constructor
      · exact Int.le_add_of_nonneg_right (Int.natCast_nonneg pause)
      · intro other listed
        apply Rows.amend_persists Ages (.refl other)
        · exact fun _ => ages_supersede other deadline key.id
        · exact List.mem_append_left _ listed
  | revoked keyId =>
      constructor
      · exact le_refl _
      · intro other listed
        apply Rows.amend_persists Ages (.refl other)
        · exact fun _ => ages_revoke other ledger.ring.now
        · exact listed
  | waited moments =>
      constructor
      · exact Int.le_add_of_nonneg_right (Int.natCast_nonneg moments)
      · exact fun other member => ⟨other, member, .refl other⟩

abbrev Runs (start ledger : Ledger) : Prop := History Ledger.step (fun _ _ => True) start ledger

theorem ages_run {before after : Ledger} (run : Runs before after) :
    before.ring.AgesTo after.ring := by
  apply History.keeps (fun ledger => before.ring.AgesTo ledger.ring) _ _ run
  · exact ⟨le_refl _, fun key member => ⟨key, member, .refl key⟩⟩
  · rintro ledger op next - stepped ⟨passed, aged⟩
    obtain ⟨later, ages⟩ := (step_effect stepped).ages
    refine ⟨le_trans passed later, fun key member => ?_⟩
    obtain ⟨now, listed, first⟩ := aged key member
    obtain ⟨next, here, second⟩ := ages now listed
    exact ⟨next, here, first.trans second⟩

/-- `child` was issued by a rotation of `parent`. -/
def Ledger.Replaces (ledger : Ledger) (child parent : Issue) : Prop :=
  child ∈ ledger.issues ∧ parent ∈ ledger.issues ∧ child.replaces = some parent.key.id

structure Ledger.Kept (ledger : Ledger) : Prop where
  distinct : (ledger.ring.keys.map ApiKey.id).Nodup
  single : (ledger.issues.map (·.key.id)).Nodup
  issued : ∀ key ∈ ledger.ring.keys, ∃ issue ∈ ledger.issues, Ages issue.key key
  present : ∀ issue ∈ ledger.issues, ∃ key ∈ ledger.ring.keys, key.id = issue.key.id
  inherits : ∀ child parent, ledger.Replaces child parent → Inherits child.key parent.key
  known : ∀ issue ∈ ledger.issues, ∀ id, issue.replaces = some id →
    ∃ key ∈ ledger.ring.keys, key.id = id
  graced : ∀ issue ∈ ledger.issues, ∀ key ∈ ledger.ring.keys, issue.replaces = some key.id →
    key.expiry ≤ issue.deadline

theorem Ledger.Kept.aged {ledger : Ledger} (kept : ledger.Kept) {issue : Issue} {key : ApiKey}
    (member : issue ∈ ledger.issues) (listed : key ∈ ledger.ring.keys)
    (same : key.id = issue.key.id) : Ages issue.key key := by
  obtain ⟨origin, found, ages⟩ := kept.issued key listed
  have one : origin = issue :=
    List.inj_on_of_nodup_map kept.single found member (ages.id.symm.trans same)
  rwa [one] at ages

theorem Ledger.Kept.unissued {ledger : Ledger} (kept : ledger.Kept) {key : ApiKey}
    (fresh : ledger.ring.Fresh key) : ∀ issue ∈ ledger.issues, issue.key.id ≠ key.id := by
  intro issue member same
  obtain ⟨other, listed, keyed⟩ := kept.present issue member
  exact fresh other listed (keyed.trans same)

def Ledger.opened (clients : List ApiClient) (now : Int) : Ledger := ⟨⟨clients, [], now⟩, []⟩

theorem kept_opened (clients : List ApiClient) (now : Int) :
    (Ledger.opened clients now).Kept := by
  constructor <;> simp [Ledger.opened, Ledger.Replaces]

theorem Ledger.Kept.grow {ledger : Ledger} (kept : ledger.Kept) {keys : List ApiKey} {now : Int}
    (ids : keys.map ApiKey.id = ledger.ring.keys.map ApiKey.id)
    (still : ∀ key ∈ ledger.ring.keys, ∃ next ∈ keys, next.id = key.id)
    (aged : ∀ key ∈ keys, ∃ old ∈ ledger.ring.keys, Ages old key) :
    Ledger.Kept { ledger with ring := { ledger.ring with keys := keys, now := now } } where
  distinct := by
    rw [ids]
    exact kept.distinct
  single := kept.single
  issued := by
    intro key member
    obtain ⟨old, listed, ages⟩ := aged key member
    obtain ⟨issue, found, first⟩ := kept.issued old listed
    exact ⟨issue, found, first.trans ages⟩
  present := by
    intro issue member
    obtain ⟨key, listed, keyed⟩ := kept.present issue member
    obtain ⟨next, here, same⟩ := still key listed
    exact ⟨next, here, same.trans keyed⟩
  inherits := kept.inherits
  known := by
    intro issue member id named
    obtain ⟨key, listed, keyed⟩ := kept.known issue member id named
    obtain ⟨next, here, same⟩ := still key listed
    exact ⟨next, here, same.trans keyed⟩
  graced := by
    intro issue member key listed replaces
    obtain ⟨old, there, ages⟩ := aged key listed
    exact le_trans ages.expiry (kept.graced issue member old there (by rw [replaces, ages.id]))

theorem Ledger.Kept.issue {ledger : Ledger} (kept : ledger.Kept) {key : ApiKey}
    (fresh : ledger.ring.Fresh key) (replaces : Option Uuid) (deadline : Int)
    (other : replaces ≠ some key.id)
    (inherits : ∀ parent ∈ ledger.issues, replaces = some parent.key.id → Inherits key parent.key)
    (known : ∀ id, replaces = some id → ∃ old ∈ ledger.ring.keys, old.id = id)
    (graced : ∀ old ∈ ledger.ring.keys, replaces = some old.id → old.expiry ≤ deadline) :
    Ledger.Kept
      ⟨{ ledger.ring with keys := ledger.ring.keys ++ [key] },
        ledger.issues ++ [⟨key, replaces, deadline⟩]⟩ := by
  have unissued := kept.unissued fresh
  -- No issue before this one can have replaced the new key, whose id was free.
  have unreplaced : ∀ issue ∈ ledger.issues, issue.replaces ≠ some key.id := by
    intro issue member named
    obtain ⟨old, listed, same⟩ := kept.known issue member key.id named
    exact fresh old listed same
  constructor
  · exact distinct_concat ApiKey.id kept.distinct fresh
  · exact distinct_concat (fun issue : Issue => issue.key.id) kept.single unissued
  · intro other listed
    rcases List.mem_append.mp listed with old | new
    · obtain ⟨issue, member, ages⟩ := kept.issued other old
      exact ⟨issue, List.mem_append_left _ member, ages⟩
    · rw [List.mem_singleton.mp new]
      exact ⟨⟨key, replaces, deadline⟩, by simp, .refl key⟩
  · intro issue member
    rcases List.mem_append.mp member with old | new
    · obtain ⟨other, listed, keyed⟩ := kept.present issue old
      exact ⟨other, List.mem_append_left _ listed, keyed⟩
    · rw [List.mem_singleton.mp new]
      exact ⟨key, by simp, rfl⟩
  · rintro child parent ⟨first, second, named⟩
    rcases List.mem_append.mp second with before | last
    · rcases List.mem_append.mp first with old | new
      · exact kept.inherits child parent ⟨old, before, named⟩
      · rw [List.mem_singleton.mp new] at named ⊢
        exact inherits parent before named
    · rw [List.mem_singleton.mp last] at named
      rcases List.mem_append.mp first with old | new
      · exact absurd named (unreplaced child old)
      · rw [List.mem_singleton.mp new] at named
        exact absurd named other
  · intro issue member id named
    rcases List.mem_append.mp member with old | new
    · obtain ⟨row, listed, keyed⟩ := kept.known issue old id named
      exact ⟨row, List.mem_append_left _ listed, keyed⟩
    · rw [List.mem_singleton.mp new] at named
      obtain ⟨row, listed, keyed⟩ := known id named
      exact ⟨row, List.mem_append_left _ listed, keyed⟩
  · intro issue member row listed named
    rcases List.mem_append.mp listed with before | last
    · rcases List.mem_append.mp member with old | new
      · exact kept.graced issue old row before named
      · rw [List.mem_singleton.mp new] at named ⊢
        exact graced row before named
    · rw [List.mem_singleton.mp last] at named
      rcases List.mem_append.mp member with old | new
      · exact absurd named (unreplaced issue old)
      · rw [List.mem_singleton.mp new] at named
        exact absurd named other

theorem aged_amend {keys : List ApiKey} {id : Uuid} {change : ApiKey → ApiKey}
    (ages : ∀ key, Ages key (change key)) :
    ∀ key ∈ Rows.amend ApiKey.id id change keys, ∃ old ∈ keys, Ages old key := by
  intro key member
  rcases Rows.mem_amend.mp member with ⟨old, listed, _, rfl⟩ | ⟨listed, _⟩
  · exact ⟨old, listed, ages old⟩
  · exact ⟨key, listed, .refl key⟩

theorem Ledger.Kept.amend {ledger : Ledger} (kept : ledger.Kept) (id : Uuid)
    {change : ApiKey → ApiKey} (ages : ∀ key, Ages key (change key)) (now : Int) :
    Ledger.Kept { ledger with ring := { ledger.ring with
      keys := Rows.amend ApiKey.id id change ledger.ring.keys, now := now } } := by
  apply kept.grow (Rows.keys_amend fun key => (ages key).id) _ (aged_amend ages)
  intro key listed
  apply Rows.amend_persists (fun old new => new.id = old.id) rfl _ listed
  exact fun _ => (ages key).id

theorem Effect.kept {ledger after : Ledger} (effect : Effect ledger after) (kept : ledger.Kept) :
    after.Kept := by
  cases effect with
  | created key fresh => exact kept.issue fresh none 0 nofun nofun nofun nofun
  | rotated old key pause deadline member fresh inherits =>
      have apart : key.id ≠ old.id := fun same => fresh old member same.symm
      have split : Rows.amend ApiKey.id old.id (·.supersede deadline key.id)
          (ledger.ring.keys ++ [key]) =
          Rows.amend ApiKey.id old.id (·.supersede deadline key.id) ledger.ring.keys ++ [key] := by
        simp [Rows.amend, apart]
      rw [split]
      have superseded := kept.amend old.id (fun key' => ages_supersede key' deadline key.id)
        (ledger.ring.now + pause)
      refine superseded.issue ?_ (some old.id) deadline ?_ ?_ ?_ ?_
      · intro other listed
        obtain ⟨before, there, ages⟩ := aged_amend (ages_supersede · deadline key.id) other listed
        rw [ages.id]
        exact fresh before there
      · exact fun same => apart (Option.some.inj same).symm
      · intro parent issued named
        have ages := kept.aged issued member (Option.some.inj named)
        exact inherits.trans ages.inherits
      · rintro id ⟨⟩
        exact ⟨_, Rows.mem_amend.mpr (.inl ⟨old, member, rfl, rfl⟩), rfl⟩
      · intro row listed named
        rcases Rows.mem_amend.mp listed with ⟨before, _, _, rfl⟩ | ⟨_, different⟩
        · rw [expiry_supersede]
          exact min_le_right _ _
        · exact absurd (Option.some.inj named).symm different
  | revoked keyId => exact kept.amend keyId (fun key => ages_revoke key ledger.ring.now) _
  | waited moments =>
      apply kept.grow rfl
      · exact fun key member => ⟨key, member, rfl⟩
      · exact fun key member => ⟨key, member, .refl key⟩

theorem kept_run {start ledger : Ledger} (run : Runs start ledger) (first : start.Kept) :
    ledger.Kept :=
  History.keeps Ledger.Kept first (fun _ _ _ _ stepped kept => (step_effect stepped).kept kept) run

structure KeyLaw (ledger later : Ledger) : Prop where
  stays : ∀ key ∈ ledger.ring.keys, ∃ next ∈ later.ring.keys, next.id = key.id
  earlier : ∀ key ∈ ledger.ring.keys, ∀ next ∈ later.ring.keys, next.id = key.id →
    next.expiry ≤ key.expiry
  inactive : ∀ key ∈ ledger.ring.keys, ∀ next ∈ later.ring.keys, next.id = key.id →
    key.isActive ledger.ring.now = false → next.isActive later.ring.now = false
  rotated : ∀ issue ∈ later.issues, ∀ key ∈ later.ring.keys, issue.replaces = some key.id →
    issue.deadline ≤ later.ring.now → key.isActive later.ring.now = false
  descends : ∀ child ancestor, Relation.TransGen later.Replaces child ancestor →
    ∀ key ∈ later.ring.keys, key.id = child.key.id → Inherits key ancestor.key

theorem Ledger.Kept.descends {ledger : Ledger} (kept : ledger.Kept) {child ancestor : Issue}
    (chain : Relation.TransGen ledger.Replaces child ancestor) :
    child ∈ ledger.issues ∧ Inherits child.key ancestor.key := by
  induction chain with
  | single replaces => exact ⟨replaces.1, kept.inherits _ _ replaces⟩
  | tail _ replaces ih => exact ⟨ih.1, ih.2.trans (kept.inherits _ _ replaces)⟩

theorem keys_only_expire {clients : List ApiClient} {now : Int} {ledger later : Ledger}
    (reached : Runs (.opened clients now) ledger) (goesOn : Runs ledger later) :
    KeyLaw ledger later := by
  have kept := kept_run (reached.trans goesOn) (kept_opened clients now)
  obtain ⟨passed, aged⟩ := ages_run goesOn
  have ages : ∀ key ∈ ledger.ring.keys, ∀ next ∈ later.ring.keys, next.id = key.id →
      Ages key next := by
    intro key member next listed same
    obtain ⟨own, here, ages⟩ := aged key member
    rwa [Rows.key_unique kept.distinct here listed (same.trans ages.id.symm)]
  constructor
  · intro key member
    obtain ⟨next, listed, ages⟩ := aged key member
    exact ⟨next, listed, ages.id⟩
  · exact fun key member next listed same => (ages key member next listed same).expiry
  · intro key member next listed same inactive
    exact (ages key member next listed same).inactive passed inactive
  · intro issue issued key member named past
    cases active : key.isActive later.ring.now with
    | false => rfl
    | true =>
        have late := ((isActive_iff _ _).mp active).2
        have bound := lt_of_lt_of_le late (kept.graced issue issued key member named)
        have early : later.ring.now < issue.deadline := WithTop.coe_lt_coe.mp bound
        omega
  · intro child ancestor chain key member same
    obtain ⟨issued, inherits⟩ := kept.descends chain
    exact (kept.aged issued member same).inherits.trans inherits

def minted (n : BitVec 128) (text : String) : Minted := ⟨⟨n⟩, text, text, text⟩

def createsKey : Op := .create (minted 2 "first") ⟨1⟩ "ci" 120 none ["chat"] ⟨9⟩

def rotatesKey : Op := .rotate (minted 3 "second") 5 ⟨2⟩ 24 ⟨9⟩

theorem keys_only_expire_rotated :
    ∃ ledger later : Ledger, KeyLaw ledger later ∧ ledger.ring.keys.length = 1 ∧
      later.ring.keys.map (·.expiresAt) = [some 86400000005, none] := by
  have created : Runs (.opened [⟨⟨1⟩, "portal"⟩] 0) _ := .next createsKey .start trivial rfl
  exact ⟨_, _, keys_only_expire created (.next rotatesKey .start trivial rfl), rfl, rfl⟩

end AiPlatform.ApiKeys
