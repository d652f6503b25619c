import AiPlatform.Accounts

/-!
`TokenService` of `app/core/security.py`, and `refresh` and
`resolve_access_token` of `app/services/auth.py`, on a platform whose accounts
change in any way. The signatures of JWT and the reading of a UUID are
parameters. `login` and `login_external` let in accounts that are active. Times
are whole seconds; audit records are left out.
-/

namespace AiPlatform.AccessTokens

open Accounts (Directory User)

inductive TokenType
  | access | refresh
  deriving DecidableEq

def TokenType.text : TokenType → String
  | .access => "access"
  | .refresh => "refresh"

structure Payload where
  sub : String
  typ : String
  iss : String
  iat : Nat
  nbf : Nat
  exp : Nat
  jti : String
  claims : Option (String × List String)
  deriving DecidableEq

structure Jwt (τ : Type) where
  encode : Payload → τ
  /-- The payload, if the signature is good and no required claim is missing. -/
  verify : τ → Option Payload
  verify_encode : ∀ payload, verify (encode payload) = some payload

structure Settings where
  issuer : String
  accessTtl : Nat
  refreshTtl : Nat
  parse : String → Option Uuid
  parse_str : ∀ id : Uuid, parse id.str = some id

def Settings.ttl (settings : Settings) : TokenType → Nat
  | .access => settings.accessTtl
  | .refresh => settings.refreshTtl

/-- What `_encode` signs. -/
def Settings.payload (settings : Settings) (typ : TokenType) (account : Uuid) (time : Nat)
    (jti : String) (claims : Option (String × List String)) : Payload :=
  ⟨account.str, typ.text, settings.issuer, time, time, time + settings.ttl typ, jti, claims⟩

def tokenError : AppError :=
  authenticationError "The access token is missing, malformed or expired."

variable {τ : Type} (jwt : Jwt τ) (settings : Settings)

def decode (now : Nat) (token : τ) (expectedType : TokenType) : Except AppError Payload :=
  match jwt.verify token with
  | none => .error tokenError
  | some payload =>
      if now < payload.iat || now < payload.nbf then .error tokenError
      else if payload.exp ≤ now then .error (authenticationError "The token has expired.")
      else if payload.iss ≠ settings.issuer then .error tokenError
      else if payload.typ ≠ expectedType.text then
        .error (authenticationError s!"Expected a {expectedType.text} token.")
      else .ok payload

def getWithRoles (directory : Directory) (id : Uuid) : Option User :=
  directory.users.find? fun user => user.id = id

def resolveSubject (directory : Directory) (subject : String) : Except AppError User :=
  if subject = "" then .error tokenError
  else match settings.parse subject with
    | none => .error (authenticationError "Token subject is not a valid user id.")
    | some id => match getWithRoles directory id with
      | none =>
          .error (authenticationError "The user this token refers to no longer exists.")
      | some user => .ok user

/-- What `refresh` and `resolve_access_token` begin with. -/
def holder (directory : Directory) (now : Nat) (token : τ) (typ : TokenType) :
    Except AppError User := do
  let payload ← decode jwt settings now token typ
  let user ← resolveSubject settings directory payload.sub
  if user.isActive then .ok user else .error (authenticationError "This account is disabled.")

def resolveAccessToken (directory : Directory) (now : Nat) (token : τ) : Except AppError User :=
  holder jwt settings directory now token .access

structure Grant (τ : Type) where
  token : τ
  typ : TokenType
  account : Uuid
  time : Nat

inductive Event
  | signedIn (user : User) (time : Nat)
  | refreshed (user : User) (time : Nat)

structure State (τ : Type) where
  now : Nat
  directory : Directory
  grants : List (Grant τ)
  log : List Event

/-- `_issue`, with the random ids of the two tokens. -/
def issue (time : Nat) (user : User) (jti : String × String) : List (Grant τ) :=
  [⟨jwt.encode (settings.payload .access user.id time jti.1 (some (user.username, user.roles))),
      .access, user.id, time⟩,
    ⟨jwt.encode (settings.payload .refresh user.id time jti.2 none), .refresh, user.id, time⟩]

inductive Op (τ : Type)
  | wait (seconds : Nat)
  | edit (directory : Directory)
  | signIn (account : Uuid) (jti : String × String)
  | refresh (token : τ) (jti : String × String)

def step (state : State τ) : Op τ → Option (State τ)
  | .wait seconds => some { state with now := state.now + seconds }
  | .edit directory => some { state with directory := directory }
  | .signIn account jti =>
      match (getWithRoles state.directory account).filter User.isActive with
      | none => none
      | some user => some { state with
          grants := state.grants ++ issue jwt settings state.now user jti
          log := state.log ++ [.signedIn user state.now] }
  | .refresh token jti =>
      match holder jwt settings state.directory state.now token .refresh with
      | .error _ => none
      | .ok user => some { state with
          grants := state.grants ++ issue jwt settings state.now user jti
          log := state.log ++ [.refreshed user state.now] }

/-- Nobody else has the secret: what verifies was handed out. -/
def Genuine (state : State τ) (token : τ) : Prop :=
  jwt.verify token ≠ none → ∃ grant ∈ state.grants, grant.token = token

def Presents (state : State τ) : Op τ → Prop
  | .refresh token _ => Genuine jwt state token
  | _ => True

/-- The account was let in, and came to the time by refreshes that were each in time, and
was active whenever it did. -/
inductive Descends (ttl : Nat) (log : List Event) (account : Uuid) : Nat → Prop
  | signIn {user : User} {time : Nat} (signed : .signedIn user time ∈ log)
      (same : user.id = account) (active : user.isActive = true) : Descends ttl log account time
  | refresh {user : User} {time later : Nat} (earlier : Descends ttl log account time)
      (refreshed : .refreshed user later ∈ log) (same : user.id = account)
      (active : user.isActive = true) (after : time ≤ later) (soon : later < time + ttl) :
      Descends ttl log account later

section Runs

variable {jwt settings} {state after : State τ} {token : τ} {user : User}

theorem Descends.mono {ttl : Nat} {log more : List Event} {account : Uuid} {time : Nat}
    (descends : Descends ttl log account time) : Descends ttl (log ++ more) account time := by
  induction descends with
  | signIn signed same active => exact .signIn (List.mem_append_left _ signed) same active
  | refresh _ refreshed same active later soon ih =>
      exact .refresh ih (List.mem_append_left _ refreshed) same active later soon

structure Grant.Sound (jwt : Jwt τ) (settings : Settings) (state : State τ) (grant : Grant τ) :
    Prop where
  signed : ∃ jti claims, jwt.verify grant.token =
    some (settings.payload grant.typ grant.account grant.time jti claims)
  past : grant.time ≤ state.now
  descends : Descends settings.refreshTtl state.log grant.account grant.time

def Sound (jwt : Jwt τ) (settings : Settings) (state : State τ) : Prop :=
  ∀ grant ∈ state.grants, grant.Sound jwt settings state

theorem text_injective {typ other : TokenType} (same : typ.text = other.text) : typ = other := by
  cases typ <;> cases other <;> first | rfl | exact absurd same (by decide)

theorem str_ne_empty (id : Uuid) : id.str ≠ "" := by
  intro same
  have lengths := congrArg String.length same
  simp [Uuid.str] at lengths

theorem decode_ok {now : Nat} {typ : TokenType} {payload : Payload} :
    decode jwt settings now token typ = .ok payload ↔ jwt.verify token = some payload ∧
      (payload.iat ≤ now ∧ payload.nbf ≤ now) ∧ now < payload.exp ∧
      payload.iss = settings.issuer ∧ payload.typ = typ.text := by
  unfold decode
  cases jwt.verify token with
  | none => simp
  | some found =>
      -- Each check that fails raises, so what is left are the four that pass.
      simp only [Bool.or_eq_true, decide_eq_true_eq, Option.some.injEq]
      grind

theorem resolveSubject_ok {directory : Directory} {account : Uuid} :
    resolveSubject settings directory account.str = .ok user ↔
      getWithRoles directory account = some user := by
  rw [resolveSubject, if_neg (str_ne_empty _), settings.parse_str]
  dsimp only
  cases getWithRoles directory account <;> simp

theorem getWithRoles_id {directory : Directory} {id : Uuid}
    (found : getWithRoles directory id = some user) : user.id = id := by
  unfold getWithRoles at found
  simpa using List.find?_some found

theorem holder_iff {directory : Directory} {now : Nat} {typ : TokenType} :
    holder jwt settings directory now token typ = .ok user ↔
      ∃ payload, decode jwt settings now token typ = .ok payload ∧
        resolveSubject settings directory payload.sub = .ok user ∧ user.isActive = true := by
  constructor
  · intro accepted
    obtain ⟨payload, decoded, read⟩ := bind_ok.mp accepted
    obtain ⟨found, resolved, ended⟩ := bind_ok.mp read
    split at ended
    · rename_i active
      cases ended
      exact ⟨payload, decoded, resolved, active⟩
    · cases ended
  · rintro ⟨payload, decoded, resolved, active⟩
    exact bind_ok.mpr ⟨payload, decoded, bind_ok.mpr ⟨user, resolved, if_pos active⟩⟩

theorem holder_verify {directory : Directory} {now : Nat} {typ : TokenType}
    (accepted : holder jwt settings directory now token typ = .ok user) :
    jwt.verify token ≠ none := by
  obtain ⟨payload, decoded, _⟩ := holder_iff.mp accepted
  rw [(decode_ok.mp decoded).1]
  exact Option.some_ne_none _

/-- A token that was handed out is good for its kind until it expires, for an active account. -/
theorem holder_ok {typ : TokenType} {grant : Grant τ} (sound : grant.Sound jwt settings state) :
    holder jwt settings state.directory state.now grant.token typ = .ok user ↔
      grant.typ = typ ∧ state.now < grant.time + settings.ttl typ ∧
        getWithRoles state.directory grant.account = some user ∧ user.isActive = true := by
  obtain ⟨jti, claims, signed⟩ := sound.signed
  constructor
  · intro accepted
    obtain ⟨payload, decoded, resolved, active⟩ := holder_iff.mp accepted
    obtain ⟨verified, _, live, _, kind⟩ := decode_ok.mp decoded
    obtain rfl : settings.payload grant.typ grant.account grant.time jti claims = payload :=
      Option.some.inj (signed.symm.trans verified)
    have same : grant.typ = typ := text_injective kind
    exact ⟨same, same ▸ live, resolveSubject_ok.mp resolved, active⟩
  · rintro ⟨rfl, live, read, active⟩
    have decoded := decode_ok.mpr ⟨signed, ⟨sound.past, sound.past⟩, live, rfl, rfl⟩
    exact holder_iff.mpr ⟨_, decoded, resolveSubject_ok.mpr read, active⟩

theorem issue_sound {log : List Event} {jti : String × String} (old : Sound jwt settings state)
    (kept : ∀ {account time}, Descends settings.refreshTtl state.log account time →
      Descends settings.refreshTtl log account time)
    (descends : Descends settings.refreshTtl log user.id state.now) :
    Sound jwt settings { state with
      grants := state.grants ++ issue jwt settings state.now user jti, log := log } := by
  intro grant member
  rcases List.mem_append.mp member with before | new
  · obtain ⟨signed, past, from_sign_in⟩ := old grant before
    exact ⟨signed, past, kept from_sign_in⟩
  · rcases List.mem_pair.mp new with rfl | rfl <;>
      exact ⟨⟨_, _, jwt.verify_encode _⟩, Nat.le_refl _, descends⟩

theorem step_sound {op : Op τ} (sound : Sound jwt settings state) (presents : Presents jwt state op)
    (stepped : step jwt settings state op = some after) : Sound jwt settings after := by
  cases op with
  | wait | edit =>
      cases stepped
      intro grant member
      obtain ⟨signed, past, descends⟩ := sound grant member
      exact ⟨signed, by dsimp only; omega, descends⟩
  | signIn account jti =>
      simp only [step] at stepped
      split at stepped
      · cases stepped
      · rename_i user found
        cases stepped
        obtain ⟨_, active⟩ := Option.filter_eq_some_iff.mp found
        exact issue_sound sound Descends.mono
          (.signIn (List.mem_append_right _ List.mem_cons_self) rfl active)
  | refresh token jti =>
      simp only [step] at stepped
      split at stepped
      · cases stepped
      · rename_i user accepted
        cases stepped
        obtain ⟨grant, member, rfl⟩ := presents (holder_verify accepted)
        obtain ⟨_, live, read, active⟩ := (holder_ok (sound grant member)).mp accepted
        have same : user.id = grant.account := getWithRoles_id read
        obtain ⟨_, past, descends⟩ := sound grant member
        refine issue_sound sound Descends.mono (.refresh ?_
          (List.mem_append_right _ List.mem_cons_self) rfl active past live)
        rw [same]
        exact descends.mono

/-- No token has been handed out yet. -/
def opened (directory : Directory) (now : Nat) : State τ := ⟨now, directory, [], []⟩

/-- An access token is good exactly while it is one that was handed out, has not expired, and
its account is active; and the account was let in, and has refreshed in time ever since. -/
theorem resolveAccessToken_iff {directory : Directory} {now : Nat}
    (history : History (step jwt settings) (Presents jwt) (opened directory now) state)
    (genuine : Genuine jwt state token) :
    resolveAccessToken jwt settings state.directory state.now token = .ok user ↔
      ∃ grant ∈ state.grants, grant.token = token ∧ grant.typ = .access ∧
        state.now < grant.time + settings.accessTtl ∧
        getWithRoles state.directory grant.account = some user ∧ user.isActive = true ∧
        Descends settings.refreshTtl state.log grant.account grant.time := by
  have sound : Sound jwt settings state :=
    history.keeps (Sound jwt settings) (fun _ member => by cases member)
      fun _ _ _ presents stepped sound => step_sound sound presents stepped
  constructor
  · intro accepted
    obtain ⟨grant, member, rfl⟩ := genuine (holder_verify accepted)
    obtain ⟨kind, live, read, active⟩ := (holder_ok (sound grant member)).mp accepted
    exact ⟨grant, member, rfl, kind, live, read, active, (sound grant member).descends⟩
  · rintro ⟨grant, member, rfl, kind, live, read, active, _⟩
    exact (holder_ok (sound grant member)).mpr ⟨kind, live, read, active⟩

end Runs

def plainJwt : Jwt Payload := ⟨id, some, fun _ => rfl⟩

open Classical in
/-- Only the canonical text of an id is read. -/
noncomputable def plainSettings : Settings where
  issuer := "private-ai-platform"
  accessTtl := 3600
  refreshTtl := 604800
  parse text := if known : ∃ id : Uuid, id.str = text then some known.choose else none
  parse_str id := by
    have known : ∃ other : Uuid, other.str = id.str := ⟨id, rfl⟩
    rw [dif_pos known, Uuid.str_injective known.choose_spec]

def amal : User :=
  ⟨⟨1⟩, "amal", "amal@example.org", none, none, "local", none, true, false, ["OPERATOR"]⟩

theorem resolveAccessToken_amal :
    resolveAccessToken plainJwt plainSettings ⟨[amal], []⟩ 90
      (plainSettings.payload .access ⟨1⟩ 60 "a" (some ("amal", ["OPERATOR"]))) = .ok amal := by
  have signed : step plainJwt plainSettings (opened ⟨[amal], []⟩ 60) (.signIn ⟨1⟩ ("a", "b")) =
      some ⟨60, ⟨[amal], []⟩, issue plainJwt plainSettings 60 amal ("a", "b"),
        [.signedIn amal 60]⟩ := rfl
  have history : History (step plainJwt plainSettings) (Presents plainJwt)
      (opened ⟨[amal], []⟩ 60) _ :=
    .next (.wait 30) (.next (.signIn ⟨1⟩ ("a", "b")) .start trivial signed) trivial rfl
  refine (resolveAccessToken_iff history
    fun _ => ⟨_, List.mem_cons_self, rfl⟩).mpr ⟨_, List.mem_cons_self, rfl, rfl, ?_, rfl, rfl, ?_⟩
  · change 90 < 60 + 3600
    decide
  · exact .signIn List.mem_cons_self rfl rfl

end AiPlatform.AccessTokens
