import AiPlatform.Logins
import AiPlatform.Positions

/-!
Single sign-on: `oidc_authorize` and `oidc_callback` of `app/api/v1/auth.py`, with
any number of browsers, some of them an attacker's, and an identity provider. The
state of a flow is kept in Redis for ten minutes and deleted as it is read. It is not
kept which browser has begun the flow; that is recorded here beside the system.
-/

namespace AiPlatform.Oidc

open Accounts (ExternalIdentity)
open Logins (TokenPair)

deriving instance DecidableEq for ExternalIdentity

abbrev Browser := Nat

/-- `_STATE_PREFIX` -/
def statePrefix : String := "oidc:state:"

/-- `_STATE_TTL_SECONDS` -/
def stateTtlSeconds : Nat := 600

structure Settings where
  /-- One of the providers is a `RedirectAuthProvider`. -/
  enabled : Bool
  publicBaseUrl : Option String
  attackers : List Browser

/-- `url.rstrip("/")` -/
def rstripSlash (url : String) : String :=
  String.ofList (url.toList.reverse.dropWhile (· = '/')).reverse

def callbackUrl (settings : Settings) (requestBaseUrl : String) : String :=
  let base := (settings.publicBaseUrl.filter (· ≠ "")).getD (rstripSlash requestBaseUrl)
  rstripSlash base ++ "/api/v1/auth/oidc/callback"

structure Entry where
  key : String
  value : String
  deadline : Nat

structure IssuedCode where
  code : String
  browser : Browser
  redirectUri : String
  identity : ExternalIdentity

structure Callback where
  browser : Browser
  code : String
  state : String
  redirectUri : String
  ending : Option (Except Refusal TokenPair)

structure System where
  redis : List Entry
  codes : List IssuedCode
  callbacks : List Callback
  now : Nat
  /-- Each state with the browser that began its flow. -/
  flows : List (String × Browser)

namespace System

/-- `GET`, of a key that has not expired. -/
def lookup (system : System) (key : String) : Option String :=
  (system.redis.find? fun entry => entry.key = key && system.now < entry.deadline).map Entry.value

def delete (system : System) (key : String) : List Entry :=
  system.redis.filter fun entry => entry.key ≠ key

end System

inductive Op
  | authorize (browser : Browser) (requestBaseUrl state : String)
  | authenticate (browser : Browser) (redirectUri code : String) (identity : ExternalIdentity)
  | callback (browser : Browser) (code state : String)
  /-- What the provider answers to the callback, and what `login_external` makes of it. -/
  | exchange (index : Nat) (answer : Except Refusal ExternalIdentity)
      (login : Except Refusal TokenPair)
  | wait (seconds : Nat)

/-- Unguessable texts are known to the browser that got them, and to the attacker only
if that is one of the attacker's. -/
def Settings.mayPresent (settings : Settings) (system : System) (browser : Browser)
    (code state : String) : Bool :=
  (system.flows.all fun flow =>
      flow.1 ≠ state || flow.2 = browser || settings.attackers.contains flow.2) &&
    system.codes.all fun issued =>
      issued.code ≠ code || issued.browser = browser || settings.attackers.contains issued.browser

/-- The provider answers with an identity for a code of its own and the address that
the code was issued for. -/
def System.vouches (system : System) (callback : Callback) (identity : ExternalIdentity) : Bool :=
  system.codes.any fun issued =>
    issued.code = callback.code && issued.redirectUri = callback.redirectUri &&
      issued.identity = identity

def endsWith (answer : Except Refusal ExternalIdentity) (login : Except Refusal TokenPair) :
    Except Refusal TokenPair :=
  answer.bind fun _ => login

def System.step (settings : Settings) (system : System) : Op → Option System
  | .authorize browser requestBaseUrl state =>
      -- What `token_urlsafe` draws has never been drawn before.
      if settings.enabled && system.flows.all fun flow => flow.1 ≠ state then
        let key := statePrefix ++ state
        let entry : Entry :=
          ⟨key, callbackUrl settings requestBaseUrl, system.now + stateTtlSeconds⟩
        some { system with
          redis := system.delete key ++ [entry]
          flows := system.flows ++ [(state, browser)] }
      else none
  | .authenticate browser redirectUri code identity =>
      if (system.codes.all fun issued => issued.code ≠ code) &&
          system.callbacks.all fun callback => callback.code ≠ code then
        some { system with codes := system.codes ++ [⟨code, browser, redirectUri, identity⟩] }
      else none
  | .callback browser code state =>
      if settings.enabled && settings.mayPresent system browser code state then
        let key := statePrefix ++ state
        match system.lookup key with
        | none => some { system with redis := system.delete key }
        | some redirectUri =>
            some { system with
              redis := system.delete key
              callbacks := system.callbacks ++ [⟨browser, code, state, redirectUri, none⟩] }
      else none
  | .exchange index answer login =>
      match system.callbacks[index]? with
      | none => none
      | some callback =>
          if callback.ending.isNone && answer.toOption.all (system.vouches callback) then
            some { system with
              callbacks := system.callbacks.set index
                { callback with ending := some (endsWith answer login) } }
          else none
  | .wait seconds => some { system with now := system.now + seconds }

def idle : System := ⟨[], [], [], 0, []⟩

def Callback.yields (callback : Callback) : Bool :=
  callback.ending.any fun ended => ended.toOption.isSome

def Bound (system : System) : Prop :=
  ∀ callback ∈ system.callbacks, callback.yields = true →
    (callback.state, callback.browser) ∈ system.flows

/-- A state yields tokens at most once. -/
def Once (system : System) : Prop :=
  ((system.callbacks.filter Callback.yields).map Callback.state).Nodup

/-- A browser that presents a live state, with a code that goes with it, has begun the
flow itself. -/
def OwnFlow (system : System) : Op → Prop
  | .callback browser code state => ∀ redirectUri,
      system.lookup (statePrefix ++ state) = some redirectUri →
      (∃ issued ∈ system.codes, issued.code = code ∧ issued.redirectUri = redirectUri) →
      (state, browser) ∈ system.flows
  | .authorize .. | .authenticate .. | .exchange .. | .wait _ => True

section Steps

variable {settings : Settings} {system next : System}

theorem key_injective {left right : String} (same : statePrefix ++ left = statePrefix ++ right) :
    left = right := by
  have chars := congrArg String.toList same
  rw [String.toList_append, String.toList_append] at chars
  exact String.toList_injective (List.append_cancel_left chars)

def Entry.keys (entries : List Entry) : List String := entries.map Entry.key

def Callback.key (callback : Callback) : String := statePrefix ++ callback.state

/-- The states that are stored and those that have been presented are different ones,
each of a flow, and only issued codes yield tokens. -/
structure Sound (system : System) : Prop where
  apart : (Entry.keys system.redis ++ system.callbacks.map Callback.key).Nodup
  begun : ∀ key ∈ Entry.keys system.redis ++ system.callbacks.map Callback.key,
    ∃ flow ∈ system.flows, key = statePrefix ++ flow.1
  vouched : ∀ callback ∈ system.callbacks, callback.yields = true →
    ∃ issued ∈ system.codes, issued.code = callback.code ∧
      issued.redirectUri = callback.redirectUri

def Owned (system : System) : Prop :=
  ∀ callback ∈ system.callbacks, ∀ issued ∈ system.codes, issued.code = callback.code →
    issued.redirectUri = callback.redirectUri → (callback.state, callback.browser) ∈ system.flows

theorem keys_delete (system : System) (key : String) :
    Entry.keys (system.delete key) = (Entry.keys system.redis).filter (· ≠ key) := by
  rw [Entry.keys, System.delete, Entry.keys, List.filter_map]
  rfl

theorem lookup_some {key value : String} (found : system.lookup key = some value) :
    key ∈ Entry.keys system.redis := by
  obtain ⟨entry, there, _⟩ := Option.map_eq_some_iff.mp found
  have holds := List.find?_some there
  simp only [Bool.and_eq_true, decide_eq_true_eq] at holds
  exact List.mem_map.mpr ⟨entry, List.mem_of_find?_eq_some there, holds.1⟩

inductive Effect (system : System) : Op → System → Prop
  | authorized (browser : Browser) (requestBaseUrl state : String) (entry : Entry)
      (fresh : ∀ flow ∈ system.flows, flow.1 ≠ state) (keyed : entry.key = statePrefix ++ state) :
      Effect system (.authorize browser requestBaseUrl state) { system with
        redis := system.delete (statePrefix ++ state) ++ [entry]
        flows := system.flows ++ [(state, browser)] }
  | issued (issued : IssuedCode)
      (unused : ∀ callback ∈ system.callbacks, callback.code ≠ issued.code) :
      Effect system (.authenticate issued.browser issued.redirectUri issued.code issued.identity)
        { system with codes := system.codes ++ [issued] }
  | missed (browser : Browser) (code state : String) :
      Effect system (.callback browser code state)
        { system with redis := system.delete (statePrefix ++ state) }
  | presented (browser : Browser) (code state redirectUri : String)
      (found : system.lookup (statePrefix ++ state) = some redirectUri) :
      Effect system (.callback browser code state) { system with
        redis := system.delete (statePrefix ++ state)
        callbacks := system.callbacks ++ [⟨browser, code, state, redirectUri, none⟩] }
  | ended (index : Nat) (answer : Except Refusal ExternalIdentity)
      (login : Except Refusal TokenPair) (callback : Callback)
      (there : system.callbacks[index]? = some callback)
      (vouched : answer.toOption.all (system.vouches callback) = true) :
      Effect system (.exchange index answer login) { system with
        callbacks := system.callbacks.set index
          { callback with ending := some (endsWith answer login) } }
  | waited (seconds : Nat) :
      Effect system (.wait seconds) { system with now := system.now + seconds }

theorem step_effect {op : Op} (stepped : system.step settings op = some next) :
    Effect system op next := by
  cases op with
  | authorize browser requestBaseUrl state =>
      simp only [System.step] at stepped
      split at stepped
      · rename_i fresh
        cases stepped
        simp only [Bool.and_eq_true, List.all_eq_true, decide_eq_true_eq] at fresh
        exact .authorized browser requestBaseUrl state _ fresh.2 rfl
      · cases stepped
  | authenticate browser redirectUri code identity =>
      simp only [System.step] at stepped
      split at stepped
      · rename_i fresh
        cases stepped
        simp only [Bool.and_eq_true, List.all_eq_true, decide_eq_true_eq] at fresh
        exact .issued ⟨code, browser, redirectUri, identity⟩ fresh.2
      · cases stepped
  | callback browser code state =>
      simp only [System.step] at stepped
      split at stepped
      · split at stepped
        · cases stepped
          exact .missed browser code state
        · rename_i redirectUri found
          cases stepped
          exact .presented browser code state redirectUri found
      · cases stepped
  | exchange index answer login =>
      simp only [System.step] at stepped
      split at stepped
      · cases stepped
      · rename_i callback there
        split at stepped
        · rename_i vouched
          cases stepped
          simp only [Bool.and_eq_true] at vouched
          exact .ended index answer login callback there vouched.2
        · cases stepped
  | wait seconds =>
      cases stepped
      exact .waited seconds

theorem apart_delete {key : String} (sound : Sound system) :
    (Entry.keys (system.delete key) ++ system.callbacks.map Callback.key).Nodup := by
  rw [keys_delete]
  exact sound.apart.sublist (List.Sublist.append_right List.filter_sublist _)

theorem begun_delete {key other : String} (sound : Sound system)
    (member : other ∈ Entry.keys (system.delete key) ++ system.callbacks.map Callback.key) :
    ∃ flow ∈ system.flows, other = statePrefix ++ flow.1 := by
  rw [keys_delete] at member
  apply sound.begun
  exact (List.Sublist.append_right List.filter_sublist _).subset member

theorem nodup_insert {left right : List String} {key : String} (apart : (left ++ right).Nodup)
    (unused : key ∉ left ++ right) : (left ++ key :: right).Nodup := by
  rw [List.nodup_middle]
  exact List.nodup_cons.mpr ⟨unused, apart⟩

-- The state of a new flow has not been drawn before.
theorem sound_authorized {browser : Browser} {state : String} {entry : Entry}
    (fresh : ∀ flow ∈ system.flows, flow.1 ≠ state) (keyed : entry.key = statePrefix ++ state)
    (sound : Sound system) : Sound { system with
      redis := system.delete (statePrefix ++ state) ++ [entry]
      flows := system.flows ++ [(state, browser)] } := by
  have unused : entry.key ∉ Entry.keys (system.delete (statePrefix ++ state)) ++
      system.callbacks.map Callback.key := by
    intro member
    obtain ⟨flow, listed, same⟩ := begun_delete sound member
    exact fresh flow listed (key_injective (keyed.symm.trans same)).symm
  have keys : Entry.keys (system.delete (statePrefix ++ state) ++ [entry]) ++
        system.callbacks.map Callback.key =
      Entry.keys (system.delete (statePrefix ++ state)) ++
        entry.key :: system.callbacks.map Callback.key := by
    simp [Entry.keys]
  constructor
  · change (Entry.keys (_ ++ [entry]) ++ _).Nodup
    rw [keys]
    exact nodup_insert (apart_delete sound) unused
  · intro key member
    change key ∈ Entry.keys (_ ++ [entry]) ++ _ at member
    rw [keys, List.mem_append, List.mem_cons] at member
    obtain stored | rfl | used := member
    · obtain ⟨flow, listed, same⟩ := begun_delete sound (List.mem_append_left _ stored)
      exact ⟨flow, List.mem_append_left _ listed, same⟩
    · exact ⟨_, List.mem_append_right _ (List.mem_singleton_self _), keyed⟩
    · obtain ⟨flow, listed, same⟩ := sound.begun key (List.mem_append_right _ used)
      exact ⟨flow, List.mem_append_left _ listed, same⟩
  · exact sound.vouched

-- What a callback has read is deleted, so that no other callback reads it.
theorem sound_presented {browser : Browser} {code state redirectUri : String}
    (found : system.lookup (statePrefix ++ state) = some redirectUri) (sound : Sound system) :
    Sound { system with
      redis := system.delete (statePrefix ++ state)
      callbacks := system.callbacks ++ [⟨browser, code, state, redirectUri, none⟩] } := by
  have stored := lookup_some found
  have unused : statePrefix ++ state ∉
      Entry.keys (system.delete (statePrefix ++ state)) ++ system.callbacks.map Callback.key := by
    rw [keys_delete, List.mem_append, List.mem_filter]
    rintro (⟨_, other⟩ | used)
    · simp at other
    · exact List.disjoint_of_nodup_append sound.apart stored used
  have keys : (system.callbacks ++ [(⟨browser, code, state, redirectUri, none⟩ : Callback)]).map
      Callback.key = system.callbacks.map Callback.key ++ [statePrefix ++ state] := by
    simp [Callback.key]
  constructor
  · change (_ ++ (system.callbacks ++ [_]).map Callback.key).Nodup
    rw [keys, ← List.append_assoc]
    apply nodup_insert
    · rw [List.append_nil]
      exact apart_delete sound
    · rw [List.append_nil]
      exact unused
  · intro key member
    change key ∈ _ ++ (system.callbacks ++ [_]).map Callback.key at member
    rw [keys, ← List.append_assoc, List.mem_append, List.mem_singleton] at member
    obtain before | rfl := member
    · exact @begun_delete system _ _ sound before
    · exact sound.begun _ (List.mem_append_left _ stored)
  · intro callback member yields
    obtain before | last := List.mem_append.mp member
    · exact sound.vouched callback before yields
    · rw [List.mem_singleton.mp last] at yields
      cases yields

theorem sound_ended {index : Nat} {answer : Except Refusal ExternalIdentity}
    {login : Except Refusal TokenPair} {callback : Callback}
    (there : system.callbacks[index]? = some callback)
    (vouched : answer.toOption.all (system.vouches callback) = true) (sound : Sound system) :
    Sound { system with
      callbacks := system.callbacks.set index
        { callback with ending := some (endsWith answer login) } } := by
  have keys : (system.callbacks.set index
      { callback with ending := some (endsWith answer login) }).map Callback.key =
      system.callbacks.map Callback.key :=
    Positions.map_set there rfl
  constructor
  · change (_ ++ (system.callbacks.set _ _).map Callback.key).Nodup
    rw [keys]
    exact sound.apart
  · intro key member
    change key ∈ _ ++ (system.callbacks.set _ _).map Callback.key at member
    rw [keys] at member
    exact sound.begun key member
  · intro other member yields
    obtain before | rfl := List.mem_or_eq_of_mem_set member
    · exact sound.vouched other before yields
    · cases answer with
      | error refusal => cases yields
      | ok identity =>
          obtain ⟨issued, listed, same⟩ := List.any_eq_true.mp vouched
          simp only [Bool.and_eq_true, decide_eq_true_eq] at same
          exact ⟨issued, listed, same.1⟩

theorem sound_step {op : Op} (effect : Effect system op next) (sound : Sound system) :
    Sound next := by
  cases effect with
  | authorized browser requestBaseUrl state entry fresh keyed =>
      exact sound_authorized fresh keyed sound
  | issued issued unused =>
      refine ⟨sound.apart, sound.begun, fun callback member yields => ?_⟩
      obtain ⟨code, listed, same⟩ := sound.vouched callback member yields
      exact ⟨code, List.mem_append_left _ listed, same⟩
  | missed browser code state =>
      constructor
      · exact @apart_delete system _ sound
      · exact fun key member => @begun_delete system _ _ sound member
      · exact sound.vouched
  | presented browser code state redirectUri found => exact sound_presented found sound
  | ended index answer login callback there vouched => exact sound_ended there vouched sound
  | waited seconds => exact ⟨sound.apart, sound.begun, sound.vouched⟩

theorem owned_step {op : Op} (effect : Effect system op next) (own : OwnFlow system op)
    (owned : Owned system) : Owned next := by
  cases effect with
  | authorized browser requestBaseUrl state entry fresh keyed =>
      intro callback member issued listed code uri
      exact List.mem_append_left _ (owned callback member issued listed code uri)
  | issued issued unused =>
      intro callback member other listed code uri
      obtain before | last := List.mem_append.mp listed
      · exact owned callback member other before code uri
      · rw [List.mem_singleton.mp last] at code
        exact absurd code.symm (unused callback member)
  | missed browser code state => exact owned
  | presented browser code state redirectUri found =>
      intro callback member issued listed same uri
      obtain before | last := List.mem_append.mp member
      · exact owned callback before issued listed same uri
      · rw [List.mem_singleton.mp last] at same uri ⊢
        exact own redirectUri found ⟨issued, listed, same, uri⟩
  | ended index answer login callback there vouched =>
      intro other member issued listed code uri
      obtain before | rfl := List.mem_or_eq_of_mem_set member
      · exact owned other before issued listed code uri
      · exact owned callback (List.mem_of_getElem? there) issued listed code uri
  | waited seconds => exact owned

end Steps

section Runs

variable {settings : Settings} {system : System} {ok : System → Op → Prop}

theorem sound_reached (reached : History (System.step settings) ok idle system) :
    Sound system := by
  have first : Sound idle :=
    ⟨List.nodup_nil, fun _ member => (nomatch member), fun _ member => nomatch member⟩
  exact reached.keeps Sound first fun _ _ _ _ stepped sound =>
    sound_step (step_effect stepped) sound

theorem once_reached (reached : History (System.step settings) ok idle system) : Once system := by
  have apart := (sound_reached reached).apart.of_append_right
  have states : (system.callbacks.map Callback.state).Nodup := by
    refine List.Nodup.of_map (statePrefix ++ ·) ?_
    rw [List.map_map]
    exact apart
  exact states.sublist (List.filter_sublist.map _)

theorem sign_in_is_bound (reached : History (System.step settings) OwnFlow idle system) :
    Bound system ∧ Once system := by
  have first : Owned idle := fun _ member => nomatch member
  have owned : Owned system := reached.keeps Owned first fun _ _ _ own stepped owned =>
    owned_step (step_effect stepped) own owned
  constructor
  · intro callback member yields
    obtain ⟨issued, listed, code, uri⟩ := (sound_reached reached).vouched callback member yields
    exact owned callback member issued listed code uri
  · exact once_reached reached

end Runs

def site : Settings := ⟨true, some "https://ai.example.com", [0]⟩

def returnUri : String := callbackUrl site ""

def mallory : ExternalIdentity := ⟨"m", "mallory", "m@example.com", "oidc", none, []⟩

def tokens : TokenPair := ⟨"access", "refresh", 900⟩

/-- The attacker's browser begins a flow and authenticates, and the browser presents
what came of it. -/
def presents (browser : Browser) : List Op :=
  [.authorize 0 "" "s", .authenticate 0 returnUri "c" mallory, .callback browser "c" "s",
    .exchange 0 (.ok mallory) (.ok tokens)]

def final (browser : Browser) : System where
  redis := []
  codes := [⟨"c", 0, returnUri, mallory⟩]
  callbacks := [⟨browser, "c", "s", returnUri, some (.ok tokens)⟩]
  now := 0
  flows := [("s", 0)]

def checksFlow (system : System) : Op → Bool
  | .callback browser _ state => system.flows.contains (state, browser)
  | .authorize .. | .authenticate .. | .exchange .. | .wait _ => true

theorem checksFlow_sound (system : System) (op : Op) (checked : checksFlow system op = true) :
    OwnFlow system op := by
  cases op with
  | callback browser code state => exact fun _ _ _ => List.contains_iff_mem.mp checked
  | authorize browser requestBaseUrl state => trivial
  | authenticate browser redirectUri code identity => trivial
  | exchange index answer login => trivial
  | wait seconds => trivial

theorem own_sign_in_is_bound : (final 0).callbacks.map Callback.yields = [true] ∧
    (Bound (final 0) ∧ Once (final 0)) := by
  have reached : History (System.step site) OwnFlow idle (final 0) :=
    history_replay checksFlow_sound (presents 0) rfl
  exact ⟨rfl, sign_in_is_bound reached⟩

/-- The victim's browser is signed in to the attacker's account. -/
theorem foreign_state_signs_in :
    History (System.step site) (fun _ _ => True) idle (final 1) ∧ ¬Bound (final 1) := by
  constructor
  · exact @history_replay _ _ _ (fun _ _ => true) _ (fun _ _ _ => trivial) _ _ (presents 1) rfl
  · intro bound
    have began := bound _ (List.mem_singleton_self _) rfl
    exact absurd began (by decide)

end AiPlatform.Oidc
