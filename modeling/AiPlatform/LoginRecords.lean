import AiPlatform.Logins

/-!
What a login leaves behind. A refusal is committed to the audit log by its own
transaction, if the row is accepted. The count of failed logins is part of the
transaction that the refusal rolls back.
-/

namespace AiPlatform.Logins

open Accounts (Directory ExternalIdentity User)
open Audit (AuditLog AuditResult Entry build clean contextFits fits recordIndependent)
open Agents (truthy)
open Requests (Request RequestContext leftMost peerIsTrusted resolveClientIp)

def Meets {α : Type} (handler : Handler α) (work : Work) (post : Except Raised α → Work → Prop) :
    Prop :=
  post (handler.run.run work).1 (handler.run.run work).2

section Rules

variable {α β : Type} {work : Work}

theorem meets_bind {first : Handler α} {rest : α → Handler β} {middle : Except Raised α → Work → Prop}
    {post : Except Raised β → Work → Prop} (meets : Meets first work middle)
    (raised : ∀ raised after, middle (.error raised) after → post (.error raised) after)
    (next : ∀ value after, middle (.ok value) after → Meets (rest value) after post) :
    Meets (first >>= rest) work post := by
  have run : (first >>= rest).run.run work =
      match first.run.run work with
      | (.error raised, after) => (.error raised, after)
      | (.ok value, after) => (rest value).run.run after := by
    change ((first.run >>= ExceptT.bindCont rest).run work) = _
    rw [StateT.run_bind]
    change (match first.run.run work with | (result, after) => _) = _
    rcases first.run.run work with ⟨result, after⟩
    cases result <;> rfl
  unfold Meets
  rw [run]
  unfold Meets at meets
  rcases ending : first.run.run work with ⟨result, after⟩
  rw [ending] at meets
  cases result with
  | error failure => exact raised failure after meets
  | ok value => exact next value after meets

structure Quiet (work after : Work) : Prop where
  committed : after.committed = work.committed
  zero : ∀ id, work.failedLoginCount id = 0 → after.failedLoginCount id = 0

theorem Quiet.refl (work : Work) : Quiet work work := ⟨rfl, fun _ zero => zero⟩

theorem Quiet.trans {middle after : Work} (first : Quiet work middle) (second : Quiet middle after) :
    Quiet work after :=
  ⟨second.committed.trans first.committed, fun id zero => second.zero id (first.zero id zero)⟩

def Goes (work : Work) (holds : α → Work → Prop) : Except Raised α → Work → Prop
  | .ok value, after => Quiet work after ∧ holds value after
  | .error (.refused _ _), _ => False
  | .error (.failed _), _ | .error .waits, _ => True

theorem goes_orRaise (result : Except Refusal α) :
    Meets (orRaise result) work (Goes work fun value after => result = .ok value ∧ after = work) := by
  cases result with
  | error refusal => exact True.intro
  | ok value => exact ⟨.refl work, rfl, rfl⟩

theorem goes_store (directory : Directory) :
    Meets (store directory) work (Goes work fun _ after => after.directory = directory) :=
  ⟨⟨rfl, fun _ zero => zero⟩, rfl⟩

theorem goes_reset (id : Uuid) : Meets (setCount id 0) work (Goes work fun _ _ => True) := by
  refine ⟨⟨rfl, fun other zero => ?_⟩, True.intro⟩
  by_cases same : other = id
  · rw [same]
    exact Function.update_self ..
  · exact (Function.update_of_ne same ..).trans zero

theorem goes_record (settings : Settings) (context : RequestContext) (entry : Entry) :
    Meets (record settings context entry) work (Goes work fun _ _ => True) := by
  unfold record
  simp only
  split
  · exact ⟨⟨rfl, fun _ zero => zero⟩, True.intro⟩
  · exact True.intro

theorem goes_mono {handler : Handler α} {holds weaker : α → Work → Prop}
    (goes : Meets handler work (Goes work holds))
    (implies : ∀ value after, holds value after → weaker value after) :
    Meets handler work (Goes work weaker) := by
  unfold Meets at goes ⊢
  generalize handler.run.run work = ended at goes ⊢
  obtain ⟨result, after⟩ := ended
  cases result with
  | ok value => exact ⟨goes.1, implies value after goes.2⟩
  | error raised => cases raised <;> exact goes

theorem goes_get : Meets (get : Handler Work) work (Goes work fun read after =>
    read = work ∧ after = work) :=
  ⟨.refl work, rfl, rfl⟩

theorem goes_bind {first : Handler α} {rest : α → Handler β} {middle : α → Work → Prop}
    {holds : β → Work → Prop} (goes : Meets first work (Goes work middle))
    (next : ∀ value after, middle value after → Meets (rest value) after (Goes after holds)) :
    Meets (first >>= rest) work (Goes work holds) := by
  apply meets_bind goes
  · intro raised after failed
    cases raised with
    | refused cause error => exact failed.elim
    | failed refusal => exact True.intro
    | waits => exact True.intro
  · rintro value after ⟨quiet, holds'⟩
    have last := next value after holds'
    unfold Meets at last ⊢
    generalize (rest value).run.run after = ended at last ⊢
    obtain ⟨result, final⟩ := ended
    cases result with
    | ok value => exact ⟨quiet.trans last.1, last.2⟩
    | error raised => cases raised <;> exact last

theorem goes_settle (settings : Settings) (context : RequestContext) (id : Uuid) (entry : Entry)
    (value : α) :
    Meets (do setCount id 0; record settings context entry; return value) work
      (Goes work fun result _ => result = value) := by
  apply goes_bind (goes_reset id)
  intro _ reset _
  apply goes_bind (goes_record settings context entry)
  intro _ recorded _
  exact ⟨.refl recorded, rfl⟩

inductive Records (settings : Settings) (context : RequestContext) (work : Work)
    (known : Prop) (agent : Option String) : Except Raised α → Work → Prop
  | passes (value : α) (after : Work) (quiet : Quiet work after) :
      Records settings context work known agent (.ok value) after
  | refused (cause : Cause) (error : AppError) (after : Work) (entry : Entry)
      (committed : after.committed =
        recordIndependent settings.casing context work.committed entry)
      (refuses : entry.result ≠ .success)
      (accepted : known → ((build settings.casing context entry).accepted = true ↔
        contextFits context = true ∧ agent.all (fits 512) = true)) :
      Records settings context work known agent (.error (.refused cause error)) after
  | failed (refusal : Refusal) (after : Work) :
      Records settings context work known agent (.error (.failed refusal)) after
  | waits (after : Work) : Records settings context work known agent (.error .waits) after

theorem records_goes {settings : Settings} {context : RequestContext} {known : Prop} {agent : Option String}
    {handler : Handler α} {holds : α → Work → Prop} (goes : Meets handler work (Goes work holds)) :
    Meets handler work (Records settings context work known agent) := by
  unfold Meets at goes ⊢
  generalize handler.run.run work = ended at goes ⊢
  obtain ⟨result, after⟩ := ended
  cases result with
  | ok value => exact .passes value after goes.1
  | error raised =>
      cases raised with
      | refused cause error => exact goes.elim
      | failed refusal => exact .failed refusal after
      | waits => exact .waits after

theorem records_after {settings : Settings} {context : RequestContext} {known : Prop}
    {agent : Option String} {handler : Handler α} {middle : Work} (quiet : Quiet work middle)
    (records : Meets handler middle (Records settings context middle known agent)) :
    Meets handler middle (Records settings context work known agent) := by
  unfold Meets at records ⊢
  generalize handler.run.run middle = ended at records ⊢
  obtain ⟨result, after⟩ := ended
  cases records with
  | passes value after ends => exact .passes value after (quiet.trans ends)
  | refused cause error after entry committed refuses accepted =>
      rw [quiet.committed] at committed
      exact .refused cause error after entry committed refuses accepted
  | failed refusal after => exact .failed refusal after
  | waits after => exact .waits after

theorem records_bind {settings : Settings} {context : RequestContext} {known : Prop}
    {agent : Option String} {first : Handler α} {rest : α → Handler β} {middle : α → Work → Prop}
    (goes : Meets first work (Goes work middle))
    (next : ∀ value after, middle value after → Quiet work after →
      Meets (rest value) after (Records settings context after known agent)) :
    Meets (first >>= rest) work (Records settings context work known agent) := by
  apply meets_bind goes
  · intro raised after failed
    cases raised with
    | refused cause error => exact failed.elim
    | failed refusal => exact .failed refusal after
    | waits => exact .waits after
  · rintro value after ⟨quiet, holds⟩
    exact records_after quiet (next value after holds quiet)

theorem records_refuse {settings : Settings} {context : RequestContext} {known : Prop} {entry : Entry}
    (cause : Cause) (message : String) (refuses : entry.result ≠ .success)
    (accepted : known → ((build settings.casing context entry).accepted = true ↔
      contextFits context = true ∧ entry.userAgent.all (fits 512) = true)) :
    Meets (refuse settings context entry cause message : Handler α) work
      (Records settings context work known entry.userAgent) :=
  .refused cause _ _ entry rfl refuses accepted

end Rules

theorem fits_short {limit : Nat} {text : String} (cleaned : clean text = true)
    (short : text.length ≤ limit) : fits limit text = true := by
  have none : text.toList.drop limit = [] := by
    rw [List.drop_eq_nil_iff, String.length_toList]
    exact short
  simp [fits, cleaned, none]

theorem cleanJson_number (casing : Accounts.Casing) (key : String) (keyed : clean key = true)
    (value : Rat) : Audit.cleanJson (Audit.redact casing (.obj [(key, .num value)])) = true := by
  have redacted : clean "[REDACTED]" = true := by decide +kernel
  simp only [Audit.redact, Audit.redactTo, List.map_cons, List.map_nil, Audit.cleanJson,
    Audit.cleanFields, keyed, Bool.true_and, Bool.and_true]
  split
  · exact redacted
  · rfl

theorem accepted_login {settings : Settings} {context : RequestContext} {result : AuditResult}
    {user : Option User} {username message : String} {metadata : Agents.Dict}
    {agent : Option String} (named : fits 150 username = true) (cleaned : clean message = true)
    (data : Audit.cleanJson (Audit.redact settings.casing (.obj metadata)) = true) :
    (build settings.casing context
      (loginEntry result user username (some message) metadata agent)).accepted = true ↔
      contextFits context = true ∧ agent.all (fits 512) = true :=
  Audit.accepted_iff named rfl rfl cleaned data

/-- The names of the accounts are those of their column. -/
def Named (directory : Directory) : Prop :=
  ∀ user ∈ directory.users, fits 150 user.username = true

section Handlers

variable {settings : Settings} {context : RequestContext} {work : Work}

theorem goes_getByUsername (username : String) :
    Meets (getByUsername settings username) work (Goes work fun found after =>
      after = work ∧ clean username = true ∧
        work.directory.getByUsername settings.casing username = .ok found) := by
  unfold getByUsername
  apply goes_bind goes_get
  rintro _ _ ⟨rfl, rfl⟩
  split
  · rename_i cleaned
    apply goes_mono (goes_orRaise _)
    rintro found after ⟨same, rfl⟩
    exact ⟨rfl, cleaned, same⟩
  · exact True.intro

theorem goes_provision (identity : ExternalIdentity) (id : Uuid) :
    Meets (provision settings context identity id) work (Goes work fun _ _ => True) := by
  unfold provision
  apply goes_bind goes_get
  rintro _ _ ⟨rfl, rfl⟩
  apply goes_bind (goes_orRaise _)
  rintro ⟨user, directory⟩ after _
  apply goes_bind (goes_store directory)
  intro _ stored _
  apply goes_bind (goes_record settings context _)
  intro _ recorded _
  exact ⟨.refl recorded, True.intro⟩

theorem goes_reconcile (identity : ExternalIdentity) (user : User) :
    Meets (reconcile settings context identity user) work
      (Goes work fun reconciled _ => reconciled.username = user.username) := by
  unfold reconcile
  apply goes_bind goes_get
  rintro _ _ ⟨rfl, rfl⟩
  apply goes_bind (goes_orRaise _)
  rintro ⟨reconciled, directory⟩ after ⟨done, _⟩
  have same : reconciled.username = user.username := by
    unfold Directory.reconcile at done
    obtain ⟨email, _, done⟩ := bind_ok.mp done
    obtain ⟨roles, _, done⟩ := bind_ok.mp done
    obtain ⟨stored, _, done⟩ := bind_ok.mp done
    cases done
    rfl
  apply goes_bind (goes_store directory)
  intro _ stored _
  simp only
  split
  · exact ⟨.refl stored, same⟩
  · apply goes_bind (goes_record settings context _)
    intro _ recorded _
    exact ⟨.refl recorded, same⟩

theorem records_resolve {identity : ExternalIdentity} (id : Uuid) (provider : identity.provider = ldap)
    (own : fits 150 identity.username = true) :
    Meets (resolve settings context identity id) work
      (Records settings context work (Named work.directory) none) := by
  unfold resolve
  apply records_bind goes_get
  rintro _ _ ⟨rfl, rfl⟩ _
  apply records_bind (goes_orRaise _)
  rintro found after ⟨finds, rfl⟩ _
  cases found with
  | none =>
      simp only
      split
      · exact records_goes (goes_provision identity id)
      · have cleaned : clean s!"No account, and auto-provisioning is off ({ldap})" = true := by
          decide +kernel
        rw [provider]
        exact records_refuse _ _ nofun fun _ => accepted_login own cleaned rfl
  | some user =>
      obtain ⟨old, there⟩ := Directory.find_some finds
      have fitting : Named after.directory → fits 150 user.username = true := by
        intro named
        rw [there.bound]
        exact named old there.listed
      apply records_bind (goes_reconcile identity user)
      intro reconciled after same _
      split
      · exact .passes _ _ (.refl after)
      · split
        · exact .waits _
        · have cleaned : clean "Account is disabled in the platform" = true := by decide +kernel
          refine records_refuse _ _ nofun fun named => accepted_login ?_ cleaned rfl
          rw [same]
          exact fitting named

def vouches : List (Except Refusal (Option DirectoryEntry)) → Bool
  | [] => false
  | .error _ :: _ => false
  | .ok none :: rest => vouches rest
  | .ok (some _) :: _ => true

def FromDirectory (settings : Settings) (context : RequestContext) (work : Work)
    (answers : List (Except Refusal (Option DirectoryEntry))) :
    Except Raised (Option TokenPair) → Work → Prop
  | .ok none, after => Quiet work after ∧ vouches answers = false
  | result, after => Records settings context work (Named work.directory) none result after ∧
      ∀ cause error, result = .error (.refused cause error) → vouches answers = true

theorem records_entry (attempt : Attempt) (own : fits 150 attempt.payload.username = true)
    (entry : DirectoryEntry) (rest : List (Except Refusal (Option DirectoryEntry))) :
    Meets (tryExternal settings context attempt (.ok (some entry) :: rest)) work
      fun result after =>
        Records settings context work (Named work.directory) none result after ∧
          result ≠ .ok none := by
  unfold tryExternal
  have provider : (identityOf attempt entry).provider = ldap := rfl
  apply meets_bind (records_resolve attempt.accountId provider own)
  · intro raised after records
    constructor
    · cases records with
      | refused cause error after entry committed refuses accepted =>
          exact .refused cause error after entry committed refuses accepted
      | failed refusal after => exact .failed refusal after
      | waits after => exact .waits after
    · exact nofun
  · intro user after records
    cases records with
    | passes user after quiet =>
        have issues : Meets (do
            setCount user.id 0
            record settings context (loginEntry .success (some user) user.username none
              [("provider", .str ldap)] attempt.userAgent)
            return some (issue settings user)) after
            (Goes after fun pair _ => pair = some (issue settings user)) := goes_settle ..
        unfold Meets at issues ⊢
        generalize ExceptT.run _ = handled at issues ⊢
        generalize StateT.run handled after = ended at issues ⊢
        obtain ⟨result, final⟩ := ended
        cases result with
        | ok pair =>
            exact ⟨.passes pair final (quiet.trans issues.1),
              fun nothing => nomatch issues.2.symm.trans (Except.ok.inj nothing)⟩
        | error raised =>
            cases raised with
            | refused cause error => exact issues.elim
            | failed refusal => exact ⟨.failed refusal final, nofun⟩
            | waits => exact ⟨.waits final, nofun⟩

theorem records_tryExternal (attempt : Attempt)
    (own : fits 150 attempt.payload.username = true)
    (answers : List (Except Refusal (Option DirectoryEntry))) :
    Meets (tryExternal settings context attempt answers) work
      (FromDirectory settings context work answers) := by
  induction answers with
  | nil => exact ⟨.refl work, rfl⟩
  | cons answer rest ih =>
      cases answer with
      | error refusal => exact ⟨.failed refusal work, nofun⟩
      | ok entry =>
          cases entry with
          | none => exact ih
          | some entry =>
              have found := @records_entry settings context work attempt own entry rest
              unfold Meets at found ⊢
              generalize (tryExternal settings context attempt (.ok (some entry) :: rest)).run.run work
                = ended at found ⊢
              obtain ⟨result, after⟩ := ended
              cases result with
              | error raised => exact ⟨found.1, fun _ _ _ => rfl⟩
              | ok pair =>
                  cases pair with
                  | none => exact absurd rfl found.2
                  | some pair => exact ⟨found.1, fun _ _ _ => rfl⟩

def localAccount (settings : Settings) (directory : Directory) (username : String) : Option User :=
  match directory.getByUsername settings.casing username with
  | .ok (some user) => if (localHash user).isSome then some user else none
  | .ok none | .error _ => none

def recordedAgent (settings : Settings) (directory : Directory) (attempt : Attempt) :
    Option String :=
  if (localAccount settings directory attempt.payload.username).isNone && vouches attempt.answers
  then none
  else attempt.userAgent

theorem records_login (attempt : Attempt) :
    Meets (login settings context attempt) work
      (Records settings context work (Named work.directory)
        (recordedAgent settings work.directory attempt)) := by
  unfold login
  apply records_bind (goes_getByUsername attempt.payload.username)
  rintro found after ⟨rfl, cleaned, finds⟩ _
  have own : fits 150 attempt.payload.username = true := fits_short cleaned attempt.payload.short
  cases account : found.bind fun user => (localHash user).map fun hash => (user, hash) with
  | none =>
      have foreign : localAccount settings after.directory attempt.payload.username = none := by
        rw [localAccount, finds]
        cases found with
        | none => rfl
        | some user =>
            cases hash : localHash user with
            | none => simp [hash]
            | some hash' => simp [hash] at account
      apply meets_bind (records_tryExternal attempt own attempt.answers)
      · rintro raised final ⟨records, vouched⟩
        cases records with
        | refused cause error final entry committed refuses accepted =>
            rw [recordedAgent, foreign, vouched cause error rfl]
            exact .refused cause error final entry committed refuses accepted
        | failed refusal final => exact .failed refusal final
        | waits final => exact .waits final
      · intro pair final records
        cases pair with
        | some pair =>
            cases records.1 with
            | passes _ _ quiet => exact .passes pair final quiet
        | none =>
            obtain ⟨quiet, unknown⟩ := records
            have agent : recordedAgent settings after.directory attempt = attempt.userAgent := by
              rw [recordedAgent, foreign, unknown]
              rfl
            have message : clean "Unknown user, or no provider accepted the credential" = true := by
              decide +kernel
            rw [agent]
            apply records_after quiet
            exact records_refuse _ _ nofun fun _ => accepted_login own message rfl
  | some pair =>
      obtain ⟨user, hash⟩ := pair
      obtain ⟨user', rfl, local'⟩ : ∃ user', found = some user' ∧
          (localHash user').map (fun hash => (user', hash)) = some (user, hash) := by
        cases found with
        | none => exact absurd account nofun
        | some user' => exact ⟨user', rfl, account⟩
      obtain ⟨hash', stored, same⟩ := Option.map_eq_some_iff.mp local'
      obtain ⟨rfl, rfl⟩ := Prod.mk.inj same
      have agent : recordedAgent settings after.directory attempt = attempt.userAgent := by
        have own : localAccount settings after.directory attempt.payload.username = some user' := by
          simp [localAccount, finds, stored]
        rw [recordedAgent, own]
        rfl
      have fitting : Named after.directory → fits 150 user'.username = true := by
        intro named
        have only := Accounts.scalarOneOrNone_some finds
        have listed : user' ∈ after.directory.users :=
          List.mem_of_mem_filter (only ▸ List.mem_singleton_self user')
        exact named user' listed
      have incorrect : clean "Incorrect password" = true := by decide +kernel
      have disabled : clean "Account is disabled" = true := by decide +kernel
      have counts : clean "failed_login_count" = true := by decide +kernel
      rw [agent]
      simp only
      split
      · exact .refused .wrongPassword _ _ _ rfl nofun fun named =>
          accepted_login (fitting named) incorrect (cleanJson_number _ _ counts _)
      · split
        · exact records_refuse _ _ nofun fun named => accepted_login (fitting named) disabled rfl
        · split
          · apply records_bind goes_get
            rintro _ _ ⟨rfl, rfl⟩ _
            apply records_bind (goes_orRaise _)
            intro directory final _ _
            apply records_bind (goes_store directory)
            intro _ stored _ _
            exact records_goes (goes_settle ..)
          · exact records_goes (goes_settle ..)

end Handlers

def sentAddress (request : Request) (trustedCidrs : List String) : Option String :=
  let forwarded := (request.headers.get "x-forwarded-for").filter truthy
  if peerIsTrusted request.client trustedCidrs && forwarded.isSome then forwarded.map leftMost
  else request.client

/-- The request is named by texts of the lengths that the columns have. -/
def headersFit (request : Request) (trustedCidrs : List String) : Bool :=
  (request.headers.get "X-Request-ID").all (fits 64) &&
    (sentAddress request trustedCidrs).all (fits 45)

section Recorded

variable {settings : Settings} {attempt : Attempt} {platform after : Platform} {cause : Cause}
  {error : AppError}

theorem fits_hex (id : Uuid) : fits 64 id.hex = true := by
  have long : id.digits.length = 32 := Uuid.length_nibbles _ _
  have digits : ∀ count value, Char.ofNat 0 ∉ Uuid.nibbles count value := by
    intro count
    induction count with
    | zero => exact fun _ => List.not_mem_nil
    | succ count ih =>
        intro value member
        have all : ∀ digit : Fin 16, Nat.digitChar digit.val ≠ Char.ofNat 0 := by decide
        simp only [Uuid.nibbles, List.mem_append, List.mem_singleton] at member
        obtain member | last := member
        · exact ih _ member
        · exact all ⟨value % 16, Nat.mod_lt _ (by omega)⟩ last.symm
  apply fits_short
  · have none : Char.ofNat 0 ∉ id.hex.toList := by
      rw [Uuid.hex, String.toList_ofList]
      exact digits 32 _
    simpa [clean] using none
  · rw [← String.length_toList, Uuid.hex, String.toList_ofList, long]
    omega

theorem contextFits_eq (attempt : Attempt) :
    contextFits (attempt.context settings) =
      headersFit attempt.request settings.trustedCidrs := by
  have address : (attempt.context settings).clientIp =
      sentAddress attempt.request settings.trustedCidrs := by
    change resolveClientIp attempt.request settings.trustedCidrs = _
    simp only [resolveClientIp, sentAddress]
    by_cases trusted : peerIsTrusted attempt.request.client settings.trustedCidrs = true
    · cases (attempt.request.headers.get "x-forwarded-for").filter truthy <;> simp [trusted]
    · simp [trusted]
  have id : fits 64 (attempt.context settings).requestId =
      (attempt.request.headers.get "X-Request-ID").all (fits 64) := by
    change fits 64 (((attempt.request.headers.get "X-Request-ID").filter truthy).getD _) = _
    cases attempt.request.headers.get "X-Request-ID" with
    | none => exact fits_hex attempt.requestId
    | some sent =>
        by_cases empty : sent = ""
        · subst empty
          exact fits_hex attempt.requestId
        · simp [Option.filter, truthy, empty]
  rw [contextFits, headersFit, address, id, Bool.and_comm]

/-- A refused login leaves one row if what the caller sent fits its columns, else none. -/
theorem refusal_is_recorded_iff (named : Named platform.directory)
    (refused : serve settings attempt platform = (.raised (.refused cause error), after)) :
    (∃ row, after.auditLogs = platform.auditLogs ++ [row] ∧
        (row.result = AuditResult.failure.text ∨ row.result = AuditResult.denied.text)) ↔
      headersFit attempt.request settings.trustedCidrs = true ∧
        (recordedAgent settings platform.directory attempt).all (fits 512) = true := by
  have records := @records_login settings (attempt.context settings)
    ⟨platform.directory, platform.failedLoginCount, [], platform.auditLogs⟩ attempt
  unfold Meets at records
  dsimp only [serve] at refused
  generalize (login settings (attempt.context settings) attempt).run.run _ = ended
    at records refused
  obtain ⟨result, final⟩ := ended
  cases records with
  | passes pair final quiet => cases refused
  | failed refusal final => cases refused
  | waits final => cases refused
  | refused cause error final entry committed refuses accepted =>
      cases refused
      rw [← contextFits_eq, ← accepted named]
      change (∃ row, final.committed = _ ∧ _) ↔ _
      rw [committed]
      exact Audit.recordIndependent_once refuses

end Recorded

def ascii : Accounts.Casing := ⟨id, id, id⟩

def site : Settings :=
  ⟨ascii, fun hash password => hash = password, fun _ => false, fun subject _ => subject, id, 900,
    ⟨[], [], false, false⟩, ["10.0.0.0/8"]⟩

def ana : User :=
  ⟨⟨1⟩, "ana", "ana@example.com", none, some "right", "local", none, true, false, []⟩

def home : Platform := ⟨⟨[ana], []⟩, fun _ => 0, []⟩

def anaSends (password : String) (headers : Identity.Headers) : Attempt :=
  ⟨⟨"ana", password, by decide, by decide⟩, ⟨some "192.0.2.7", headers⟩, ⟨2⟩, ⟨3⟩, "", []⟩

theorem home_named : Named home.directory := by
  simp only [Named, home, List.mem_singleton, forall_eq]
  decide +kernel

theorem wrong_password_is_recorded :
    (∃ row, (serve site (anaSends "wrong" []) home).2.auditLogs = home.auditLogs ++ [row] ∧
        (row.result = AuditResult.failure.text ∨ row.result = AuditResult.denied.text)) ↔
      headersFit (anaSends "wrong" []).request site.trustedCidrs = true ∧
        (recordedAgent site home.directory (anaSends "wrong" [])).all (fits 512) = true :=
  @refusal_is_recorded_iff site (anaSends "wrong" []) home _ .wrongPassword _ home_named rfl

def longId : Identity.Headers := [("x-request-id", String.ofList (.replicate 65 'x'))]

/-- An id of 65 characters makes the record too long for its column. -/
theorem wrong_password_unrecorded :
    (∃ error, (serve site (anaSends "wrong" longId) home).1 =
        .raised (.refused .wrongPassword error)) ∧
      ¬∃ row, (serve site (anaSends "wrong" longId) home).2.auditLogs = home.auditLogs ++ [row] ∧
        (row.result = AuditResult.failure.text ∨ row.result = AuditResult.denied.text) := by
  constructor
  · exact ⟨_, rfl⟩
  · have unrecorded : (serve site (anaSends "wrong" longId) home).2.auditLogs = [] := by
      decide +kernel
    rintro ⟨row, recorded, _⟩
    exact nomatch unrecorded.symm.trans recorded

section Counts

variable {settings : Settings} {id : Uuid}

def counted (settings : Settings) (id : Uuid) (platform : Platform) (attempt : Attempt)
    (failures : Nat) : Nat :=
  let account := localAccount settings platform.directory attempt.payload.username
  if account.map User.id = some id then
    match (serve settings attempt platform).1 with
    | .raised (.refused .wrongPassword _) => failures + 1
    | .answered _ => 0
    | .raised _ => failures
  else failures

def afterLogins (settings : Settings) (id : Uuid) (platform : Platform) (attempts : List Attempt) :
    Platform × Nat :=
  attempts.foldl (fun (platform, failures) attempt =>
    ((serve settings attempt platform).2, counted settings id platform attempt failures))
    (platform, 0)

theorem serve_zero {attempt : Attempt} {platform : Platform}
    (zero : platform.failedLoginCount id = 0) :
    (serve settings attempt platform).2.failedLoginCount id = 0 := by
  have records := @records_login settings (attempt.context settings)
    ⟨platform.directory, platform.failedLoginCount, [], platform.auditLogs⟩ attempt
  unfold Meets at records
  dsimp only [serve]
  generalize (login settings (attempt.context settings) attempt).run.run _ = ended at records ⊢
  obtain ⟨result, final⟩ := ended
  cases records with
  | passes pair final quiet => exact quiet.zero id zero
  | refused cause error final entry committed refuses accepted => exact zero
  | failed refusal final => exact zero
  | waits final => exact zero

theorem afterLogins_zero {platform : Platform} (zero : platform.failedLoginCount id = 0)
    (attempts : List Attempt) :
    (afterLogins settings id platform attempts).1.failedLoginCount id = 0 := by
  suffices run : ∀ failures, (attempts.foldl (fun (platform, failures) attempt =>
      ((serve settings attempt platform).2, counted settings id platform attempt failures))
      (platform, failures)).1.failedLoginCount id = 0 from run 0
  induction attempts generalizing platform with
  | nil => exact fun _ => zero
  | cons attempt rest ih => exact fun _ => ih (serve_zero zero) _

-- The count of an account starts at 0, and no refusal keeps what it has added.
theorem stored_count_is_failures_iff {platform : Platform}
    (fresh : platform.failedLoginCount id = 0) (attempts : List Attempt) :
    (afterLogins settings id platform attempts).1.failedLoginCount id =
        (afterLogins settings id platform attempts).2 ↔
      (afterLogins settings id platform attempts).2 = 0 := by
  rw [afterLogins_zero fresh attempts]
  exact eq_comm

theorem count_after_success :
    (afterLogins site ana.id home [anaSends "wrong" [], anaSends "right" []]).1.failedLoginCount
        ana.id =
      (afterLogins site ana.id home [anaSends "wrong" [], anaSends "right" []]).2 ↔
    (afterLogins site ana.id home [anaSends "wrong" [], anaSends "right" []]).2 = 0 :=
  stored_count_is_failures_iff rfl _

/-- Two wrong passwords leave the count at 0. -/
theorem wrong_passwords_uncounted :
    (afterLogins site ana.id home [anaSends "wrong" [], anaSends "wrong" []]).2 = 2 ∧
      (afterLogins site ana.id home [anaSends "wrong" [], anaSends "wrong" []]).1.failedLoginCount
        ana.id = 0 := by
  decide +kernel

end Counts

end AiPlatform.Logins
