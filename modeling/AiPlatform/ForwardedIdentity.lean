import AiPlatform.AgentModel

/-!
End-user attribution behind a shared frontend: `app/services/identity.py`, with the
context of a gateway call that it fills. The cipher of stored secrets and the JWT
library are parameters. A library is sound when it decodes only tokens that were
signed with the secret it was given.
-/

namespace AiPlatform.Identity

open Agents (Json strip clip truthy)

/-- Header fields as the server hands them over, with names in lower case. -/
abbrev Headers := List (String × String)

def Headers.get (headers : Headers) (name : String) : Option String :=
  List.lookup name.toLower headers

abbrev Claims := List (String × Json)

/-- `jwt.InvalidTokenError`, or anything else that `jwt.decode` raises. -/
inductive JwtFailure
  | invalid (typeName detail : String)
  | raised (message : String)

/-- `jwt.decode` for HS256, of a token with a secret and an issuer. -/
abbrev JwtDecoder := String → String → String → Except JwtFailure Claims

/-- `GatewaySettings`, as far as it concerns identities. -/
structure GatewaySettings where
  identityJwtHeader : String
  identityJwtIssuer : String
  identityJwtClaims : List String
  identityHeaders : List String

structure ApiClient where
  name : String
  trustedIdentityHeaders : Bool
  identityJwtSecretEncrypted : Option String

/-- `SecretCipher.decrypt`; `none` where it raises. -/
abbrev Decrypt := String → Option String

structure EndUser where
  subject : String
  trusted : Bool
  deriving DecidableEq

/-- `MAX_LENGTH` -/
def maxLength : Nat := 255

/-- `value and value.strip()` -/
def blank (value : String) : Bool := !truthy (strip value)

def signingSecret (client : ApiClient) (decrypt : Decrypt) : Option String :=
  match client.identityJwtSecretEncrypted with
  | none => none
  | some stored => if truthy stored then decrypt stored else none

def subjectOf (claims : Claims) : List String → Option EndUser
  | [] => none
  | claim :: rest =>
      match claims.lookup claim with
      | some (.str value) =>
          if blank value then subjectOf claims rest
          else some ⟨clip (strip value) maxLength, true⟩
      | _ => subjectOf claims rest

def fromJwt (jwt : JwtDecoder) (headers : Headers) (settings : GatewaySettings) (secret : String) :
    Except String (Option EndUser) :=
  match headers.get settings.identityJwtHeader with
  | none => .ok none
  | some token =>
      if !truthy token then .ok none
      else
        match jwt token secret settings.identityJwtIssuer with
        | .error (.invalid _ _) => .ok none
        | .error (.raised message) => .error message
        | .ok claims => .ok (subjectOf claims settings.identityJwtClaims)

def fromHeaders (headers : Headers) : List String → Option EndUser
  | [] => none
  | header :: rest =>
      match headers.get header with
      | some value =>
          if blank value then fromHeaders headers rest
          else some ⟨clip (strip value) maxLength, true⟩
      | none => fromHeaders headers rest

def resolveForwardedIdentity (jwt : JwtDecoder) (decrypt : Decrypt) (headers : Headers)
    (client : ApiClient) (settings : GatewaySettings) : Except String (Option EndUser) :=
  if !client.trustedIdentityHeaders then .ok none
  else
    match signingSecret client decrypt with
    | some secret => fromJwt jwt headers settings secret
    -- Also where the stored secret could not be decrypted.
    | none => .ok (fromHeaders headers settings.identityHeaders)

def selfReportedIdentity (body : List (String × Json)) : Option EndUser :=
  match body.lookup "user" with
  | some (.str value) => if blank value then none else some ⟨clip (strip value) maxLength, false⟩
  | _ => none

/-- The part of `GatewayContext` that says whom a call is for. -/
structure GatewayContext where
  endUser : Option String
  endUserTrusted : Bool
  deriving DecidableEq

/-- `get_gateway_context`, once the key has been authenticated. -/
def gatewayContext (jwt : JwtDecoder) (decrypt : Decrypt) (headers : Headers) (client : ApiClient)
    (settings : GatewaySettings) : Except String GatewayContext :=
  (resolveForwardedIdentity jwt decrypt headers client settings).map fun found =>
    ⟨found.map EndUser.subject, (found.map EndUser.trusted).getD false⟩

/-- `attribute` -/
def attributed (context : GatewayContext) (body : List (String × Json)) : GatewayContext :=
  if context.endUserTrusted then context
  else
    match selfReportedIdentity body with
    | some reported => { context with endUser := some reported.subject }
    | none => context

theorem subjectOf_names {claims : Claims} {names : List String} {user : EndUser}
    (found : subjectOf claims names = some user) :
    ∃ claim ∈ names, ∃ value, claims.lookup claim = some (.str value) ∧
      user.subject = clip (strip value) maxLength := by
  induction names with
  | nil => cases found
  | cons claim rest ih =>
      have later (found : subjectOf claims rest = some user) :
          ∃ name ∈ claim :: rest, ∃ value, claims.lookup name = some (.str value) ∧
            user.subject = clip (strip value) maxLength := by
        obtain ⟨name, member, named⟩ := ih found
        exact ⟨name, List.mem_cons_of_mem _ member, named⟩
      simp only [subjectOf] at found
      split at found
      · rename_i value present
        split at found
        · exact later found
        · rw [← Option.some.inj found]
          exact ⟨claim, by simp, value, present, rfl⟩
      · exact later found

theorem fromHeaders_none {headers : Headers} {names : List String} :
    fromHeaders headers names = none ↔
      ∀ name ∈ names, ∀ value, headers.get name = some value → blank value = true := by
  induction names with
  | nil => simp [fromHeaders]
  | cons header rest ih =>
      simp only [fromHeaders, List.forall_mem_cons]
      cases present : headers.get header with
      | none => simp [ih]
      | some value =>
          by_cases empty : blank value = true
          · simp [empty, ih]
          · simp [empty]

theorem fromHeaders_trusted {headers : Headers} {names : List String} {user : EndUser}
    (found : fromHeaders headers names = some user) : user.trusted = true := by
  induction names with
  | nil => cases found
  | cons header rest ih =>
      simp only [fromHeaders] at found
      split at found
      · split at found
        · exact ih found
        · rw [← Option.some.inj found]
      · exact ih found

/-- The user is named by a token of the request that was signed with the secret of
the client. -/
def Attested (signed : String → String → Claims → Prop) (decrypt : Decrypt) (headers : Headers)
    (client : ApiClient) (settings : GatewaySettings) (user : EndUser) : Prop :=
  ∃ stored secret token claims, client.identityJwtSecretEncrypted = some stored ∧
    decrypt stored = some secret ∧ headers.get settings.identityJwtHeader = some token ∧
    signed secret token claims ∧
    ∃ claim ∈ settings.identityJwtClaims, ∃ value, claims.lookup claim = some (.str value) ∧
      user.subject = clip (strip value) maxLength

section Trust

variable {jwt : JwtDecoder} {signed : String → String → Claims → Prop} {decrypt : Decrypt}
  {headers : Headers} {client : ApiClient} {settings : GatewaySettings} {user : EndUser}

theorem signingSecret_some {secret : String} (found : signingSecret client decrypt = some secret) :
    ∃ stored, client.identityJwtSecretEncrypted = some stored ∧ decrypt stored = some secret := by
  unfold signingSecret at found
  split at found
  · cases found
  · rename_i stored present
    split at found
    · exact ⟨stored, present, found⟩
    · cases found

theorem fromJwt_attested {secret : String}
    (sound : ∀ token secret issuer claims, jwt token secret issuer = .ok claims →
      signed secret token claims)
    (has : signingSecret client decrypt = some secret)
    (found : fromJwt jwt headers settings secret = .ok (some user)) :
    Attested signed decrypt headers client settings user := by
  obtain ⟨stored, configured, decrypted⟩ := signingSecret_some has
  unfold fromJwt at found
  split at found
  · cases found
  · rename_i token present
    split at found
    · cases found
    · split at found
      · cases found
      · cases found
      · rename_i claims decoded
        have named := subjectOf_names (Except.ok.inj found)
        exact ⟨stored, secret, token, claims, configured, decrypted, present,
          sound token secret _ claims decoded, named⟩

end Trust

/-- For a client with a signing secret, exactly when identities are trusted only as
signed tokens name them: the client may not forward any, its secret can be decrypted,
or no plaintext header names anybody. -/
theorem trusted_identity_is_signed (jwt : JwtDecoder) (signed : String → String → Claims → Prop)
    (sound : ∀ token secret issuer claims, jwt token secret issuer = .ok claims →
      signed secret token claims)
    (decrypt : Decrypt) (headers : Headers) (client : ApiClient) (settings : GatewaySettings)
    (stored : String) (configured : client.identityJwtSecretEncrypted = some stored)
    (nonempty : truthy stored = true) :
    (∀ user, resolveForwardedIdentity jwt decrypt headers client settings = .ok (some user) →
        user.trusted = true → Attested signed decrypt headers client settings user) ↔
      (client.trustedIdentityHeaders = false ∨ (decrypt stored).isSome = true ∨
        ∀ name ∈ settings.identityHeaders, ∀ value, headers.get name = some value →
          blank value = true) := by
  have secret : signingSecret client decrypt = decrypt stored := by
    simp [signingSecret, configured, nonempty]
  cases forwards : client.trustedIdentityHeaders with
  | false => simp [resolveForwardedIdentity, forwards]
  | true =>
      cases decrypted : decrypt stored with
      | some plain =>
          have has : signingSecret client decrypt = some plain := secret.trans decrypted
          constructor
          · intro _
            exact .inr (.inl rfl)
          · intro _ user found _
            simp only [resolveForwardedIdentity, forwards, has] at found
            exact fromJwt_attested sound has found
      | none =>
          have missing : signingSecret client decrypt = none := secret.trans decrypted
          have resolved : resolveForwardedIdentity jwt decrypt headers client settings =
              .ok (fromHeaders headers settings.identityHeaders) := by
            simp [resolveForwardedIdentity, forwards, missing]
          rw [resolved]
          constructor
          · intro attested
            refine .inr (.inr (fromHeaders_none.mp ?_))
            cases named : fromHeaders headers settings.identityHeaders with
            | none => rfl
            | some user =>
                obtain ⟨other, plain, _, _, same, has, _⟩ :=
                  attested user (congrArg _ named) (fromHeaders_trusted named)
                rw [configured] at same
                cases same
                rw [decrypted] at has
                cases has
          · rintro (forbidden | has | silent) user found _
            · cases forbidden
            · cases has
            · rw [fromHeaders_none.mpr silent] at found
              cases found

section Instance

def frontendSettings : GatewaySettings :=
  ⟨"X-OpenWebUI-User-Jwt", "open-webui", ["email", "sub"],
    ["X-OpenWebUI-User-Email", "X-OpenWebUI-User-Id"]⟩

def frontend : ApiClient := ⟨"open-webui", true, some "gAAAAABn"⟩

def rejecting : JwtDecoder := fun _ _ _ => .error (.invalid "DecodeError" "Not enough segments")

/-- With the secret at hand, neither a malformed token nor a plaintext header is trusted. -/
theorem signed_frontend_is_not_downgraded :
    frontend.trustedIdentityHeaders = true ∧
    ∀ user, resolveForwardedIdentity rejecting (fun _ => some "shared-secret")
        [("x-openwebui-user-jwt", "forged"), ("x-openwebui-user-email", "eve@example.org")]
        frontend frontendSettings = .ok (some user) →
      user.trusted = true →
      Attested (fun _ _ _ => False) (fun _ => some "shared-secret")
        [("x-openwebui-user-jwt", "forged"), ("x-openwebui-user-email", "eve@example.org")]
        frontend frontendSettings user :=
  ⟨rfl, (trusted_identity_is_signed rejecting (fun _ _ _ => False)
    (fun _ _ _ _ decoded => nomatch decoded) (fun _ => some "shared-secret") _ frontend
    frontendSettings "gAAAAABn" rfl (by decide)).mpr (.inr (.inl rfl))⟩

/-- The stored secret cannot be decrypted, and a plaintext header is trusted. -/
theorem undecryptable_secret_trusts_plaintext :
    (resolveForwardedIdentity rejecting (fun _ => none)
        [("x-openwebui-user-email", "eve@example.org")] frontend frontendSettings =
      .ok (some ⟨"eve@example.org", true⟩)) ∧
    ∀ signed, ¬ Attested signed (fun _ => none)
      [("x-openwebui-user-email", "eve@example.org")] frontend frontendSettings
      ⟨"eve@example.org", true⟩ := by
  refine ⟨by decide +kernel, ?_⟩
  rintro signed ⟨stored, secret, _, _, _, decrypted, _⟩
  cases decrypted

end Instance

end AiPlatform.Identity
