import AxumConf.Auth.Basic

/-!
# Users of basic authentication

Which of the configured users can log in.  The decoder splits the credentials at their first colon,
and `validate` admits usernames with a colon in them.
-/

namespace AxumConf.Auth

def utf8 (text : String) : List UInt8 :=
  text.toUTF8.data.toList

def credentialsOf (user : BasicAuthUser) : String :=
  user.username ++ ":" ++ user.password

/-- The request carries `Authorization: Basic base64(username:password)`. -/
def SendsCredentials (external : External) (headers : Headers) (user : BasicAuthUser) : Prop :=
  ∃ header encoded, headers "authorization" = some header ∧
    external.toStr header = some ("Basic " ++ encoded) ∧
    external.decodeBase64 encoded = some (utf8 (credentialsOf user))

/-- Basic authentication attaches an identity with the username of this user. -/
def AuthenticatesAs (external : External) (config : HttpBasicAuthConfig) (passthrough : Bool)
    (request : Request) (user : BasicAuthUser) : Prop :=
  ∃ identity,
    (basicAuth external config passthrough).inbound request =
      .ok { request with identity := some identity } ∧
    identity.method = .basicAuth ∧ identity.user = user.username

/-- The entry has the name and the password of the user. -/
def SameCredentials (user entry : BasicAuthUser) : Prop :=
  entry.username = user.username ∧ entry.password = user.password

variable {external : External} {config : HttpBasicAuthConfig} {headers : Headers}
  {user : BasicAuthUser}

theorem fromUtf8_utf8 (text : String) : fromUtf8 (utf8 text) = some text := by
  unfold fromUtf8 utf8 String.fromUTF8?
  rw [Array.toArray_toList, String.toUTF8_eq_toByteArray, dif_pos text.isValidUTF8]
  rfl

theorem hasBasicHeader_of_sendsCredentials (sends : SendsCredentials external headers user) :
    hasBasicHeader external headers = true := by
  rcases sends with ⟨header, encoded, isHeader, readable, -⟩
  simp [hasBasicHeader, External.headerText, isHeader, readable, Text.startsWith_append]

/-- What basic authentication finds for the parts around the first colon. -/
theorem tryBasicAuth_of_split (sends : SendsCredentials external headers user)
    {username password : String}
    (isSplit : Text.splitOnce (credentialsOf user) ':' = some (username, password)) :
    tryBasicAuth external config headers =
      .ok ((config.users.find? fun entry =>
        username == entry.username && password == entry.password).map userIdentity) := by
  rcases sends with ⟨header, encoded, isHeader, readable, decoded⟩
  have credentials : basicCredentials external encoded = some (username, password) := by
    simp [basicCredentials, decoded, fromUtf8_utf8, isSplit]
  have stripped : Text.stripPrefix ("Basic " ++ encoded) "Basic " = some encoded :=
    Text.stripPrefix_eq_some_iff.mpr rfl
  simp [tryBasicAuth, isHeader, readable, stripped, credentials]

/-- The username in front of the first colon. -/
theorem splitOnce_credentialsOf (colonless : ':' ∉ user.username.toList) :
    Text.splitOnce (credentialsOf user) ':' = some (user.username, user.password) := by
  apply Text.splitOnce_eq_some_iff.mpr
  refine ⟨colonless, ?_⟩
  simp [credentialsOf]

/-- Whom basic authentication identifies, by whatever credentials, has no colon in the name. -/
theorem colonless_of_tryBasicAuth {identity : AuthenticatedIdentity}
    (found : tryBasicAuth external config headers = .ok (some identity)) :
    ':' ∉ identity.user.toList := by
  rcases tryBasicAuth_ok_some_iff.mp found with
    ⟨entry, ⟨⟨header, text, encoded, -, -, -, decoded⟩, -⟩, rfl⟩
  simp only [basicCredentials, Option.bind_eq_some_iff] at decoded
  rcases decoded with ⟨credentials, -, isSplit⟩
  exact (Text.splitOnce_eq_some_iff.mp isSplit).1

theorem tryAuthenticate_of_tryBasicAuth (allowed : config.mode.allowsBasic = true)
    {identity : AuthenticatedIdentity}
    (found : tryBasicAuth external config headers = .ok (some identity)) :
    tryAuthenticate external config headers = .authenticated identity := by
  simp [tryAuthenticate, attempt, allowed, found]

theorem tryBasicAuth_of_authenticated {identity : AuthenticatedIdentity}
    (authenticated : tryAuthenticate external config headers = .authenticated identity)
    (byBasic : identity.method = .basicAuth) :
    tryBasicAuth external config headers = .ok (some identity) := by
  unfold tryAuthenticate at authenticated
  split at authenticated
  · rename_i found basic
    cases authenticated
    exact (attempt_ok_some.mp basic).2
  · cases authenticated
  · split at authenticated
    · rename_i found apiKey
      cases authenticated
      rcases tryApiKeyAuth_ok_some_iff.mp (attempt_ok_some.mp apiKey).2 with ⟨entry, -, rfl⟩
      cases byBasic
    · cases authenticated
    · split at authenticated <;> cases authenticated

theorem colonless_of_authenticatesAs {passthrough : Bool} {request : Request}
    (allowed : config.mode.allowsBasic = true)
    (sends : SendsCredentials external request.head.headers user)
    (authenticates : AuthenticatesAs external config passthrough request user) :
    ':' ∉ user.username.toList := by
  rcases authenticates with ⟨identity, passes, byBasic, sameName⟩
  rw [← sameName]
  simp only [basicAuth] at passes
  rcases basicAuthMiddleware_ok.mp passes with ⟨found, authenticated, same⟩ | ⟨-, absent, -⟩
  · simp only [Request.mk.injEq, Option.some.injEq, true_and, and_true] at same
    subst same
    exact colonless_of_tryBasicAuth (tryBasicAuth_of_authenticated authenticated byBasic)
  · have noHeader := (tryAuthenticate_noCredentials.mp absent).2.2.1 allowed
    rw [hasBasicHeader_of_sendsCredentials sends] at noHeader
    cases noHeader

theorem sameCredentials_iff (user entry : BasicAuthUser) :
    (user.username == entry.username && user.password == entry.password) = true ↔
      SameCredentials user entry := by
  rw [Bool.and_eq_true, beq_iff_eq, beq_iff_eq, SameCredentials, eq_comm,
    eq_comm (a := user.password)]

/-- The user has an entry with the same name and password that is the first of them. -/
theorem exists_isFirst (isUser : user ∈ config.users) :
    ∃ entry, IsFirst (SameCredentials user) config.users entry := by
  simp only [← find?_eq_some_iff_isFirst (sameCredentials_iff user), ← Option.isSome_iff_exists,
    List.find?_isSome]
  exact ⟨user, isUser, by simp⟩

/-- A user without a colon in the name is let in as the first entry with that name and password. -/
theorem basicAuth_of_colonless {passthrough : Bool} {request : Request}
    (allowed : config.mode.allowsBasic = true)
    (sends : SendsCredentials external request.head.headers user)
    (colonless : ':' ∉ user.username.toList) {entry : BasicAuthUser}
    (isFirst : IsFirst (SameCredentials user) config.users entry) :
    (basicAuth external config passthrough).inbound request =
      .ok { request with identity := some (userIdentity entry) } := by
  have found := @tryBasicAuth_of_split external config _ user sends _ _
    (splitOnce_credentialsOf colonless)
  rw [(find?_eq_some_iff_isFirst (sameCredentials_iff user)).mpr isFirst, Option.map_some] at found
  apply basicAuthMiddleware_ok.mpr
  exact .inl ⟨_, tryAuthenticate_of_tryBasicAuth allowed found, rfl⟩

/-- A user who sends the own credentials is authenticated exactly when there is no colon in the
username, and then with the identity of the first entry with that name and password. -/
theorem authenticatesAs_iff {passthrough : Bool} {request : Request}
    (_accepted : config.validate = .ok ()) (allowed : config.mode.allowsBasic = true)
    (isUser : user ∈ config.users)
    (sends : SendsCredentials external request.head.headers user) :
    (AuthenticatesAs external config passthrough request user ↔ ':' ∉ user.username.toList) ∧
      (':' ∉ user.username.toList → ∃ entry,
        IsFirst (SameCredentials user) config.users entry ∧
        (basicAuth external config passthrough).inbound request =
          .ok { request with identity := some (userIdentity entry) }) := by
  rcases exists_isFirst isUser with ⟨entry, isFirst⟩
  refine ⟨⟨colonless_of_authenticatesAs allowed sends, ?_⟩, ?_⟩
  · intro colonless
    exact ⟨userIdentity entry, basicAuth_of_colonless allowed sends colonless isFirst, rfl,
      isFirst.1.1⟩
  · intro colonless
    exact ⟨entry, isFirst, basicAuth_of_colonless allowed sends colonless isFirst⟩

/-- The `base64` decoder on the credentials of two users. -/
def credentialsExternal : External :=
  { External.visible with
    decodeBase64 := fun encoded =>
      if encoded = "YW5uOnNlY3JldA==" then some (utf8 "ann:secret")
      else if encoded = "c3ZjOnJlcG9ydHM6c2VjcmV0" then some (utf8 "svc:reports:secret")
      else none }

def annUser : BasicAuthUser where
  username := "ann"
  password := "secret"

def reportsUser : BasicAuthUser where
  username := "svc:reports"
  password := "secret"

def twoUsers : HttpBasicAuthConfig where
  mode := .basic
  users := [annUser, reportsUser]

def basicRequest (encoded : String) : Request where
  head :=
    { path := "/"
      pathAndQuery := some "/"
      headers := fun name =>
        if name = "authorization" then some (HeaderValue.ofText ("Basic " ++ encoded)) else none
      peerIp := none }

theorem annUser_authenticates :
    AuthenticatesAs credentialsExternal twoUsers false (basicRequest "YW5uOnNlY3JldA==") annUser :=
  (authenticatesAs_iff (by decide +kernel) rfl (by simp [twoUsers])
    ⟨_, "YW5uOnNlY3JldA==", rfl, by decide +kernel, rfl⟩).1.mpr (by decide)

/-- The user `svc:reports` is accepted in the configuration and refused with the own password. -/
theorem reportsUser_refused :
    twoUsers.validate = .ok () ∧ reportsUser ∈ twoUsers.users ∧
      SendsCredentials credentialsExternal (basicRequest "c3ZjOnJlcG9ydHM6c2VjcmV0").head.headers
        reportsUser ∧
      ¬AuthenticatesAs credentialsExternal twoUsers false
        (basicRequest "c3ZjOnJlcG9ydHM6c2VjcmV0") reportsUser := by
  have sends : SendsCredentials credentialsExternal
      (basicRequest "c3ZjOnJlcG9ydHM6c2VjcmV0").head.headers reportsUser :=
    ⟨_, "c3ZjOnJlcG9ydHM6c2VjcmV0", rfl, by decide +kernel, by decide +kernel⟩
  refine ⟨by decide +kernel, by simp [twoUsers], sends, ?_⟩
  intro authenticates
  exact absurd (colonless_of_authenticatesAs rfl sends authenticates) (by decide)

end AxumConf.Auth
