import AxumConf.Http

/-!
# Basic authentication and API keys

`basic_auth_middleware` and the attempts it is made of.  A request is refused when it carries
credentials of an allowed method that match no entry, and also when it carries none, unless the
middleware runs in passthrough mode beside the OIDC authorization code flow.
-/

namespace AxumConf.Auth

open Tower

inductive AuthOutcome where
  | authenticated (identity : AuthenticatedIdentity)
  | invalidCredentials (response : Response)
  | noCredentials

def unauthorizedResponse (config : HttpBasicAuthConfig) : Response where
  status := 401
  headers := fun name =>
    if config.mode.allowsBasic && name == "www-authenticate" then
      some (HeaderValue.ofText "Basic realm=\"API\"")
    else none
  body := "Authentication required"

def badRequestResponse : Response where
  status := 400
  body := "Invalid authentication format"

section Attempts

variable (external : External) (config : HttpBasicAuthConfig) (headers : Headers)

def basicCredentials (encoded : String) : Option (String × String) :=
  ((external.decodeBase64 encoded).bind fromUtf8).bind fun credentials =>
    Text.splitOnce credentials ':'

def userIdentity (user : BasicAuthUser) : AuthenticatedIdentity where
  method := .basicAuth
  user := user.username
  email := user.email
  groups := user.groups
  roles := user.roles
  preferredUsername := user.preferredUsername
  accessToken := none

def apiKeyIdentity (apiKey : BasicAuthApiKey) : AuthenticatedIdentity where
  method := .apiKey
  user := apiKey.name.getD "api-key"
  email := apiKey.email
  groups := apiKey.groups
  roles := apiKey.roles
  preferredUsername := apiKey.preferredUsername
  accessToken := none

def tryBasicAuth : Except Response (Option AuthenticatedIdentity) :=
  match headers "authorization" with
  | none => .ok none
  | some header =>
      match external.toStr header with
      | none => .error badRequestResponse
      | some authHeader =>
          match Text.stripPrefix authHeader "Basic " with
          | none => .ok none
          | some encoded =>
              match basicCredentials external encoded with
              | none => .error badRequestResponse
              | some (username, password) =>
                  .ok ((config.users.find? fun user =>
                    username == user.username && password == user.password).map userIdentity)

def tryApiKeyAuth : Except Response (Option AuthenticatedIdentity) :=
  match headers config.apiKeyHeader with
  | none => .ok none
  | some header =>
      match external.toStr header with
      | none => .error badRequestResponse
      | some key => .ok ((config.apiKeys.find? fun apiKey => key == apiKey.key).map apiKeyIdentity)

def hasBasicHeader : Bool :=
  (external.headerText headers "authorization").any fun value => Text.startsWith value "Basic "

def attempt (allowed : Bool) (method : Except Response (Option AuthenticatedIdentity)) :
    Except Response (Option AuthenticatedIdentity) :=
  if allowed then method else .ok none

def tryAuthenticate : AuthOutcome :=
  match attempt config.mode.allowsBasic (tryBasicAuth external config headers) with
  | .ok (some identity) => .authenticated identity
  | .error response => .invalidCredentials response
  | .ok none =>
      match attempt config.mode.allowsApiKey (tryApiKeyAuth external config headers) with
      | .ok (some identity) => .authenticated identity
      | .error response => .invalidCredentials response
      | .ok none =>
          if (config.mode.allowsBasic && hasBasicHeader external headers) ||
              (config.mode.allowsApiKey && (headers config.apiKeyHeader).isSome) then
            .invalidCredentials (unauthorizedResponse config)
          else .noCredentials

end Attempts

def basicAuthMiddleware (external : External) (config : HttpBasicAuthConfig) (passthrough : Bool)
    (request : Request) : Except Answer Request :=
  match tryAuthenticate external config request.head.headers with
  | .authenticated identity => .ok { request with identity := some identity }
  | .invalidCredentials response => .error { response, session := request.session }
  | .noCredentials =>
      if passthrough then .ok request
      else .error { response := unauthorizedResponse config, session := request.session }

def basicAuth (external : External) (config : HttpBasicAuthConfig) (passthrough : Bool) :
    Middleware where
  inbound := basicAuthMiddleware external config passthrough
  keepsHead := by
    intro request passed passes
    unfold basicAuthMiddleware at passes
    repeat' split at passes
    all_goals
      cases passes
      try rfl

/-- There is an `Authorization` header, and it is unreadable or of the Basic scheme. -/
def BasicCredentials (external : External) (headers : Headers) : Prop :=
  ∃ header, headers "authorization" = some header ∧
    ∀ text, external.toStr header = some text → Text.startsWith text "Basic " = true

/-- The request carries credentials of a method that the mode allows, whatever they are worth. -/
def HasCredentials (external : External) (config : HttpBasicAuthConfig) (headers : Headers) :
    Prop :=
  (config.mode.allowsBasic = true ∧ BasicCredentials external headers) ∨
    (config.mode.allowsApiKey = true ∧ (headers config.apiKeyHeader).isSome = true)

variable {external : External} {config : HttpBasicAuthConfig} {headers : Headers}

theorem basicHeader_absent_iff :
    (tryBasicAuth external config headers = .ok none ∧ hasBasicHeader external headers = false) ↔
      ¬BasicCredentials external headers := by
  unfold tryBasicAuth hasBasicHeader External.headerText BasicCredentials
  cases headers "authorization" with
  | none => simp
  | some header =>
      cases readable : external.toStr header with
      | none => simp [readable]
      | some text =>
          cases starts : Text.startsWith text "Basic " with
          | true => simp [readable, starts]
          | false => simp [readable, starts, Text.stripPrefix_eq_none_iff.mpr starts]

theorem apiKeyHeader_absent_iff :
    (tryApiKeyAuth external config headers = .ok none ∧
        (headers config.apiKeyHeader).isSome = false) ↔
      ¬(headers config.apiKeyHeader).isSome = true := by
  unfold tryApiKeyAuth
  cases headers config.apiKeyHeader <;> simp

theorem attempt_ok_none {allowed : Bool}
    {method : Except Response (Option AuthenticatedIdentity)} :
    attempt allowed method = .ok none ↔ (allowed = true → method = .ok none) := by
  cases allowed <;> simp [attempt]

theorem tryAuthenticate_noCredentials :
    tryAuthenticate external config headers = .noCredentials ↔
      attempt config.mode.allowsBasic (tryBasicAuth external config headers) = .ok none ∧
      attempt config.mode.allowsApiKey (tryApiKeyAuth external config headers) = .ok none ∧
      (config.mode.allowsBasic = true → hasBasicHeader external headers = false) ∧
      (config.mode.allowsApiKey = true → (headers config.apiKeyHeader).isSome = false) := by
  unfold tryAuthenticate
  generalize attempt config.mode.allowsBasic (tryBasicAuth external config headers) = basic
  generalize attempt config.mode.allowsApiKey (tryApiKeyAuth external config headers) = apiKey
  match basic, apiKey with
  | .error _, _ => simp
  | .ok (some _), _ => simp
  | .ok none, .error _ => simp
  | .ok none, .ok (some _) => simp
  | .ok none, .ok none =>
      cases config.mode.allowsBasic <;> cases config.mode.allowsApiKey <;> simp

theorem tryAuthenticate_noCredentials_iff :
    tryAuthenticate external config headers = .noCredentials ↔
      ¬HasCredentials external config headers := by
  have basic := @basicHeader_absent_iff external config headers
  have apiKey := @apiKeyHeader_absent_iff external config headers
  rw [tryAuthenticate_noCredentials, attempt_ok_none, attempt_ok_none, HasCredentials, not_or,
    not_and, not_and, ← basic, ← apiKey]
  constructor
  · rintro ⟨noBasic, noApiKey, basicAbsent, apiKeyAbsent⟩
    exact ⟨fun allowed => ⟨noBasic allowed, basicAbsent allowed⟩,
      fun allowed => ⟨noApiKey allowed, apiKeyAbsent allowed⟩⟩
  · rintro ⟨basicMissing, apiKeyMissing⟩
    exact ⟨fun allowed => (basicMissing allowed).1, fun allowed => (apiKeyMissing allowed).1,
      fun allowed => (basicMissing allowed).2, fun allowed => (apiKeyMissing allowed).2⟩

/-- Basic authentication refuses or identifies every request with credentials, and every other one
unless it passes through. -/
theorem basicAuth_settles (passthrough : Bool) :
    Settles Request.Identified [(basicAuth external config passthrough).layer] fun request =>
      HasCredentials external config request.head.headers ∨ passthrough = false := by
  intro post identified request
  have noCredentials := @tryAuthenticate_noCredentials_iff external config request.head.headers
  simp only [Middleware.ensures_layer, basicAuth, basicAuthMiddleware]
  cases outcome : tryAuthenticate external config request.head.headers with
  | authenticated identity =>
      have credentials : HasCredentials external config request.head.headers := by
        simpa [outcome] using noCredentials
      simp only [Except.ok.injEq, forall_eq', credentials, true_or, iff_true]
      exact identified _ rfl
  | invalidCredentials response =>
      have credentials : HasCredentials external config request.head.headers := by
        simpa [outcome] using noCredentials
      simp [credentials]
  | noCredentials =>
      have none : ¬HasCredentials external config request.head.headers :=
        noCredentials.mp outcome
      cases passthrough with
      | true => simp [none]
      | false => simp

/-- The request presents the name and the password of this user. -/
def PresentsUser (external : External) (headers : Headers) (user : BasicAuthUser) : Prop :=
  ∃ header text encoded, headers "authorization" = some header ∧
    external.toStr header = some text ∧ Text.stripPrefix text "Basic " = some encoded ∧
    basicCredentials external encoded = some (user.username, user.password)

/-- The request presents this key in the configured header. -/
def PresentsApiKey (external : External) (config : HttpBasicAuthConfig) (headers : Headers)
    (apiKey : BasicAuthApiKey) : Prop :=
  ∃ header, headers config.apiKeyHeader = some header ∧
    external.toStr header = some apiKey.key

/-- The first of the entries of which this holds. -/
def IsFirst {Entry : Type} (Holds : Entry → Prop) (entries : List Entry) (entry : Entry) : Prop :=
  Holds entry ∧ ∃ before after, entries = before ++ entry :: after ∧
    ∀ earlier ∈ before, ¬Holds earlier

/-- There is an `Authorization` header that is unreadable, or has no name and password behind
`Basic`. -/
def MalformedBasic (external : External) (headers : Headers) : Prop :=
  ∃ header, headers "authorization" = some header ∧
    ∀ text, external.toStr header = some text → ∃ encoded,
      Text.stripPrefix text "Basic " = some encoded ∧ basicCredentials external encoded = none

/-- The first entry whose credentials a method that the mode allows presents, and its identity; a
key without a name is called `api-key`.  The user's credentials come first, and where they are
allowed, malformed ones do not reach the keys. -/
def PresentsEntry (external : External) (config : HttpBasicAuthConfig) (headers : Headers)
    (identity : AuthenticatedIdentity) : Prop :=
  (config.mode.allowsBasic = true ∧ ∃ user,
    IsFirst (PresentsUser external headers) config.users user ∧ identity = userIdentity user) ∨
  ((config.mode.allowsBasic = true → ¬MalformedBasic external headers ∧
      ∀ user ∈ config.users, ¬PresentsUser external headers user) ∧
    config.mode.allowsApiKey = true ∧ ∃ apiKey,
      IsFirst (PresentsApiKey external config headers) config.apiKeys apiKey ∧
        identity = apiKeyIdentity apiKey)

/-- What a search by the predicate finds. -/
theorem find?_eq_some_iff_isFirst {Entry : Type} {Holds : Entry → Prop} {search : Entry → Bool}
    (searches : ∀ entry, search entry = true ↔ Holds entry) {entries : List Entry}
    {entry : Entry} : entries.find? search = some entry ↔ IsFirst Holds entries entry := by
  have refuses : ∀ other, (!search other) = true ↔ ¬Holds other := by
    intro other
    rw [← searches other]
    simp
  simp only [List.find?_eq_some_iff_append, IsFirst, searches, refuses]

theorem find?_eq_none_iff_forall {Entry : Type} {Holds : Entry → Prop} {search : Entry → Bool}
    (searches : ∀ entry, search entry = true ↔ Holds entry) {entries : List Entry} :
    entries.find? search = none ↔ ∀ entry ∈ entries, ¬Holds entry := by
  simp only [List.find?_eq_none, searches]

theorem attempt_ok_some {allowed : Bool}
    {method : Except Response (Option AuthenticatedIdentity)} {identity : AuthenticatedIdentity} :
    attempt allowed method = .ok (some identity) ↔
      allowed = true ∧ method = .ok (some identity) := by
  cases allowed <;> simp [attempt]

/-- What the `Authorization` header is to `try_basic_auth`: malformed, of no use, or a name and a
password to look for. -/
theorem tryBasicAuth_cases (external : External) (config : HttpBasicAuthConfig)
    (headers : Headers) :
    (MalformedBasic external headers ∧ (∀ user, ¬PresentsUser external headers user) ∧
      tryBasicAuth external config headers = .error badRequestResponse) ∨
    (¬MalformedBasic external headers ∧ (∀ user, ¬PresentsUser external headers user) ∧
      tryBasicAuth external config headers = .ok none) ∨
    ¬MalformedBasic external headers ∧ ∃ username password,
      (∀ user : BasicAuthUser,
        (username == user.username && password == user.password) = true ↔
          PresentsUser external headers user) ∧
      tryBasicAuth external config headers =
        .ok ((config.users.find? fun user =>
          username == user.username && password == user.password).map userIdentity) := by
  cases isHeader : headers "authorization" with
  | none => simp [tryBasicAuth, MalformedBasic, PresentsUser, isHeader]
  | some header =>
      cases readable : external.toStr header with
      | none => simp [tryBasicAuth, MalformedBasic, PresentsUser, isHeader, readable]
      | some text =>
          cases stripped : Text.stripPrefix text "Basic " with
          | none =>
              simp [tryBasicAuth, MalformedBasic, PresentsUser, isHeader, readable, stripped]
          | some encoded =>
              cases decoded : basicCredentials external encoded with
              | none =>
                  simp [tryBasicAuth, MalformedBasic, PresentsUser, isHeader, readable, stripped,
                    decoded]
              | some credentials =>
                  rcases credentials with ⟨username, password⟩
                  right
                  right
                  refine ⟨?_, username, password, ?_, ?_⟩
                  · simp [MalformedBasic, isHeader, readable, stripped, decoded]
                  · intro user
                    simp [PresentsUser, isHeader, readable, stripped, decoded]
                  · simp [tryBasicAuth, isHeader, readable, stripped, decoded]

/-- The user that is found is the first whose credentials are presented. -/
theorem tryBasicAuth_ok_some_iff {identity : AuthenticatedIdentity} :
    tryBasicAuth external config headers = .ok (some identity) ↔
      ∃ user, IsFirst (PresentsUser external headers) config.users user ∧
        identity = userIdentity user := by
  rcases tryBasicAuth_cases external config headers with
    ⟨-, absent, attempted⟩ | ⟨-, absent, attempted⟩ | ⟨-, username, password, presents, attempted⟩
  · rw [attempted]
    constructor
    · intro found
      cases found
    · rintro ⟨user, isFirst, -⟩
      exact absurd isFirst.1 (absent user)
  · rw [attempted]
    constructor
    · intro found
      cases found
    · rintro ⟨user, isFirst, -⟩
      exact absurd isFirst.1 (absent user)
  · simp only [attempted, Except.ok.injEq, Option.map_eq_some_iff,
      find?_eq_some_iff_isFirst presents]
    exact exists_congr fun _ => and_congr_right fun _ => eq_comm

theorem tryBasicAuth_ok_none_iff :
    tryBasicAuth external config headers = .ok none ↔
      ¬MalformedBasic external headers ∧
        ∀ user ∈ config.users, ¬PresentsUser external headers user := by
  rcases tryBasicAuth_cases external config headers with
    ⟨malformed, absent, attempted⟩ | ⟨wellFormed, absent, attempted⟩ |
      ⟨wellFormed, username, password, presents, attempted⟩
  · simp [attempted, malformed]
  · simp [attempted, wellFormed, absent]
  · simp only [attempted, Except.ok.injEq, Option.map_eq_none_iff,
      find?_eq_none_iff_forall presents, wellFormed, not_false_eq_true, true_and]

/-- The key that is found is the first one that is presented. -/
theorem tryApiKeyAuth_ok_some_iff {identity : AuthenticatedIdentity} :
    tryApiKeyAuth external config headers = .ok (some identity) ↔
      ∃ apiKey, IsFirst (PresentsApiKey external config headers) config.apiKeys apiKey ∧
        identity = apiKeyIdentity apiKey := by
  unfold tryApiKeyAuth
  cases isHeader : headers config.apiKeyHeader with
  | none => simp [IsFirst, PresentsApiKey, isHeader]
  | some header =>
      cases readable : external.toStr header with
      | none => simp [IsFirst, PresentsApiKey, isHeader, readable]
      | some key =>
          have presents : ∀ apiKey : BasicAuthApiKey, (key == apiKey.key) = true ↔
              PresentsApiKey external config headers apiKey := by
            intro apiKey
            simp [PresentsApiKey, isHeader, readable]
          simp only [readable, Except.ok.injEq, Option.map_eq_some_iff,
            find?_eq_some_iff_isFirst presents]
          exact exists_congr fun _ => and_congr_right fun _ => eq_comm

/-- A request is authenticated exactly when it presents the credentials of an entry, by an allowed
method that is reached, and as the first such entry. -/
theorem tryAuthenticate_authenticated_iff {identity : AuthenticatedIdentity} :
    tryAuthenticate external config headers = .authenticated identity ↔
      PresentsEntry external config headers identity := by
  rw [PresentsEntry, ← tryBasicAuth_ok_some_iff, ← tryApiKeyAuth_ok_some_iff,
    ← tryBasicAuth_ok_none_iff, ← attempt_ok_some, ← attempt_ok_none, ← attempt_ok_some,
    tryAuthenticate]
  generalize attempt config.mode.allowsBasic (tryBasicAuth external config headers) = basic
  generalize attempt config.mode.allowsApiKey (tryApiKeyAuth external config headers) = apiKey
  match basic, apiKey with
  | .error _, _ => simp
  | .ok (some _), _ => simp
  | .ok none, .error _ => simp
  | .ok none, .ok (some _) => simp
  | .ok none, .ok none =>
      simp only [reduceCtorEq, Except.ok.injEq, false_or, and_false, iff_false]
      split <;> simp

/-- The inner service runs for authenticated requests, with their identity, and in passthrough mode
for requests without credentials, as they are. -/
theorem basicAuthMiddleware_ok {passthrough : Bool} {request passed : Request} :
    basicAuthMiddleware external config passthrough request = .ok passed ↔
      (∃ identity,
        tryAuthenticate external config request.head.headers = .authenticated identity ∧
        passed = { request with identity := some identity }) ∨
      (passthrough = true ∧
        tryAuthenticate external config request.head.headers = .noCredentials ∧
        passed = request) := by
  unfold basicAuthMiddleware
  cases tryAuthenticate external config request.head.headers with
  | authenticated identity => simp [eq_comm]
  | invalidCredentials response => simp
  | noCredentials => cases passthrough <;> simp [eq_comm]

/-- The three outcomes of authentication and what the middleware makes of them. -/
theorem basicAuth_classifies (external : External) (config : HttpBasicAuthConfig)
    (headers : Headers) :
    (∀ identity, tryAuthenticate external config headers = .authenticated identity ↔
      PresentsEntry external config headers identity) ∧
    (tryAuthenticate external config headers = .noCredentials ↔
      ¬HasCredentials external config headers) ∧
    ((∃ response, tryAuthenticate external config headers = .invalidCredentials response) ↔
      HasCredentials external config headers ∧
        ∀ identity, tryAuthenticate external config headers ≠ .authenticated identity) ∧
    ∀ (passthrough : Bool) (request passed : Request) (endpoint : Endpoint),
      request.head.headers = headers →
      ((basicAuth external config passthrough).layer.wrap (.handed endpoint) request =
          .handed endpoint passed ↔
        (∃ identity, tryAuthenticate external config headers = .authenticated identity ∧
          passed = { request with identity := some identity }) ∨
        (passthrough = true ∧ tryAuthenticate external config headers = .noCredentials ∧
          passed = request)) := by
  refine ⟨fun identity => tryAuthenticate_authenticated_iff, tryAuthenticate_noCredentials_iff,
    ?_, ?_⟩
  · have noCredentials := @tryAuthenticate_noCredentials_iff external config headers
    cases outcome : tryAuthenticate external config headers with
    | authenticated identity => simp
    | invalidCredentials response => simpa [outcome] using noCredentials
    | noCredentials => simpa [outcome] using noCredentials
  · rintro passthrough request passed endpoint rfl
    rw [← basicAuthMiddleware_ok]
    simp only [Layer.wrap, Middleware.layer, basicAuth]
    cases basicAuthMiddleware external config passthrough request with
    | error answer => simp [Except.mapError]
    | ok inner => simp [Except.mapError]

/-- Two entries with one key, beside a user. -/
def keyConfig : HttpBasicAuthConfig where
  users := [{ username := "ann", password := "secret" }]
  apiKeys := [{ key := "k-1", name := some "build" }, { key := "k-1", roles := ["admin"] }]

/-- A key beside credentials of another scheme. -/
def keyRequest : Request where
  head :=
    { path := "/"
      pathAndQuery := some "/"
      headers := fun name =>
        if name = "X-API-Key" then some (HeaderValue.ofText "k-1")
        else if name = "authorization" then some (HeaderValue.ofText "Bearer t") else none
      peerIp := none }

/-- The handler runs for the first entry with the key. -/
theorem basicAuth_classifies_key :
    (basicAuth External.visible keyConfig false).layer.wrap (.handed (.user "/")) keyRequest =
      .handed (.user "/") { keyRequest with
        identity := some (apiKeyIdentity { key := "k-1", name := some "build" }) } := by
  have classified := basicAuth_classifies External.visible keyConfig keyRequest.head.headers
  refine (classified.2.2.2 false keyRequest _ (.user "/") rfl).mpr (.inl ⟨_, ?_, rfl⟩)
  refine (classified.1 _).mpr (.inr ⟨fun _ => ?_, rfl, _, ⟨⟨_, rfl, by decide +kernel⟩, [], _,
    rfl, by simp⟩, rfl⟩)
  rw [← tryBasicAuth_ok_none_iff]
  rfl

end AxumConf.Auth
