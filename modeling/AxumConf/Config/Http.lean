import AxumConf.Config.Authentication
import AxumConf.Config.Middleware

/-!
# The `[http]` section

CORS, static directories and session storage, and `HttpConfig::validate`, which runs the checks of
every part in a fixed order and stops at the first problem.
-/

namespace AxumConf

structure CorsMethod where
  method : String
  deriving DecidableEq, Repr

structure CorsHeader where
  header : String
  deriving DecidableEq, Repr

structure HttpCorsConfig where
  allowCredentials : Option Bool := none
  /-- Origins allowed to make CORS requests; all of them when not specified. -/
  allowedOrigins : Option (List String) := none
  allowedMethods : Option (List CorsMethod) := none
  allowedHeaders : Option (List CorsHeader) := none
  exposedHeaders : Option (List CorsHeader) := none
  maxAge : Option ℕ := none
  deriving DecidableEq, Repr

inductive StaticDirRoute where
  | route (path : String)
  | fallback (enabled : Bool)
  deriving DecidableEq, Repr

structure StaticDirConfig where
  directory : String
  route : StaticDirRoute
  isProtected : Bool := false
  cacheMaxAge : Option ℕ := none
  deriving DecidableEq, Repr

/-- One year. -/
def maxCacheAgeSeconds : ℕ := 31536000

namespace StaticDirConfig

def isFallback (config : StaticDirConfig) : Bool :=
  match config.route with
  | .route _ => false
  | .fallback _ => true

def hasBlankRoute (config : StaticDirConfig) : Bool :=
  match config.route with
  | .route path => (Text.trim path).isEmpty
  | .fallback _ => false

def validate (config : StaticDirConfig) : Checked := do
  rejectIf ((Text.trim config.directory).isEmpty)
    (.invalidInput
      ("Static directory path is required. Set [[http.directories]] directory = \"./public\" in " ++
       "config."))
  rejectIf config.hasBlankRoute
    (.invalidInput
      "Static directory route is required. Set route = \"/static\" or use fallback = true.")
  rejectIf (config.isFallback && config.isProtected)
    (.invalidInput
      ("Fallback directories cannot be protected. Remove protected = true or use route = " ++
       "\"/path\" instead."))
  rejectIf (config.cacheMaxAge.any fun maxAge => maxCacheAgeSeconds < maxAge)
    (.invalidInput
      ("cache_max_age exceeds 31536000 (1 year). Use values like 86400 (1 day) or 604800 (1 " ++
       "week)."))

theorem isProtected_of_isFallback {config : StaticDirConfig} (valid : config.validate = .ok ())
    (fallback : config.isFallback = true) : config.isProtected = false := by
  simp only [validate, checked_bind_ok, rejectIf_ok] at valid
  simpa [fallback] using valid.2.2.1

end StaticDirConfig

inductive SessionStoreConfig where
  | memory
  | postgres
  | redis (url : String)
  deriving DecidableEq, Repr

def SessionStoreConfig.isExternal (store : SessionStoreConfig) : Bool :=
  match store with
  | memory => false
  | postgres | redis _ => true

structure HttpConfig where
  bindAddr : String := "0.0.0.0"
  maxConcurrentRequests : ℕ := 4096
  maxRequestsPerSec : ℕ := 100
  withMetrics : Bool := true
  livenessRoute : String := "/live"
  readinessRoute : String := "/ready"
  metricsRoute : String := "/metrics"
  directories : List StaticDirConfig := []
  sessionStore : SessionStoreConfig := .memory
  sessionSigningKey : Option String := none
  oidc : Option HttpOidcConfig := none
  basicAuth : Option HttpBasicAuthConfig := none
  proxyOidc : Option HttpProxyOidcConfig := none
  cors : Option HttpCorsConfig := none
  middleware : Option HttpMiddlewareConfig := none
  deriving DecidableEq, Repr

structure Config where
  http : HttpConfig := {}
  isProduction : Bool := true
  deriving DecidableEq, Repr

def validateSome {α : Type} (part : Option α) (check : α → Checked) : Checked :=
  match part with
  | some config => check config
  | none => .ok ()

namespace HttpConfig

/-- Basic auth beside OIDC that only takes bearer tokens: both read `Authorization`. -/
def basicAuthBesideBearer (config : HttpConfig) : Bool :=
  config.basicAuth.isSome && config.oidc.any fun oidc => !oidc.authCodeFlowEnabled

def validateSigningKey (config : HttpConfig) : Checked :=
  if config.sessionStore.isExternal then
    match config.sessionSigningKey with
    | none => .error (.config
        ("session_store is external (postgres/redis) but no session_signing_key is configured. " ++
         "Set [http] session_signing_key (>= 32 bytes, stable across replicas) so session " ++
         "records can be HMAC-tagged against tampering."))
    | some key => rejectIf (key.utf8ByteSize < 32)
        (.config "session_signing_key is too short; it must be at least 32 bytes.")
  else .ok ()

def validate (config : HttpConfig) : Checked := do
  rejectIf ((Text.trim config.bindAddr).isEmpty)
    (.invalidInput
      ("HTTP bind_addr is required. Set [http] bind_addr = \"0.0.0.0\" or \"127.0.0.1\" in " ++
       "config."))
  rejectIf (IpAddr.parse config.bindAddr).isNone
    (.invalidInput
      "HTTP bind_addr must be a valid IP address. Examples: \"127.0.0.1\", \"0.0.0.0\", \"::1\"")
  rejectIf (config.maxConcurrentRequests == 0)
    (.invalidInput
      ("HTTP max_concurrent_requests must be > 0. Set [http] max_concurrent_requests = 4096 in " ++
       "config."))
  validateSome config.oidc HttpOidcConfig.validate
  validateSome config.basicAuth HttpBasicAuthConfig.validate
  rejectIf config.basicAuthBesideBearer
    (.invalidInput
      ("Cannot configure both [http.basic_auth] and [http.oidc] in bearer-only mode. Either " ++
       "enable auth code flow by setting redirect_uri, or choose one authentication method."))
  rejectIf (config.basicAuth.isSome && config.proxyOidc.isSome)
    (.invalidInput
      ("Cannot configure both [http.basic_auth] and [http.proxy_oidc]. Choose one " ++
       "authentication method."))
  rejectIf (config.oidc.isSome && config.proxyOidc.isSome)
    (.invalidInput
      ("Cannot configure both [http.oidc] and [http.proxy_oidc]. Choose one authentication " ++
       "method."))
  config.directories.forM StaticDirConfig.validate
  rejectIf (1 < (config.directories.filter StaticDirConfig.isFallback).length)
    (.invalidInput "Only one static directory can be configured as fallback")
  validateSome config.middleware HttpMiddlewareConfig.validate
  rejectIf (config.proxyOidc.any fun proxy =>
      proxy.sharedSecret.any fun secret => (Text.trim secret).isEmpty)
    (.config
      ("[http.proxy_oidc] shared_secret is configured but empty (e.g. an unset environment " ++
       "variable). Remove it or provide a non-empty secret."))
  config.validateSigningKey

/-- What a configuration that passes every check promises the authentication layers. -/
structure Accepted (config : HttpConfig) : Prop where
  basicAuth_or_bearer : config.basicAuthBesideBearer = false
  basicAuth_or_proxyOidc : config.basicAuth.isSome = true → config.proxyOidc = none
  oidc_or_proxyOidc : config.oidc.isSome = true → config.proxyOidc = none
  fallback_isPublic : ∀ directory ∈ config.directories,
    directory.isFallback = true → directory.isProtected = false

theorem accepted_of_validate {config : HttpConfig} (valid : config.validate = .ok ()) :
    config.Accepted := by
  simp only [validate, checked_bind_ok, rejectIf_ok, forM_ok] at valid
  obtain ⟨-, -, -, -, -, noBearer, noProxyBasic, noProxyOidc, directories, -⟩ := valid
  constructor
  · exact noBearer
  · intro basicAuth
    simpa [basicAuth] using noProxyBasic
  · intro oidc
    simpa [oidc] using noProxyOidc
  · intro directory member fallback
    exact StaticDirConfig.isProtected_of_isFallback (directories directory member) fallback

def hasAuthentication (config : HttpConfig) : Bool :=
  config.oidc.isSome || config.basicAuth.isSome || config.proxyOidc.isSome

end HttpConfig

/-- Without a middleware section everything is enabled. -/
def Config.isMiddlewareEnabled (config : Config) (middleware : HttpMiddleware) : Bool :=
  (config.http.middleware.map fun part => part.isEnabled middleware).getD true

end AxumConf
