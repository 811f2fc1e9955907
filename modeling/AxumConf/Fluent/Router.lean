import AxumConf.Auth.Basic
import AxumConf.Auth.BrowserRedirect
import AxumConf.Auth.Proxy
import AxumConf.Auth.Session

/-!
# The router

`setup_middleware` from the protected directories to the session layer, and the fallback directory
at its end.  A layer wraps the routes that exist when it is added and later routes stay outside of
it; the layer added last sees a request first.  The steps between the session layer and the fallback
wrap all of this from outside and attach no identity.
-/

namespace AxumConf.Fluent

open Auth Tower

/-- How a route is registered: at a path, or for everything under a prefix. -/
inductive RoutePattern where
  | exact (path : String)
  | nested (path : String)
  deriving DecidableEq, Repr

structure Route where
  pattern : RoutePattern
  endpoint : Endpoint
  /-- In the order in which they were added. -/
  layers : List Middleware := []

/-- What the service finds at startup and what serves it. -/
structure Platform where
  external : External
  bearerKeys : JwksProvider
  oidcClient : OidcClient
  /-- The session that the session layer finds for a request. -/
  loadSession : RequestHead → Session
  /-- The position of the registered pattern that `axum` picks for a path. -/
  matchRoute : List RoutePattern → String → Option ℕ
  /-- `ServeDir` finds a file of the directory for the request. -/
  holdsFile : StaticDirConfig → RequestHead → Bool

structure FluentRouter where
  config : Config
  routes : List Route := []
  fallback : Route := { pattern := .nested "/", endpoint := .notFound }

def Route.wrap (route : Route) (layers : List Middleware) : Route :=
  { route with layers := route.layers ++ layers }

namespace FluentRouter

variable (router : FluentRouter)

def route (path : String) (endpoint : Endpoint) : FluentRouter :=
  { router with routes := router.routes ++ [{ pattern := .exact path, endpoint }] }

def nestService (path : String) (endpoint : Endpoint) : FluentRouter :=
  { router with routes := router.routes ++ [{ pattern := .nested path, endpoint }] }

/-- Wraps the routes that exist so far. -/
def routeLayers (layers : List Middleware) : FluentRouter :=
  { router with routes := router.routes.map fun route => route.wrap layers }

/-- Wraps the routes that exist so far and the fallback. -/
def layers (layers : List Middleware) : FluentRouter :=
  { router with
    routes := router.routes.map fun route => route.wrap layers
    fallback := router.fallback.wrap layers }

def fallbackService (endpoint : Endpoint) : FluentRouter :=
  { router with fallback := { pattern := .nested "/", endpoint } }

def setupDirectory (isProtected : Bool) (directory : StaticDirConfig) : FluentRouter :=
  match directory.route with
  | .route path =>
      if directory.isProtected == isProtected then router.nestService path (.directory directory)
      else router
  | .fallback _ => router

def setupDirectories (isProtected : Bool) : FluentRouter :=
  router.config.http.directories.foldl
    (fun current directory => current.setupDirectory isProtected directory) router

def setupProtectedFiles : FluentRouter :=
  router.setupDirectories true

def setupPublicFiles : FluentRouter :=
  router.setupDirectories false

def setupFallbackFiles : FluentRouter :=
  match router.config.http.directories.find? StaticDirConfig.isFallback with
  | some directory => router.fallbackService (.directory directory)
  | none => router

end FluentRouter

def skipPaths (config : Config) (oidc : HttpOidcConfig) : List String :=
  [oidc.loginRoute, oidc.callbackRoute, oidc.logoutRoute, config.http.livenessRoute,
    config.http.readinessRoute, config.http.metricsRoute] ++
  config.http.directories.filterMap fun directory =>
    match directory.route with
    | .route path => some path
    | .fallback _ => none

def redirectConfig (config : Config) (oidc : HttpOidcConfig) : BrowserRedirectConfig where
  loginRoute := oidc.loginRoute
  skipPaths := skipPaths config oidc

def bearerConfig (oidc : HttpOidcConfig) : BearerAuthConfig where
  passthrough := oidc.authCodeFlowEnabled
  rolesClaim := oidc.rolesClaim

/-- Basic auth passes requests without credentials on when the OIDC code flow is configured. -/
def basicPassthrough (config : Config) : Bool :=
  config.http.oidc.any HttpOidcConfig.authCodeFlowEnabled

def runsCodeFlow (config : Config) (oidc : HttpOidcConfig) : Bool :=
  oidc.authCodeFlowEnabled && config.isMiddlewareEnabled .oidc

def redirectsToLogin (config : Config) (oidc : HttpOidcConfig) : Bool :=
  oidc.authCodeFlowEnabled && oidc.autoRedirectToLogin && config.isMiddlewareEnabled .oidc

section Layers

variable (platform : Platform) (config : Config)

def browserRedirectLayers : List Middleware :=
  layerOf config.http.oidc (redirectsToLogin config) fun oidc =>
    browserRedirect platform.external (redirectConfig config oidc)

def bearerLayers : List Middleware :=
  layerOf config.http.oidc (fun _ => config.isMiddlewareEnabled .oidc) fun oidc =>
    bearerAuth platform.external platform.bearerKeys (bearerConfig oidc)

def sessionIdentityLayers : List Middleware :=
  layerOf config.http.oidc (runsCodeFlow config) fun oidc =>
    sessionToIdentity platform.external oidc.rolesClaim

def basicLayers : List Middleware :=
  layerOf config.http.basicAuth (fun _ => config.isMiddlewareEnabled .basicAuth)
    fun basic => basicAuth platform.external basic (basicPassthrough config)

def proxyLayers : List Middleware :=
  layerOf config.http.proxyOidc (fun _ => config.isMiddlewareEnabled .proxyOidc)
    fun proxy => proxyOidc platform.external proxy config.isProduction

/-- `axum::Extension`, which puts the client into the request. -/
def oidcClientExtension : Middleware where
  inbound := fun request => .ok { request with oidcClient := some platform.oidcClient }
  keepsHead := by
    intro request passed passes
    cases passes
    rfl

def oidcClientLayers : List Middleware :=
  layerOf config.http.oidc (runsCodeFlow config) fun _ => oidcClientExtension platform

def spanUser (identity : AuthenticatedIdentity) : String :=
  identity.preferredUsername.getD identity.user

/-- Names the user in the tracing span; the request passes unchanged. -/
def recordUserToSpan : Middleware where
  inbound := fun request => .ok request
  keepsHead := by
    intro request passed passes
    cases passes
    rfl
  recordsUser := fun request => request.identity.map spanUser

def sessionManager : Middleware where
  inbound := fun request => .ok { request with session := some (platform.loadSession request.head) }
  keepsHead := by
    intro request passed passes
    cases passes
    rfl

end Layers

namespace FluentRouter

section Setup

variable (platform : Platform) (router : FluentRouter)

def setupBrowserLoginRedirect : FluentRouter :=
  router.routeLayers (browserRedirectLayers platform router.config)

def setupOidc : FluentRouter :=
  (router.routeLayers (bearerLayers platform router.config)).layers
    (sessionIdentityLayers platform router.config)

def setupBasicAuth : FluentRouter :=
  router.routeLayers (basicLayers platform router.config)

def setupProxyOidc : FluentRouter :=
  router.routeLayers (proxyLayers platform router.config)

def setupOidcRoutes : FluentRouter :=
  match router.config.http.oidc with
  | some oidc =>
      if runsCodeFlow router.config oidc then
        (((router.route oidc.loginRoute .login).route oidc.callbackRoute .callback).route
          oidc.logoutRoute .logout).layers (oidcClientLayers platform router.config)
      else router
  | none => router

def setupUserSpan : FluentRouter :=
  router.layers [recordUserToSpan]

def setupSessionHandling : FluentRouter :=
  router.layers [sessionManager platform]

/-- The steps in the order of `setup_middleware`, from a router with the user's routes. -/
def setupMiddleware : FluentRouter :=
  let router := router.setupProtectedFiles
  let router := router.setupBrowserLoginRedirect platform
  let router := router.setupOidc platform
  let router := router.setupBasicAuth platform
  let router := router.setupProxyOidc platform
  let router := router.setupPublicFiles
  let router := router.setupOidcRoutes platform
  let router := router.setupUserSpan
  let router := router.setupSessionHandling platform
  router.setupFallbackFiles

end Setup

def routeOf (platform : Platform) (router : FluentRouter) (path : String) : Route :=
  ((platform.matchRoute (router.routes.map Route.pattern) path).bind fun position =>
    router.routes[position]?).getD router.fallback

end FluentRouter

def Route.call (route : Route) (request : Request) : Outcome :=
  stack (route.layers.map Middleware.layer) (.handed route.endpoint) request

def FluentRouter.call (platform : Platform) (router : FluentRouter) (head : RequestHead) :
    Outcome :=
  (router.routeOf platform head.path).call { head }

def withUserRoutes (config : Config) (paths : List String) : FluentRouter where
  config
  routes := paths.map fun path => { pattern := .exact path, endpoint := .user path }

end AxumConf.Fluent
