import AxumConf.Fluent.RequestId
import AxumConf.Fluent.RouteCoverage
import AxumConf.Lib.Shell

/-!
# The outer layers

`setup_middleware` from deduplication to panic recovery and the fallback directory, positions 10 to
27 of its order.  A layer wraps the routes and the fallback that exist when it is added, so the
probe routes are outside of the layers added before them, and the fallback directory, which replaces
the fallback at the end, is outside of all.
-/

namespace AxumConf.Fluent

open Tower

inductive XFrameOptions where
  | deny
  | sameOrigin
  | allowFrom (url : String)
  deriving DecidableEq, Repr

def XFrameOptions.text : XFrameOptions → String
  | deny => "DENY"
  | sameOrigin => "SAMEORIGIN"
  | allowFrom url => "ALLOW-FROM " ++ url

structure HttpDeduplicationConfig where
  ttl : ℕ := 60 * 10 ^ 9
  maxEntries : ℕ := 10000
  deriving DecidableEq, Repr

/-- The configuration with the settings that only the outer layers read. -/
structure PipelineConfig extends Config where
  requestTimeout : Option ℕ := some (60 * 10 ^ 9)
  maxPayloadSizeBytes : ℕ := 32 * 1024
  supportCompression : Bool := false
  xContentTypeNosniff : Bool := true
  xFrameOptions : XFrameOptions := .deny
  hstsMaxAge : Option ℕ := none
  hstsIncludeSubdomains : Bool := true
  contentSecurityPolicy : Option String := none
  defaultApiVersion : ℕ := 1
  deduplication : Option HttpDeduplicationConfig := none

/-- The layers, with what they are made of. -/
inductive OuterLayer where
  | deduplication (config : HttpDeduplicationConfig)
  | concurrencyLimit (limit : ℕ)
  | disableDefaultBodyLimit
  | requestBodyLimit (bytes : ℕ)
  | requestDecompression
  | compression
  | trimTrailingSlash
  | sensitiveHeaders (names : List String)
  | apiVersioning (defaultVersion : ℕ)
  | cors (config : Option HttpCorsConfig) (isProduction : Bool)
  | helmet (headers : List (String × HeaderValue))
  | responseHeader (name : String) (value : HeaderValue)
  | logging
  | prometheus
  | timeout (limit : ℕ)
  | governor (perSecond : ℕ)
  | propagateRequestId
  | setRequestId
  | catchPanic
  deriving DecidableEq

inductive Panic where
  | string (text : String)
  | str (text : String)
  | other
  deriving DecidableEq, Repr

/-- What is logged and sent to the notification channel. -/
def Panic.message : Panic → String
  | string text => "Service panicked: " ++ text
  | str text => "Service panicked: " ++ text
  | other => "`CatchPanic` was unable to downcast the panic info"

def contentType : String := "content-type"

def plainText : HeaderValue := .ofText "text/plain; charset=utf-8"

/-- The closure of `setup_catch_panic`; the response does not depend on the panic. -/
def panicResponse : Response where
  status := 500
  headers := fun name => if name = contentType then some plainText else none
  body := "Internal Server Error"

/-- The functions of the crates below the outer layers. -/
structure OuterApi where
  external : External
  ids : RequestIdApi
  /-- `HeaderName::from_bytes`, in lower case -/
  headerName : String → Option String
  /-- `Helmet::into_layer`, which fails when a text makes no header value. -/
  intoLayer : List (String × String) → Option (List (String × HeaderValue))
  /-- The layers of the crates, in the state in which the request finds them. -/
  crate : OuterLayer → Layer Request Response
  /-- `CatchPanicLayer::custom` -/
  catchPanic : (Panic → Response) → Shell Request Response Panic
  /-- What a route with `get` answers a method, when the handler returns this text. -/
  getText : String → String → Response

def OuterApi.shell (api : OuterApi) : OuterLayer → Shell Request Response Panic
  | .propagateRequestId =>
      { inbound := fun request => .ok request, outbound := api.ids.propagateRequestId }
  | .setRequestId =>
      { inbound := fun request =>
          .ok (api.ids.setRequestId (makeRequestId api.external api.ids) request) }
  | .catchPanic => api.catchPanic fun _ => panicResponse
  | layer => { toLayer := api.crate layer }

section Steps

variable (api : OuterApi) (config : PipelineConfig)

def enabledLayers (middleware : HttpMiddleware) (layers : List OuterLayer) : List OuterLayer :=
  if config.isMiddlewareEnabled middleware then layers else []

/-- Deduplication needs the request ids of a layer further out. -/
def deduplicationLayers : List OuterLayer :=
  enabledLayers config .requestDeduplication
    (enabledLayers config .requestId (config.deduplication.map .deduplication).toList)

def concurrencyLimitLayers : List OuterLayer :=
  enabledLayers config .concurrencyLimit [.concurrencyLimit config.http.maxConcurrentRequests]

def maxPayloadSizeLayers : List OuterLayer :=
  enabledLayers config .maxPayloadSize
    [.disableDefaultBodyLimit, .requestBodyLimit config.maxPayloadSizeBytes]

def compressionLayers : List OuterLayer :=
  if config.supportCompression then
    enabledLayers config .compression [.requestDecompression, .compression]
  else []

/-- The setting `trim_trailing_slash` is not looked at. -/
def pathNormalizationLayers : List OuterLayer :=
  enabledLayers config .pathNormalization [.trimTrailingSlash]

def sensitiveNames : List String :=
  ["authorization", "cookie", "set-cookie"] ++
    (config.http.basicAuth.bind fun basic => api.headerName basic.apiKeyHeader).toList

def sensitiveHeadersLayers : List OuterLayer :=
  enabledLayers config .sensitiveHeaders [.sensitiveHeaders (sensitiveNames api config)]

def apiVersioningLayers : List OuterLayer :=
  enabledLayers config .apiVersioning [.apiVersioning config.defaultApiVersion]

def corsLayers : List OuterLayer :=
  enabledLayers config .cors [.cors config.http.cors config.isProduction]

/-- An origin that makes no header value is taken for `DENY`. -/
def xFrame : XFrameOptions :=
  match config.xFrameOptions with
  | .allowFrom url =>
      if (api.ids.fromStr ("ALLOW-FROM " ++ url)).isSome then .allowFrom url else .deny
  | frame => frame

def helmetTexts : List (String × String) :=
  (if config.xContentTypeNosniff then [("x-content-type-options", "nosniff")] else []) ++
    [("x-frame-options", (xFrame api config).text)]

def hstsText (maxAge : ℕ) : String :=
  if config.hstsIncludeSubdomains then s!"max-age={maxAge}; includeSubDomains"
  else s!"max-age={maxAge}"

def headerLayers (name : String) (text : Option String) : List OuterLayer :=
  ((text.bind api.ids.fromStr).map (.responseHeader name)).toList

/-- `setup_helmet` -/
def helmetLayers : List OuterLayer :=
  enabledLayers config .securityHeaders
    (((api.intoLayer (helmetTexts api config)).map .helmet).toList ++
      headerLayers api "strict-transport-security" (config.hstsMaxAge.map (hstsText config)) ++
      headerLayers api "content-security-policy" config.contentSecurityPolicy)

def loggingLayers : List OuterLayer :=
  enabledLayers config .logging [.logging]

def metricsLayers : List OuterLayer :=
  if config.http.withMetrics then enabledLayers config .metrics [.prometheus] else []

def timeoutLayers : List OuterLayer :=
  enabledLayers config .timeout (config.requestTimeout.map .timeout).toList

def rateLimitingLayers : List OuterLayer :=
  if 0 < config.http.maxRequestsPerSec then
    enabledLayers config .rateLimiting [.governor config.http.maxRequestsPerSec]
  else []

def requestIdLayers : List OuterLayer :=
  enabledLayers config .requestId [.propagateRequestId, .setRequestId]

def catchPanicLayers : List OuterLayer :=
  enabledLayers config .catchPanic [.catchPanic]

end Steps

/-- A route with its authentication layers, and the outer layers around it as they were added. -/
structure OuterRoute where
  route : Route
  outer : List OuterLayer := []

def OuterRoute.wrap (route : OuterRoute) (layers : List OuterLayer) : OuterRoute :=
  { route with outer := route.outer ++ layers }

/-- Routes with these layers around them. -/
def covered (layers : List OuterLayer) (routes : List Route) : List OuterRoute :=
  routes.map fun route => { route, outer := layers }

structure OuterRouter where
  routes : List OuterRoute
  fallback : OuterRoute

namespace OuterRouter

variable (router : OuterRouter)

def of (inner : FluentRouter) : OuterRouter where
  routes := covered [] inner.routes
  fallback := { route := inner.fallback }

/-- Wraps the routes that exist so far and the fallback. -/
def layers (added : List OuterLayer) : OuterRouter where
  routes := router.routes.map fun route => route.wrap added
  fallback := router.fallback.wrap added

def append (added : List OuterRoute) : OuterRouter :=
  { router with routes := router.routes ++ added }

def addRoutes (added : List Route) : OuterRouter :=
  router.append (covered [] added)

def fallbackService (endpoint : Endpoint) : OuterRouter :=
  { router with fallback := { route := { pattern := .nested "/", endpoint } } }

variable (api : OuterApi) (config : PipelineConfig)

def setupMetrics : OuterRouter :=
  (router.addRoutes (metricsRoutes config.toConfig)).layers (metricsLayers config)

def setupFallbackFiles : OuterRouter :=
  match config.http.directories.find? StaticDirConfig.isFallback with
  | some directory => router.fallbackService (.directory directory)
  | none => router

/-- Positions 10 to 27, in the order of `setup_middleware`. -/
def setupOutside : OuterRouter :=
  let router := router.layers (deduplicationLayers config)
  let router := router.layers (concurrencyLimitLayers config)
  let router := router.layers (maxPayloadSizeLayers config)
  let router := router.layers (compressionLayers config)
  let router := router.layers (pathNormalizationLayers config)
  let router := router.layers (sensitiveHeadersLayers api config)
  let router := router.layers (apiVersioningLayers config)
  let router := router.layers (corsLayers config)
  let router := router.layers (helmetLayers api config)
  let router := router.layers (loggingLayers config)
  let router := router.setupMetrics config
  let router := router.addRoutes (readinessRoutes config.toConfig)
  let router := router.layers (timeoutLayers config)
  let router := router.layers (rateLimitingLayers config)
  let router := router.layers (requestIdLayers config)
  let router := router.addRoutes (livenessRoutes config.toConfig)
  let router := router.layers (catchPanicLayers config)
  router.setupFallbackFiles config

def routeOf (platform : Platform) (path : String) : OuterRoute :=
  ((platform.matchRoute (router.routes.map fun route => route.route.pattern) path).bind
    fun position => router.routes[position]?).getD router.fallback

end OuterRouter

/-- Positions 1 to 9. -/
def FluentRouter.setupWithin (platform : Platform) (router : FluentRouter) : FluentRouter :=
  let router := router.setupProtectedFiles
  let router := router.setupBrowserLoginRedirect platform
  let router := router.setupOidc platform
  let router := router.setupBasicAuth platform
  let router := router.setupProxyOidc platform
  let router := router.setupPublicFiles
  let router := router.setupOidcRoutes platform
  let router := router.setupUserSpan
  router.setupSessionHandling platform

/-- The whole of `setup_middleware`, for a router with these routes of the user. -/
def pipeline (platform : Platform) (api : OuterApi) (config : PipelineConfig)
    (paths : List String) : OuterRouter :=
  (OuterRouter.of ((withUserRoutes config.toConfig paths).setupWithin platform)).setupOutside api
    config

/-- The handlers of the endpoints, apart from that of the liveness route. -/
structure Handlers where
  serve : Endpoint → Request → Except Panic Response

def Handlers.handle (handlers : Handlers) (api : OuterApi) :
    Endpoint → Request → Except Panic Response
  | .liveness, request => .ok (api.getText "OK\n" request.head.method)
  | endpoint, request => handlers.serve endpoint request

/-- What answers behind the outer layers: an authentication layer, or the handler. -/
def Handlers.behind (handlers : Handlers) (api : OuterApi) (route : Route) :
    Request → Except Panic Response :=
  fun request =>
    match route.call request with
    | .answered answer => .ok answer.response
    | .handed endpoint passed => handlers.handle api endpoint passed

def OuterApi.shells (api : OuterApi) (layers : List OuterLayer) :
    List (Shell Request Response Panic) :=
  layers.map api.shell

def OuterRoute.call (api : OuterApi) (handlers : Handlers) (route : OuterRoute) :
    Request → Except Panic Response :=
  enclose (api.shells route.outer) (handlers.behind api route.route)

/-- What becomes of a request to the service. -/
def OuterRouter.call (platform : Platform) (api : OuterApi) (handlers : Handlers)
    (router : OuterRouter) (head : RequestHead) : Except Panic Response :=
  (router.routeOf platform head.path).call api handlers { head }

section Coverage

variable (platform : Platform) (api : OuterApi) (config : PipelineConfig)

/-- Positions 10 to 17. -/
def shapingLayers : List OuterLayer :=
  deduplicationLayers config ++ concurrencyLimitLayers config ++ maxPayloadSizeLayers config ++
    compressionLayers config ++ pathNormalizationLayers config ++
    sensitiveHeadersLayers api config ++ apiVersioningLayers config ++ corsLayers config

/-- Positions 22 and 23. -/
def limitingLayers : List OuterLayer :=
  timeoutLayers config ++ rateLimitingLayers config

def allLayers : List OuterLayer :=
  shapingLayers api config ++ helmetLayers api config ++ loggingLayers config ++
    metricsLayers config ++ limitingLayers config ++ requestIdLayers config ++
    catchPanicLayers config

/-- The outer layers around an endpoint. -/
def layersAround : Endpoint → List OuterLayer
  | .liveness => catchPanicLayers config
  | .readiness => limitingLayers config ++ requestIdLayers config ++ catchPanicLayers config
  | .metrics =>
      metricsLayers config ++ limitingLayers config ++ requestIdLayers config ++
        catchPanicLayers config
  | .directory directory => if directory.isFallback then [] else allLayers api config
  | _ => allLayers api config

/-- Endpoints of positions 1 to 9. -/
def isWithin : Endpoint → Bool
  | .metrics | .readiness | .liveness => false
  | .directory directory => !directory.isFallback
  | _ => true

theorem layersAround_of_isWithin {endpoint : Endpoint} (within : isWithin endpoint = true) :
    layersAround api config endpoint = allLayers api config := by
  cases endpoint with
  | directory directory =>
      have isRoute : directory.isFallback = false := by simpa [isWithin] using within
      simp [layersAround, isRoute]
  | metrics => cases within
  | readiness => cases within
  | liveness => cases within
  | user name => rfl
  | login => rfl
  | callback => rfl
  | logout => rfl
  | notFound => rfl

/-- What the steps before the outer layers keep of a router. -/
structure RoutesWithin (config : Config) (router : FluentRouter) : Prop where
  config_eq : router.config = config
  routes : ∀ route ∈ router.routes, isWithin route.endpoint = true
  fallback : router.fallback.endpoint = .notFound

namespace RoutesWithin

variable {config : Config} {router : FluentRouter}

theorem addRoute (routesWithin : RoutesWithin config router) {added : Route}
    (within : isWithin added.endpoint = true) :
    RoutesWithin config { router with routes := router.routes ++ [added] } := by
  refine ⟨routesWithin.config_eq, ?_, routesWithin.fallback⟩
  intro route member
  rcases List.mem_append.mp member with existing | new
  · exact routesWithin.routes route existing
  · rw [List.mem_singleton.mp new]
    exact within

theorem wrap_routes (routesWithin : RoutesWithin config router) (added : List Middleware) :
    ∀ route ∈ router.routes.map (fun route => route.wrap added),
      isWithin route.endpoint = true := by
  intro route member
  rcases List.mem_map.mp member with ⟨inner, existing, rfl⟩
  exact routesWithin.routes inner existing

theorem routeLayers (routesWithin : RoutesWithin config router)
    (added : Config → List Middleware) :
    RoutesWithin config (router.routeLayers (added router.config)) :=
  ⟨routesWithin.config_eq, routesWithin.wrap_routes _, routesWithin.fallback⟩

theorem layers (routesWithin : RoutesWithin config router) (added : Config → List Middleware) :
    RoutesWithin config (router.layers (added router.config)) :=
  ⟨routesWithin.config_eq, routesWithin.wrap_routes _, routesWithin.fallback⟩

theorem setupDirectory (routesWithin : RoutesWithin config router) (isProtected : Bool)
    (directory : StaticDirConfig) :
    RoutesWithin config (router.setupDirectory isProtected directory) := by
  unfold FluentRouter.setupDirectory
  split
  · rename_i path isRoute
    split
    · apply routesWithin.addRoute
      simp [isWithin, StaticDirConfig.isFallback, isRoute]
    · exact routesWithin
  · exact routesWithin

theorem setupDirectories (routesWithin : RoutesWithin config router) (isProtected : Bool) :
    RoutesWithin config (router.setupDirectories isProtected) := by
  unfold FluentRouter.setupDirectories
  generalize router.config.http.directories = directories
  induction directories generalizing router with
  | nil => exact routesWithin
  | cons directory rest ih => exact ih (routesWithin.setupDirectory isProtected directory)

theorem setupOidcRoutes (routesWithin : RoutesWithin config router) (platform : Platform) :
    RoutesWithin config (router.setupOidcRoutes platform) := by
  unfold FluentRouter.setupOidcRoutes
  split
  · split
    · rename_i oidc configured runs
      have login : RoutesWithin config (router.route oidc.loginRoute .login) :=
        routesWithin.addRoute rfl
      have callback : RoutesWithin config
          ((router.route oidc.loginRoute .login).route oidc.callbackRoute .callback) :=
        login.addRoute rfl
      have logout : RoutesWithin config (((router.route oidc.loginRoute .login).route
          oidc.callbackRoute .callback).route oidc.logoutRoute .logout) := callback.addRoute rfl
      exact logout.layers (oidcClientLayers platform)
    · exact routesWithin
  · exact routesWithin

theorem setupOidc (routesWithin : RoutesWithin config router) (platform : Platform) :
    RoutesWithin config (router.setupOidc platform) :=
  (routesWithin.routeLayers (bearerLayers platform)).layers (sessionIdentityLayers platform)

theorem setupWithin (config : Config) (paths : List String) (platform : Platform) :
    RoutesWithin config ((withUserRoutes config paths).setupWithin platform) := by
  have started : RoutesWithin config (withUserRoutes config paths) := by
    refine ⟨rfl, ?_, rfl⟩
    intro route member
    rcases List.mem_map.mp member with ⟨path, -, rfl⟩
    rfl
  have mounted := started.setupDirectories true
  have redirected := mounted.routeLayers (browserRedirectLayers platform)
  have bearer := redirected.setupOidc platform
  have basic := bearer.routeLayers (basicLayers platform)
  have proxy := basic.routeLayers (proxyLayers platform)
  have mountedPublic := proxy.setupDirectories false
  have oidc := mountedPublic.setupOidcRoutes platform
  have span := oidc.layers fun _ => [recordUserToSpan]
  have managed := span.layers fun _ => [sessionManager platform]
  exact managed

end RoutesWithin

end Coverage

section Routes

variable {platform : Platform} {api : OuterApi} {config : PipelineConfig}

theorem outer_wrap (route : Route) (layers : List OuterLayer) :
    (OuterRoute.wrap { route } layers).outer = layers :=
  List.nil_append layers

theorem map_wrap_covered (first second : List OuterLayer) (routes : List Route) :
    (covered first routes).map (fun route => route.wrap second) =
      covered (first ++ second) routes := by
  simp only [covered, List.map_map]
  rfl

theorem layers_layers (router : OuterRouter) (first second : List OuterLayer) :
    (router.layers first).layers second = router.layers (first ++ second) := by
  simp [OuterRouter.layers, OuterRoute.wrap, Function.comp_def, List.append_assoc]

theorem layers_append (router : OuterRouter) (added : List OuterLayer) (routes : List Route)
    (around : List OuterLayer) :
    (router.append (covered around routes)).layers added =
      (router.layers added).append (covered (around ++ added) routes) := by
  simp only [OuterRouter.layers, OuterRouter.append, List.map_append, map_wrap_covered]

/-- The routes that exist before get every layer, the probe routes those that are added later. -/
theorem setupOutside_eq (router : OuterRouter) :
    router.setupOutside api config =
      ((((router.layers (allLayers api config)).append
        (covered (layersAround api config .metrics) (metricsRoutes config.toConfig))).append
        (covered (layersAround api config .readiness) (readinessRoutes config.toConfig))).append
        (covered (layersAround api config .liveness)
          (livenessRoutes config.toConfig))).setupFallbackFiles config := by
  simp only [OuterRouter.setupOutside, OuterRouter.setupMetrics, OuterRouter.addRoutes,
    layers_layers, layers_append, List.nil_append, allLayers, shapingLayers, limitingLayers,
    layersAround, List.append_assoc]

theorem routes_setupFallbackFiles (router : OuterRouter) :
    (router.setupFallbackFiles config).routes = router.routes := by
  unfold OuterRouter.setupFallbackFiles
  split
  · rfl
  · rfl

theorem routes_setupOutside (router : OuterRouter) :
    (router.setupOutside api config).routes =
      router.routes.map (fun route => route.wrap (allLayers api config)) ++
        covered (layersAround api config .metrics) (metricsRoutes config.toConfig) ++
        covered (layersAround api config .readiness) (readinessRoutes config.toConfig) ++
        covered (layersAround api config .liveness) (livenessRoutes config.toConfig) := by
  rw [setupOutside_eq, routes_setupFallbackFiles]
  rfl

theorem fallback_setupOutside (router : OuterRouter) :
    (router.setupOutside api config).fallback =
      match config.http.directories.find? StaticDirConfig.isFallback with
      | some directory => { route := { pattern := .nested "/", endpoint := .directory directory } }
      | none => router.fallback.wrap (allLayers api config) := by
  have kept : ∀ (before : OuterRouter) (around : List OuterLayer) (added : List Route),
      (before.append (covered around added)).fallback = before.fallback := fun _ _ _ => rfl
  rw [setupOutside_eq]
  unfold OuterRouter.setupFallbackFiles
  cases config.http.directories.find? StaticDirConfig.isFallback with
  | none => simp only [kept, OuterRouter.layers]
  | some directory => rfl

/-- Without its outer layers the pipeline is the router that `setup_middleware` builds. -/
theorem pipeline_eq_built (platform : Platform) (api : OuterApi) (config : PipelineConfig)
    (paths : List String) :
    (pipeline platform api config paths).routes.map OuterRoute.route =
        ((withUserRoutes config.toConfig paths).built platform).routes ∧
      (pipeline platform api config paths).fallback.route =
        ((withUserRoutes config.toConfig paths).built platform).fallback := by
  have within := RoutesWithin.setupWithin config.toConfig paths platform
  have finished : (withUserRoutes config.toConfig paths).setupMiddleware platform =
      ((withUserRoutes config.toConfig paths).setupWithin platform).setupFallbackFiles := rfl
  have sameConfig : (withUserRoutes config.toConfig paths).config = config.toConfig := rfl
  simp only [FluentRouter.built, finished, FluentRouter.addRoutes, pipeline, sameConfig]
  generalize (withUserRoutes config.toConfig paths).setupWithin platform = router at within ⊢
  have fallbackKept : router.setupFallbackFiles.routes = router.routes := by
    unfold FluentRouter.setupFallbackFiles
    split <;> rfl
  refine ⟨?_, ?_⟩
  · rw [routes_setupOutside, fallbackKept]
    simp [OuterRouter.of, covered, OuterRoute.wrap, Function.comp_def, probeRoutes]
  · rw [fallback_setupOutside]
    unfold FluentRouter.setupFallbackFiles
    rw [within.config_eq]
    cases config.http.directories.find? StaticDirConfig.isFallback with
    | none => rfl
    | some directory => rfl

theorem endpoint_of_metricsRoutes {config : Config} {route : Route}
    (member : route ∈ metricsRoutes config) : route.endpoint = .metrics := by
  simp only [metricsRoutes] at member
  split at member
  · rw [List.mem_singleton.mp member]
  · cases member

theorem endpoint_of_readinessRoutes {config : Config} {route : Route}
    (member : route ∈ readinessRoutes config) : route.endpoint = .readiness := by
  simp only [readinessRoutes] at member
  split at member
  · rw [List.mem_singleton.mp member]
  · cases member

theorem endpoint_of_livenessRoutes {config : Config} {route : Route}
    (member : route ∈ livenessRoutes config) : route.endpoint = .liveness := by
  simp only [livenessRoutes] at member
  split at member
  · rw [List.mem_singleton.mp member]
  · cases member

theorem outer_of_covered {endpoint : Endpoint} {routes : List Route} {route : OuterRoute}
    (member : route ∈ covered (layersAround api config endpoint) routes)
    (leads : ∀ {bare : Route}, bare ∈ routes → bare.endpoint = endpoint) :
    route.outer = layersAround api config route.route.endpoint := by
  rcases List.mem_map.mp member with ⟨bare, listed, rfl⟩
  rw [leads listed]

/-- Every route and the fallback of the finished router have the outer layers of their endpoint. -/
theorem outer_routeOf (paths : List String) (path : String) :
    ((pipeline platform api config paths).routeOf platform path).outer =
      layersAround api config
        ((pipeline platform api config paths).routeOf platform path).route.endpoint := by
  have within := RoutesWithin.setupWithin config.toConfig paths platform
  have every : ∀ route ∈ (pipeline platform api config paths).routes,
      route.outer = layersAround api config route.route.endpoint := by
    intro route member
    rw [pipeline, routes_setupOutside] at member
    simp only [List.mem_append] at member
    rcases member with ((inner | metrics) | readiness) | liveness
    · rcases List.mem_map.mp inner with ⟨wrapped, isInner, rfl⟩
      rcases List.mem_map.mp isInner with ⟨bare, existing, rfl⟩
      exact (outer_wrap bare (allLayers api config)).trans
        (layersAround_of_isWithin api config (within.routes bare existing)).symm
    · exact outer_of_covered metrics endpoint_of_metricsRoutes
    · exact outer_of_covered readiness endpoint_of_readinessRoutes
    · exact outer_of_covered liveness endpoint_of_livenessRoutes
  have last : (pipeline platform api config paths).fallback.outer =
      layersAround api config (pipeline platform api config paths).fallback.route.endpoint := by
    rw [pipeline, fallback_setupOutside]
    split
    · rename_i directory found
      have isFallback := List.find?_some found
      simp [layersAround, isFallback]
    · have isNotFound : isWithin ((OuterRouter.of ((withUserRoutes config.toConfig
          paths).setupWithin platform)).fallback.route.endpoint) = true := by
        simp only [OuterRouter.of, within.fallback, isWithin]
      exact (outer_wrap _ (allLayers api config)).trans
        (layersAround_of_isWithin api config isNotFound).symm
  unfold OuterRouter.routeOf
  cases found : (platform.matchRoute ((pipeline platform api config paths).routes.map
      fun route => route.route.pattern) path).bind
      fun position => (pipeline platform api config paths).routes[position]? with
  | none => exact last
  | some route =>
      rcases Option.bind_eq_some_iff.mp found with ⟨position, -, stands⟩
      exact every route (List.mem_of_getElem? stands)

/-- No authentication stands before the probe routes and the fallback directory. -/
theorem layers_routeOf (paths : List String) (path : String)
    (outside : isWithin
      ((pipeline platform api config paths).routeOf platform path).route.endpoint = false) :
    ((pipeline platform api config paths).routeOf platform path).route.layers = [] := by
  have within := RoutesWithin.setupWithin config.toConfig paths platform
  have every : ∀ route ∈ (pipeline platform api config paths).routes,
      isWithin route.route.endpoint = false → route.route.layers = [] := by
    intro route member outside
    rw [pipeline, routes_setupOutside, List.append_assoc, List.append_assoc] at member
    rcases List.mem_append.mp member with inner | probe
    · rcases List.mem_map.mp inner with ⟨wrapped, isInner, rfl⟩
      rcases List.mem_map.mp isInner with ⟨bare, existing, rfl⟩
      have contradictory := within.routes bare existing
      exact absurd contradictory (Bool.eq_false_iff.mp outside)
    · have isProbe : route.route ∈ probeRoutes config.toConfig := by
        simp only [covered, List.mem_append, List.mem_map] at probe
        simp only [probeRoutes, List.mem_append]
        rcases probe with ⟨bare, listed, rfl⟩ | ⟨bare, listed, rfl⟩ | ⟨bare, listed, rfl⟩
        · exact .inl (.inl listed)
        · exact .inl (.inr listed)
        · exact .inr listed
      exact layers_probeRoutes isProbe
  have last : isWithin (pipeline platform api config paths).fallback.route.endpoint = false →
      (pipeline platform api config paths).fallback.route.layers = [] := by
    rw [pipeline, fallback_setupOutside]
    split
    · exact fun _ => rfl
    · intro outside
      simp only [OuterRoute.wrap, OuterRouter.of, within.fallback] at outside
      cases outside
  unfold OuterRouter.routeOf at outside ⊢
  cases found : (platform.matchRoute ((pipeline platform api config paths).routes.map
      fun route => route.route.pattern) path).bind
      fun position => (pipeline platform api config paths).routes[position]? with
  | none =>
      rw [found] at outside
      exact last outside
  | some route =>
      rw [found] at outside
      rcases Option.bind_eq_some_iff.mp found with ⟨position, -, stands⟩
      exact every route (List.mem_of_getElem? stands) outside

end Routes

end AxumConf.Fluent
