import AxumConf.Fluent.Startup

/-!
# What the authentication layers cover

The routes of the finished router with the layers around each.  Whether an authentication layer
stands before a route follows from the order of the steps: `route_layer` wraps the routes that exist
when it is called and never the fallback.
-/

namespace AxumConf.Fluent

open Auth Tower

/-- The layers that are added with `route_layer`. -/
inductive AuthRouteLayer where
  | browserRedirect
  | bearer
  | basic
  | proxy
  deriving DecidableEq, Repr

inductive AddedLayer where
  | auth (layer : AuthRouteLayer)
  | sessionIdentity
  | oidcClient
  | userSpan
  | sessionManager
  deriving DecidableEq, Repr

section Layers

variable (platform : Platform) (config : Config)

/-- What the configuration enables: its part is there and its middleware is not excluded. -/
inductive AuthRouteLayer.Enabled : AuthRouteLayer → Middleware → Prop where
  | browserRedirect (oidc : HttpOidcConfig) (configured : config.http.oidc = some oidc)
      (codeFlow : oidc.authCodeFlowEnabled = true) (redirects : oidc.autoRedirectToLogin = true)
      (included : config.isMiddlewareEnabled .oidc = true) :
      AuthRouteLayer.Enabled .browserRedirect
        (Auth.browserRedirect platform.external (redirectConfig config oidc))
  | bearer (oidc : HttpOidcConfig) (configured : config.http.oidc = some oidc)
      (included : config.isMiddlewareEnabled .oidc = true) :
      AuthRouteLayer.Enabled .bearer
        (bearerAuth platform.external platform.bearerKeys (bearerConfig oidc))
  | basic (basic : HttpBasicAuthConfig) (configured : config.http.basicAuth = some basic)
      (included : config.isMiddlewareEnabled .basicAuth = true) :
      AuthRouteLayer.Enabled .basic
        (basicAuth platform.external basic (basicPassthrough config))
  | proxy (proxy : HttpProxyOidcConfig) (configured : config.http.proxyOidc = some proxy)
      (included : config.isMiddlewareEnabled .proxyOidc = true) :
      AuthRouteLayer.Enabled .proxy
        (proxyOidc platform.external proxy config.isProduction)

/-- What the builder adds for the layer. -/
def AuthRouteLayer.middleware : AuthRouteLayer → List Middleware
  | browserRedirect => browserRedirectLayers platform config
  | bearer => bearerLayers platform config
  | basic => basicLayers platform config
  | proxy => proxyLayers platform config

def AddedLayer.middleware : AddedLayer → List Middleware
  | auth layer => layer.middleware platform config
  | sessionIdentity => sessionIdentityLayers platform config
  | oidcClient => oidcClientLayers platform config
  | userSpan => [recordUserToSpan]
  | sessionManager => [Fluent.sessionManager platform]

/-- The route with these layers around it, the first of them innermost. -/
def Route.within (route : Route) (added : List AddedLayer) : Route :=
  route.wrap (added.flatMap (AddedLayer.middleware platform config))

end Layers

/-- Around the routes that are there from the start. -/
def insideLayers : List AddedLayer :=
  [.auth .browserRedirect, .auth .bearer, .sessionIdentity, .auth .basic, .auth .proxy,
    .oidcClient, .userSpan, .sessionManager]

/-- Around the routes that come after the authentication. -/
def outsideLayers : List AddedLayer :=
  [.oidcClient, .userSpan, .sessionManager]

def fallbackLayers : List AddedLayer :=
  [.sessionIdentity, .oidcClient, .userSpan, .sessionManager]

section Registered

variable (config : Config)

def directoryRoute (isProtected : Bool) (directory : StaticDirConfig) : Option Route :=
  match directory.route with
  | .route path =>
      if directory.isProtected == isProtected then
        some { pattern := .nested path, endpoint := .directory directory }
      else none
  | .fallback _ => none

def directoryRoutes (isProtected : Bool) : List Route :=
  config.http.directories.filterMap (directoryRoute isProtected)

def codeFlowRoutes : List Route :=
  match config.http.oidc with
  | some oidc =>
      if runsCodeFlow config oidc then
        [{ pattern := .exact oidc.loginRoute, endpoint := .login },
          { pattern := .exact oidc.callbackRoute, endpoint := .callback },
          { pattern := .exact oidc.logoutRoute, endpoint := .logout }]
      else []
  | none => []

end Registered

namespace FluentRouter

section Steps

variable {Layer HeaderValue : Type} {crates : Crates Layer HeaderValue} {platform : Platform}
  {startup : Startup} {router next : FluentRouter}

theorem trySetupDirectories_done {isProtected : Bool}
    (done : router.trySetupDirectories crates isProtected = .done next) :
    next = router.setupDirectories isProtected :=
  (ensures_trySetupDirectories.mp (Attempt.eq_done_iff_ensures.mp done)).2.symm

theorem tryRouteLayers_done {layers : List Middleware}
    (done : router.tryRouteLayers layers = .done next) : next = router.routeLayers layers :=
  (ensures_tryRouteLayers.mp (Attempt.eq_done_iff_ensures.mp done)).2.symm

theorem trySetupOidc_done (done : router.trySetupOidc platform startup = .done next) :
    next = router.setupOidc platform := by
  rcases Attempt.bind_eq_done_iff.mp done with ⟨fetched, -, wrapping⟩
  rcases Attempt.bind_eq_done_iff.mp wrapping with ⟨wrapped, isWrapped, returned⟩
  cases returned
  rw [tryRouteLayers_done isWrapped]
  rfl

theorem trySetupOidcRoutes_done
    (done : router.trySetupOidcRoutes crates platform startup = .done next) :
    next = router.setupOidcRoutes platform := by
  have ensured := ensures_trySetupOidcRoutes.mp (Attempt.eq_done_iff_ensures.mp done)
  rcases Attempt.bind_eq_done_iff.mp done with ⟨discovered, isDiscovered, -⟩
  rw [Attempt.ofExcept_eq_done_iff.mp isDiscovered] at ensured
  exact ensured.2.symm

theorem trySetupSessionHandling_done
    (done : router.trySetupSessionHandling platform startup = .done next) :
    next = router.setupSessionHandling platform := by
  rcases Attempt.bind_eq_done_iff.mp done with ⟨opened, -, returned⟩
  cases returned
  rfl

theorem trySetupCors_done (done : router.trySetupCors crates = .done next) : next = router := by
  unfold trySetupCors at done
  split at done
  · rcases Attempt.bind_eq_done_iff.mp done with ⟨checked, -, returned⟩
    cases returned
    rfl
  · cases done
    rfl

theorem trySetupRateLimiting_done (done : router.trySetupRateLimiting crates = .done next) :
    next = router := by
  unfold trySetupRateLimiting at done
  split at done
  · rcases Attempt.bind_eq_done_iff.mp done with ⟨checked, -, returned⟩
    cases returned
    rfl
  · cases done
    rfl

theorem trySetupOutside_done (done : router.trySetupOutside crates = .done next) :
    next = router.setupFallbackFiles.addRoutes (probeRoutes router.config) := by
  rcases Attempt.bind_eq_done_iff.mp done with ⟨withCors, isCors, afterCors⟩
  rcases Attempt.bind_eq_done_iff.mp afterCors with ⟨withMetrics, isMetrics, afterMetrics⟩
  rcases Attempt.bind_eq_done_iff.mp afterMetrics with ⟨withReadiness, isReadiness, afterReadiness⟩
  rcases Attempt.bind_eq_done_iff.mp afterReadiness with ⟨limited, isLimited, afterLimit⟩
  rcases Attempt.bind_eq_done_iff.mp afterLimit with ⟨withLiveness, isLiveness, returned⟩
  have metrics := (ensures_trySetupMetrics.mp (Attempt.eq_done_iff_ensures.mp isMetrics)).2
  have readiness := (ensures_trySetupReadiness.mp (Attempt.eq_done_iff_ensures.mp isReadiness)).2
  have liveness := (ensures_trySetupLiveness.mp (Attempt.eq_done_iff_ensures.mp isLiveness)).2
  have sameCors := trySetupCors_done isCors
  have sameLimit := trySetupRateLimiting_done isLimited
  cases returned
  subst sameCors sameLimit
  rw [← liveness, ← readiness, ← metrics]
  simp only [config_addRoutes, addRoutes_addRoutes, setupFallbackFiles_addRoutes, probeRoutes]

/-- Where `setup_middleware` succeeds it returns the router of `setupMiddleware` with the probe
routes. -/
theorem built_of_done (done : router.trySetupMiddleware crates platform startup = .done next) :
    next = router.built platform := by
  rcases Attempt.bind_eq_done_iff.mp done with ⟨mounted, isMounted, afterMount⟩
  rcases Attempt.bind_eq_done_iff.mp afterMount with ⟨redirected, isRedirected, afterRedirect⟩
  rcases Attempt.bind_eq_done_iff.mp afterRedirect with ⟨withOidc, isOidc, afterOidc⟩
  rcases Attempt.bind_eq_done_iff.mp afterOidc with ⟨withBasic, isBasic, afterBasic⟩
  rcases Attempt.bind_eq_done_iff.mp afterBasic with ⟨withProxy, isProxy, afterProxy⟩
  rcases Attempt.bind_eq_done_iff.mp afterProxy with ⟨withPublic, isPublic, afterPublic⟩
  rcases Attempt.bind_eq_done_iff.mp afterPublic with ⟨withFlow, isFlow, afterFlow⟩
  rcases Attempt.bind_eq_done_iff.mp afterFlow with ⟨managed, isManaged, outside⟩
  rw [trySetupOutside_done outside, trySetupSessionHandling_done isManaged,
    trySetupOidcRoutes_done isFlow, trySetupDirectories_done isPublic,
    tryRouteLayers_done isProxy, tryRouteLayers_done isBasic, trySetupOidc_done isOidc,
    tryRouteLayers_done isRedirected, trySetupDirectories_done isMounted]
  simp only [built, setupMiddleware, setupProtectedFiles, setupBrowserLoginRedirect, setupOidc,
    setupBasicAuth, setupProxyOidc, setupPublicFiles, setupUserSpan, setupSessionHandling,
    config_layers, config_setupOidcRoutes, config_setupDirectories, config_routeLayers]

end Steps

section Routes

variable (platform : Platform) (router : FluentRouter)

theorem routes_setupDirectory (isProtected : Bool) (directory : StaticDirConfig) :
    (router.setupDirectory isProtected directory).routes =
      router.routes ++ (directoryRoute isProtected directory).toList := by
  unfold setupDirectory directoryRoute
  cases directory.route with
  | route path =>
      cases directory.isProtected == isProtected with
      | true => rfl
      | false => exact (List.append_nil _).symm
  | fallback enabled => exact (List.append_nil _).symm

theorem routes_setupDirectories (isProtected : Bool) :
    (router.setupDirectories isProtected).routes =
      router.routes ++ directoryRoutes router.config isProtected := by
  unfold setupDirectories directoryRoutes
  generalize router.config.http.directories = directories
  induction directories generalizing router with
  | nil => simp
  | cons directory rest ih =>
      rw [List.foldl_cons, ih, routes_setupDirectory, List.append_assoc]
      cases registers : directoryRoute isProtected directory with
      | none => simp [registers]
      | some route => simp [registers]

theorem fallback_setupDirectories (isProtected : Bool) :
    (router.setupDirectories isProtected).fallback = router.fallback := by
  unfold setupDirectories
  generalize router.config.http.directories = directories
  induction directories generalizing router with
  | nil => rfl
  | cons directory rest ih =>
      rw [List.foldl_cons, ih]
      unfold setupDirectory
      split
      · split
        · rfl
        · rfl
      · rfl

theorem wrap_nil (route : Route) : route.wrap [] = route := by
  simp [Route.wrap]

theorem wrap_wrap (route : Route) (inner outer : List Middleware) :
    (route.wrap inner).wrap outer = route.wrap (inner ++ outer) := by
  simp [Route.wrap]

theorem map_wrap_wrap (routes : List Route) (inner outer : List Middleware) :
    (routes.map fun route => route.wrap inner).map (fun route => route.wrap outer) =
      routes.map fun route => route.wrap (inner ++ outer) := by
  rw [List.map_map]
  apply List.map_congr_left
  intro route member
  exact wrap_wrap route inner outer

theorem routes_setupOidcRoutes :
    (router.setupOidcRoutes platform).routes =
      (router.routes ++ codeFlowRoutes router.config).map fun route =>
        route.wrap (oidcClientLayers platform router.config) := by
  unfold setupOidcRoutes codeFlowRoutes oidcClientLayers
  cases configured : router.config.http.oidc with
  | none => simp [layerOf, wrap_nil]
  | some oidc =>
      cases runs : runsCodeFlow router.config oidc with
      | false => simp [layerOf, runs, wrap_nil]
      | true =>
          simp only [runs, if_true, layers, FluentRouter.route]
          simp [List.append_assoc]

theorem fallback_setupOidcRoutes :
    (router.setupOidcRoutes platform).fallback =
      router.fallback.wrap (oidcClientLayers platform router.config) := by
  unfold setupOidcRoutes
  cases configured : router.config.http.oidc with
  | none => simp [oidcClientLayers, configured, layerOf, wrap_nil]
  | some oidc =>
      cases runs : runsCodeFlow router.config oidc with
      | false => simp [oidcClientLayers, configured, layerOf, runs, wrap_nil]
      | true => simp [runs, layers, FluentRouter.route]

/-- The routes of the finished router, each with the layers that were added after it. -/
theorem routes_built :
    (router.built platform).routes =
      ((router.routes ++ directoryRoutes router.config true).map fun route =>
        route.within platform router.config insideLayers) ++
      ((directoryRoutes router.config false ++ codeFlowRoutes router.config).map fun route =>
        route.within platform router.config outsideLayers) ++
      probeRoutes router.config := by
  have inside : insideLayers.flatMap (AddedLayer.middleware platform router.config) =
      browserRedirectLayers platform router.config ++ (bearerLayers platform router.config ++
        (sessionIdentityLayers platform router.config ++ (basicLayers platform router.config ++
          (proxyLayers platform router.config ++ (oidcClientLayers platform router.config ++
            ([recordUserToSpan] ++ [sessionManager platform])))))) := by
    simp [insideLayers, AddedLayer.middleware, AuthRouteLayer.middleware]
  have outside : outsideLayers.flatMap (AddedLayer.middleware platform router.config) =
      oidcClientLayers platform router.config ++
        ([recordUserToSpan] ++ [sessionManager platform]) := by
    simp [outsideLayers, AddedLayer.middleware]
  have fallbackFiles : ∀ other : FluentRouter, other.setupFallbackFiles.routes = other.routes := by
    intro other
    unfold setupFallbackFiles
    split
    · rfl
    · rfl
  simp only [Route.within, inside, outside, built, addRoutes, setupMiddleware, fallbackFiles]
  simp only [setupProtectedFiles, setupBrowserLoginRedirect, setupOidc, setupBasicAuth,
    setupProxyOidc, setupPublicFiles, setupUserSpan, setupSessionHandling, routeLayers, layers,
    routes_setupOidcRoutes, routes_setupDirectories, config_setupDirectories,
    config_setupOidcRoutes, List.map_append, map_wrap_wrap, List.append_assoc]

theorem fallback_built_of_some {directory : StaticDirConfig}
    (configured : router.config.http.directories.find? StaticDirConfig.isFallback =
      some directory) :
    (router.built platform).fallback =
      { pattern := .nested "/", endpoint := .directory directory } := by
  simp [built, addRoutes, setupMiddleware, setupFallbackFiles, fallbackService,
    setupProtectedFiles, setupBrowserLoginRedirect, setupOidc, setupBasicAuth, setupProxyOidc,
    setupPublicFiles, setupUserSpan, setupSessionHandling, configured]

theorem fallback_built_of_none
    (configured : router.config.http.directories.find? StaticDirConfig.isFallback = none) :
    (router.built platform).fallback =
      router.fallback.within platform router.config fallbackLayers := by
  have around : fallbackLayers.flatMap (AddedLayer.middleware platform router.config) =
      sessionIdentityLayers platform router.config ++ (oidcClientLayers platform router.config ++
        ([recordUserToSpan] ++ [sessionManager platform])) := by
    simp [fallbackLayers, AddedLayer.middleware]
  simp only [Route.within, around, built, addRoutes, setupMiddleware, setupFallbackFiles,
    setupProtectedFiles, setupBrowserLoginRedirect, setupOidc, setupBasicAuth,
    setupProxyOidc, setupPublicFiles, setupUserSpan, setupSessionHandling, config_layers,
    config_routeLayers, config_setupDirectories, config_setupOidcRoutes, configured]
  simp only [layers, routeLayers, fallback_setupOidcRoutes, fallback_setupDirectories,
    wrap_wrap, config_setupDirectories, List.append_assoc]

/-- The fallback is a directory that nothing wraps, or what it was with the layers of
`fallbackLayers`. -/
theorem fallback_built :
    (router.built platform).fallback =
        router.fallback.within platform router.config fallbackLayers ∨
      ∃ directory ∈ router.config.http.directories, directory.isFallback = true ∧
        (router.built platform).fallback =
          { pattern := .nested "/", endpoint := .directory directory } := by
  cases configured : router.config.http.directories.find? StaticDirConfig.isFallback with
  | some directory =>
      exact .inr ⟨directory, List.mem_of_find?_eq_some configured, List.find?_some configured,
        fallback_built_of_some platform router configured⟩
  | none => exact .inl (fallback_built_of_none platform router configured)

end Routes

end FluentRouter

section Reached

variable {route : Route} {request passed : Request} {endpoint : Endpoint}

/-- The request that comes out as `passed` went through the middleware on its way: the layers
outside of it brought it there, and what it passed on went through those inside of it. -/
def Route.HandsThrough (route : Route) (middleware : Middleware) (request passed : Request) :
    Prop :=
  ∃ inner outer, route.layers = inner ++ middleware :: outer ∧
    ∃ reached after, admitted (outer.map Middleware.layer) request = .ok reached ∧
      reached.head = request.head ∧ middleware.inbound reached = .ok after ∧
      admitted (inner.map Middleware.layer) after = .ok passed

theorem head_of_admitted {layers : List Middleware} {request passed : Request}
    (admits : admitted (layers.map Middleware.layer) request = .ok passed) :
    passed.head = request.head := by
  apply admitted_keeps _ admits
  intro layer isLayer before after passes
  rcases List.mem_map.mp isLayer with ⟨other, -, rfl⟩
  exact other.keepsHead before after (Middleware.layer_inbound_ok.mp passes)

/-- What a route hands to its endpoint is what its layers let in. -/
theorem admitted_of_handed (handed : route.call request = .handed endpoint passed) :
    admitted (route.layers.map Middleware.layer) request = .ok passed := by
  have transparent : ∀ layer ∈ route.layers.map Middleware.layer, layer.Transparent := by
    intro layer isLayer
    rcases List.mem_map.mp isLayer with ⟨other, -, rfl⟩
    exact Middleware.layer_transparent other
  unfold Route.call at handed
  rw [stack_eq_of_transparent transparent] at handed
  cases admits : admitted (route.layers.map Middleware.layer) request with
  | error outcome =>
      rcases exists_of_admitted_error admits with ⟨layer, isLayer, other, answers⟩
      rcases List.mem_map.mp isLayer with ⟨answering, -, rfl⟩
      rcases Middleware.layer_inbound_error answers with ⟨answer, rfl⟩
      rw [admits] at handed
      cases handed
  | ok inner =>
      rw [admits] at handed
      cases handed
      rfl

/-- A request that a route hands to its endpoint went through each of the route's layers. -/
theorem handsThrough_of_handed (handed : route.call request = .handed endpoint passed)
    {middleware : Middleware} (member : middleware ∈ route.layers) :
    route.HandsThrough middleware request passed := by
  rcases List.append_of_mem member with ⟨inner, outer, parts⟩
  have admits := admitted_of_handed handed
  rw [parts, List.map_append, List.map_cons] at admits
  rcases admitted_around.mp admits with ⟨reached, after, outside, passes, inside⟩
  exact ⟨inner, outer, parts, reached, after, outside, head_of_admitted outside,
    Middleware.layer_inbound_ok.mp passes, inside⟩

theorem mem_layers_within {platform : Platform} {config : Config} {added : List AddedLayer}
    {layer : AddedLayer} (isAdded : layer ∈ added) {middleware : Middleware}
    (enabled : middleware ∈ layer.middleware platform config) :
    middleware ∈ (route.within platform config added).layers :=
  List.mem_append_right _ (List.mem_flatMap.mpr ⟨layer, isAdded, enabled⟩)

end Reached

section Coverage

variable {Layer HeaderValue : Type} {crates : Crates Layer HeaderValue} {platform : Platform}
  {startup : Startup} {router final : FluentRouter}

theorem layers_of_mem_probe {enabled : Bool} {path : String} {endpoint : Endpoint} {route : Route}
    (member : route ∈ if enabled then [({ pattern := .exact path, endpoint } : Route)] else []) :
    route.layers = [] := by
  cases enabled with
  | false => cases member
  | true =>
      rw [if_pos rfl, List.mem_singleton] at member
      rw [member]

theorem layers_probeRoutes {config : Config} {route : Route}
    (member : route ∈ probeRoutes config) : route.layers = [] := by
  simp only [probeRoutes, List.mem_append] at member
  rcases member with (isMetrics | isReadiness) | isLiveness
  · exact layers_of_mem_probe isMetrics
  · exact layers_of_mem_probe isReadiness
  · exact layers_of_mem_probe isLiveness

/-- The builder adds a layer exactly where the configuration enables it. -/
theorem AuthRouteLayer.enabled_iff {config : Config} {layer : AuthRouteLayer}
    {middleware : Middleware} :
    layer.Enabled platform config middleware ↔ middleware ∈ layer.middleware platform config := by
  constructor
  · intro enabled
    cases enabled with
    | browserRedirect oidc configured codeFlow redirects included =>
        exact mem_layerOf.mpr
          ⟨oidc, by simp [configured, redirectsToLogin, codeFlow, redirects, included], rfl⟩
    | bearer oidc configured included =>
        exact mem_layerOf.mpr ⟨oidc, by simp [configured, included], rfl⟩
    | basic basic configured included =>
        exact mem_layerOf.mpr ⟨basic, by simp [configured, included], rfl⟩
    | proxy proxy configured included =>
        exact mem_layerOf.mpr ⟨proxy, by simp [configured, included], rfl⟩
  · intro added
    cases layer with
    | browserRedirect =>
        rcases mem_layerOf.mp added with ⟨oidc, enabled, rfl⟩
        rcases Option.filter_eq_some_iff.mp enabled with ⟨configured, redirects⟩
        simp only [redirectsToLogin, Bool.and_eq_true] at redirects
        exact .browserRedirect oidc configured redirects.1.1 redirects.1.2 redirects.2
    | bearer =>
        rcases mem_layerOf.mp added with ⟨oidc, enabled, rfl⟩
        rcases Option.filter_eq_some_iff.mp enabled with ⟨configured, included⟩
        exact .bearer oidc configured included
    | basic =>
        rcases mem_layerOf.mp added with ⟨basic, enabled, rfl⟩
        rcases Option.filter_eq_some_iff.mp enabled with ⟨configured, included⟩
        exact .basic basic configured included
    | proxy =>
        rcases mem_layerOf.mp added with ⟨proxy, enabled, rfl⟩
        rcases Option.filter_eq_some_iff.mp enabled with ⟨configured, included⟩
        exact .proxy proxy configured included

/-- The authentication layers that the configuration enables stand before the user's routes and the
protected directories, none of which is handed a request that did not go through all of them, and
before no other route. -/
theorem authRouteLayers_cover
    (succeeds : router.trySetupMiddleware crates platform startup = .done final) :
    (final.routes =
      ((router.routes ++ directoryRoutes router.config true).map fun route =>
        route.within platform router.config insideLayers) ++
      ((directoryRoutes router.config false ++ codeFlowRoutes router.config).map fun route =>
        route.within platform router.config outsideLayers) ++
      probeRoutes router.config) ∧
    (final.fallback = router.fallback.within platform router.config fallbackLayers ∨
      ∃ directory ∈ router.config.http.directories, directory.isFallback = true ∧
        final.fallback = { pattern := .nested "/", endpoint := .directory directory }) ∧
    (∀ layer, .auth layer ∈ insideLayers ∧ .auth layer ∉ outsideLayers ∧
      .auth layer ∉ fallbackLayers) ∧
    (∀ route ∈ probeRoutes router.config, route.layers = []) ∧
    (∀ (layer : AuthRouteLayer) middleware, layer.Enabled platform router.config middleware ↔
      middleware ∈ layer.middleware platform router.config) ∧
    ∀ route ∈ router.routes ++ directoryRoutes router.config true,
      ∀ request endpoint passed,
        (route.within platform router.config insideLayers).call request =
          .handed endpoint passed →
        ∀ (layer : AuthRouteLayer) middleware, layer.Enabled platform router.config middleware →
          (route.within platform router.config insideLayers).HandsThrough middleware request
            passed := by
  rw [FluentRouter.built_of_done succeeds]
  have inside : ∀ layer, AddedLayer.auth layer ∈ insideLayers := by
    intro layer
    cases layer <;> decide
  refine ⟨FluentRouter.routes_built platform router, FluentRouter.fallback_built platform router,
    ?_, ?_, fun layer middleware => AuthRouteLayer.enabled_iff, ?_⟩
  · intro layer
    exact ⟨inside layer, by cases layer <;> decide, by cases layer <;> decide⟩
  · intro route member
    exact layers_probeRoutes member
  · intro route _ request endpoint passed handed layer middleware enabled
    have added := AuthRouteLayer.enabled_iff.mp enabled
    exact handsThrough_of_handed handed (mem_layers_within (inside layer) added)

end Coverage

/-- Basic authentication before `/users` and the protected `/reports`, with the public `/assets`. -/
def reportsConfig : Config where
  http :=
    { basicAuth := some { mode := .basic, users := [{ username := "ann", password := "secret" }] }
      directories :=
        [{ directory := "reports", route := .route "/reports", isProtected := true },
          { directory := "assets", route := .route "/assets" }] }

/-- Behind the span and the session, `/users` and `/reports` have the layer of the basic
authentication, which what they are handed went through, and `/assets` and the probes have none. -/
theorem authRouteLayers_cover_reports :
    ∃ final basic, (withUserRoutes reportsConfig ["/users"]).trySetupMiddleware plainCrates
        subjectlessPlatform {} = .done final ∧
      reportsConfig.http.basicAuth = some basic ∧
      (final.routes.map fun route => (route.pattern, route.layers)) =
        [(.exact "/users", [basicAuth subjectlessPlatform.external basic false, recordUserToSpan,
            sessionManager subjectlessPlatform]),
          (.nested "/reports", [basicAuth subjectlessPlatform.external basic false,
            recordUserToSpan, sessionManager subjectlessPlatform]),
          (.nested "/assets", [recordUserToSpan, sessionManager subjectlessPlatform]),
          (.exact "/metrics", []), (.exact "/ready", []), (.exact "/live", [])] ∧
      ∀ request endpoint passed,
        (({ pattern := .exact "/users", endpoint := .user "/users" } : Route).within
          subjectlessPlatform reportsConfig insideLayers).call request =
            .handed endpoint passed →
        (({ pattern := .exact "/users", endpoint := .user "/users" } : Route).within
          subjectlessPlatform reportsConfig insideLayers).HandsThrough
            (basicAuth subjectlessPlatform.external basic false) request passed := by
  have cover := @authRouteLayers_cover _ _ plainCrates subjectlessPlatform {}
    (withUserRoutes reportsConfig ["/users"]) _ rfl
  refine ⟨_, _, rfl, rfl, ?_, ?_⟩
  · rw [cover.1]
    rfl
  · intro request endpoint passed handed
    exact cover.2.2.2.2.2 _ (by simp [withUserRoutes]) request endpoint passed handed .basic _
      (.basic _ rfl (by decide))

end AxumConf.Fluent
