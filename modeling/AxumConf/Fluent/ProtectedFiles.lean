import AxumConf.Fluent.Router

/-!
# Protected directories

Which requests a directory marked protected serves.  The directory's routes are the first ones to
be wrapped, so every authentication layer stands before them (`WrapsInner`).  Each layer either
settles a request, by refusing it or by identifying its sender, or leaves it to the layers inside;
what no layer settles is served without an identity.
-/

namespace AxumConf.Fluent

open Auth Tower

section Statement

variable (platform : Platform) (router : FluentRouter) (head : RequestHead)

/-- A file of a protected directory is served only to a request that carries an identity. -/
def ServesIdentifiedOnly : Prop :=
  ∀ directory request, router.call platform head = .handed (.directory directory) request →
    directory.isProtected = true → platform.holdsFile directory request.head = true →
      request.Identified

/-- The request asks for a file that a protected directory holds. -/
def AsksForProtectedFile : Prop :=
  ∃ directory, (router.routeOf platform head.path).endpoint = .directory directory ∧
    directory.isProtected = true ∧ platform.holdsFile directory head = true

end Statement

section Settled

variable (platform : Platform) (config : Config) (head : RequestHead)

/-- Proxy headers are enabled, and those of the request come from a trusted source and name a
user. -/
def ProxySettles : Prop :=
  ∃ proxy, config.http.proxyOidc = some proxy ∧ config.isMiddlewareEnabled .proxyOidc = true ∧
    NamesTrustedUser platform.external proxy config.isProduction head

/-- Basic auth is enabled, and the request carries such credentials or no OIDC code flow is
configured that requests without any are left to. -/
def BasicSettles : Prop :=
  ∃ basic, config.http.basicAuth = some basic ∧ config.isMiddlewareEnabled .basicAuth = true ∧
    (HasCredentials platform.external basic head.headers ∨ basicPassthrough config = false)

/-- The request as it reaches the authentication layers when the code flow runs. -/
def sessionRequest : Request where
  head
  session := some (platform.loadSession head)
  oidcClient := some platform.oidcClient

/-- The code flow runs, and the request's session names a user. -/
def SessionSettles : Prop :=
  ∃ oidc, config.http.oidc = some oidc ∧ runsCodeFlow config oidc = true ∧
    NamesSessionUser platform.external oidc.rolesClaim (sessionRequest platform head)

/-- OIDC is enabled, and the request carries a valid token that names a subject, or, without the
code flow, no valid token. -/
def BearerSettles : Prop :=
  ∃ oidc, config.http.oidc = some oidc ∧ config.isMiddlewareEnabled .oidc = true ∧
    (NamesSubject platform.external platform.bearerKeys head.headers ∨
      (bearerClaims platform.external platform.bearerKeys head.headers = none ∧
        oidc.authCodeFlowEnabled = false))

/-- Browsers are redirected to the login, and this is one. -/
def RedirectSettles : Prop :=
  ∃ oidc, config.http.oidc = some oidc ∧ redirectsToLogin config oidc = true ∧
    RedirectsBrowser platform.external (redirectConfig config oidc) head

/-- A directory's own paths are skipped, so the redirect never stands before its files. -/
theorem not_redirectSettles_of_directory {directory : StaticDirConfig} {route rest : String}
    (configured : directory ∈ config.http.directories) (mounted : directory.route = .route route)
    (continues : head.path = route ++ rest) : ¬RedirectSettles platform config head := by
  rintro ⟨oidc, _, _, redirects⟩
  apply not_redirectsBrowser_of_skipped _ continues redirects
  apply List.mem_append_right
  exact List.mem_filterMap.mpr ⟨directory, configured, by simp [mounted]⟩

/-- One of the layers refuses the request or identifies its sender. -/
def Settled : Prop :=
  ProxySettles platform config head ∨ BasicSettles platform config head ∨
    SessionSettles platform config head ∨ BearerSettles platform config head ∨
      RedirectSettles platform config head

end Settled

section Layers

variable (platform : Platform) (config : Config)

/-- The authentication layers, innermost first. -/
def authenticationLayers : List Middleware :=
  browserRedirectLayers platform config ++ bearerLayers platform config ++
    sessionIdentityLayers platform config ++ basicLayers platform config ++
      proxyLayers platform config

def preparingLayers : List Middleware :=
  oidcClientLayers platform config ++ [recordUserToSpan] ++ [sessionManager platform]

variable {platform : Platform} {config : Config}

/-- The bearer and redirect layers, which come last on the way in, look at the head only. -/
theorem headLayers_settle :
    Settles Request.Identified
      ((browserRedirectLayers platform config ++ bearerLayers platform config).map
        Middleware.layer)
      fun request => BearerSettles platform config request.head ∨
        RedirectSettles platform config request.head := by
  rw [List.map_append]
  apply Settles.append
  · unfold browserRedirectLayers
    rw [map_layerOf]
    apply Settles.layerOf
    intro oidc
    exact browserRedirect_settles
  · unfold bearerLayers
    rw [map_layerOf]
    apply Settles.layerOf
    intro oidc
    exact bearerAuth_settles

theorem sessionIdentityLayers_ensure {post : Request → Prop}
    (identified : ∀ request, request.Identified → post request) (blind : SessionBlind post)
    (request : Request) :
    Ensures ((sessionIdentityLayers platform config).map Middleware.layer) post request ↔
      (∃ oidc, config.http.oidc = some oidc ∧ runsCodeFlow config oidc = true ∧
        NamesSessionUser platform.external oidc.rolesClaim request) ∨ post request := by
  unfold sessionIdentityLayers
  rw [map_layerOf]
  apply ensures_layerOf
  intro oidc
  exact sessionToIdentity_ensures identified blind

theorem credentialLayers_settle :
    Settles Request.Identified
      ((basicLayers platform config ++ proxyLayers platform config).map Middleware.layer)
      fun request => ProxySettles platform config request.head ∨
        BasicSettles platform config request.head := by
  rw [List.map_append]
  apply Settles.append
  · unfold basicLayers
    rw [map_layerOf]
    apply Settles.layerOf
    intro basic
    exact basicAuth_settles _
  · unfold proxyLayers
    rw [map_layerOf]
    apply Settles.layerOf
    intro proxy
    exact proxyOidc_settles _

/-- The authentication layers refuse or identify a request exactly when it is settled, given that
its session is the one that `SessionSettles` is about. -/
theorem authenticationLayers_ensure {request : Request} (unidentified : ¬request.Identified)
    (session : (∃ oidc, config.http.oidc = some oidc ∧ runsCodeFlow config oidc = true ∧
        NamesSessionUser platform.external oidc.rolesClaim request) ↔
      SessionSettles platform config request.head) :
    Ensures ((authenticationLayers platform config).map Middleware.layer) Request.Identified
        request ↔
      Settled platform config request.head := by
  have inner : Ensures ((browserRedirectLayers platform config ++
        bearerLayers platform config).map Middleware.layer) Request.Identified =
      fun passed => (BearerSettles platform config passed.head ∨
        RedirectSettles platform config passed.head) ∨ passed.Identified := by
    funext passed
    exact propext (headLayers_settle _ (fun _ holds => holds) passed)
  have middle := @sessionIdentityLayers_ensure platform config
    (fun passed => (BearerSettles platform config passed.head ∨
      RedirectSettles platform config passed.head) ∨ passed.Identified)
    (fun _ holds => .inr holds) (fun _ _ => Iff.rfl)
  have split : authenticationLayers platform config =
      (browserRedirectLayers platform config ++ bearerLayers platform config) ++
        (sessionIdentityLayers platform config ++
          (basicLayers platform config ++ proxyLayers platform config)) := by
    simp [authenticationLayers]
  rw [split, Middleware.ensures_append, inner, Middleware.ensures_append,
    credentialLayers_settle _ (fun passed holds => (middle passed).mpr (.inr (.inr holds))),
    middle, session]
  unfold Settled
  tauto

theorem preparingLayers_ensure {post : Request → Prop} {head : RequestHead} :
    Ensures ((preparingLayers platform config).map Middleware.layer) post { head } ↔
      Ensures ((oidcClientLayers platform config).map Middleware.layer) post
        { head, session := some (platform.loadSession head) } := by
  unfold preparingLayers
  rw [Middleware.ensures_append, Middleware.ensures_append]
  simp [Layer.Ensures, Middleware.layer, recordUserToSpan, sessionManager, Except.mapError]

theorem oidcClientLayers_ensure {post : Request → Prop} {request : Request} :
    Ensures ((oidcClientLayers platform config).map Middleware.layer) post request ↔
      if config.http.oidc.any (runsCodeFlow config) then
        post { request with oidcClient := some platform.oidcClient }
      else post request := by
  unfold oidcClientLayers
  cases config.http.oidc with
  | none => simp [layerOf]
  | some oidc =>
      cases runs : runsCodeFlow config oidc with
      | false => simp [layerOf, runs]
      | true =>
          simp [layerOf, runs, Layer.Ensures, Middleware.layer, oidcClientExtension,
            Except.mapError]

/-- A request is refused or identified by the layers exactly when it is settled. -/
theorem layers_ensure_iff_settled {head : RequestHead} :
    Ensures ((authenticationLayers platform config ++ preparingLayers platform config).map
        Middleware.layer) Request.Identified { head } ↔
      Settled platform config head := by
  rw [Middleware.ensures_append, preparingLayers_ensure, oidcClientLayers_ensure]
  split
  case isTrue runs =>
    apply authenticationLayers_ensure
    · simp [Request.Identified]
    · exact Iff.rfl
  case isFalse idle =>
    have noFlow : ∀ oidc, config.http.oidc = some oidc → runsCodeFlow config oidc ≠ true := by
      intro oidc configured
      simpa [configured] using idle
    apply authenticationLayers_ensure
    · simp [Request.Identified]
    · constructor
      · rintro ⟨oidc, configured, runs, _⟩
        exact absurd runs (noFlow oidc configured)
      · rintro ⟨oidc, configured, runs, _⟩
        exact absurd runs (noFlow oidc configured)

end Layers

theorem routeOf_mem (platform : Platform) (router : FluentRouter) (path : String) :
    router.routeOf platform path ∈ router.routes ∨
      router.routeOf platform path = router.fallback := by
  unfold FluentRouter.routeOf
  cases found : (platform.matchRoute (router.routes.map Route.pattern) path).bind
      fun position => router.routes[position]? with
  | none => exact .inr rfl
  | some route =>
      obtain ⟨position, _, stands⟩ := Option.bind_eq_some_iff.mp found
      exact .inl (List.mem_of_getElem? stands)

/-- The endpoints of the routes that exist before the first layer is added: the user's handlers and
the protected directories. -/
def isInner : Endpoint → Bool
  | .user _ => true
  | .directory directory => directory.isProtected
  | _ => false

/-- What the steps of `setup_middleware` keep: the configuration, and that exactly these layers wrap
each inner route, which the fallback is not. -/
structure WrapsInner (config : Config) (router : FluentRouter) (layers : List Middleware) :
    Prop where
  config_eq : router.config = config
  route_layers : ∀ route ∈ router.routes, isInner route.endpoint = true → route.layers = layers
  fallback_outer : isInner router.fallback.endpoint = false

namespace WrapsInner

variable {platform : Platform} {config : Config} {router : FluentRouter}
  {layers : List Middleware}

theorem userRoutes (config : Config) (paths : List String) :
    WrapsInner config (withUserRoutes config paths) [] := by
  constructor
  · rfl
  · intro route member _
    obtain ⟨path, _, rfl⟩ := List.mem_map.mp member
    rfl
  · rfl

theorem addRoute (wraps : WrapsInner config router layers) {added : Route}
    (harmless : isInner added.endpoint = true → added.layers = layers) :
    WrapsInner config { router with routes := router.routes ++ [added] } layers := by
  refine ⟨wraps.config_eq, ?_, wraps.fallback_outer⟩
  intro route member
  rcases List.mem_append.mp member with existing | new
  · exact wraps.route_layers route existing
  · rw [List.mem_singleton.mp new]
    exact harmless

theorem route (wraps : WrapsInner config router layers) (path : String) {endpoint : Endpoint}
    (outer : isInner endpoint = false) :
    WrapsInner config (router.route path endpoint) layers := by
  apply wraps.addRoute
  intro inner
  exact absurd inner (by simp [outer])

theorem wrap_routes (wraps : WrapsInner config router layers) (added : List Middleware) :
    ∀ route ∈ router.routes.map (fun route => route.wrap added),
      isInner route.endpoint = true → route.layers = layers ++ added := by
  intro route member isInner
  obtain ⟨inner, existing, rfl⟩ := List.mem_map.mp member
  have same := wraps.route_layers inner existing isInner
  simp [Route.wrap, same]

/-- `route_layer` with the layers that a step builds from the configuration. -/
theorem routeLayers (wraps : WrapsInner config router layers)
    (added : Config → List Middleware) :
    WrapsInner config (router.routeLayers (added router.config)) (layers ++ added config) := by
  rw [wraps.config_eq]
  exact ⟨wraps.config_eq, wraps.wrap_routes _, wraps.fallback_outer⟩

theorem addLayers (wraps : WrapsInner config router layers)
    (added : Config → List Middleware) :
    WrapsInner config (router.layers (added router.config)) (layers ++ added config) := by
  rw [wraps.config_eq]
  exact ⟨wraps.config_eq, wraps.wrap_routes _, wraps.fallback_outer⟩

theorem setupDirectory (wraps : WrapsInner config router layers) (isProtected : Bool)
    (unwrapped : isProtected = true → layers = []) (directory : StaticDirConfig) :
    WrapsInner config (router.setupDirectory isProtected directory) layers := by
  unfold FluentRouter.setupDirectory
  split
  · split
    case isTrue same =>
      have sameClass : directory.isProtected = isProtected := by simpa using same
      apply wraps.addRoute
      intro protectedMount
      exact (unwrapped (sameClass.symm.trans protectedMount)).symm
    case isFalse => exact wraps
  · exact wraps

theorem setupDirectories (wraps : WrapsInner config router layers) (isProtected : Bool)
    (unwrapped : isProtected = true → layers = []) :
    WrapsInner config (router.setupDirectories isProtected) layers := by
  unfold FluentRouter.setupDirectories
  generalize router.config.http.directories = directories
  induction directories generalizing router with
  | nil => exact wraps
  | cons directory rest ih =>
      apply ih
      exact wraps.setupDirectory isProtected unwrapped directory

theorem setupOidcRoutes (wraps : WrapsInner config router layers) (platform : Platform) :
    WrapsInner config (router.setupOidcRoutes platform)
      (layers ++ oidcClientLayers platform config) := by
  have same := wraps.config_eq
  unfold FluentRouter.setupOidcRoutes
  cases configured : router.config.http.oidc with
  | none => simpa [oidcClientLayers, ← same, configured, layerOf] using wraps
  | some oidc =>
      cases runs : runsCodeFlow router.config oidc with
      | false => simpa [oidcClientLayers, ← same, configured, layerOf, runs] using wraps
      | true =>
          simp only [runs, if_true]
          exact (((wraps.route oidc.loginRoute rfl).route oidc.callbackRoute rfl).route
            oidc.logoutRoute rfl).addLayers (oidcClientLayers platform)

theorem setupFallbackFiles (wraps : WrapsInner config router layers)
    (accepted : config.http.Accepted) :
    WrapsInner config router.setupFallbackFiles layers := by
  unfold FluentRouter.setupFallbackFiles
  split
  case h_1 directory found =>
    refine ⟨wraps.config_eq, wraps.route_layers, ?_⟩
    rw [wraps.config_eq] at found
    apply accepted.fallback_isPublic directory (List.mem_of_find?_eq_some found)
    exact List.find?_some found
  case h_2 => exact wraps

/-- In the finished router every authentication layer stands before the inner routes. -/
theorem setupMiddleware (accepted : config.http.Accepted) (paths : List String) :
    WrapsInner config ((withUserRoutes config paths).setupMiddleware platform)
      (authenticationLayers platform config ++ preparingLayers platform config) := by
  have mounted := (userRoutes config paths).setupDirectories true (fun _ => rfl)
  have redirected := mounted.routeLayers (browserRedirectLayers platform)
  have bearer := redirected.routeLayers (bearerLayers platform)
  have session := bearer.addLayers (sessionIdentityLayers platform)
  have basic := session.routeLayers (basicLayers platform)
  have proxy := basic.routeLayers (proxyLayers platform)
  have mountedPublic := proxy.setupDirectories false (fun impossible => by cases impossible)
  have oidc := mountedPublic.setupOidcRoutes platform
  have span := oidc.addLayers fun _ => [recordUserToSpan]
  have managed := span.addLayers fun _ => [sessionManager platform]
  have finished := managed.setupFallbackFiles accepted
  have order : authenticationLayers platform config ++ preparingLayers platform config =
      [] ++ browserRedirectLayers platform config ++ bearerLayers platform config ++
        sessionIdentityLayers platform config ++ basicLayers platform config ++
        proxyLayers platform config ++ oidcClientLayers platform config ++ [recordUserToSpan] ++
        [sessionManager platform] := by
    simp [authenticationLayers, preparingLayers]
  rw [order]
  exact finished

theorem routeOf_layers (wraps : WrapsInner config router layers) {path : String}
    (leads : isInner (router.routeOf platform path).endpoint = true) :
    (router.routeOf platform path).layers = layers := by
  rcases routeOf_mem platform router path with member | isFallback
  · exact wraps.route_layers _ member leads
  · rw [isFallback, wraps.fallback_outer] at leads
    cases leads

end WrapsInner

/-- The configuration, and that exactly these layers wrap each route to a protected directory, which
the fallback never leads to. -/
structure WrapsProtected (config : Config) (router : FluentRouter) (layers : List Middleware) :
    Prop where
  config_eq : router.config = config
  route_layers : ∀ route ∈ router.routes, ∀ directory, route.endpoint = .directory directory →
    directory.isProtected = true → route.layers = layers
  fallback_public : ∀ directory, router.fallback.endpoint = .directory directory →
    directory.isProtected = false

theorem WrapsInner.wrapsProtected {config : Config} {router : FluentRouter}
    {layers : List Middleware} (wraps : WrapsInner config router layers) :
    WrapsProtected config router layers where
  config_eq := wraps.config_eq
  route_layers route member directory leads isProtected :=
    wraps.route_layers route member (by simp [isInner, leads, isProtected])
  fallback_public directory leads := by
    have outer := wraps.fallback_outer
    rw [leads] at outer
    exact outer

section Serving

variable {platform : Platform} {config : Config}

theorem Route.call_handed {route : Route} {request passed : Request} {endpoint : Endpoint} :
    route.call request = .handed endpoint passed ↔
      route.endpoint = endpoint ∧
        admitted (route.layers.map Middleware.layer) request = .ok passed := by
  have transparent : ∀ layer ∈ route.layers.map Middleware.layer, layer.Transparent := by
    intro layer member
    obtain ⟨middleware, _, rfl⟩ := List.mem_map.mp member
    exact middleware.layer_transparent
  unfold Route.call
  rw [stack_eq_of_transparent transparent]
  cases admits : admitted (route.layers.map Middleware.layer) request with
  | ok inner => simp
  | error outcome =>
      obtain ⟨layer, member, other, answers⟩ := exists_of_admitted_error admits
      obtain ⟨middleware, _, rfl⟩ := List.mem_map.mp member
      obtain ⟨answer, rfl⟩ := Middleware.layer_inbound_error answers
      simp

theorem Route.admitted_head {route : Route} {request passed : Request}
    (admits : admitted (route.layers.map Middleware.layer) request = .ok passed) :
    passed.head = request.head := by
  apply @admitted_keeps _ _ _ Request.head _ _ _ _ admits
  intro layer member before after passes
  obtain ⟨middleware, _, rfl⟩ := List.mem_map.mp member
  exact middleware.keepsHead before after (Middleware.layer_inbound_ok.mp passes)

theorem WrapsProtected.routeOf_layers {router : FluentRouter} {layers : List Middleware}
    (wraps : WrapsProtected config router layers) {path : String} {directory : StaticDirConfig}
    (leads : (router.routeOf platform path).endpoint = .directory directory)
    (isProtected : directory.isProtected = true) :
    (router.routeOf platform path).layers = layers := by
  rcases routeOf_mem platform router path with member | isFallback
  · exact wraps.route_layers _ member directory leads isProtected
  · rw [isFallback] at leads
    rw [wraps.fallback_public directory leads] at isProtected
    cases isProtected

/-- A request is served protected files without an identity exactly when it asks for one and no
authentication layer settles it. -/
theorem servesIdentifiedOnly_iff (valid : config.http.validate = .ok ()) (paths : List String)
    (head : RequestHead) :
    ServesIdentifiedOnly platform ((withUserRoutes config paths).setupMiddleware platform) head ↔
      ¬AsksForProtectedFile platform ((withUserRoutes config paths).setupMiddleware platform)
          head ∨
        Settled platform config head := by
  have wraps : WrapsProtected config ((withUserRoutes config paths).setupMiddleware platform) _ :=
    (WrapsInner.setupMiddleware (HttpConfig.accepted_of_validate valid) paths).wrapsProtected
  generalize (withUserRoutes config paths).setupMiddleware platform = router at wraps ⊢
  rw [← layers_ensure_iff_settled]
  constructor
  · intro serves
    by_cases asks : AsksForProtectedFile platform router head
    · right
      obtain ⟨directory, leads, isProtected, holds⟩ := asks
      intro passed admits
      rw [← wraps.routeOf_layers leads isProtected] at admits
      apply serves directory passed _ isProtected
      · rw [Route.admitted_head admits]
        exact holds
      · exact Route.call_handed.mpr ⟨leads, admits⟩
    · exact .inl asks
  · intro condition directory passed handed isProtected holds
    obtain ⟨leads, admits⟩ := Route.call_handed.mp handed
    rw [Route.admitted_head admits] at holds
    rcases condition with asksNot | ensures
    · exact absurd ⟨directory, leads, isProtected, holds⟩ asksNot
    · rw [wraps.routeOf_layers leads isProtected] at admits
      exact ensures passed admits

end Serving

def downloads : StaticDirConfig where
  directory := "./downloads"
  route := .route "/downloads"
  isProtected := true

def codeFlowConfig : Config where
  http :=
    { directories := [downloads]
      oidc := some
        { issuerUrl := "https://sso.example.com"
          clientId := "app"
          clientSecret := "secret"
          redirectUri := some "https://app.example.com/auth/callback" } }

def bearerOnlyConfig : Config where
  http :=
    { directories := [downloads]
      oidc := some
        { issuerUrl := "https://sso.example.com"
          audiences := ["app"]
          clientId := "app"
          clientSecret := "secret" } }

def RoutePattern.matchesPath (pattern : RoutePattern) (path : String) : Bool :=
  match pattern with
  | .exact registered => path == registered
  | .nested registered => path == registered || Text.startsWith path (registered ++ "/")

/-- Empty sessions, and one signing key whose tokens are valid but name no subject. -/
def subjectlessPlatform : Platform where
  external :=
    { toStr := HeaderValue.visibleText
      netContains := fun _ _ => false
      decodeBase64 := fun _ => none
      decodeBase64Url := fun _ => none
      parseJson := fun _ => none
      decodeHeader := fun _ => some (some "key")
      decode := fun _ _ validation => some (.object
        [("iss", .string validation.issuer), ("aud", .string "app"), ("exp", .posInt 4102444800)])
      nowEpochSecs := 1750000000 }
  bearerKeys :=
    { keys := fun kid =>
        if kid = "key" then
          some
            { decodingKey := "key"
              validation :=
                { algorithm := "RS256"
                  issuer := "https://sso.example.com"
                  audience := ["app"]
                  validateExp := true
                  validateAud := true } }
        else none
      fetched := none }
  oidcClient :=
    { refreshTokens := fun _ => none
      idTokenKeys := { keys := fun _ => none, fetched := none } }
  loadSession := fun _ => { record := some fun _ => none }
  matchRoute := fun patterns path => patterns.findIdx? fun pattern => pattern.matchesPath path
  holdsFile := fun _ _ => true

def anonymousDownload : RequestHead where
  path := "/downloads/report.pdf"
  pathAndQuery := some "/downloads/report.pdf"
  headers := fun _ => none
  peerIp := none

def bearerDownload : RequestHead :=
  { anonymousDownload with
    headers := fun name =>
      if name = "authorization" then some (HeaderValue.ofText "Bearer token") else none }

theorem servesIdentifiedOnly_iff_bearer :
    ServesIdentifiedOnly subjectlessPlatform
        ((withUserRoutes bearerOnlyConfig []).setupMiddleware subjectlessPlatform)
        bearerDownload ↔
      ¬AsksForProtectedFile subjectlessPlatform
          ((withUserRoutes bearerOnlyConfig []).setupMiddleware subjectlessPlatform)
          bearerDownload ∨
        Settled subjectlessPlatform bearerOnlyConfig bearerDownload :=
  servesIdentifiedOnly_iff (by decide +kernel) [] bearerDownload

/-- With the code flow a request without any credentials is served a protected file. -/
theorem not_servesIdentifiedOnly :
    codeFlowConfig.http.validate = .ok () ∧ codeFlowConfig.http.hasAuthentication = true ∧
      ¬ServesIdentifiedOnly subjectlessPlatform
        ((withUserRoutes codeFlowConfig ["/"]).setupMiddleware subjectlessPlatform)
        anonymousDownload := by
  refine ⟨by decide +kernel, rfl, ?_⟩
  intro serves
  have identified := serves downloads _ rfl rfl rfl
  cases identified

end AxumConf.Fluent
