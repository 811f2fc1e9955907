import AxumConf.Fluent.Precedence

/-!
# What the user-span layer sees

`setup_user_span` adds its layer after the authentication layers, so a request reaches it before
any of them has attached an identity, on whatever route it is and whatever is enabled.  The layer
therefore records no user.
-/

namespace AxumConf.Fluent

open Auth Tower

/-- The user-span layer of the route sees a request of this identity. -/
def ObservesIdentity (route : Route) (head : RequestHead) (identity : AuthenticatedIdentity) :
    Prop :=
  spanUser identity ∈ Middleware.recordedUsers route.layers { head }

/-- Whenever a handler is given the request with an identity, the span layer has seen it. -/
def SpanNamesUser (platform : Platform) (router : FluentRouter) (head : RequestHead) : Prop :=
  ∀ endpoint request identity, router.call platform head = .handed endpoint request →
    request.identity = some identity →
      ObservesIdentity (router.routeOf platform head.path) head identity

/-- The layers record no users. -/
def Silent (layers : List Middleware) : Prop :=
  ∀ layer ∈ layers, ∀ request, layer.recordsUser request = none

def SilentRouter (router : FluentRouter) : Prop :=
  (∀ route ∈ router.routes, Silent route.layers) ∧ Silent router.fallback.layers

section Layers

variable {platform : Platform} {config : Config}

theorem silent_nil : Silent [] := by
  intro layer member
  cases member

theorem Silent.append {inner outer : List Middleware} (silentInner : Silent inner)
    (silentOuter : Silent outer) : Silent (inner ++ outer) := by
  intro layer member
  rcases List.mem_append.mp member with isInner | isOuter
  · exact silentInner layer isInner
  · exact silentOuter layer isOuter

theorem silent_layerOf {α : Type} {part : Option α} {enabled : α → Bool} {layer : α → Middleware}
    (silent : ∀ config request, (layer config).recordsUser request = none) :
    Silent (layerOf part enabled layer) := by
  unfold layerOf
  split
  · rename_i config
    split
    · intro only member
      rw [List.mem_singleton.mp member]
      exact silent config
    · exact silent_nil
  · exact silent_nil

variable (platform config)

theorem silent_browserRedirectLayers : Silent (browserRedirectLayers platform config) :=
  silent_layerOf fun _ _ => rfl

theorem silent_bearerLayers : Silent (bearerLayers platform config) :=
  silent_layerOf fun _ _ => rfl

theorem silent_sessionIdentityLayers : Silent (sessionIdentityLayers platform config) :=
  silent_layerOf fun _ _ => rfl

theorem silent_basicLayers : Silent (basicLayers platform config) :=
  silent_layerOf fun _ _ => rfl

theorem silent_proxyLayers : Silent (proxyLayers platform config) :=
  silent_layerOf fun _ _ => rfl

theorem silent_oidcClientLayers : Silent (oidcClientLayers platform config) :=
  silent_layerOf fun _ _ => rfl

/-- Silent layers inside of others add nothing to what those record. -/
theorem recordedUsers_append {inner : List Middleware} (silent : Silent inner)
    (outer : List Middleware) (request : Request) :
    Middleware.recordedUsers (inner ++ outer) request = Middleware.recordedUsers outer request := by
  induction inner with
  | nil => rfl
  | cons layer rest ih =>
      have silentRest : Silent rest := fun other member => silent other (.tail _ member)
      simp only [List.cons_append, Middleware.recordedUsers, ih silentRest]
      cases admitted ((rest ++ outer).map Middleware.layer) request with
      | error outcome => simp
      | ok reached => simp [silent layer (.head _) reached]

/-- The span layer stands directly inside of the session layer, which attaches no identity. -/
theorem recordedUsers_span (head : RequestHead) :
    Middleware.recordedUsers [recordUserToSpan, sessionManager platform] { head } = [] := rfl

end Layers

namespace SilentRouter

variable {platform : Platform} {router : FluentRouter}

theorem addRoute (silent : SilentRouter router) {added : Route} (unwrapped : added.layers = []) :
    SilentRouter { router with routes := router.routes ++ [added] } := by
  refine ⟨?_, silent.2⟩
  intro route member
  rcases List.mem_append.mp member with existing | new
  · exact silent.1 route existing
  · rw [List.mem_singleton.mp new, unwrapped]
    exact silent_nil

theorem route (silent : SilentRouter router) (path : String) (endpoint : Endpoint) :
    SilentRouter (router.route path endpoint) :=
  silent.addRoute rfl

theorem wrap_routes (silent : SilentRouter router) {layers : List Middleware}
    (silentLayers : Silent layers) :
    ∀ route ∈ router.routes.map (fun route => route.wrap layers), Silent route.layers := by
  intro route member
  rcases List.mem_map.mp member with ⟨inner, existing, rfl⟩
  exact (silent.1 inner existing).append silentLayers

/-- `route_layer` with the layers that a step builds from the configuration. -/
theorem routeLayers (silent : SilentRouter router) {added : Config → List Middleware}
    (silentLayers : ∀ config, Silent (added config)) :
    SilentRouter (router.routeLayers (added router.config)) :=
  ⟨silent.wrap_routes (silentLayers router.config), silent.2⟩

theorem addLayers (silent : SilentRouter router) {added : Config → List Middleware}
    (silentLayers : ∀ config, Silent (added config)) :
    SilentRouter (router.layers (added router.config)) :=
  ⟨silent.wrap_routes (silentLayers router.config), silent.2.append (silentLayers router.config)⟩

theorem setupDirectories (silent : SilentRouter router) (isProtected : Bool) :
    SilentRouter (router.setupDirectories isProtected) := by
  unfold FluentRouter.setupDirectories
  generalize router.config.http.directories = directories
  induction directories generalizing router with
  | nil => exact silent
  | cons directory rest ih =>
      apply ih
      simp only [FluentRouter.setupDirectory]
      split
      · split
        · exact silent.addRoute rfl
        · exact silent
      · exact silent

theorem setupOidcRoutes (silent : SilentRouter router) :
    SilentRouter (router.setupOidcRoutes platform) := by
  unfold FluentRouter.setupOidcRoutes
  split
  · split
    · rename_i oidc _ _
      have routed := ((silent.route oidc.loginRoute .login).route oidc.callbackRoute
        .callback).route oidc.logoutRoute .logout
      exact routed.addLayers fun config => silent_oidcClientLayers platform config
    · exact silent
  · exact silent

theorem userRoutes (config : Config) (paths : List String) :
    SilentRouter (withUserRoutes config paths) := by
  refine ⟨?_, silent_nil⟩
  intro route member
  rcases List.mem_map.mp member with ⟨path, -, rfl⟩
  exact silent_nil

end SilentRouter

/-- The router as it is when the span layer is added. -/
def beforeUserSpan (platform : Platform) (router : FluentRouter) : FluentRouter :=
  let router := router.setupProtectedFiles
  let router := router.setupBrowserLoginRedirect platform
  let router := router.setupOidc platform
  let router := router.setupBasicAuth platform
  let router := router.setupProxyOidc platform
  let router := router.setupPublicFiles
  router.setupOidcRoutes platform

section Statement

variable {platform : Platform} {config : Config} {paths : List String}

/-- None of the layers that are there when the span layer is added records a user. -/
theorem silent_beforeUserSpan :
    SilentRouter (beforeUserSpan platform (withUserRoutes config paths)) := by
  have mounted := (SilentRouter.userRoutes config paths).setupDirectories true
  have redirected := mounted.routeLayers (silent_browserRedirectLayers platform)
  have bearer := redirected.routeLayers (silent_bearerLayers platform)
  have session := bearer.addLayers (silent_sessionIdentityLayers platform)
  have basic := session.routeLayers (silent_basicLayers platform)
  have proxy := basic.routeLayers (silent_proxyLayers platform)
  exact (proxy.setupDirectories false).setupOidcRoutes

theorem recordedUsers_of_silent {route : Route} (silent : Silent route.layers)
    (head : RequestHead) :
    Middleware.recordedUsers ((route.wrap [recordUserToSpan]).wrap [sessionManager platform]).layers
      { head } = [] := by
  have layers : ((route.wrap [recordUserToSpan]).wrap [sessionManager platform]).layers =
      route.layers ++ [recordUserToSpan, sessionManager platform] := by
    simp [Route.wrap]
  rw [layers, recordedUsers_append silent]
  exact recordedUsers_span platform head

theorem recordedUsers_wrapped {router : FluentRouter} (silent : SilentRouter router)
    (head : RequestHead) :
    (∀ route ∈ ((router.setupUserSpan).setupSessionHandling platform).routes,
      Middleware.recordedUsers route.layers { head } = []) ∧
    Middleware.recordedUsers
      ((router.setupUserSpan).setupSessionHandling platform).fallback.layers { head } = [] := by
  refine ⟨?_, recordedUsers_of_silent silent.2 head⟩
  intro route member
  rcases List.mem_map.mp member with ⟨spanned, isSpanned, rfl⟩
  rcases List.mem_map.mp isSpanned with ⟨inner, existing, rfl⟩
  exact recordedUsers_of_silent (silent.1 inner existing) head

/-- Whatever the route, nothing is recorded on the way to it. -/
theorem recordedUsers_routeOf (head : RequestHead) :
    Middleware.recordedUsers
      (((withUserRoutes config paths).setupMiddleware platform).routeOf platform head.path).layers
      { head } = [] := by
  have finished : (withUserRoutes config paths).setupMiddleware platform =
      (((beforeUserSpan platform (withUserRoutes config paths)).setupUserSpan).setupSessionHandling
        platform).setupFallbackFiles := rfl
  rw [finished]
  have recorded := @recordedUsers_wrapped platform _ (@silent_beforeUserSpan platform config paths)
    head
  generalize ((beforeUserSpan platform
    (withUserRoutes config paths)).setupUserSpan).setupSessionHandling platform = router at recorded
  rcases routeOf_mem platform router.setupFallbackFiles head.path with member | isFallback
  · have sameRoutes : router.setupFallbackFiles.routes = router.routes := by
      unfold FluentRouter.setupFallbackFiles
      split <;> rfl
    rw [sameRoutes] at member
    exact recorded.1 _ member
  · rw [isFallback]
    unfold FluentRouter.setupFallbackFiles
    split
    · rfl
    · exact recorded.2

end Statement

/-- In every configuration and whichever method authenticates a request, the user-span layer has
not seen the identity: it ran before the identity was attached. -/
theorem not_spanNamesUser {platform : Platform} {config : Config} {paths : List String}
    {head : RequestHead} {endpoint : Endpoint} {request : Request}
    (handed : ((withUserRoutes config paths).setupMiddleware platform).call platform head =
      .handed endpoint request)
    (authenticated : request.Identified) :
    ¬SpanNamesUser platform ((withUserRoutes config paths).setupMiddleware platform) head := by
  intro names
  rcases Option.isSome_iff_exists.mp authenticated with ⟨identity, attached⟩
  have observes := names endpoint request identity handed attached
  rw [ObservesIdentity, recordedUsers_routeOf] at observes
  cases observes

def apiKeyConfig : Config where
  http := { basicAuth := some apiKeysBesideCodeFlow }

def apiKeyRequest : RequestHead where
  path := "/reports"
  pathAndQuery := some "/reports"
  headers := fun name =>
    if name = "X-API-Key" then some (HeaderValue.ofText "key-1") else none
  peerIp := none

theorem handed_apiKeyRequest :
    ∃ request, ((withUserRoutes apiKeyConfig ["/reports"]).setupMiddleware annsPlatform).call
        annsPlatform apiKeyRequest = .handed (.user "/reports") request ∧
      request.identity = some (apiKeyIdentity continuousIntegration) :=
  ⟨_, rfl, rfl⟩

theorem not_spanNamesUser_apiKey :
    ¬SpanNamesUser annsPlatform
      ((withUserRoutes apiKeyConfig ["/reports"]).setupMiddleware annsPlatform) apiKeyRequest := by
  rcases handed_apiKeyRequest with ⟨request, handed, identity⟩
  exact not_spanNamesUser handed (by simp [Request.Identified, identity])

/-- The handler knows the owner of the API key, the user-span layer does not. -/
theorem apiKey_owner_is_not_observed :
    apiKeyConfig.http.validate = .ok () ∧
      (∃ request, ((withUserRoutes apiKeyConfig ["/reports"]).setupMiddleware annsPlatform).call
          annsPlatform apiKeyRequest = .handed (.user "/reports") request ∧
        request.identity = some (apiKeyIdentity continuousIntegration)) ∧
      ¬ObservesIdentity
        (((withUserRoutes apiKeyConfig ["/reports"]).setupMiddleware annsPlatform).routeOf
          annsPlatform apiKeyRequest.path)
        apiKeyRequest (apiKeyIdentity continuousIntegration) := by
  refine ⟨by decide +kernel, handed_apiKeyRequest, ?_⟩
  simp [ObservesIdentity, recordedUsers_routeOf]

end AxumConf.Fluent
