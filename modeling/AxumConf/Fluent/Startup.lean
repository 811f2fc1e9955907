import AxumConf.Fluent.CorsRules
import AxumConf.Fluent.ProtectedFiles
import AxumConf.Lib.Attempt

/-!
# Building the router

`setup_middleware` as the sequence of builder calls that can panic or fail: registering a path,
wrapping the routes that exist, adding the CORS layer, finishing the rate limiter, and asking the
provider and the session store.  The steps in between only add layers.  Where no call panics or
fails, the result is the router of `setupMiddleware` with the probe routes.
-/

namespace AxumConf.Fluent

open Auth Tower

/-- What the crates below the router accept. -/
structure Crates (Layer HeaderValue : Type) where
  /-- `axum` takes a path to register it like this. -/
  takesPattern : RoutePattern → Bool
  /-- `axum` does not take the second pattern beside the first. -/
  clashes : RoutePattern → RoutePattern → Bool
  cors : CorsApi Layer HeaderValue
  corsRules : Layer → CorsRules
  /-- `GovernorConfigBuilder::finish` for a period in nanoseconds and a burst size -/
  finishGovernor : ℕ → ℕ → Bool

structure Crates.Documented {Layer HeaderValue : Type} (crates : Crates Layer HeaderValue) :
    Prop where
  exact_leadsWithSlash : ∀ path, crates.takesPattern (.exact path) = true →
    Text.startsWith path "/" = true
  nested_leadsWithSlash : ∀ path, crates.takesPattern (.nested path) = true →
    Text.startsWith path "/" = true ∧ path ≠ "/"
  clashes_self : ∀ pattern, crates.clashes pattern pattern = true
  finishGovernor_iff : ∀ period burst,
    crates.finishGovernor period burst = true ↔ 0 < period ∧ 0 < burst
  cors_rules : crates.cors.DocumentedRules crates.corsRules

/-- What the calls that leave the process return while the router is built. -/
structure Startup where
  bearerKeys : Checked := .ok ()
  discovery : Checked := .ok ()
  sessionStore : Checked := .ok ()

abbrev Building := Attempt Error FluentRouter

def usesOidc (config : Config) : Bool :=
  config.http.oidc.any fun _ => config.isMiddlewareEnabled .oidc

def usesCodeFlow (config : Config) : Bool :=
  config.http.oidc.any (runsCodeFlow config)

namespace Startup

variable (startup : Startup) (config : Config)

def fetchKeys : Checked :=
  if usesOidc config then startup.bearerKeys else .ok ()

def discover : Checked :=
  if usesCodeFlow config then startup.discovery else .ok ()

/-- The store in memory is always there. -/
def openStore : Checked :=
  if config.http.sessionStore.isExternal then startup.sessionStore else .ok ()

end Startup

def limitsRate (config : Config) : Bool :=
  0 < config.http.maxRequestsPerSec && config.isMiddlewareEnabled .rateLimiting

namespace FluentRouter

variable {Layer HeaderValue : Type} (crates : Crates Layer HeaderValue) (platform : Platform)
  (startup : Startup) (router : FluentRouter)

def patterns : List RoutePattern :=
  router.routes.map Route.pattern

def addRoutes (added : List Route) : FluentRouter :=
  { router with routes := router.routes ++ added }

section Builders

/-- `axum` takes the pattern beside those that are registered. -/
def admits (pattern : RoutePattern) : Bool :=
  crates.takesPattern pattern &&
    router.patterns.all fun earlier => !crates.clashes earlier pattern

def tryRoute (path : String) (endpoint : Endpoint) : Building :=
  if router.admits crates (.exact path) then .done (router.route path endpoint) else .panicked

def tryNestService (path : String) (endpoint : Endpoint) : Building :=
  if router.admits crates (.nested path) then .done (router.nestService path endpoint)
  else .panicked

/-- `route_layer` panics when there are no routes yet; without layers it is not called. -/
def tryRouteLayers (layers : List Middleware) : Building :=
  if layers.isEmpty || !router.patterns.isEmpty then .done (router.routeLayers layers)
  else .panicked

end Builders

section Steps

def tryDirectory (isProtected : Bool) (directory : StaticDirConfig) : Building :=
  match directory.route with
  | .route path =>
      if directory.isProtected == isProtected then
        router.tryNestService crates path (.directory directory)
      else .done router
  | .fallback _ => .done router

def trySetupDirectories (isProtected : Bool) : Building :=
  router.config.http.directories.foldlM
    (fun current directory => current.tryDirectory crates isProtected directory) router

def trySetupBrowserLoginRedirect : Building :=
  router.tryRouteLayers (browserRedirectLayers platform router.config)

def trySetupOidc : Building := do
  Attempt.ofExcept (startup.fetchKeys router.config)
  let wrapped ← router.tryRouteLayers (bearerLayers platform router.config)
  return wrapped.layers (sessionIdentityLayers platform router.config)

def trySetupBasicAuth : Building :=
  router.tryRouteLayers (basicLayers platform router.config)

def trySetupProxyOidc : Building :=
  router.tryRouteLayers (proxyLayers platform router.config)

def trySetupOidcRoutes : Building := do
  Attempt.ofExcept (startup.discover router.config)
  match router.config.http.oidc with
  | some oidc =>
      if runsCodeFlow router.config oidc then
        let login ← router.tryRoute crates oidc.loginRoute .login
        let callback ← login.tryRoute crates oidc.callbackRoute .callback
        let logout ← callback.tryRoute crates oidc.logoutRoute .logout
        return logout.layers (oidcClientLayers platform router.config)
      else return router
  | none => return router

def trySetupSessionHandling : Building := do
  Attempt.ofExcept (startup.openStore router.config)
  return router.setupSessionHandling platform

/-- Adding the layer checks its rules; it stands outside of what the model of the router keeps. -/
def trySetupCors : Building := do
  match setupCors crates.cors router.config with
  | some layer =>
      Attempt.require (!(crates.corsRules layer).combinesWildcard)
      return router
  | none => return router

def trySetupMetrics : Building :=
  if router.config.http.withMetrics && router.config.isMiddlewareEnabled .metrics then
    router.tryRoute crates router.config.http.metricsRoute .metrics
  else return router

def trySetupReadiness : Building :=
  if router.config.isMiddlewareEnabled .readiness then
    router.tryRoute crates router.config.http.readinessRoute .readiness
  else return router

def trySetupRateLimiting : Building :=
  if limitsRate router.config then do
    Attempt.require (crates.finishGovernor (1000000000 / router.config.http.maxRequestsPerSec)
      router.config.http.maxRequestsPerSec)
    return router
  else return router

def trySetupLiveness : Building :=
  if router.config.isMiddlewareEnabled .liveness then
    router.tryRoute crates router.config.http.livenessRoute .liveness
  else return router

/-- The steps outside of the session layer. -/
def trySetupOutside : Building := do
  let router ← router.trySetupCors crates
  let router ← router.trySetupMetrics crates
  let router ← router.trySetupReadiness crates
  let router ← router.trySetupRateLimiting crates
  let router ← router.trySetupLiveness crates
  return router.setupFallbackFiles

/-- `setup_middleware`, from a router with the user's routes. -/
def trySetupMiddleware : Building := do
  let router ← router.trySetupDirectories crates true
  let router ← router.trySetupBrowserLoginRedirect platform
  let router ← router.trySetupOidc platform startup
  let router ← router.trySetupBasicAuth platform
  let router ← router.trySetupProxyOidc platform
  let router ← router.trySetupDirectories crates false
  let router ← router.trySetupOidcRoutes crates platform startup
  let router ← router.setupUserSpan.trySetupSessionHandling platform startup
  router.trySetupOutside crates

end Steps

end FluentRouter

section Registered

/-- The pattern of a static directory of the given class; a fallback registers none. -/
def directoryPattern (isProtected : Bool) (directory : StaticDirConfig) : Option RoutePattern :=
  match directory.route with
  | .route path => if directory.isProtected == isProtected then some (.nested path) else none
  | .fallback _ => none

variable (config : Config)

def directoryPatterns (isProtected : Bool) : List RoutePattern :=
  config.http.directories.filterMap (directoryPattern isProtected)

def codeFlowPatterns : List RoutePattern :=
  match config.http.oidc with
  | some oidc =>
      if runsCodeFlow config oidc then
        [.exact oidc.loginRoute, .exact oidc.callbackRoute, .exact oidc.logoutRoute]
      else []
  | none => []

def metricsRoutes : List Route :=
  if config.http.withMetrics && config.isMiddlewareEnabled .metrics then
    [{ pattern := .exact config.http.metricsRoute, endpoint := .metrics }]
  else []

def readinessRoutes : List Route :=
  if config.isMiddlewareEnabled .readiness then
    [{ pattern := .exact config.http.readinessRoute, endpoint := .readiness }]
  else []

def livenessRoutes : List Route :=
  if config.isMiddlewareEnabled .liveness then
    [{ pattern := .exact config.http.livenessRoute, endpoint := .liveness }]
  else []

def probeRoutes : List Route :=
  metricsRoutes config ++ readinessRoutes config ++ livenessRoutes config

/-- The framework's own routes, in the order in which they are registered. -/
def frameworkPatterns : List RoutePattern :=
  directoryPatterns config true ++ directoryPatterns config false ++ codeFlowPatterns config ++
    (probeRoutes config).map Route.pattern

/-- Some authentication layer is added with `route_layer`. -/
def addsRouteLayer : Bool :=
  usesOidc config ||
    (config.http.basicAuth.any fun _ => config.isMiddlewareEnabled .basicAuth) ||
    (config.http.proxyOidc.any fun _ => config.isMiddlewareEnabled .proxyOidc)

end Registered

theorem filterMap_directoryPattern_cons (isProtected : Bool) (directory : StaticDirConfig)
    (rest : List StaticDirConfig) :
    (directory :: rest).filterMap (directoryPattern isProtected) =
      (directoryPattern isProtected directory).toList ++
        rest.filterMap (directoryPattern isProtected) := by
  cases registers : directoryPattern isProtected directory with
  | none => simp [registers]
  | some pattern => simp [registers]

section Fitting

variable {Layer HeaderValue : Type} {crates : Crates Layer HeaderValue}

/-- `axum` takes these patterns one after the other beside those that are registered. -/
structure Fits (crates : Crates Layer HeaderValue) (existing added : List RoutePattern) :
    Prop where
  taken : ∀ pattern ∈ added, crates.takesPattern pattern = true
  beside : ∀ earlier ∈ existing, ∀ later ∈ added, crates.clashes earlier later = false
  apart : added.Pairwise fun earlier later => crates.clashes earlier later = false

variable {existing front back : List RoutePattern}

theorem fits_nil : Fits crates existing [] := by
  constructor <;> simp

theorem fits_append :
    Fits crates existing (front ++ back) ↔
      Fits crates existing front ∧ Fits crates (existing ++ front) back := by
  constructor
  · rintro ⟨taken, beside, apart⟩
    rw [List.pairwise_append] at apart
    rcases apart with ⟨apartFront, apartBack, apartBoth⟩
    refine ⟨⟨?_, ?_, apartFront⟩, ⟨?_, ?_, apartBack⟩⟩
    · intro pattern member
      exact taken pattern (List.mem_append_left _ member)
    · intro earlier earlierMember later laterMember
      exact beside earlier earlierMember later (List.mem_append_left _ laterMember)
    · intro pattern member
      exact taken pattern (List.mem_append_right _ member)
    · intro earlier earlierMember later laterMember
      rcases List.mem_append.mp earlierMember with old | new
      · exact beside earlier old later (List.mem_append_right _ laterMember)
      · exact apartBoth earlier new later laterMember
  · rintro ⟨⟨takenFront, besideFront, apartFront⟩, ⟨takenBack, besideBack, apartBack⟩⟩
    refine ⟨?_, ?_, List.pairwise_append.mpr ⟨apartFront, apartBack, ?_⟩⟩
    · intro pattern member
      rcases List.mem_append.mp member with inFront | inBack
      · exact takenFront pattern inFront
      · exact takenBack pattern inBack
    · intro earlier earlierMember later laterMember
      rcases List.mem_append.mp laterMember with inFront | inBack
      · exact besideFront earlier earlierMember later inFront
      · exact besideBack earlier (List.mem_append_left _ earlierMember) later inBack
    · intro earlier earlierMember later laterMember
      exact besideBack earlier (List.mem_append_right _ earlierMember) later laterMember

theorem FluentRouter.admits_iff {router : FluentRouter} {pattern : RoutePattern} :
    router.admits crates pattern = true ↔ Fits crates router.patterns [pattern] := by
  simp only [admits, Bool.and_eq_true, List.all_eq_true, Bool.not_eq_true']
  constructor
  · rintro ⟨taken, beside⟩
    refine ⟨by simpa using taken, ?_, List.pairwise_singleton _ _⟩
    intro earlier member later isPattern
    rw [List.mem_singleton.mp isPattern]
    exact beside earlier member
  · rintro ⟨taken, beside, _⟩
    exact ⟨taken pattern List.mem_cons_self,
      fun earlier member => beside earlier member pattern List.mem_cons_self⟩

end Fitting

namespace FluentRouter

section Patterns

variable (platform : Platform) (router : FluentRouter)

@[simp] theorem patterns_route (path : String) (endpoint : Endpoint) :
    (router.route path endpoint).patterns = router.patterns ++ [.exact path] := by
  simp [patterns, FluentRouter.route]

@[simp] theorem patterns_nestService (path : String) (endpoint : Endpoint) :
    (router.nestService path endpoint).patterns = router.patterns ++ [.nested path] := by
  simp [patterns, nestService]

@[simp] theorem patterns_routeLayers (added : List Middleware) :
    (router.routeLayers added).patterns = router.patterns := by
  simp only [patterns, routeLayers, List.map_map]
  rfl

@[simp] theorem patterns_layers (added : List Middleware) :
    (router.layers added).patterns = router.patterns :=
  router.patterns_routeLayers added

@[simp] theorem patterns_addRoutes (added : List Route) :
    (router.addRoutes added).patterns = router.patterns ++ added.map Route.pattern := by
  simp [patterns, addRoutes]

@[simp] theorem config_routeLayers (added : List Middleware) :
    (router.routeLayers added).config = router.config :=
  rfl

@[simp] theorem config_layers (added : List Middleware) :
    (router.layers added).config = router.config :=
  rfl

@[simp] theorem config_addRoutes (added : List Route) :
    (router.addRoutes added).config = router.config :=
  rfl

theorem patterns_setupDirectory (isProtected : Bool) (directory : StaticDirConfig) :
    (router.setupDirectory isProtected directory).patterns =
      router.patterns ++ (directoryPattern isProtected directory).toList := by
  unfold setupDirectory directoryPattern
  cases directory.route with
  | route path =>
      cases directory.isProtected == isProtected with
      | true => apply patterns_nestService
      | false => exact (List.append_nil _).symm
  | fallback enabled => exact (List.append_nil _).symm

theorem config_setupDirectory (isProtected : Bool) (directory : StaticDirConfig) :
    (router.setupDirectory isProtected directory).config = router.config := by
  unfold setupDirectory
  split
  · split
    · rfl
    · rfl
  · rfl

@[simp] theorem config_setupDirectories (isProtected : Bool) :
    (router.setupDirectories isProtected).config = router.config := by
  unfold setupDirectories
  generalize router.config.http.directories = directories
  induction directories generalizing router with
  | nil => rfl
  | cons directory rest ih =>
      rw [List.foldl_cons, ih]
      exact router.config_setupDirectory isProtected directory

@[simp] theorem patterns_setupDirectories (isProtected : Bool) :
    (router.setupDirectories isProtected).patterns =
      router.patterns ++ directoryPatterns router.config isProtected := by
  unfold setupDirectories directoryPatterns
  generalize router.config.http.directories = directories
  induction directories generalizing router with
  | nil => simp
  | cons directory rest ih =>
      rw [List.foldl_cons, ih, patterns_setupDirectory, List.append_assoc,
        filterMap_directoryPattern_cons]

@[simp] theorem config_setupOidcRoutes :
    (router.setupOidcRoutes platform).config = router.config := by
  unfold setupOidcRoutes
  split
  · split
    · rfl
    · rfl
  · rfl

@[simp] theorem patterns_setupOidcRoutes :
    (router.setupOidcRoutes platform).patterns =
      router.patterns ++ codeFlowPatterns router.config := by
  unfold setupOidcRoutes codeFlowPatterns
  cases router.config.http.oidc with
  | none => simp
  | some oidc =>
      cases runs : runsCodeFlow router.config oidc with
      | false => simp [runs]
      | true => simp [runs]

end Patterns

section Rules

variable {Layer HeaderValue : Type} {crates : Crates Layer HeaderValue} {platform : Platform}
  {startup : Startup} {router : FluentRouter} {onDone : FluentRouter → Prop}
  {onFailed : Error → Prop}

theorem ensures_tryRoute {path : String} {endpoint : Endpoint} :
    (router.tryRoute crates path endpoint).Ensures onDone onFailed ↔
      Fits crates router.patterns [.exact path] ∧ onDone (router.route path endpoint) := by
  rw [← admits_iff]
  exact Attempt.ensures_ite

theorem ensures_tryRouteLayers {layers : List Middleware} :
    (router.tryRouteLayers layers).Ensures onDone onFailed ↔
      (layers ≠ [] → router.patterns ≠ []) ∧ onDone (router.routeLayers layers) := by
  refine Attempt.ensures_ite.trans (and_congr_left' ?_)
  cases layers with
  | nil => simp
  | cons layer rest => cases router.patterns <;> simp

theorem ensures_tryDirectory {isProtected : Bool} {directory : StaticDirConfig} :
    (router.tryDirectory crates isProtected directory).Ensures onDone onFailed ↔
      Fits crates router.patterns (directoryPattern isProtected directory).toList ∧
        onDone (router.setupDirectory isProtected directory) := by
  unfold tryDirectory setupDirectory directoryPattern
  cases directory.route with
  | route path =>
      cases directory.isProtected == isProtected with
      | true =>
          refine Attempt.ensures_ite.trans (and_congr_left' ?_)
          exact admits_iff
      | false => exact (and_iff_right fits_nil).symm
  | fallback enabled => exact (and_iff_right fits_nil).symm

/-- The loop over the directories registers their patterns one after the other. -/
theorem ensures_trySetupDirectories {isProtected : Bool} :
    (router.trySetupDirectories crates isProtected).Ensures onDone onFailed ↔
      Fits crates router.patterns (directoryPatterns router.config isProtected) ∧
        onDone (router.setupDirectories isProtected) := by
  refine (Attempt.ensures_foldlM (fun _ _ _ => ensures_tryDirectory) _ _).trans
    (and_congr_left' ?_)
  unfold directoryPatterns
  generalize router.config.http.directories = directories
  induction directories generalizing router with
  | nil => exact iff_of_true trivial fits_nil
  | cons directory rest ih =>
      rw [filterMap_directoryPattern_cons, fits_append, ← patterns_setupDirectory]
      exact and_congr_right' ih

theorem ensures_trySetupOidc :
    (router.trySetupOidc platform startup).Ensures onDone onFailed ↔
      (Attempt.ofExcept (startup.fetchKeys router.config)).Ensures
        (fun _ => (bearerLayers platform router.config ≠ [] → router.patterns ≠ []) ∧
          onDone (router.setupOidc platform)) onFailed := by
  simp only [trySetupOidc, Attempt.ensures_bind, ensures_tryRouteLayers, Attempt.ensures_pure]
  rfl

/-- Three routes registered one after the other. -/
theorem fits_three {existing : List RoutePattern} {first second third : RoutePattern} :
    Fits crates existing [first, second, third] ↔
      Fits crates existing [first] ∧ Fits crates (existing ++ [first]) [second] ∧
        Fits crates (existing ++ [first] ++ [second]) [third] := by
  rw [← fits_append, ← fits_append]
  rfl

theorem ensures_trySetupOidcRoutes :
    (router.trySetupOidcRoutes crates platform startup).Ensures onDone onFailed ↔
      (Attempt.ofExcept (startup.discover router.config)).Ensures
        (fun _ => Fits crates router.patterns (codeFlowPatterns router.config) ∧
          onDone (router.setupOidcRoutes platform)) onFailed := by
  unfold trySetupOidcRoutes
  refine Attempt.ensures_bind.trans (Attempt.ensures_congr fun _ => ?_)
  unfold setupOidcRoutes codeFlowPatterns
  cases router.config.http.oidc with
  | none => exact (and_iff_right fits_nil).symm
  | some oidc =>
      cases runs : runsCodeFlow router.config oidc with
      | false =>
          simp only [runs, Bool.false_eq_true, if_false]
          exact (and_iff_right fits_nil).symm
      | true =>
          simp only [runs, if_true, Attempt.ensures_bind, ensures_tryRoute, patterns_route,
            Attempt.ensures_pure, fits_three, and_assoc]

theorem ensures_trySetupSessionHandling :
    (router.trySetupSessionHandling platform startup).Ensures onDone onFailed ↔
      (Attempt.ofExcept (startup.openStore router.config)).Ensures
        (fun _ => onDone (router.setupSessionHandling platform)) onFailed :=
  Attempt.ensures_bind

theorem ensures_trySetupCors (documented : crates.cors.DocumentedRules crates.corsRules) :
    (router.trySetupCors crates).Ensures onDone onFailed ↔
      refusesCors crates.cors router.config = false ∧ onDone router := by
  rw [← combinesWildcard_setupCors documented, trySetupCors]
  cases setupCors crates.cors router.config with
  | none => simp
  | some layer => simp [Attempt.ensures_require]

theorem ensures_trySetupRateLimiting
    (finish : ∀ period burst, crates.finishGovernor period burst = true ↔ 0 < period ∧ 0 < burst) :
    (router.trySetupRateLimiting crates).Ensures onDone onFailed ↔
      (limitsRate router.config = true → router.config.http.maxRequestsPerSec ≤ 1000000000) ∧
        onDone router := by
  unfold trySetupRateLimiting
  cases limits : limitsRate router.config with
  | false => simp
  | true =>
      have positive : 0 < router.config.http.maxRequestsPerSec := by
        simp only [limitsRate, Bool.and_eq_true, decide_eq_true_eq] at limits
        exact limits.1
      simp [Attempt.ensures_require, finish, positive, Nat.div_pos_iff]

/-- A probe that is enabled registers its route. -/
theorem ensures_tryProbe {enabled : Bool} {path : String} {endpoint : Endpoint} :
    (if enabled then router.tryRoute crates path endpoint else return router : Building).Ensures
        onDone onFailed ↔
      Fits crates router.patterns
          ((if enabled then [({ pattern := .exact path, endpoint } : Route)] else []).map
            Route.pattern) ∧
        onDone (router.addRoutes
          (if enabled then [{ pattern := .exact path, endpoint }] else [])) := by
  cases enabled with
  | true => exact ensures_tryRoute
  | false =>
      have unchanged : router.addRoutes [] = router := by simp [addRoutes]
      simp only [Bool.false_eq_true, if_false, Attempt.ensures_pure, unchanged]
      exact (and_iff_right fits_nil).symm

theorem ensures_trySetupMetrics :
    (router.trySetupMetrics crates).Ensures onDone onFailed ↔
      Fits crates router.patterns ((metricsRoutes router.config).map Route.pattern) ∧
        onDone (router.addRoutes (metricsRoutes router.config)) :=
  ensures_tryProbe

theorem ensures_trySetupReadiness :
    (router.trySetupReadiness crates).Ensures onDone onFailed ↔
      Fits crates router.patterns ((readinessRoutes router.config).map Route.pattern) ∧
        onDone (router.addRoutes (readinessRoutes router.config)) :=
  ensures_tryProbe

theorem ensures_trySetupLiveness :
    (router.trySetupLiveness crates).Ensures onDone onFailed ↔
      Fits crates router.patterns ((livenessRoutes router.config).map Route.pattern) ∧
        onDone (router.addRoutes (livenessRoutes router.config)) :=
  ensures_tryProbe

theorem setupFallbackFiles_addRoutes (added : List Route) :
    (router.addRoutes added).setupFallbackFiles = router.setupFallbackFiles.addRoutes added := by
  unfold setupFallbackFiles
  simp only [config_addRoutes]
  split
  · rfl
  · rfl

theorem addRoutes_addRoutes (front back : List Route) :
    (router.addRoutes front).addRoutes back = router.addRoutes (front ++ back) := by
  simp [addRoutes, List.append_assoc]

theorem ensures_trySetupOutside (documented : crates.Documented) :
    (router.trySetupOutside crates).Ensures onDone onFailed ↔
      refusesCors crates.cors router.config = false ∧
        Fits crates router.patterns ((probeRoutes router.config).map Route.pattern) ∧
        (limitsRate router.config = true → router.config.http.maxRequestsPerSec ≤ 1000000000) ∧
        onDone (router.setupFallbackFiles.addRoutes (probeRoutes router.config)) := by
  simp only [trySetupOutside, Attempt.ensures_bind, ensures_trySetupCors documented.cors_rules,
    ensures_trySetupMetrics, ensures_trySetupReadiness, ensures_trySetupLiveness,
    ensures_trySetupRateLimiting documented.finishGovernor_iff, Attempt.ensures_pure,
    patterns_addRoutes, config_addRoutes, addRoutes_addRoutes, setupFallbackFiles_addRoutes,
    probeRoutes, List.map_append, fits_append, List.append_assoc]
  tauto

/-- The router of `setupMiddleware` with the probe routes. -/
def built (platform : Platform) (router : FluentRouter) : FluentRouter :=
  (router.setupMiddleware platform).addRoutes (probeRoutes router.config)

/-- The weakest precondition of `setup_middleware`, step by step. -/
theorem ensures_trySetupMiddleware (documented : crates.Documented) :
    (router.trySetupMiddleware crates platform startup).Ensures onDone onFailed ↔
      Fits crates router.patterns (directoryPatterns router.config true) ∧
      (browserRedirectLayers platform router.config ≠ [] →
        router.patterns ++ directoryPatterns router.config true ≠ []) ∧
      (Attempt.ofExcept (startup.fetchKeys router.config)).Ensures
        (fun _ =>
          (bearerLayers platform router.config ≠ [] →
            router.patterns ++ directoryPatterns router.config true ≠ []) ∧
          (basicLayers platform router.config ≠ [] →
            router.patterns ++ directoryPatterns router.config true ≠ []) ∧
          (proxyLayers platform router.config ≠ [] →
            router.patterns ++ directoryPatterns router.config true ≠ []) ∧
          Fits crates (router.patterns ++ directoryPatterns router.config true)
            (directoryPatterns router.config false) ∧
          (Attempt.ofExcept (startup.discover router.config)).Ensures
            (fun _ =>
              Fits crates
                (router.patterns ++ directoryPatterns router.config true ++
                  directoryPatterns router.config false)
                (codeFlowPatterns router.config) ∧
              (Attempt.ofExcept (startup.openStore router.config)).Ensures
                (fun _ =>
                  refusesCors crates.cors router.config = false ∧
                  Fits crates
                    (router.patterns ++ directoryPatterns router.config true ++
                      directoryPatterns router.config false ++ codeFlowPatterns router.config)
                    ((probeRoutes router.config).map Route.pattern) ∧
                  (limitsRate router.config = true →
                    router.config.http.maxRequestsPerSec ≤ 1000000000) ∧
                  onDone (router.built platform))
                onFailed)
            onFailed)
        onFailed := by
  simp only [trySetupMiddleware, Attempt.ensures_bind, ensures_trySetupDirectories,
    trySetupBrowserLoginRedirect, ensures_tryRouteLayers, ensures_trySetupOidc,
    trySetupBasicAuth, trySetupProxyOidc, ensures_trySetupOidcRoutes,
    ensures_trySetupSessionHandling, ensures_trySetupOutside documented,
    patterns_setupDirectories, patterns_routeLayers, config_routeLayers,
    config_setupDirectories, setupOidc, setupUserSpan, setupSessionHandling, patterns_layers,
    config_layers, config_setupOidcRoutes, patterns_setupOidcRoutes, built, setupMiddleware,
    setupProtectedFiles, setupBrowserLoginRedirect, setupBasicAuth, setupProxyOidc,
    setupPublicFiles]

end Rules

end FluentRouter

section Soundness

variable {Layer HeaderValue : Type}

/-- The user's routes are disjoint from the framework's own. -/
def BesideFramework (crates : Crates Layer HeaderValue) (router : FluentRouter) : Prop :=
  ∀ earlier ∈ router.patterns, ∀ later ∈ frameworkPatterns router.config,
    crates.clashes earlier later = false

def BuildsWithoutPanic (crates : Crates Layer HeaderValue) (platform : Platform)
    (router : FluentRouter) : Prop :=
  ∀ startup, router.trySetupMiddleware crates platform startup ≠ .panicked

/-- What the builders demand of the configuration and of the user's routes; the checks of the
configuration look at none of it. -/
structure Sound (crates : Crates Layer HeaderValue) (router : FluentRouter) : Prop where
  taken : ∀ pattern ∈ frameworkPatterns router.config, crates.takesPattern pattern = true
  apart : (frameworkPatterns router.config).Pairwise fun earlier later =>
    crates.clashes earlier later = false
  wrapsRoutes : addsRouteLayer router.config = true →
    router.patterns ++ directoryPatterns router.config true ≠ []
  cors : refusesCors crates.cors router.config = false
  rate : limitsRate router.config = true → router.config.http.maxRequestsPerSec ≤ 1000000000

variable {crates : Crates Layer HeaderValue} {platform : Platform} {startup : Startup}
  {router : FluentRouter}

/-- A call that leaves the process failed with this error. -/
def Startup.Fails (startup : Startup) (config : Config) (problem : Error) : Prop :=
  startup.fetchKeys config = .error problem ∨ startup.discover config = .error problem ∨
    startup.openStore config = .error problem

section RouteLayers

variable {config : Config}

theorem addsRouteLayer_iff :
    addsRouteLayer config = true ↔
      bearerLayers platform config ≠ [] ∨ basicLayers platform config ≠ [] ∨
        proxyLayers platform config ≠ [] := by
  simp only [bearerLayers, basicLayers, proxyLayers, layerOf_ne_nil, addsRouteLayer, usesOidc,
    Bool.or_eq_true, or_assoc]

/-- Browsers are only redirected where bearer tokens are read. -/
theorem bearerLayers_of_browserRedirectLayers
    (redirects : browserRedirectLayers platform config ≠ []) :
    bearerLayers platform config ≠ [] := by
  simp only [browserRedirectLayers, bearerLayers, layerOf_ne_nil, Option.any_eq_true,
    redirectsToLogin, Bool.and_eq_true] at redirects ⊢
  rcases redirects with ⟨oidc, configured, _, enabled⟩
  exact ⟨oidc, configured, enabled⟩

end RouteLayers

theorem fits_frameworkPatterns (beside : BesideFramework crates router) :
    Fits crates router.patterns (frameworkPatterns router.config) ↔
      (∀ pattern ∈ frameworkPatterns router.config, crates.takesPattern pattern = true) ∧
        (frameworkPatterns router.config).Pairwise fun earlier later =>
          crates.clashes earlier later = false :=
  ⟨fun fits => ⟨fits.taken, fits.apart⟩, fun ⟨taken, apart⟩ => ⟨taken, beside, apart⟩⟩

/-- When every call that leaves the process succeeds, each step is reached. -/
theorem steps_of_buildsWithoutPanic (documented : crates.Documented)
    (builds : BuildsWithoutPanic crates platform router) :
    Fits crates router.patterns (frameworkPatterns router.config) ∧
      (addsRouteLayer router.config = true →
        router.patterns ++ directoryPatterns router.config true ≠ []) ∧
      refusesCors crates.cors router.config = false ∧
      (limitsRate router.config = true →
        router.config.http.maxRequestsPerSec ≤ 1000000000) := by
  have keys : ({} : Startup).fetchKeys router.config = .ok () := by simp [Startup.fetchKeys]
  have discovery : ({} : Startup).discover router.config = .ok () := by simp [Startup.discover]
  have store : ({} : Startup).openStore router.config = .ok () := by simp [Startup.openStore]
  have survives := Attempt.ensures_true_iff.mpr (builds {})
  simp only [FluentRouter.ensures_trySetupMiddleware documented, keys, discovery, store,
    Attempt.ofExcept, Attempt.ensures_done] at survives
  rcases survives with ⟨mounted, _, bearer, basic, proxy, mountedPublic, flow, cors, probes, rate,
    _⟩
  refine ⟨?_, ?_, cors, rate⟩
  · simp only [frameworkPatterns, fits_append, ← List.append_assoc]
    exact ⟨⟨⟨mounted, mountedPublic⟩, flow⟩, probes⟩
  · intro adds
    rcases (@addsRouteLayer_iff platform _).mp adds with bearers | basics | proxies
    · exact bearer bearers
    · exact basic basics
    · exact proxy proxies

theorem Sound.of_buildsWithoutPanic (documented : crates.Documented)
    (beside : BesideFramework crates router)
    (builds : BuildsWithoutPanic crates platform router) : Sound crates router := by
  rcases steps_of_buildsWithoutPanic documented builds with ⟨fits, wrapsRoutes, cors, rate⟩
  rcases (fits_frameworkPatterns beside).mp fits with ⟨taken, apart⟩
  exact ⟨taken, apart, wrapsRoutes, cors, rate⟩

/-- With sound settings building ends with the router or with the error of a call that left the
process. -/
theorem Sound.ensures (sound : Sound crates router) (documented : crates.Documented)
    (beside : BesideFramework crates router) :
    (router.trySetupMiddleware crates platform startup).Ensures
      (fun built => built = router.built platform) (startup.Fails router.config) := by
  have fits := (fits_frameworkPatterns beside).mpr ⟨sound.taken, sound.apart⟩
  simp only [frameworkPatterns, fits_append, ← List.append_assoc] at fits
  rcases fits with ⟨⟨⟨mounted, mountedPublic⟩, flow⟩, probes⟩
  have wraps := fun adds => sound.wrapsRoutes ((@addsRouteLayer_iff platform _).mpr adds)
  rw [FluentRouter.ensures_trySetupMiddleware documented]
  refine ⟨mounted, ?_, Attempt.ensures_ofExcept.mpr ⟨?_, fun problem failed => .inl failed⟩⟩
  · intro redirects
    exact wraps (.inl (bearerLayers_of_browserRedirectLayers redirects))
  · intro _ _
    refine ⟨fun bearers => wraps (.inl bearers), fun basics => wraps (.inr (.inl basics)),
      fun proxies => wraps (.inr (.inr proxies)), mountedPublic,
      Attempt.ensures_ofExcept.mpr ⟨?_, fun problem failed => .inr (.inl failed)⟩⟩
    intro _ _
    refine ⟨flow, Attempt.ensures_ofExcept.mpr ⟨?_, fun problem failed => .inr (.inr failed)⟩⟩
    intro _ _
    exact ⟨sound.cors, probes, sound.rate, rfl⟩

/-- No run of the builders panics exactly when the settings are sound. -/
theorem buildsWithoutPanic_iff_sound (documented : crates.Documented)
    (beside : BesideFramework crates router) :
    BuildsWithoutPanic crates platform router ↔ Sound crates router := by
  constructor
  · intro builds
    exact Sound.of_buildsWithoutPanic documented beside builds
  · intro sound startup panics
    have ensured := @Sound.ensures _ _ _ platform startup _ sound documented beside
    rw [panics] at ensured
    exact ensured

/-- With sound settings and every call that leaves the process successful, the router is built. -/
theorem trySetupMiddleware_eq_done (documented : crates.Documented)
    (beside : BesideFramework crates router) (sound : Sound crates router)
    (succeeds : ∀ problem, ¬startup.Fails router.config problem) :
    router.trySetupMiddleware crates platform startup = .done (router.built platform) := by
  apply Attempt.eq_done_of_ensures
  have ensured := @Sound.ensures _ _ _ platform startup _ sound documented beside
  exact ensured.mono (fun _ same => same) fun problem failed => succeeds problem failed

section Paths

variable (sound : Sound crates router) (documented : crates.Documented)

include sound documented

/-- No two of the framework's routes are the same. -/
theorem Sound.nodup : (frameworkPatterns router.config).Nodup := by
  apply sound.apart.imp
  intro earlier later apart same
  rw [same, documented.clashes_self later] at apart
  cases apart

theorem Sound.leadsWithSlash {path : String}
    (registered : RoutePattern.exact path ∈ frameworkPatterns router.config) :
    Text.startsWith path "/" = true :=
  documented.exact_leadsWithSlash path (sound.taken _ registered)

/-- No directory is mounted at the root. -/
theorem Sound.mountsBelowRoot {path : String}
    (registered : RoutePattern.nested path ∈ frameworkPatterns router.config) :
    Text.startsWith path "/" = true ∧ path ≠ "/" :=
  documented.nested_leadsWithSlash path (sound.taken _ registered)

end Paths

end Soundness

def RoutePattern.path : RoutePattern → String
  | .exact path => path
  | .nested path => path

/-- Crates that take every path with a leading slash and refuse a second route at the same path. -/
def plainCrates : Crates CorsRules String where
  takesPattern := fun pattern =>
    match pattern with
    | .exact path => Text.startsWith path "/"
    | .nested path => Text.startsWith path "/" && path != "/"
  clashes := fun earlier later => earlier.path == later.path
  cors := rulesBuilder
  corsRules := id
  finishGovernor := fun period burst => 0 < period && 0 < burst

theorem plainCrates_documented : plainCrates.Documented := by
  constructor
  · intro path taken
    exact taken
  · intro path taken
    simpa [plainCrates] using taken
  · intro pattern
    simp [plainCrates]
  · intro period burst
    simp [plainCrates]
  · exact rulesBuilder_documented

theorem buildsWithoutPanic_iff_sound_default :
    BuildsWithoutPanic plainCrates subjectlessPlatform (withUserRoutes {} ["/users"]) ↔
      Sound plainCrates (withUserRoutes {} ["/users"]) :=
  buildsWithoutPanic_iff_sound plainCrates_documented (by
    unfold BesideFramework
    decide +kernel)

/-- Two requests in each nanosecond. -/
def unlimitedRateConfig : Config where
  http := { maxRequestsPerSec := 2000000000 }

/-- An accepted configuration whose rate is above one request in each nanosecond. -/
theorem not_buildsWithoutPanic :
    unlimitedRateConfig.http.validate = .ok () ∧
      BesideFramework plainCrates (withUserRoutes unlimitedRateConfig ["/users"]) ∧
      ¬BuildsWithoutPanic plainCrates subjectlessPlatform
        (withUserRoutes unlimitedRateConfig ["/users"]) := by
  have beside : BesideFramework plainCrates (withUserRoutes unlimitedRateConfig ["/users"]) := by
    unfold BesideFramework
    decide +kernel
  refine ⟨by decide +kernel, beside, ?_⟩
  intro builds
  have sound := Sound.of_buildsWithoutPanic plainCrates_documented beside builds
  have limited := sound.rate (by decide)
  exact absurd limited (by decide)

end AxumConf.Fluent
