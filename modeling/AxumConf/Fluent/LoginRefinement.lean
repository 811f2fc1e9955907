import AxumConf.Fluent.LoginState

/-!
# Visits and the login state

Visits that follow one another take the session from one state of the login to the next, through all
layers of the finished router, and every identity that an endpoint sees can be told from the state
and the request.
-/

namespace AxumConf.Fluent

open Auth Tower

section Routes

variable {platform : Platform} {config : Config} {paths : List String} {route : Route}

/-- Only the handlers of the code flow change the state. -/
def isFlow : Endpoint → Bool
  | .login | .callback | .logout => true
  | _ => false

theorem handleState_of_not_flow {endpoint : Endpoint} (other : isFlow endpoint = false)
    (visit : SessionVisit) (state : LoginState) : visit.handleState endpoint state = state := by
  cases endpoint with
  | login => cases other
  | callback => cases other
  | logout => cases other
  | _ => rfl

/-- The layers that a route of the finished router has, by its endpoint. -/
inductive HasLayers (platform : Platform) (config : Config) (route : Route) : Prop where
  | inner : isInner route.endpoint = true → isFlow route.endpoint = false →
      route.layers = authenticationLayers platform config ++ preparingLayers platform config →
      HasLayers platform config route
  | notFound : route.endpoint = .notFound →
      route.layers = sessionIdentityLayers platform config ++ preparingLayers platform config →
      HasLayers platform config route
  | outer : isInner route.endpoint = false → route.endpoint ≠ .notFound →
      route.layers = preparingLayers platform config → HasLayers platform config route
  | bare : isInner route.endpoint = false → route.endpoint ≠ .notFound →
      isFlow route.endpoint = false → route.layers = [] → HasLayers platform config route

theorem layers_within_bare {added : List AddedLayer} (bare : route.layers = []) :
    (route.within platform config added).layers =
      added.flatMap (AddedLayer.middleware platform config) := by
  rw [Route.within, Route.wrap, bare, List.nil_append]

theorem flatMap_insideLayers :
    insideLayers.flatMap (AddedLayer.middleware platform config) =
      authenticationLayers platform config ++ preparingLayers platform config := by
  simp [insideLayers, AddedLayer.middleware, AuthRouteLayer.middleware, authenticationLayers,
    preparingLayers]

theorem flatMap_outsideLayers :
    outsideLayers.flatMap (AddedLayer.middleware platform config) =
      preparingLayers platform config := by
  simp [outsideLayers, AddedLayer.middleware, preparingLayers]

theorem flatMap_fallbackLayers :
    fallbackLayers.flatMap (AddedLayer.middleware platform config) =
      sessionIdentityLayers platform config ++ preparingLayers platform config := by
  simp [fallbackLayers, AddedLayer.middleware, preparingLayers]

theorem endpoint_directoryRoutes {isProtected : Bool}
    (member : route ∈ directoryRoutes config isProtected) :
    isInner route.endpoint = isProtected ∧ route.endpoint ≠ .notFound ∧
      isFlow route.endpoint = false := by
  rcases List.mem_filterMap.mp member with ⟨directory, -, registers⟩
  unfold directoryRoute at registers
  split at registers
  · split at registers
    · rename_i same
      cases registers
      exact ⟨by simpa [isInner] using same, by simp, rfl⟩
    · cases registers
  · cases registers

theorem endpoint_codeFlowRoutes (member : route ∈ codeFlowRoutes config) :
    isInner route.endpoint = false ∧ route.endpoint ≠ .notFound := by
  unfold codeFlowRoutes at member
  split at member
  · split at member
    · simp only [List.mem_cons, List.not_mem_nil, or_false] at member
      rcases member with rfl | rfl | rfl
      · exact ⟨rfl, by simp⟩
      · exact ⟨rfl, by simp⟩
      · exact ⟨rfl, by simp⟩
    · cases member
  · cases member

theorem endpoint_probeRoutes (member : route ∈ probeRoutes config) :
    isInner route.endpoint = false ∧ route.endpoint ≠ .notFound ∧
      isFlow route.endpoint = false := by
  simp only [probeRoutes, metricsRoutes, readinessRoutes, livenessRoutes, List.mem_append]
    at member
  rcases member with (isMetrics | isReadiness) | isLiveness
  · split at isMetrics
    · rw [List.mem_singleton.mp isMetrics]
      exact ⟨rfl, by simp, rfl⟩
    · cases isMetrics
  · split at isReadiness
    · rw [List.mem_singleton.mp isReadiness]
      exact ⟨rfl, by simp, rfl⟩
    · cases isReadiness
  · split at isLiveness
    · rw [List.mem_singleton.mp isLiveness]
      exact ⟨rfl, by simp, rfl⟩
    · cases isLiveness

theorem endpoint_userRoutes (member : route ∈ (withUserRoutes config paths).routes) :
    isInner route.endpoint = true ∧ isFlow route.endpoint = false := by
  rcases List.mem_map.mp member with ⟨path, -, rfl⟩
  exact ⟨rfl, rfl⟩

theorem hasLayers_built (accepted : config.http.Accepted) (path : String) :
    HasLayers platform config
      (((withUserRoutes config paths).built platform).routeOf platform path) := by
  have found := routeOf_mem platform ((withUserRoutes config paths).built platform) path
  generalize ((withUserRoutes config paths).built platform).routeOf platform path = route
    at found ⊢
  rcases found with isRegistered | isFallback
  · rw [FluentRouter.routes_built, List.mem_append, List.mem_append, List.mem_map, List.mem_map]
      at isRegistered
    rcases isRegistered with (⟨bare, isBare, rfl⟩ | ⟨bare, isBare, rfl⟩) | isProbe
    · rcases List.mem_append.mp isBare with isUser | isDirectory
      · have endpoint := endpoint_userRoutes isUser
        exact .inner endpoint.1 endpoint.2
          ((layers_within_bare (layers_userRoutes isUser)).trans flatMap_insideLayers)
      · have endpoint := endpoint_directoryRoutes isDirectory
        exact .inner endpoint.1 endpoint.2.2
          ((layers_within_bare (layers_directoryRoutes isDirectory)).trans flatMap_insideLayers)
    · rcases List.mem_append.mp isBare with isDirectory | isFlow
      · have endpoint := endpoint_directoryRoutes isDirectory
        exact .outer endpoint.1 endpoint.2.1
          ((layers_within_bare (layers_directoryRoutes isDirectory)).trans flatMap_outsideLayers)
      · have endpoint := endpoint_codeFlowRoutes isFlow
        exact .outer endpoint.1 endpoint.2
          ((layers_within_bare (layers_codeFlowRoutes isFlow)).trans flatMap_outsideLayers)
    · have endpoint := endpoint_probeRoutes isProbe
      exact .bare endpoint.1 endpoint.2.1 endpoint.2.2 (layers_probeRoutes isProbe)
  · rcases FluentRouter.fallback_built platform (withUserRoutes config paths) with
      within | ⟨directory, member, fallback, unwrapped⟩
    · rw [isFallback, within]
      exact .notFound rfl ((layers_within_bare rfl).trans flatMap_fallbackLayers)
    · rw [isFallback, unwrapped]
      exact .bare (accepted.fallback_isPublic directory member fallback) (by simp) rfl rfl

end Routes

section Passing

variable {visit : SessionVisit} {config : Config} {paths : List String} {session : Session}
  {state : LoginState} {request : Request}

/-- Where a path leads does not depend on the session and the client that a visit finds. -/
theorem endpoint_found (visit : SessionVisit) (config : Config) (paths : List String)
    (session : Session) :
    (((withUserRoutes config paths).built (visit.found session)).routeOf (visit.found session)
      visit.head.path).endpoint = visit.endpoint config paths := by
  have patterns : ((withUserRoutes config paths).built (visit.found session)).routes.map
      Route.pattern = ((withUserRoutes config paths).built visit.platform).routes.map
        Route.pattern := by
    simp [FluentRouter.routes_built, Function.comp_def, Route.within, Route.wrap]
  have endpoints : ((withUserRoutes config paths).built (visit.found session)).routes.map
      Route.endpoint = ((withUserRoutes config paths).built visit.platform).routes.map
        Route.endpoint := by
    simp [FluentRouter.routes_built, Function.comp_def, Route.within, Route.wrap]
  have fallback : ((withUserRoutes config paths).built (visit.found session)).fallback.endpoint =
      ((withUserRoutes config paths).built visit.platform).fallback.endpoint := by
    cases configured : config.http.directories.find? StaticDirConfig.isFallback with
    | none =>
        rw [FluentRouter.fallback_built_of_none _ _ configured,
          FluentRouter.fallback_built_of_none _ _ configured]
        rfl
    | some directory =>
        rw [FluentRouter.fallback_built_of_some _ _ configured,
          FluentRouter.fallback_built_of_some _ _ configured]
  have reads : ∀ (platform : Platform) (router : FluentRouter) (path : String),
      (router.routeOf platform path).endpoint =
        ((platform.matchRoute (router.routes.map Route.pattern) path).bind fun position =>
          (router.routes.map Route.endpoint)[position]?).getD router.fallback.endpoint := by
    intro platform router path
    unfold FluentRouter.routeOf
    cases platform.matchRoute (router.routes.map Route.pattern) path with
    | none => rfl
    | some position =>
        simp only [Option.bind_some, List.getElem?_map]
        cases router.routes[position]? with
        | none => rfl
        | some route => rfl
  rw [SessionVisit.endpoint, reads, reads, patterns, endpoints, fallback]
  rfl

/-- The request has a session of this state. -/
def HoldsState (state : LoginState) (request : Request) : Prop :=
  ∃ session, request.session = some session ∧ Represents session state

/-- A layer answered, and left the session in this state. -/
def AnswersState (state : LoginState) : Outcome → Prop
  | .answered answer => ∃ session, answer.session = some session ∧ Represents session state
  | .handed _ _ => False

theorem Represents.insert_returnUrl (represents : Represents session state) (url : Json) :
    Represents (session.insert sessionReturnUrl url) state where
  readable := by simpa using represents.readable
  tokens := represents.tokens.of_sameOn (sameTokens_insert url (by decide))
  secrets := represents.secrets.of_sameOn (Session.sameOn_insert url (by decide))

theorem upholds_state {middleware : Middleware}
    (passes : ∀ request passed, middleware.inbound request = .ok passed →
      passed.session = request.session)
    (answers : ∀ request answer, HoldsState state request →
      middleware.inbound request = .error answer → AnswersState state (.answered answer)) :
    middleware.layer.Upholds (HoldsState state) (AnswersState state) where
  passes := by
    rintro request passed ⟨session, held, represents⟩ isPassed
    have same := passes request passed (Middleware.layer_inbound_ok.mp isPassed)
    exact ⟨session, same.trans held, represents⟩
  answers := by
    intro request outcome holds answered
    rcases Middleware.layer_inbound_error answered with ⟨answer, rfl⟩
    exact answers request answer holds (layer_inbound_answered.mp answered)

/-- The authentication layers leave the state of the session alone. -/
theorem upholds_authRouteLayer {platform : Platform} (layer : AuthRouteLayer)
    {middleware : Middleware} (member : middleware ∈ layer.middleware platform config) :
    middleware.layer.Upholds (HoldsState state) (AnswersState state) := by
  cases layer with
  | browserRedirect =>
      rcases mem_layerOf.mp member with ⟨oidc, -, rfl⟩
      apply upholds_state
      · intro request passed passes
        rw [← (browserRedirectMiddleware_ok_iff.mp passes).2]
      · rintro request answer ⟨session, held, represents⟩ answered
        rcases session_of_browserRedirect_error answered with ⟨url, same⟩
        rw [held] at same
        exact ⟨_, same, represents.insert_returnUrl url⟩
  | bearer =>
      rcases mem_layerOf.mp member with ⟨oidc, -, rfl⟩
      apply upholds_state
      · intro request passed passes
        rw [← (bearerAuthMiddleware_ok_iff.mp passes).2]
        rfl
      · rintro request answer ⟨session, held, represents⟩ answered
        exact ⟨session, (session_of_bearerAuth_error answered).trans held, represents⟩
  | basic =>
      rcases mem_layerOf.mp member with ⟨basic, -, rfl⟩
      apply upholds_state
      · intro request passed passes
        rw [← (basicAuthMiddleware_ok_iff.mp passes).2]
        rfl
      · rintro request answer ⟨session, held, represents⟩ answered
        exact ⟨session, (session_of_basicAuth_error answered).trans held, represents⟩
  | proxy =>
      rcases mem_layerOf.mp member with ⟨proxy, -, rfl⟩
      apply upholds_state
      · intro request passed passes
        simp only [proxyOidc, proxyOidcMiddleware_eq, Except.ok.injEq] at passes
        rw [← passes]
        rfl
      · intro request answer holds answered
        simp only [proxyOidc, proxyOidcMiddleware_eq, reduceCtorEq] at answered

/-- What the layers make of a request whose session has this state. -/
theorem admitted_state {platform : Platform} {layers : List Middleware}
    (authLayers : ∀ middleware ∈ layers, ∃ layer : AuthRouteLayer,
      middleware ∈ layer.middleware platform config)
    (holds : HoldsState state request) :
    (∀ passed, admitted (layers.map Middleware.layer) request = .ok passed →
      HoldsState state passed) ∧
    ∀ outcome, admitted (layers.map Middleware.layer) request = .error outcome →
      AnswersState state outcome := by
  apply admitted_upholds _ holds
  intro layer isLayer
  rcases List.mem_map.mp isLayer with ⟨middleware, member, rfl⟩
  rcases authLayers middleware member with ⟨auth, isAuth⟩
  exact upholds_authRouteLayer auth isAuth

/-- The request behind the session layer, if it came there with this identity. -/
theorem holdsState_throughSession (represents : Represents session state)
    (known : Option AuthenticatedIdentity) :
    HoldsState
        (if (activeCodeFlow config).isSome && known.isNone then visit.inspect state else state)
        (throughSession (visit.found session) config
          { arriving (visit.found session) config visit.head with identity := known }) ∧
      (throughSession (visit.found session) config
        { arriving (visit.found session) config visit.head with identity := known }).identity =
        known.or ((activeCodeFlow config).bind fun oidc =>
          visit.loggedIn oidc.rolesClaim state) := by
  unfold throughSession arriving
  cases activeCodeFlow config with
  | none =>
      refine ⟨⟨session, rfl, represents⟩, ?_⟩
      cases known with
      | none => rfl
      | some identity => rfl
  | some oidc =>
      cases known with
      | some identity =>
          have keeps : withSessionIdentity visit.platform.external oidc.rolesClaim
              { head := visit.head, identity := some identity, session := some session
                oidcClient := some visit.client.toOidcClient } = _ :=
            withSessionIdentity_keeps rfl
          exact ⟨⟨session, congrArg Request.session keeps, represents⟩,
            congrArg Request.identity keeps⟩
      | none =>
          rcases @represents_withSessionIdentity visit session state
            { head := visit.head, session := some session
              oidcClient := some visit.client.toOidcClient }
            oidc.rolesClaim rfl rfl rfl represents with ⟨after, isAfter, inspected, identity⟩
          exact ⟨⟨after, isAfter, inspected⟩, identity⟩

theorem acceptsCredentials_iff :
    visit.acceptsCredentials config = true ↔
      AcceptsCredentials (visit.found session) config visit.head := by
  unfold SessionVisit.acceptsCredentials AcceptsCredentials
  cases activeBasic config with
  | none => simp
  | some basic =>
      simp only [Option.all_some, Option.some.injEq, forall_eq']
      change _ ↔ (∀ response, tryAuthenticate visit.platform.external basic visit.head.headers ≠
        .invalidCredentials response) ∧
        (tryAuthenticate visit.platform.external basic visit.head.headers = .noCredentials →
          basicPassthrough config = true)
      cases tryAuthenticate visit.platform.external basic visit.head.headers with
      | authenticated identity => simp
      | invalidCredentials response => simp
      | noCredentials => simp

theorem acceptsToken_iff :
    visit.acceptsToken config = true ↔ AcceptsToken (visit.found session) config visit.head := by
  unfold SessionVisit.acceptsToken AcceptsToken
  cases activeOidc config with
  | none => simp
  | some oidc =>
      simp only [Option.all_some, Option.some.injEq, forall_eq', Bool.or_eq_true]
      exact Iff.rfl

theorem admitted_preparing :
    admitted ((preparingLayers (visit.found session) config).map Middleware.layer)
        { head := visit.head } =
      .ok (arriving (visit.found session) config visit.head) :=
  admitted_preparingLayers.mpr rfl

theorem admitted_credentialLayers {passed : Request} :
    admitted ((basicLayers (visit.found session) config ++
        proxyLayers (visit.found session) config).map Middleware.layer)
        (arriving (visit.found session) config visit.head) = .ok passed ↔
      AcceptsCredentials (visit.found session) config visit.head ∧
        credentialed (visit.found session) config visit.head = passed := by
  have nested : (basicLayers (visit.found session) config ++
        (proxyLayers (visit.found session) config ++
          preparingLayers (visit.found session) config)).map Middleware.layer =
      (basicLayers (visit.found session) config ++
        proxyLayers (visit.found session) config).map Middleware.layer ++
        (preparingLayers (visit.found session) config).map Middleware.layer := by
    simp
  rw [← admitted_credentials, nested, admitted_append, admitted_preparing]
  exact Iff.rfl

theorem mem_credentialLayers {platform : Platform} {middleware : Middleware}
    (member : middleware ∈ basicLayers platform config ++ proxyLayers platform config) :
    ∃ layer : AuthRouteLayer, middleware ∈ layer.middleware platform config := by
  rcases List.mem_append.mp member with isBasic | isProxy
  · exact ⟨.basic, isBasic⟩
  · exact ⟨.proxy, isProxy⟩

theorem mem_headLayers {platform : Platform} {middleware : Middleware}
    (member : middleware ∈ browserRedirectLayers platform config ++ bearerLayers platform config) :
    ∃ layer : AuthRouteLayer, middleware ∈ layer.middleware platform config := by
  rcases List.mem_append.mp member with isRedirect | isBearer
  · exact ⟨.browserRedirect, isRedirect⟩
  · exact ⟨.bearer, isBearer⟩

theorem isInspected_of_inner {endpoint : Endpoint} (inner : isInner endpoint = true) :
    visit.isInspected config endpoint =
      ((activeCodeFlow config).isSome && (visit.acceptsCredentials config &&
        (credentialIdentity visit.platform config visit.head).isNone)) := by
  have found : endpoint ≠ .notFound := by
    rintro rfl
    cases inner
  simp only [SessionVisit.isInspected, inner, beq_false_of_ne found, Bool.false_or, Bool.true_and]

/-- The layers around an inner route: those of credentials, the session layer, and those that look
at the head of the request and its identity. -/
theorem admitted_innerLayers :
    admitted ((authenticationLayers (visit.found session) config ++
        preparingLayers (visit.found session) config).map Middleware.layer)
        { head := visit.head } =
      (admitted ((basicLayers (visit.found session) config ++
          proxyLayers (visit.found session) config).map Middleware.layer)
          (arriving (visit.found session) config visit.head) >>=
        admitted ((sessionIdentityLayers (visit.found session) config).map Middleware.layer)) >>=
      admitted ((browserRedirectLayers (visit.found session) config ++
        bearerLayers (visit.found session) config).map Middleware.layer) := by
  have nested : (authenticationLayers (visit.found session) config ++
        preparingLayers (visit.found session) config).map Middleware.layer =
      (browserRedirectLayers (visit.found session) config ++
        bearerLayers (visit.found session) config).map Middleware.layer ++
      ((sessionIdentityLayers (visit.found session) config).map Middleware.layer ++
        ((basicLayers (visit.found session) config ++
          proxyLayers (visit.found session) config).map Middleware.layer ++
          (preparingLayers (visit.found session) config).map Middleware.layer)) := by
    simp [authenticationLayers]
  rw [nested, admitted_append, admitted_append, admitted_append, admitted_preparing]
  rfl

/-- What the layers around an inner route make of a visit, whether one of them answers or all let
it pass. -/
theorem admitted_inner (represents : Represents session state) {endpoint : Endpoint}
    (inner : isInner endpoint = true) :
    let layers := authenticationLayers (visit.found session) config ++
      preparingLayers (visit.found session) config
    let behind := if visit.isInspected config endpoint then visit.inspect state else state
    (∀ passed, admitted (layers.map Middleware.layer) { head := visit.head } = .ok passed →
      HoldsState behind passed) ∧
    ∀ outcome, admitted (layers.map Middleware.layer) { head := visit.head } = .error outcome →
      AnswersState behind outcome := by
  intro layers behind
  simp only [layers, behind, isInspected_of_inner inner, admitted_innerLayers]
  cases checked : admitted ((basicLayers (visit.found session) config ++
      proxyLayers (visit.found session) config).map Middleware.layer)
      (arriving (visit.found session) config visit.head) with
  | error refusal =>
      have refused : visit.acceptsCredentials config = false := by
        rw [← Bool.not_eq_true]
        intro accepts
        have passes := admitted_credentialLayers.mpr
          ⟨(@acceptsCredentials_iff visit config session).mp accepts, rfl⟩
        rw [checked] at passes
        cases passes
      have outside : HoldsState state (arriving (visit.found session) config visit.head) :=
        ⟨session, rfl, represents⟩
      have answers := (admitted_state (fun _ => mem_credentialLayers) outside).2 refusal checked
      simp only [refused, Bool.false_and, Bool.and_false, Bool.false_eq_true, if_false]
      constructor
      · rintro passed ⟨⟩
      · rintro outcome ⟨⟩
        exact answers
  | ok reached =>
      rcases admitted_credentialLayers.mp checked with ⟨accepts, rfl⟩
      have through := (@admitted_sessionIdentityLayers (visit.found session) config
        (credentialed (visit.found session) config visit.head) _).mpr rfl
      have holds := (@holdsState_throughSession visit config session state represents
        (credentialIdentity (visit.found session) config visit.head)).1
      simp only [acceptsCredentials_iff.mpr accepts, Bool.true_and, bind, Except.bind, through]
      exact admitted_state (fun _ => mem_headLayers) holds

end Passing

section Visits

variable {visit : SessionVisit} {config : Config} {paths : List String} {session : Session}
  {state behind : LoginState} {route : Route}

/-- The route that calls the visit's endpoint. -/
theorem exists_route (accepted : config.http.Accepted) (visit : SessionVisit)
    (paths : List String) (session : Session) :
    ∃ route, route.endpoint = visit.endpoint config paths ∧
      HasLayers (visit.found session) config route ∧
      visit.outcome config paths session = route.call { head := visit.head } :=
  ⟨((withUserRoutes config paths).built (visit.found session)).routeOf (visit.found session)
      visit.head.path,
    endpoint_found visit config paths session, hasLayers_built accepted visit.head.path, rfl⟩

theorem admitted_notFound :
    admitted ((sessionIdentityLayers (visit.found session) config ++
        preparingLayers (visit.found session) config).map Middleware.layer)
        { head := visit.head } =
      .ok (throughSession (visit.found session) config
        (arriving (visit.found session) config visit.head)) := by
  rw [List.map_append, admitted_append, admitted_preparing]
  exact admitted_sessionIdentityLayers.mpr rfl

/-- What a visit leaves, from what the layers of its route make of its request. -/
theorem represents_of_admitted (quiet : visit.IsQuiet)
    (calls : visit.outcome config paths session = route.call { head := visit.head })
    (passes : ∀ passed, admitted (route.layers.map Middleware.layer) { head := visit.head } =
      .ok passed → HoldsState behind passed)
    (answers : ∀ outcome, admitted (route.layers.map Middleware.layer) { head := visit.head } =
      .error outcome → AnswersState behind outcome ∧ isFlow route.endpoint = false) :
    Represents (visit.leaves config paths session) (visit.handleState route.endpoint behind) := by
  unfold SessionVisit.leaves
  rw [calls]
  cases admits : admitted (route.layers.map Middleware.layer) { head := visit.head } with
  | ok passed =>
      rcases passes passed admits with ⟨copy, held, represents⟩
      rw [Route.call_handed.mpr ⟨rfl, admits⟩]
      simp only [held, Option.map_some, Option.getD_some]
      exact represents_handles quiet represents route.endpoint
  | error outcome =>
      rcases answers outcome admits with ⟨isAnswer, other⟩
      cases outcome with
      | handed endpoint request => cases isAnswer
      | answered answer =>
          rcases isAnswer with ⟨copy, held, represents⟩
          rw [Route.call_answered.mpr admits, handleState_of_not_flow other]
          simp only [held, Option.getD_some]
          exact represents

/-- A visit takes the session from a state to the next. -/
theorem represents_leaves (accepted : config.http.Accepted) (quiet : visit.IsQuiet)
    (represents : Represents session state) :
    Represents (visit.leaves config paths session) (visit.next config paths state) := by
  rcases exists_route accepted visit paths session with ⟨route, isEndpoint, kind, calls⟩
  have isNext : visit.next config paths state =
      visit.handleState route.endpoint
        (if visit.isInspected config route.endpoint then visit.inspect state else state) := by
    rw [isEndpoint]
    rfl
  rw [isNext]
  cases kind with
  | inner isInner other layers =>
      have results := @admitted_inner visit config session state represents _ isInner
      rw [← layers] at results
      apply represents_of_admitted quiet calls results.1
      exact fun outcome answered => ⟨results.2 outcome answered, other⟩
  | notFound isNotFound layers =>
      have holds : HoldsState
          (if (activeCodeFlow config).isSome && true then visit.inspect state else state)
          (throughSession (visit.found session) config
            (arriving (visit.found session) config visit.head)) :=
        (holdsState_throughSession represents none).1
      apply represents_of_admitted quiet calls
      · rw [layers, admitted_notFound]
        rintro passed ⟨⟩
        simpa only [SessionVisit.isInspected, isNotFound, beq_self_eq_true, Bool.true_or]
          using holds
      · rw [layers, admitted_notFound]
        rintro outcome ⟨⟩
  | outer outer found layers =>
      have unseen : visit.isInspected config route.endpoint = false := by
        simp [SessionVisit.isInspected, outer, found]
      rw [unseen]
      apply represents_of_admitted quiet calls
      · rw [layers, admitted_preparing]
        rintro passed ⟨⟩
        exact ⟨session, rfl, represents⟩
      · rw [layers, admitted_preparing]
        rintro outcome ⟨⟩
  | bare outer found other layers =>
      have unseen : visit.isInspected config route.endpoint = false := by
        simp [SessionVisit.isInspected, outer, found]
      have handed : route.call { head := visit.head } =
          .handed route.endpoint { head := visit.head } :=
        Route.call_handed.mpr ⟨rfl, by rw [layers]; rfl⟩
      rw [unseen, handleState_of_not_flow other]
      simpa only [SessionVisit.leaves, calls, handed, Option.map_none, Option.getD_none,
        Bool.false_eq_true, if_false] using represents

/-- The state tells whom the session identifies. -/
theorem loggedIn_eq (represents : Represents session state) :
    ((activeCodeFlow config).bind fun oidc =>
      sessionIdentity (visit.found session) oidc.rolesClaim visit.head) =
      (activeCodeFlow config).bind fun oidc => visit.loggedIn oidc.rolesClaim state := by
  have read := (@holdsState_throughSession visit config session state represents none).2
  rw [throughSession_identity, Option.none_or, Option.none_or] at read
  exact read

theorem handlerIdentity_found (represents : Represents session state) {endpoint : Endpoint}
    (inner : isInner endpoint = true) (credentials : visit.acceptsCredentials config = true)
    (token : visit.acceptsToken config = true) :
    handlerIdentity (visit.found session) config visit.head =
      visit.identityIn config endpoint state := by
  have found : endpoint ≠ .notFound := by
    rintro rfl
    cases inner
  unfold handlerIdentity SessionVisit.identityIn
  rw [loggedIn_eq represents]
  simp only [found, inner, credentials, token, if_false, Bool.and_true, if_true]
  rfl

/-- An inner route hands its handler the identity of the state. -/
theorem identity_of_inner (represents : Represents session state) {endpoint : Endpoint}
    (inner : isInner endpoint = true) :
    (∀ passed, admitted ((authenticationLayers (visit.found session) config ++
        preparingLayers (visit.found session) config).map Middleware.layer)
          { head := visit.head } = .ok passed →
      passed.identity = visit.identityIn config endpoint state) ∧
    ∀ outcome, admitted ((authenticationLayers (visit.found session) config ++
        preparingLayers (visit.found session) config).map Middleware.layer)
          { head := visit.head } = .error outcome →
      visit.identityIn config endpoint state = none := by
  have found : endpoint ≠ .notFound := by
    rintro rfl
    cases inner
  constructor
  · intro passed passes
    rcases admitted_iff_identified.mp passes with ⟨admits, rfl⟩
    rw [identified_identity]
    exact handlerIdentity_found represents inner (acceptsCredentials_iff.mpr admits.credentials)
      (acceptsToken_iff.mpr admits.token)
  · intro outcome answered
    by_cases accepts : visit.acceptsCredentials config = true ∧ visit.acceptsToken config = true
    · have same := handlerIdentity_found represents inner accepts.1 accepts.2
      by_contra known
      have admits : Admits (visit.found session) config visit.head :=
        ⟨acceptsCredentials_iff.mp accepts.1, acceptsToken_iff.mp accepts.2,
          .inl (by rw [same]; exact Option.isSome_iff_ne_none.mpr known)⟩
      have passes := admitted_iff_identified.mpr ⟨admits, rfl⟩
      rw [passes] at answered
      cases answered
    · have refused : (visit.acceptsCredentials config && visit.acceptsToken config) = false := by
        rw [← Bool.not_eq_true, Bool.and_eq_true]
        exact accepts
      simp only [SessionVisit.identityIn, found, inner, if_false, Bool.true_and, refused,
        Bool.false_eq_true]

/-- The identity that an endpoint sees is that of the state. -/
theorem seenIdentity_eq (accepted : config.http.Accepted) (represents : Represents session state) :
    visit.seenIdentity config paths session =
      visit.identityIn config (visit.endpoint config paths) state := by
  rcases exists_route accepted visit paths session with ⟨route, isEndpoint, kind, calls⟩
  rw [← isEndpoint, SessionVisit.seenIdentity, calls]
  cases kind with
  | inner isInner other layers =>
      have identity := @identity_of_inner visit config session state represents _ isInner
      rw [← layers] at identity
      cases admits : admitted (route.layers.map Middleware.layer) { head := visit.head } with
      | ok passed =>
          rw [Route.call_handed.mpr ⟨rfl, admits⟩]
          exact identity.1 passed admits
      | error outcome =>
          have answers := (@admitted_inner visit config session state represents _ isInner).2
            outcome
          rw [← layers] at answers
          cases outcome with
          | handed endpoint request => exact (answers admits).elim
          | answered answer =>
              rw [Route.call_answered.mpr admits]
              exact (identity.2 _ admits).symm
  | notFound isNotFound layers =>
      rw [Route.call_handed.mpr ⟨rfl, by rw [layers]; exact admitted_notFound⟩]
      have identity := (@holdsState_throughSession visit config session state represents none).2
      rw [Option.none_or] at identity
      simp only [SessionVisit.identityIn, isNotFound, if_true]
      exact identity
  | outer outer found layers =>
      rw [Route.call_handed.mpr ⟨rfl, by rw [layers]; exact admitted_preparing⟩]
      simp only [SessionVisit.identityIn, found, outer, if_false, Bool.false_and,
        Bool.false_eq_true]
      rfl
  | bare outer found other layers =>
      rw [Route.call_handed.mpr ⟨rfl, by rw [layers]; rfl⟩]
      simp only [SessionVisit.identityIn, found, outer, if_false, Bool.false_and,
        Bool.false_eq_true]

/-- Visits that follow one another, each saving what it leaves, take the session from one state of
the login to the next, and every endpoint sees the identity that the state and its request
determine. -/
theorem visits_refine_login (valid : config.http.validate = .ok ())
    (represents : Represents session state) (visits : List SessionVisit)
    (quiet : ∀ visit ∈ visits, visit.IsQuiet) :
    let left := visits.foldl (fun copy visit => visit.leaves config paths copy) session
    let reached := visits.foldl (fun current visit => visit.next config paths current) state
    Represents left reached ∧ ∀ page : SessionVisit,
      page.seenIdentity config paths left =
        page.identityIn config (page.endpoint config paths) reached := by
  intro left reached
  have accepted := HttpConfig.accepted_of_validate valid
  have isReached : Represents left reached := by
    induction visits generalizing session state with
    | nil => exact represents
    | cons visit rest ih =>
        have quietRest : ∀ other ∈ rest, other.IsQuiet :=
          fun other member => quiet other (List.mem_cons_of_mem _ member)
        have step : Represents (visit.leaves config paths session)
            (visit.next config paths state) :=
          represents_leaves accepted (quiet visit (.head _)) represents
        exact ih step quietRest
  exact ⟨isReached, fun page => seenIdentity_eq accepted isReached⟩

end Visits

theorem isQuiet_annsVisit (path : String) (params : Option CallbackParams) :
    (annsVisit path params).IsQuiet where
  entries session := Session.SameOn.refl _ session
  readable _ readable := readable

def annsLogin : List SessionVisit :=
  [annsVisit "/auth/login" none,
    annsVisit "/auth/callback" (some { code := "ann", state := "state" })]

def loggedInState : LoginState :=
  annsLogin.foldl (fun current visit => visit.next codeFlowConfig ["/reports"] current) {}

theorem visits_refine_login_ann :
    Represents
        (annsLogin.foldl (fun copy visit => visit.leaves codeFlowConfig ["/reports"] copy)
          FlowState.new.session) loggedInState ∧
      ∀ page : SessionVisit,
        page.seenIdentity codeFlowConfig ["/reports"]
            (annsLogin.foldl (fun copy visit => visit.leaves codeFlowConfig ["/reports"] copy)
              FlowState.new.session) =
          page.identityIn codeFlowConfig (page.endpoint codeFlowConfig ["/reports"])
            loggedInState := by
  have fresh : Represents FlowState.new.session {} :=
    ⟨rfl, fun _ _ => rfl, fun _ _ => rfl⟩
  apply visits_refine_login (by decide +kernel) fresh
  intro visit member
  simp only [annsLogin, List.mem_cons, List.not_mem_nil, or_false] at member
  rcases member with rfl | rfl
  · exact isQuiet_annsVisit _ _
  · exact isQuiet_annsVisit _ _

example : loggedInState.tokens.map RefreshedTokens.access = some "ann-access" ∧
    ((annsVisit "/reports" none).identityIn codeFlowConfig (.user "/reports")
      loggedInState).map AuthenticatedIdentity.user = some "ann" := by
  decide +kernel

end AxumConf.Fluent
