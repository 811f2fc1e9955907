import AxumConf.Fluent.ProtectedFiles

/-!
# Which identity a handler sees

The stack with the OIDC code flow and Basic auth beside each other, without the browser redirect.
Basic auth is outermost and alone refuses requests; the session layer inside of it keeps an identity
that is there already, and the bearer layer, which is innermost, replaces it.
-/

namespace AxumConf.Fluent

open Auth Tower

section Identities

/-- The identity of a valid bearer token with a subject. -/
def bearerIdentity (external : External) (jwks : JwksProvider) (rolesClaim : String)
    (headers : Headers) : Option AuthenticatedIdentity :=
  (bearerToken external headers).bind fun token =>
    (validateToken external jwks token).toOption.bind fun claims =>
      claimsToIdentity claims rolesClaim (some token)

/-- The identity that Basic credentials or an API key yield. -/
def presentedIdentity : AuthOutcome → Option AuthenticatedIdentity
  | .authenticated identity => some identity
  | .invalidCredentials _ => none
  | .noCredentials => none

/-- The identity that `session_to_identity` yields for the session of the request. -/
def sessionIdentity (platform : Platform) (rolesClaim : String) (head : RequestHead) :
    Option AuthenticatedIdentity :=
  (withSessionIdentity platform.external rolesClaim (sessionRequest platform head)).identity

/-- The code flow and Basic auth are both enabled, and browsers are not redirected. -/
structure CodeFlowBesideBasic (config : Config) (oidc : HttpOidcConfig)
    (basic : HttpBasicAuthConfig) : Prop where
  oidc_eq : config.http.oidc = some oidc
  codeFlow : runsCodeFlow config oidc = true
  basic_eq : config.http.basicAuth = some basic
  basicEnabled : config.isMiddlewareEnabled .basicAuth = true
  noRedirect : oidc.autoRedirectToLogin = false

end Identities

variable {platform : Platform} {config : Config} {oidc : HttpOidcConfig}
  {basic : HttpBasicAuthConfig}

/-- In passthrough mode the bearer layer passes every request on, with its own identity first. -/
theorem bearerAuthMiddleware_passthrough {external : External} {jwks : JwksProvider}
    {bearer : BearerAuthConfig} (passthrough : bearer.passthrough = true) (request : Request) :
    bearerAuthMiddleware external jwks bearer request = .ok { request with
      identity := (bearerIdentity external jwks bearer.rolesClaim request.head.headers).or
        request.identity } := by
  simp only [bearerAuthMiddleware, bearerIdentity, passthrough, if_true]
  cases bearerToken external request.head.headers with
  | none => rfl
  | some token =>
      simp only [Option.bind_some]
      cases validateToken external jwks token with
      | error problem => rfl
      | ok claims =>
          simp only [Except.toOption, Option.bind_some]
          cases claimsToIdentity claims bearer.rolesClaim (some token) <;> rfl

/-- An identity that is there already is kept by the session layer. -/
theorem withSessionIdentity_keeps {external : External} {rolesClaim : String} {request : Request}
    (known : request.Identified) : withSessionIdentity external rolesClaim request = request := by
  have isKnown : request.identity.isSome = true := known
  simp [withSessionIdentity, isKnown]

theorem withSessionIdentity_head {external : External} {rolesClaim : String} {request : Request} :
    (withSessionIdentity external rolesClaim request).head = request.head :=
  (sessionToIdentity external rolesClaim).keepsHead request _ rfl

namespace CodeFlowBesideBasic

/-- The layers around the inner routes, innermost first. -/
theorem layers_eq (both : CodeFlowBesideBasic config oidc basic)
    (noProxy : config.http.proxyOidc = none) :
    authenticationLayers platform config ++ preparingLayers platform config =
      [bearerAuth platform.external platform.bearerKeys (bearerConfig oidc),
        sessionToIdentity platform.external oidc.rolesClaim,
        basicAuth platform.external basic (basicPassthrough config),
        oidcClientExtension platform, recordUserToSpan, sessionManager platform] := by
  have oidcEnabled : config.isMiddlewareEnabled .oidc = true := by
    have runs := both.codeFlow
    simp only [runsCodeFlow, Bool.and_eq_true] at runs
    exact runs.2
  have noRedirect : redirectsToLogin config oidc = false := by
    simp [redirectsToLogin, both.noRedirect]
  simp [authenticationLayers, preparingLayers, browserRedirectLayers, bearerLayers,
    sessionIdentityLayers, basicLayers, proxyLayers, oidcClientLayers, layerOf, both.oidc_eq,
    both.codeFlow, both.basic_eq, both.basicEnabled, noProxy, oidcEnabled, noRedirect]

/-- What comes out of the layers, by the outcome of Basic auth. -/
theorem admitted_eq (both : CodeFlowBesideBasic config oidc basic)
    (noProxy : config.http.proxyOidc = none) (head : RequestHead) :
    admitted ((authenticationLayers platform config ++ preparingLayers platform config).map
        Middleware.layer) { head } =
      ((basicAuthMiddleware platform.external basic (basicPassthrough config)
        (sessionRequest platform head)).mapError Outcome.answered) >>= fun presented =>
          ((bearerAuthMiddleware platform.external platform.bearerKeys (bearerConfig oidc)
            (withSessionIdentity platform.external oidc.rolesClaim presented)).mapError
              Outcome.answered) := by
  rw [both.layers_eq noProxy]
  simp only [List.map_cons, List.map_nil, admitted, Middleware.layer, sessionManager,
    recordUserToSpan, oidcClientExtension, basicAuth, sessionToIdentity, bearerAuth,
    Except.mapError, bind, Except.bind, sessionRequest]
  cases basicAuthMiddleware platform.external basic (basicPassthrough config)
      { head, session := some (platform.loadSession head)
        oidcClient := some platform.oidcClient } with
  | error answer => rfl
  | ok presented => rfl

theorem passthrough (both : CodeFlowBesideBasic config oidc basic) :
    basicPassthrough config = true ∧ (bearerConfig oidc).passthrough = true := by
  have runs := both.codeFlow
  simp only [runsCodeFlow, Bool.and_eq_true] at runs
  exact ⟨by simp [basicPassthrough, both.oidc_eq, runs.1], runs.1⟩

/-- Requests that Basic auth does not refuse leave it with the identity they presented, if any. -/
theorem basicAuthMiddleware_eq (both : CodeFlowBesideBasic config oidc basic) {head : RequestHead}
    (accepted : ∀ response,
      tryAuthenticate platform.external basic head.headers ≠ .invalidCredentials response) :
    basicAuthMiddleware platform.external basic (basicPassthrough config)
        (sessionRequest platform head) =
      .ok { sessionRequest platform head with
        identity := presentedIdentity (tryAuthenticate platform.external basic head.headers) } := by
  have seen : (sessionRequest platform head).head.headers = head.headers := rfl
  rw [basicAuthMiddleware, seen]
  cases outcome : tryAuthenticate platform.external basic head.headers with
  | authenticated identity => rfl
  | invalidCredentials response => exact absurd outcome (accepted response)
  | noCredentials =>
      simp only [both.passthrough.1, if_true]
      rfl

/-- The session layer yields the presented identity if there is one, and that of the session
otherwise. -/
theorem withSessionIdentity_identity (rolesClaim : String) (head : RequestHead)
    (presented : Option AuthenticatedIdentity) :
    (withSessionIdentity platform.external rolesClaim
        { sessionRequest platform head with identity := presented }).identity =
      presented.or (sessionIdentity platform rolesClaim head) := by
  cases presented with
  | none => rfl
  | some identity =>
      have known : Request.Identified
          { sessionRequest platform head with identity := some identity } := rfl
      rw [withSessionIdentity_keeps known]
      rfl

/-- Requests that Basic auth does not refuse reach the handler with the first identity of bearer
token, presented credentials and session. -/
theorem exists_admitted (both : CodeFlowBesideBasic config oidc basic)
    (noProxy : config.http.proxyOidc = none) {head : RequestHead}
    (accepted : ∀ response,
      tryAuthenticate platform.external basic head.headers ≠ .invalidCredentials response) :
    ∃ passed, admitted ((authenticationLayers platform config ++
        preparingLayers platform config).map Middleware.layer) { head } = .ok passed ∧
      passed.identity =
        (bearerIdentity platform.external platform.bearerKeys oidc.rolesClaim head.headers).or
          ((presentedIdentity (tryAuthenticate platform.external basic head.headers)).or
            (sessionIdentity platform oidc.rolesClaim head)) := by
  rw [both.admitted_eq noProxy, both.basicAuthMiddleware_eq accepted]
  simp only [Except.mapError, bind, Except.bind,
    bearerAuthMiddleware_passthrough both.passthrough.2, withSessionIdentity_identity]
  refine ⟨_, rfl, ?_⟩
  simp only [withSessionIdentity_head]
  rfl

/-- Requests with invalid credentials are answered by Basic auth. -/
theorem admitted_of_invalidCredentials (both : CodeFlowBesideBasic config oidc basic)
    (noProxy : config.http.proxyOidc = none) {head : RequestHead} {response : Response}
    (refused : tryAuthenticate platform.external basic head.headers =
      .invalidCredentials response) :
    admitted ((authenticationLayers platform config ++ preparingLayers platform config).map
        Middleware.layer) { head } =
      .error (.answered { response, session := some (platform.loadSession head) }) := by
  have seen : (sessionRequest platform head).head.headers = head.headers := rfl
  rw [both.admitted_eq noProxy, basicAuthMiddleware, seen, refused]
  rfl

end CodeFlowBesideBasic

/-- A request to a handler of the user or to a protected directory is refused if its Basic
credentials are invalid.  Otherwise the handler runs and sees the identity of the bearer token, else
that of the Basic credentials, else that of the session; the one layer that meets an identity which
takes precedence over its own keeps it. -/
theorem precedence_of_identities {platform : Platform} {config : Config} {oidc : HttpOidcConfig}
    {basic : HttpBasicAuthConfig} (valid : config.http.validate = .ok ())
    (both : CodeFlowBesideBasic config oidc basic) (paths : List String) {head : RequestHead}
    {endpoint : Endpoint} (inner : isInner endpoint = true)
    (leads : (((withUserRoutes config paths).setupMiddleware platform).routeOf platform
      head.path).endpoint = endpoint) :
    (∀ response,
      tryAuthenticate platform.external basic head.headers = .invalidCredentials response →
      ∀ handler request, ((withUserRoutes config paths).setupMiddleware platform).call platform
        head ≠ .handed handler request) ∧
    ((∀ response,
        tryAuthenticate platform.external basic head.headers ≠ .invalidCredentials response) →
      ∃ request, ((withUserRoutes config paths).setupMiddleware platform).call platform head =
          .handed endpoint request ∧
        request.identity =
          (bearerIdentity platform.external platform.bearerKeys oidc.rolesClaim head.headers).or
            ((presentedIdentity (tryAuthenticate platform.external basic head.headers)).or
              (sessionIdentity platform oidc.rolesClaim head))) ∧
    ∀ request : Request, request.Identified →
      withSessionIdentity platform.external oidc.rolesClaim request = request := by
  have accepted := HttpConfig.accepted_of_validate valid
  have noProxy := accepted.oidc_or_proxyOidc (by simp [both.oidc_eq])
  have wraps : WrapsInner config ((withUserRoutes config paths).setupMiddleware platform) _ :=
    WrapsInner.setupMiddleware accepted paths
  generalize (withUserRoutes config paths).setupMiddleware platform = router at wraps leads ⊢
  have layers := @WrapsInner.routeOf_layers platform config router _ wraps head.path
    (by rw [leads]; exact inner)
  refine ⟨?_, ?_, fun request known => withSessionIdentity_keeps known⟩
  · intro response refused handler request handed
    rcases Route.call_handed.mp handed with ⟨-, admits⟩
    rw [layers, both.admitted_of_invalidCredentials noProxy refused] at admits
    exact absurd admits (by simp)
  · intro notRefused
    rcases both.exists_admitted noProxy notRefused with ⟨passed, admits, identity⟩
    refine ⟨passed, Route.call_handed.mpr ⟨leads, ?_⟩, identity⟩
    rw [layers]
    exact admits

def continuousIntegration : BasicAuthApiKey where
  key := "key-1"
  name := some "ci"

def apiKeysBesideCodeFlow : HttpBasicAuthConfig where
  apiKeys := [continuousIntegration]

def besideConfig : Config where
  http := { codeFlowConfig.http with basicAuth := some apiKeysBesideCodeFlow }

/-- One signing key, all of whose tokens are Ann's. -/
def annsPlatform : Platform where
  external :=
    { subjectlessPlatform.external with
      decode := fun _ _ _ => some (.object [("sub", .string "ann")]) }
  bearerKeys := subjectlessPlatform.bearerKeys
  oidcClient := subjectlessPlatform.oidcClient
  loadSession := subjectlessPlatform.loadSession
  matchRoute := subjectlessPlatform.matchRoute
  holdsFile := subjectlessPlatform.holdsFile

/-- A request with a bearer token and an API key. -/
def twoCredentials : RequestHead where
  path := "/reports"
  pathAndQuery := some "/reports"
  headers := fun name =>
    if name = "authorization" then some (HeaderValue.ofText "Bearer token")
    else if name = "X-API-Key" then some (HeaderValue.ofText "key-1")
    else none
  peerIp := none

theorem twoCredentials_presentKey :
    presentedIdentity (tryAuthenticate annsPlatform.external apiKeysBesideCodeFlow
      twoCredentials.headers) = some (apiKeyIdentity continuousIntegration) := by
  decide +kernel

/-- The handler sees Ann, not the owner of the API key. -/
theorem precedence_of_identities_ann :
    presentedIdentity (tryAuthenticate annsPlatform.external apiKeysBesideCodeFlow
        twoCredentials.headers) = some (apiKeyIdentity continuousIntegration) ∧
      ∃ request, ((withUserRoutes besideConfig ["/reports"]).setupMiddleware annsPlatform).call
          annsPlatform twoCredentials = .handed (.user "/reports") request ∧
        request.identity.map AuthenticatedIdentity.user = some "ann" := by
  have both : CodeFlowBesideBasic besideConfig _ apiKeysBesideCodeFlow :=
    ⟨rfl, by decide, rfl, by decide, rfl⟩
  have precedence := @precedence_of_identities annsPlatform besideConfig _ apiKeysBesideCodeFlow
    (by decide +kernel) both ["/reports"] twoCredentials (.user "/reports") rfl (by decide +kernel)
  refine ⟨twoCredentials_presentKey, ?_⟩
  have notRefused : ∀ response, tryAuthenticate annsPlatform.external apiKeysBesideCodeFlow
      twoCredentials.headers ≠ .invalidCredentials response := by
    intro response refused
    have presented := twoCredentials_presentKey
    rw [refused] at presented
    cases presented
  rcases precedence.2.1 notRefused with ⟨request, handed, identity⟩
  refine ⟨request, handed, ?_⟩
  rw [identity]
  decide +kernel

end AxumConf.Fluent
