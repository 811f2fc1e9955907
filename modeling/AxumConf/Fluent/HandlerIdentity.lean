import AxumConf.Fluent.Precedence
import AxumConf.Lib.Shell

/-!
# What a handler knows of its caller

For every valid configuration: which requests get to the inner routes, and with whose identity.
Each method that is enabled attaches its own identity, if the request has one, in place of that of
the methods outside of it; only the session gives way.  The extractors of handlers see nothing else,
so a role opens a route exactly if the method that comes first grants it.
-/

namespace AxumConf.Fluent

open Auth Tower

section Methods

variable (platform : Platform) (config : Config) (head : RequestHead)

def activeProxy : Option HttpProxyOidcConfig :=
  config.http.proxyOidc.filter fun _ => config.isMiddlewareEnabled .proxyOidc

def activeBasic : Option HttpBasicAuthConfig :=
  config.http.basicAuth.filter fun _ => config.isMiddlewareEnabled .basicAuth

def activeOidc : Option HttpOidcConfig :=
  config.http.oidc.filter fun _ => config.isMiddlewareEnabled .oidc

def activeCodeFlow : Option HttpOidcConfig :=
  config.http.oidc.filter (runsCodeFlow config)

def activeRedirect : Option HttpOidcConfig :=
  config.http.oidc.filter (redirectsToLogin config)

/-- The identity in the headers of a trusted proxy. -/
def proxyIdentity (external : External) (proxy : HttpProxyOidcConfig) (isProduction : Bool) :
    Option AuthenticatedIdentity :=
  if isTrustedSource external proxy isProduction head.peerIp head.headers then
    extractIdentity external proxy head.headers
  else none

/-- The identity of the methods that are enabled. -/
def credentialIdentity : Option AuthenticatedIdentity :=
  ((activeBasic config).bind fun basic =>
    presentedIdentity (tryAuthenticate platform.external basic head.headers)).or
      ((activeProxy config).bind fun proxy =>
        proxyIdentity head platform.external proxy config.isProduction)

/-- The identity with which a request gets to a handler. -/
def handlerIdentity : Option AuthenticatedIdentity :=
  ((activeOidc config).bind fun oidc =>
    bearerIdentity platform.external platform.bearerKeys oidc.rolesClaim head.headers).or
      ((credentialIdentity platform config head).or
        ((activeCodeFlow config).bind fun oidc => sessionIdentity platform oidc.rolesClaim head))

/-- Basic auth and API keys answer invalid credentials, and missing ones where no code flow takes
over. -/
def AcceptsCredentials : Prop :=
  ∀ basic, activeBasic config = some basic →
    (∀ response,
      tryAuthenticate platform.external basic head.headers ≠ .invalidCredentials response) ∧
    (tryAuthenticate platform.external basic head.headers = .noCredentials →
      basicPassthrough config = true)

/-- Bearer tokens have to be there and valid unless the code flow takes over. -/
def AcceptsToken : Prop :=
  ∀ oidc, activeOidc config = some oidc → oidc.authCodeFlowEnabled = true ∨
    (bearerClaims platform.external platform.bearerKeys head.headers).isSome = true

/-- No layer answers the request itself; browsers without an identity may be sent to the login. -/
structure Admits : Prop where
  credentials : AcceptsCredentials platform config head
  token : AcceptsToken platform config head
  browser : (handlerIdentity platform config head).isSome = true ∨
    ∀ oidc, activeRedirect config = some oidc →
      ¬RedirectsBrowser platform.external (redirectConfig config oidc) head

end Methods

section Layers

variable {external : External} {request passed : Request}

/-- The request with this identity, if there is one. -/
def attach (request : Request) (identity : Option AuthenticatedIdentity) : Request :=
  { request with identity := identity.or request.identity }

theorem attach_none : attach request none = request :=
  rfl

theorem proxyOidcMiddleware_eq {proxy : HttpProxyOidcConfig} {isProduction : Bool} :
    proxyOidcMiddleware external proxy isProduction request =
      .ok (attach request (proxyIdentity request.head external proxy isProduction)) := by
  unfold proxyOidcMiddleware proxyIdentity
  split
  · cases extractIdentity external proxy request.head.headers with
    | none => rfl
    | some identity => rfl
  · rfl

theorem basicAuthMiddleware_ok_iff {basic : HttpBasicAuthConfig} {passthrough : Bool} :
    basicAuthMiddleware external basic passthrough request = .ok passed ↔
      ((∀ response,
          tryAuthenticate external basic request.head.headers ≠ .invalidCredentials response) ∧
        (tryAuthenticate external basic request.head.headers = .noCredentials →
          passthrough = true)) ∧
      attach request
        (presentedIdentity (tryAuthenticate external basic request.head.headers)) = passed := by
  unfold basicAuthMiddleware
  cases tryAuthenticate external basic request.head.headers with
  | authenticated identity => simp [presentedIdentity, attach]
  | invalidCredentials response => simp
  | noCredentials => cases passthrough <;> simp [presentedIdentity, attach_none]

theorem bearerAuthMiddleware_ok_iff {jwks : JwksProvider} {bearer : BearerAuthConfig} :
    bearerAuthMiddleware external jwks bearer request = .ok passed ↔
      (bearer.passthrough = true ∨
        (bearerClaims external jwks request.head.headers).isSome = true) ∧
      attach request
        (bearerIdentity external jwks bearer.rolesClaim request.head.headers) = passed := by
  simp only [bearerAuthMiddleware, bearerClaims, bearerIdentity]
  cases bearerToken external request.head.headers with
  | none => cases bearer.passthrough <;> simp [attach_none]
  | some token =>
      simp only [Option.bind_some]
      cases validateToken external jwks token with
      | error problem => cases bearer.passthrough <;> simp [Except.toOption, attach_none]
      | ok claims =>
          simp only [Except.toOption, Option.isSome_some, or_true, true_and, Option.bind_some]
          cases claimsToIdentity claims bearer.rolesClaim (some token) with
          | none => simp [attach_none]
          | some identity => simp [attach]

theorem browserRedirectMiddleware_ok_iff {redirect : BrowserRedirectConfig} :
    browserRedirectMiddleware external redirect request = .ok passed ↔
      (request.identity.isSome = true ∨ ¬RedirectsBrowser external redirect request.head) ∧
      request = passed := by
  simp only [browserRedirectMiddleware, RedirectsBrowser]
  by_cases known : request.identity.isSome = true
  · simp [known]
  · cases isSkipped redirect request.head <;>
      cases request.head.headers "authorization" <;>
      cases isBrowser external request.head <;> simp [known]

end Layers

section Stack

variable {platform : Platform} {config : Config} {head : RequestHead} {request passed : Request}

/-- The request as it gets to the authentication layers. -/
def arriving (platform : Platform) (config : Config) (head : RequestHead) : Request where
  head
  session := some (platform.loadSession head)
  oidcClient := if (activeCodeFlow config).isSome then some platform.oidcClient else none

/-- The request as the session layer passes it on, if there is one. -/
def throughSession (platform : Platform) (config : Config) (request : Request) : Request :=
  match activeCodeFlow config with
  | some oidc => withSessionIdentity platform.external oidc.rolesClaim request
  | none => request

theorem admitted_preparingLayers :
    admitted ((preparingLayers platform config).map Middleware.layer) { head } = .ok passed ↔
      arriving platform config head = passed := by
  unfold preparingLayers oidcClientLayers arriving activeCodeFlow
  simp only [List.map_append, admitted_append_eq_ok, map_layerOf, admitted_layerOf_eq_ok]
  cases config.http.oidc.filter (runsCodeFlow config) with
  | none =>
      simp [admitted, bind, Except.bind, Middleware.layer, sessionManager, recordUserToSpan,
        Except.mapError]
  | some oidc =>
      simp [admitted, bind, Except.bind, Middleware.layer, sessionManager, recordUserToSpan,
        oidcClientExtension, Except.mapError]

theorem admitted_proxyLayers :
    admitted ((proxyLayers platform config).map Middleware.layer) request = .ok passed ↔
      attach request ((activeProxy config).bind fun proxy =>
        proxyIdentity request.head platform.external proxy config.isProduction) = passed := by
  unfold proxyLayers activeProxy
  rw [map_layerOf, admitted_layerOf_eq_ok]
  cases config.http.proxyOidc.filter fun _ => config.isMiddlewareEnabled .proxyOidc with
  | none => simp [attach_none]
  | some proxy => simp [Middleware.layer_inbound_ok, proxyOidc, proxyOidcMiddleware_eq]

theorem admitted_basicLayers :
    admitted ((basicLayers platform config).map Middleware.layer) request = .ok passed ↔
      (∀ basic, activeBasic config = some basic →
        (∀ response, tryAuthenticate platform.external basic request.head.headers ≠
          .invalidCredentials response) ∧
        (tryAuthenticate platform.external basic request.head.headers = .noCredentials →
          basicPassthrough config = true)) ∧
      attach request ((activeBasic config).bind fun basic =>
        presentedIdentity (tryAuthenticate platform.external basic request.head.headers)) =
          passed := by
  unfold basicLayers activeBasic
  rw [map_layerOf, admitted_layerOf_eq_ok]
  cases config.http.basicAuth.filter fun _ => config.isMiddlewareEnabled .basicAuth with
  | none => simp [attach_none]
  | some basic =>
      simp only [reduceCtorEq, false_and, false_or, Option.some.injEq, exists_eq_left',
        Middleware.layer_inbound_ok, basicAuth, basicAuthMiddleware_ok_iff, forall_eq',
        Option.bind_some]

theorem admitted_sessionIdentityLayers :
    admitted ((sessionIdentityLayers platform config).map Middleware.layer) request =
        .ok passed ↔
      throughSession platform config request = passed := by
  unfold sessionIdentityLayers throughSession activeCodeFlow
  rw [map_layerOf, admitted_layerOf_eq_ok]
  cases config.http.oidc.filter (runsCodeFlow config) with
  | none => simp
  | some oidc => simp [Middleware.layer_inbound_ok, sessionToIdentity]

theorem admitted_bearerLayers :
    admitted ((bearerLayers platform config).map Middleware.layer) request = .ok passed ↔
      (∀ oidc, activeOidc config = some oidc → oidc.authCodeFlowEnabled = true ∨
        (bearerClaims platform.external platform.bearerKeys
          request.head.headers).isSome = true) ∧
      attach request ((activeOidc config).bind fun oidc =>
        bearerIdentity platform.external platform.bearerKeys oidc.rolesClaim
          request.head.headers) = passed := by
  unfold bearerLayers activeOidc
  rw [map_layerOf, admitted_layerOf_eq_ok]
  cases config.http.oidc.filter fun _ => config.isMiddlewareEnabled .oidc with
  | none => simp [attach_none]
  | some oidc =>
      simp only [reduceCtorEq, false_and, false_or, Option.some.injEq, exists_eq_left',
        Middleware.layer_inbound_ok, bearerAuth, bearerAuthMiddleware_ok_iff, forall_eq',
        Option.bind_some, bearerConfig]

theorem admitted_browserRedirectLayers :
    admitted ((browserRedirectLayers platform config).map Middleware.layer) request =
        .ok passed ↔
      (request.identity.isSome = true ∨ ∀ oidc, activeRedirect config = some oidc →
        ¬RedirectsBrowser platform.external (redirectConfig config oidc) request.head) ∧
      request = passed := by
  unfold browserRedirectLayers activeRedirect
  rw [map_layerOf, admitted_layerOf_eq_ok]
  cases config.http.oidc.filter (redirectsToLogin config) with
  | none => simp
  | some oidc =>
      simp only [reduceCtorEq, false_and, false_or, Option.some.injEq, exists_eq_left',
        Middleware.layer_inbound_ok, browserRedirect, browserRedirectMiddleware_ok_iff,
        forall_eq']

theorem throughSession_head : (throughSession platform config request).head = request.head := by
  unfold throughSession
  split
  · exact withSessionIdentity_head
  · rfl

/-- The session is asked about requests without an identity only. -/
theorem throughSession_identity (known : Option AuthenticatedIdentity) :
    (throughSession platform config
        { arriving platform config head with identity := known }).identity =
      known.or ((activeCodeFlow config).bind fun oidc =>
        sessionIdentity platform oidc.rolesClaim head) := by
  unfold throughSession arriving
  cases activeCodeFlow config with
  | none =>
      cases known with
      | none => rfl
      | some identity => rfl
  | some oidc => exact CodeFlowBesideBasic.withSessionIdentity_identity oidc.rolesClaim head known

/-- The request behind the layers of credentials. -/
def credentialed (platform : Platform) (config : Config) (head : RequestHead) : Request :=
  { arriving platform config head with identity := credentialIdentity platform config head }

theorem attach_credentials :
    attach (attach (arriving platform config head) ((activeProxy config).bind fun proxy =>
        proxyIdentity head platform.external proxy config.isProduction))
      ((activeBasic config).bind fun basic =>
        presentedIdentity (tryAuthenticate platform.external basic head.headers)) =
      credentialed platform config head := by
  unfold attach credentialed credentialIdentity
  simp only [arriving, Option.or_none]

/-- The request behind the bearer layer. -/
def identified (platform : Platform) (config : Config) (head : RequestHead) : Request :=
  attach (throughSession platform config (credentialed platform config head))
    ((activeOidc config).bind fun oidc =>
      bearerIdentity platform.external platform.bearerKeys oidc.rolesClaim head.headers)

theorem identified_identity :
    (identified platform config head).identity = handlerIdentity platform config head := by
  simp only [attach, identified, credentialed, throughSession_identity, handlerIdentity]

theorem identified_head : (identified platform config head).head = head :=
  throughSession_head

theorem admitted_credentials :
    admitted ((basicLayers platform config ++ (proxyLayers platform config ++
        preparingLayers platform config)).map Middleware.layer) { head } = .ok passed ↔
      AcceptsCredentials platform config head ∧ credentialed platform config head = passed := by
  have proxied := @admitted_proxyLayers platform config (arriving platform config head)
  simp only [List.map_append, admitted_append_eq_ok, admitted_preparingLayers, exists_eq_left',
    proxied, admitted_basicLayers]
  rw [← attach_credentials]
  exact Iff.rfl

theorem admitted_session :
    admitted ((sessionIdentityLayers platform config ++ (basicLayers platform config ++
        (proxyLayers platform config ++ preparingLayers platform config))).map
          Middleware.layer) { head } = .ok passed ↔
      AcceptsCredentials platform config head ∧
        throughSession platform config (credentialed platform config head) = passed := by
  rw [List.map_append, admitted_append_eq_ok]
  simp only [admitted_credentials, admitted_sessionIdentityLayers]
  constructor
  · rintro ⟨reached, ⟨accepts, rfl⟩, through⟩
    exact ⟨accepts, through⟩
  · rintro ⟨accepts, through⟩
    exact ⟨_, ⟨accepts, rfl⟩, through⟩

theorem admitted_token :
    admitted ((bearerLayers platform config ++ (sessionIdentityLayers platform config ++
        (basicLayers platform config ++ (proxyLayers platform config ++
          preparingLayers platform config)))).map Middleware.layer) { head } = .ok passed ↔
      (AcceptsCredentials platform config head ∧ AcceptsToken platform config head) ∧
        identified platform config head = passed := by
  rw [List.map_append, admitted_append_eq_ok]
  simp only [admitted_session, admitted_bearerLayers]
  constructor
  · rintro ⟨reached, ⟨accepts, rfl⟩, token, attached⟩
    rw [throughSession_head] at token attached
    exact ⟨⟨accepts, token⟩, attached⟩
  · rintro ⟨⟨accepts, token⟩, attached⟩
    refine ⟨_, ⟨accepts, rfl⟩, ?_⟩
    rw [throughSession_head]
    exact ⟨token, attached⟩

/-- What comes out of the layers, if none of them answers. -/
theorem admitted_iff_identified :
    admitted ((authenticationLayers platform config ++ preparingLayers platform config).map
        Middleware.layer) { head } = .ok passed ↔
      Admits platform config head ∧ identified platform config head = passed := by
  have nested : authenticationLayers platform config ++ preparingLayers platform config =
      browserRedirectLayers platform config ++ (bearerLayers platform config ++
        (sessionIdentityLayers platform config ++ (basicLayers platform config ++
          (proxyLayers platform config ++ preparingLayers platform config)))) := by
    simp only [authenticationLayers, List.append_assoc]
  rw [nested, List.map_append, admitted_append_eq_ok]
  simp only [admitted_token, admitted_browserRedirectLayers]
  constructor
  · rintro ⟨reached, ⟨⟨accepts, token⟩, rfl⟩, browser, same⟩
    rw [identified_identity, identified_head] at browser
    exact ⟨⟨accepts, token, browser⟩, same⟩
  · rintro ⟨⟨accepts, token, browser⟩, same⟩
    refine ⟨_, ⟨⟨accepts, token⟩, rfl⟩, ?_, same⟩
    rw [identified_identity, identified_head]
    exact browser

end Stack

theorem WrapsInner.handed_iff {platform : Platform} {config : Config} {router : FluentRouter}
    (wraps : WrapsInner config router
      (authenticationLayers platform config ++ preparingLayers platform config))
    {head : RequestHead} {endpoint : Endpoint} (inner : isInner endpoint = true)
    (leads : (router.routeOf platform head.path).endpoint = endpoint)
    (identity : Option AuthenticatedIdentity) :
    (∃ request, router.call platform head = .handed endpoint request ∧
        request.identity = identity) ↔
      Admits platform config head ∧ handlerIdentity platform config head = identity := by
  have layers := @WrapsInner.routeOf_layers platform config router _ wraps head.path
    (by rw [leads]; exact inner)
  have handed : ∀ request, router.call platform head = .handed endpoint request ↔
      Admits platform config head ∧ identified platform config head = request := by
    intro request
    rw [FluentRouter.call, Route.call_handed, layers, admitted_iff_identified]
    exact and_iff_right leads
  simp only [handed]
  constructor
  · rintro ⟨request, ⟨admits, rfl⟩, same⟩
    rw [identified_identity] at same
    exact ⟨admits, same⟩
  · rintro ⟨admits, same⟩
    exact ⟨_, ⟨admits, rfl⟩, identified_identity.trans same⟩

/-- A request to a handler of the user or to a protected directory gets there exactly when no layer
answers it, and the handler then sees the identity of its bearer token, else that of its
credentials, else that of the proxy, else that of its session, as far as these are enabled. -/
theorem handler_sees_iff {platform : Platform} {config : Config}
    (valid : config.http.validate = .ok ()) (paths : List String) {head : RequestHead}
    {endpoint : Endpoint} (inner : isInner endpoint = true)
    (leads : (((withUserRoutes config paths).setupMiddleware platform).routeOf platform
      head.path).endpoint = endpoint) :
    ∀ identity,
      (∃ request, ((withUserRoutes config paths).setupMiddleware platform).call platform head =
          .handed endpoint request ∧ request.identity = identity) ↔
        Admits platform config head ∧ handlerIdentity platform config head = identity :=
  (WrapsInner.setupMiddleware (HttpConfig.accepted_of_validate valid) paths).handed_iff inner leads

section Guards

/-- The status and the text with which an extractor answers in place of the handler. -/
abbrev Rejection := ℕ × String

def authenticationRequired : Rejection := (401, "Authentication required")

def insufficientRole : Rejection := (403, "Insufficient role")

/-- The extractor `AuthenticatedIdentity` -/
def fromRequestParts (request : Request) : Except Rejection AuthenticatedIdentity :=
  match request.identity with
  | some identity => .ok identity
  | none => .error authenticationRequired

/-- The extractors that look at the roles of the identity. -/
def requiring (allows : List String → Bool) (request : Request) :
    Except Rejection AuthenticatedIdentity :=
  match fromRequestParts request with
  | .ok identity =>
      if allows identity.roles then .ok identity else .error insufficientRole
  | .error rejection => .error rejection

def withRole (role : String) : Request → Except Rejection AuthenticatedIdentity :=
  requiring fun roles => roles.any fun held => held == role

def anyRole (required : List String) : Request → Except Rejection AuthenticatedIdentity :=
  requiring fun roles => required.any fun role => roles.any fun held => held == role

def allRoles (required : List String) : Request → Except Rejection AuthenticatedIdentity :=
  requiring fun roles => required.all fun role => roles.any fun held => held == role

inductive RoleGuard where
  | withRole (role : String)
  | anyRole (required : List String)
  | allRoles (required : List String)

def RoleGuard.extract : RoleGuard → Request → Except Rejection AuthenticatedIdentity
  | .withRole role => Fluent.withRole role
  | .anyRole required => Fluent.anyRole required
  | .allRoles required => Fluent.allRoles required

def RoleGuard.allows : RoleGuard → List String → Bool
  | .withRole role, roles => roles.any fun held => held == role
  | .anyRole required, roles => required.any fun role => roles.any fun held => held == role
  | .allRoles required, roles => required.all fun role => roles.any fun held => held == role

/-- The roles for which a guard opens. -/
def RoleGuard.Opens (roles : List String) : RoleGuard → Prop
  | .withRole role => role ∈ roles
  | .anyRole required => ∃ role ∈ required, role ∈ roles
  | .allRoles required => required ⊆ roles

theorem RoleGuard.extract_eq (guard : RoleGuard) : guard.extract = requiring guard.allows := by
  cases guard with
  | withRole role => rfl
  | anyRole required => rfl
  | allRoles required => rfl

theorem RoleGuard.allows_iff {guard : RoleGuard} {roles : List String} :
    guard.allows roles = true ↔ guard.Opens roles := by
  cases guard with
  | withRole role => simp [RoleGuard.allows, RoleGuard.Opens]
  | anyRole required => simp [RoleGuard.allows, RoleGuard.Opens]
  | allRoles required => simp [RoleGuard.allows, RoleGuard.Opens, List.subset_def]

theorem requiring_eq_ok_iff {allows : List String → Bool} {request : Request}
    {identity : AuthenticatedIdentity} :
    requiring allows request = .ok identity ↔
      request.identity = some identity ∧ allows identity.roles = true := by
  unfold requiring fromRequestParts
  cases request.identity with
  | none => simp
  | some held =>
      cases allowed : allows held.roles with
      | true =>
          simp only [allowed, if_true, Except.ok.injEq, Option.some.injEq]
          constructor
          · rintro rfl
            exact ⟨rfl, allowed⟩
          · exact And.left
      | false =>
          simp only [allowed, Bool.false_eq_true, if_false, reduceCtorEq, Option.some.injEq,
            false_iff, not_and, Bool.not_eq_true]
          rintro rfl
          exact allowed

theorem requiring_unauthorized_iff {allows : List String → Bool} {request : Request} :
    requiring allows request = .error authenticationRequired ↔ request.identity = none := by
  unfold requiring fromRequestParts
  cases request.identity with
  | none => simp
  | some held =>
      cases allowed : allows held.roles with
      | true => simp [allowed]
      | false => simp [allowed, authenticationRequired, insufficientRole]

theorem requiring_forbidden_iff {allows : List String → Bool} {request : Request} :
    requiring allows request = .error insufficientRole ↔
      ∃ identity, request.identity = some identity ∧ allows identity.roles = false := by
  unfold requiring fromRequestParts
  cases request.identity with
  | none => simp [authenticationRequired, insufficientRole]
  | some held => cases allowed : allows held.roles <;> simp [allowed]

end Guards

/-- A route behind a guard runs its handler for a request that no layer answers and whose identity
has the roles for which the guard opens; it answers that authentication is required to those without
an identity, and that the role is insufficient to all others. -/
theorem roleGuard_answers {platform : Platform} {config : Config}
    (valid : config.http.validate = .ok ()) (paths : List String) {head : RequestHead}
    {path : String}
    (leads : (((withUserRoutes config paths).setupMiddleware platform).routeOf platform
      head.path).endpoint = .user path) (guard : RoleGuard) :
    (∀ identity,
      (∃ request, ((withUserRoutes config paths).setupMiddleware platform).call platform head =
          .handed (.user path) request ∧ guard.extract request = .ok identity) ↔
        Admits platform config head ∧ handlerIdentity platform config head = some identity ∧
          guard.Opens identity.roles) ∧
    ((∃ request, ((withUserRoutes config paths).setupMiddleware platform).call platform head =
          .handed (.user path) request ∧
          guard.extract request = .error authenticationRequired) ↔
        Admits platform config head ∧ handlerIdentity platform config head = none) ∧
    ((∃ request, ((withUserRoutes config paths).setupMiddleware platform).call platform head =
          .handed (.user path) request ∧ guard.extract request = .error insufficientRole) ↔
        Admits platform config head ∧ ∃ identity,
          handlerIdentity platform config head = some identity ∧
            ¬guard.Opens identity.roles) := by
  have accepted := HttpConfig.accepted_of_validate valid
  have wraps := @WrapsInner.setupMiddleware platform config accepted paths
  have sees := @WrapsInner.handed_iff platform config _ wraps head (.user path) rfl leads
  generalize ((withUserRoutes config paths).setupMiddleware platform).call platform head = outcome
    at sees ⊢
  simp only [guard.extract_eq, requiring_eq_ok_iff, requiring_unauthorized_iff,
    requiring_forbidden_iff, RoleGuard.allows_iff, ← Bool.not_eq_true]
  refine ⟨?_, ?_, ?_⟩
  · intro identity
    rw [← and_assoc, ← sees (some identity)]
    constructor
    · rintro ⟨request, handed, holds, opens⟩
      exact ⟨⟨request, handed, holds⟩, opens⟩
    · rintro ⟨⟨request, handed, holds⟩, opens⟩
      exact ⟨request, handed, holds, opens⟩
  · exact sees none
  · constructor
    · rintro ⟨request, handed, identity, holds, closed⟩
      rcases (sees (some identity)).mp ⟨request, handed, holds⟩ with ⟨admits, same⟩
      exact ⟨admits, identity, same, closed⟩
    · rintro ⟨admits, identity, same, closed⟩
      rcases (sees (some identity)).mpr ⟨admits, same⟩ with ⟨request, handed, holds⟩
      exact ⟨request, handed, identity, holds, closed⟩

def annsIdentity : AuthenticatedIdentity where
  method := .oidc
  user := "ann"
  email := none
  groups := []
  roles := []
  preferredUsername := none
  accessToken := some "token"

/-- The token is left alone beside the code flow, and the API key is one of those configured. -/
theorem annsRequest_admitted : Admits annsPlatform besideConfig twoCredentials where
  credentials := by
    intro basic active
    have isKeys : apiKeysBesideCodeFlow = basic := Option.some.inj active
    have presented := twoCredentials_presentKey
    subst isKeys
    cases outcome : tryAuthenticate annsPlatform.external apiKeysBesideCodeFlow
        twoCredentials.headers with
    | authenticated identity => exact ⟨nofun, nofun⟩
    | invalidCredentials response =>
        rw [outcome] at presented
        cases presented
    | noCredentials =>
        rw [outcome] at presented
        cases presented
  token := by
    intro oidc active
    rw [← Option.some.inj active]
    exact .inl rfl
  browser := .inl (by decide +kernel)

/-- The handler sees Ann. -/
theorem handler_sees_iff_ann :
    ∃ request, ((withUserRoutes besideConfig ["/reports"]).setupMiddleware annsPlatform).call
        annsPlatform twoCredentials = .handed (.user "/reports") request ∧
        request.identity = some annsIdentity :=
  (handler_sees_iff (by decide +kernel) ["/reports"] rfl (by decide +kernel)
    (some annsIdentity)).mpr ⟨annsRequest_admitted, by decide +kernel⟩

/-- The roles of the API key do not help Ann, who has none of her own. -/
theorem roleGuard_answers_ann :
    (∃ request, ((withUserRoutes besideConfig ["/reports"]).setupMiddleware annsPlatform).call
        annsPlatform twoCredentials = .handed (.user "/reports") request ∧
        (RoleGuard.withRole "admin").extract request = .error insufficientRole) ∧
      ∃ request, ((withUserRoutes besideConfig ["/reports"]).setupMiddleware annsPlatform).call
        annsPlatform twoCredentials = .handed (.user "/reports") request ∧
        (RoleGuard.allRoles []).extract request = .ok annsIdentity := by
  have seen : handlerIdentity annsPlatform besideConfig twoCredentials = some annsIdentity := by
    decide +kernel
  have answers := @roleGuard_answers annsPlatform besideConfig (by decide +kernel) ["/reports"]
    twoCredentials "/reports" (by decide +kernel)
  constructor
  · exact (answers (.withRole "admin")).2.2.mpr
      ⟨annsRequest_admitted, annsIdentity, seen, List.not_mem_nil⟩
  · exact ((answers (.allRoles [])).1 annsIdentity).mpr
      ⟨annsRequest_admitted, seen, List.nil_subset _⟩

end AxumConf.Fluent
