import AxumConf.Auth.LoginBinding
import AxumConf.Fluent.DirectoryMounts
import AxumConf.Fluent.HandlerIdentity

/-!
# Visits of a session

A request of a session on its way through the finished router: what the router makes of it, what the
handler makes of the session, and what is left of the session behind the session manager.
-/

namespace AxumConf.Fluent

open Auth Tower

/-- A request of a session: what serves it, the secrets that a login mints for it, its callback
parameters, if it has such, and what a handler of the user makes of the session.  Such a handler
leaves the entries of the login alone or clears the session. -/
structure SessionVisit where
  platform : Platform
  client : CodeFlowClient
  head : RequestHead
  secrets : FlowSecrets
  now : ℕ
  params : Option CallbackParams
  work : Session → Session
  worksBeside : ∀ session, Session.SameOn (tokenKeys ++ secretKeys) session (work session) ∨
    ∀ key ∈ tokenKeys ++ secretKeys, (work session).get key = none

namespace SessionVisit

variable (visit : SessionVisit) (config : Config) (paths : List String) (session : Session)

/-- The platform with the visit's copy of the session. -/
def found : Platform :=
  { visit.platform with
    oidcClient := visit.client.toOidcClient
    loadSession := fun _ => session }

def outcome : Outcome :=
  ((withUserRoutes config paths).built (visit.found session)).call (visit.found session) visit.head

/-- `axum::routing::get` -/
def isGet : Bool :=
  visit.head.method == "GET" || visit.head.method == "HEAD"

/-- What the handler of the endpoint makes of the session. -/
def handles (endpoint : Endpoint) (session : Session) : Session :=
  match endpoint with
  | .login =>
      if visit.isGet then (loginHandler visit.client visit.secrets session).2 else session
  | .callback =>
      match visit.params with
      | some params =>
          if visit.isGet then (callbackHandler visit.client visit.now params session).2
          else session
      | none => session
  | .logout => if visit.isGet then (logoutHandler visit.client session).2 else session
  | .user _ => visit.work session
  | _ => session

/-- The visit's copy when the response leaves the session manager. -/
def leaves : Session :=
  match visit.outcome config paths session with
  | .answered answer => answer.session.getD session
  | .handed endpoint request => (request.session.map (visit.handles endpoint)).getD session

/-- The identity with which an endpoint gets the request. -/
def seenIdentity : Option AuthenticatedIdentity :=
  match visit.outcome config paths session with
  | .handed _ request => request.identity
  | .answered _ => none

/-- The handler of the endpoint runs. -/
def Reaches (endpoint : Endpoint) : Prop :=
  visit.isGet = true ∧ ∃ passed, visit.outcome config paths session = .handed endpoint passed

/-- The request proves the identity itself, in one of the enabled ways. -/
def Presents (identity : AuthenticatedIdentity) : Prop :=
  (∃ oidc, activeOidc config = some oidc ∧
    bearerIdentity visit.platform.external visit.platform.bearerKeys oidc.rolesClaim
      visit.head.headers = some identity) ∨
  (∃ basic, activeBasic config = some basic ∧
    presentedIdentity (tryAuthenticate visit.platform.external basic visit.head.headers) =
      some identity) ∨
  ∃ proxy, activeProxy config = some proxy ∧
    proxyIdentity visit.head visit.platform.external proxy config.isProduction = some identity

/-- The identity is read from an earned ID token, and the access token in it is earned. -/
def DrawnFrom (earned : RefreshedTokens → Prop) (identity : AuthenticatedIdentity) : Prop :=
  ∃ oidc, activeCodeFlow config = some oidc ∧ ∃ source access idToken,
    earned source ∧ earned access ∧ source.idToken = some idToken ∧
    parseIdTokenToIdentity visit.platform.external idToken (some access.access) oidc.rolesClaim =
      some identity

end SessionVisit

section Layers

variable {config : Config} {paths : List String} {request : Request}

theorem layer_inbound_answered {middleware : Middleware} {answer : Answer} :
    middleware.layer.inbound request = .error (.answered answer) ↔
      middleware.inbound request = .error answer := by
  simp only [Middleware.layer]
  cases middleware.inbound request with
  | ok passed => simp [Except.mapError]
  | error early => simp [Except.mapError]

theorem session_of_basicAuth_error {external : External} {basic : HttpBasicAuthConfig}
    {passthrough : Bool} {answer : Answer}
    (answered : basicAuthMiddleware external basic passthrough request = .error answer) :
    answer.session = request.session := by
  unfold basicAuthMiddleware at answered
  repeat' split at answered
  all_goals
    cases answered
    try rfl

theorem session_of_bearerAuth_error {external : External} {jwks : JwksProvider}
    {bearer : BearerAuthConfig} {answer : Answer}
    (answered : bearerAuthMiddleware external jwks bearer request = .error answer) :
    answer.session = request.session := by
  simp only [bearerAuthMiddleware] at answered
  repeat' split at answered
  all_goals
    cases answered
    try rfl

theorem session_of_browserRedirect_error {external : External} {redirect : BrowserRedirectConfig}
    {answer : Answer}
    (answered : browserRedirectMiddleware external redirect request = .error answer) :
    ∃ url, answer.session = request.session.map fun session =>
      session.insert sessionReturnUrl url := by
  simp only [browserRedirectMiddleware] at answered
  repeat' split at answered
  all_goals
    cases answered
    try exact ⟨_, rfl⟩

theorem withSessionIdentity_oidcClient {external : External} {rolesClaim : String} :
    (withSessionIdentity external rolesClaim request).oidcClient = request.oidcClient := by
  unfold withSessionIdentity identifyBySession
  repeat' split
  all_goals rfl

theorem mem_layers_of_within {platform : Platform} {route : Route} {added : List AddedLayer}
    {middleware : Middleware} (bare : route.layers = [])
    (member : middleware ∈ (route.within platform config added).layers) :
    ∃ layer : AddedLayer, middleware ∈ layer.middleware platform config := by
  have isAdded : middleware ∈ added.flatMap (AddedLayer.middleware platform config) := by
    simpa only [Route.within, Route.wrap, bare, List.nil_append] using member
  rcases List.mem_flatMap.mp isAdded with ⟨layer, -, isLayer⟩
  exact ⟨layer, isLayer⟩

/-- Around the routes of the finished router there are no layers but those of
`setup_middleware`. -/
theorem mem_layers_built {platform : Platform} {path : String} {middleware : Middleware}
    (member : middleware ∈
      (((withUserRoutes config paths).built platform).routeOf platform path).layers) :
    ∃ layer : AddedLayer, middleware ∈ layer.middleware platform config := by
  generalize isRoute : ((withUserRoutes config paths).built platform).routeOf platform path = route
    at member
  have found := routeOf_mem platform ((withUserRoutes config paths).built platform) path
  rw [isRoute] at found
  rcases found with isRegistered | isFallback
  · rw [FluentRouter.routes_built, List.mem_append, List.mem_append, List.mem_map, List.mem_map]
      at isRegistered
    rcases isRegistered with (⟨bare, isBare, rfl⟩ | ⟨bare, isBare, rfl⟩) | isProbe
    · apply mem_layers_of_within _ member
      rcases List.mem_append.mp isBare with isUser | isDirectory
      · exact layers_userRoutes isUser
      · exact layers_directoryRoutes isDirectory
    · apply mem_layers_of_within _ member
      rcases List.mem_append.mp isBare with isDirectory | isFlow
      · exact layers_directoryRoutes isDirectory
      · exact layers_codeFlowRoutes isFlow
    · rw [layers_probeRoutes isProbe] at member
      cases member
  · rcases FluentRouter.fallback_built platform (withUserRoutes config paths) with
      within | ⟨directory, -, -, unwrapped⟩
    · rw [isFallback, within] at member
      exact mem_layers_of_within rfl member
    · rw [isFallback, unwrapped] at member
      cases member

/-- A route answers a request itself exactly if one of its layers does. -/
theorem Route.call_answered {route : Route} {answer : Answer} :
    route.call request = .answered answer ↔
      admitted (route.layers.map Middleware.layer) request = .error (.answered answer) := by
  have transparent : ∀ layer ∈ route.layers.map Middleware.layer, layer.Transparent := by
    intro layer member
    rcases List.mem_map.mp member with ⟨middleware, -, rfl⟩
    exact middleware.layer_transparent
  rw [Route.call, stack_eq_of_transparent transparent]
  cases admitted (route.layers.map Middleware.layer) request with
  | ok inner => simp
  | error outcome => simp

end Layers

def annsClaims : List UInt8 :=
  "\x7b\"sub\":\"ann\"\x7d".toList.map fun character => UInt8.ofNat character.toNat

/-- Reads the payload of Ann's ID token. -/
def tokenReader : External :=
  { annsPlatform.external with
    decodeBase64Url := fun text => if text = "eyJzdWIiOiJhbm4ifQ" then some annsClaims else none
    parseJson := fun bytes =>
      if bytes = annsClaims then some (.object [("sub", .string "ann")]) else none }

def annsClient : CodeFlowClient :=
  { twoUserClient with
    exchangeCode := fun _ _ =>
      .ok { annResponse with idToken := some "head.eyJzdWIiOiJhbm4ifQ.signature" } }

def annsVisit (path : String) (params : Option CallbackParams) : SessionVisit where
  platform := { annsPlatform with external := tokenReader }
  client := annsClient
  head := { path, pathAndQuery := some path, headers := fun _ => none, peerIp := none }
  secrets := annSecrets
  now := 1750000000
  params
  work := id
  worksBeside := fun session => .inl (Session.SameOn.refl _ session)

end AxumConf.Fluent
