import AxumConf.Auth.BackedSession
import AxumConf.Fluent.SessionVisits

/-!
# Where the identities come from

Any number of requests of one session go through the finished router, each with a copy of the record
as it stood when the request arrived; each may save the copy that it leaves, in any order.  An
identity that a handler sees is proven by the request itself, or it is read from an ID token that
the provider gave to a callback of this session or to a refresh of such tokens, where the callback
answers a login of this session.
-/

namespace AxumConf.Fluent

open Auth Tower

/-- The session's record, the copies of the requests under way, and the visits made so far, each
with the copy that it found, the latest first. -/
structure VisitedSession where
  record : Session
  held : ℕ → Option Session := fun _ => none
  past : List (Session × SessionVisit) := []

inductive VisitEvent where
  | arrives (request : ℕ)
  | leaves (request : ℕ) (visit : SessionVisit) (saves : Bool)

section Visits

variable (config : Config) (paths : List String)

def VisitedSession.arrive (state : VisitedSession) (request : ℕ) : VisitedSession :=
  { state with held := Function.update state.held request (some state.record) }

def VisitedSession.leave (state : VisitedSession) (request : ℕ) (session : Session)
    (visit : SessionVisit) (saves : Bool) : VisitedSession where
  record := if saves then visit.leaves config paths session else state.record
  held := Function.update state.held request none
  past := (session, visit) :: state.past

/-- One session that any number of requests visit.  Nothing is said about which of them save their
copies; a record that is cleared and the one that follows it count as one. -/
def sessionVisits : Machine VisitedSession VisitEvent where
  step state event :=
    match event with
    | .arrives request =>
        if (state.held request).isNone then some (state.arrive request) else none
    | .leaves request visit saves =>
        (state.held request).map fun session => state.leave config paths request session visit saves

/-- A visit to the login route minted the secrets. -/
def Minted (past : List (Session × SessionVisit)) (secrets : FlowSecrets) : Prop :=
  ∃ session visit, (session, visit) ∈ past ∧ visit.Reaches config paths session .login ∧
    visit.secrets = secrets

/-- The tokens that the provider gave to these visits: to a callback that answers one of their
logins, or for the refresh token of such tokens. -/
inductive Earned : List (Session × SessionVisit) → RefreshedTokens → Prop where
  | callback {past : List (Session × SessionVisit)} {session : Session} {visit : SessionVisit}
      {params : CallbackParams} {secrets : FlowSecrets} {response : TokenResponse}
      {idToken : String} :
      Minted config paths past secrets → visit.Reaches config paths session .callback →
      visit.params = some params → AnswersLogin visit.client params secrets response idToken →
      Earned ((session, visit) :: past) (response.tokens visit.now)
  | refreshed {past : List (Session × SessionVisit)} {session : Session} {visit : SessionVisit}
      {earlier tokens : RefreshedTokens} {refresh : String} :
      Earned ((session, visit) :: past) earlier → earlier.refresh = some refresh →
      visit.client.refreshTokens refresh = some tokens →
      Earned ((session, visit) :: past) tokens
  | before {past : List (Session × SessionVisit)} {served : Session × SessionVisit}
      {tokens : RefreshedTokens} :
      Earned past tokens → Earned (served :: past) tokens

end Visits

section Layers

variable {visit : SessionVisit} {config : Config} {paths : List String} {session : Session}
  {minted : FlowSecrets → Prop} {earned : RefreshedTokens → Prop}

/-- What the layers around a route keep of the visit's request. -/
structure SessionVisit.Sound (visit : SessionVisit) (config : Config)
    (minted : FlowSecrets → Prop) (earned : RefreshedTokens → Prop) (request : Request) :
    Prop where
  head : request.head = visit.head
  client : ∀ client, request.oidcClient = some client → client = visit.client.toOidcClient
  session : ∀ session, request.session = some session → Backed minted earned session
  identity : ∀ identity, request.identity = some identity →
    visit.Presents config identity ∨ visit.DrawnFrom config earned identity

/-- The session with which a layer answers. -/
def LeavesBacked (minted : FlowSecrets → Prop) (earned : RefreshedTokens → Prop) :
    Outcome → Prop
  | .answered answer => ∀ session, answer.session = some session → Backed minted earned session
  | .handed _ _ => True

variable {request passed : Request}

theorem SessionVisit.Sound.attach (sound : visit.Sound config minted earned request)
    {presented : Option AuthenticatedIdentity}
    (proven : ∀ identity, presented = some identity → visit.Presents config identity) :
    visit.Sound config minted earned (attach request presented) where
  head := sound.head
  client := sound.client
  session := sound.session
  identity := by
    intro identity seen
    cases isPresented : presented with
    | some own =>
        rw [Fluent.attach, isPresented, Option.some_or, Option.some.injEq] at seen
        rw [← seen]
        exact .inl (proven own isPresented)
    | none =>
        rw [Fluent.attach, isPresented, Option.none_or] at seen
        exact sound.identity identity seen

theorem upholds_of_inbound {middleware : Middleware}
    (passes : ∀ request passed, visit.Sound config minted earned request →
      middleware.inbound request = .ok passed → visit.Sound config minted earned passed)
    (answers : ∀ request answer, visit.Sound config minted earned request →
      middleware.inbound request = .error answer →
      ∀ session, answer.session = some session → Backed minted earned session) :
    middleware.layer.Upholds (visit.Sound config minted earned) (LeavesBacked minted earned) where
  passes request passed sound isPassed :=
    passes request passed sound (Middleware.layer_inbound_ok.mp isPassed)
  answers := by
    intro request outcome sound answered
    rcases Middleware.layer_inbound_error answered with ⟨answer, rfl⟩
    exact answers request answer sound (layer_inbound_answered.mp answered)

theorem upholds_browserRedirect (platform : Platform) {middleware : Middleware}
    (member : middleware ∈ browserRedirectLayers platform config) :
    middleware.layer.Upholds (visit.Sound config minted earned) (LeavesBacked minted earned) := by
  rcases mem_layerOf.mp member with ⟨oidc, -, rfl⟩
  apply upholds_of_inbound
  · intro request passed sound passes
    rw [← (browserRedirectMiddleware_ok_iff.mp passes).2]
    exact sound
  · intro request answer sound answered after isAfter
    rcases session_of_browserRedirect_error answered with ⟨url, same⟩
    rw [same, Option.map_eq_some_iff] at isAfter
    rcases isAfter with ⟨session, held, rfl⟩
    exact (sound.session session held).of_sameOn (Session.sameOn_insert url (by decide))

theorem upholds_bearer {middleware : Middleware}
    (member : middleware ∈ bearerLayers (visit.found session) config) :
    middleware.layer.Upholds (visit.Sound config minted earned) (LeavesBacked minted earned) := by
  rcases mem_layerOf.mp member with ⟨oidc, isActive, rfl⟩
  apply upholds_of_inbound
  · intro request passed sound passes
    rw [← (bearerAuthMiddleware_ok_iff.mp passes).2]
    apply sound.attach
    intro identity proven
    rw [sound.head] at proven
    exact .inl ⟨oidc, isActive, proven⟩
  · intro request answer sound answered after isAfter
    rw [session_of_bearerAuth_error answered] at isAfter
    exact sound.session after isAfter

theorem upholds_basic {middleware : Middleware}
    (member : middleware ∈ basicLayers (visit.found session) config) :
    middleware.layer.Upholds (visit.Sound config minted earned) (LeavesBacked minted earned) := by
  rcases mem_layerOf.mp member with ⟨basic, isActive, rfl⟩
  apply upholds_of_inbound
  · intro request passed sound passes
    rw [← (basicAuthMiddleware_ok_iff.mp passes).2]
    apply sound.attach
    intro identity proven
    rw [sound.head] at proven
    exact .inr (.inl ⟨basic, isActive, proven⟩)
  · intro request answer sound answered after isAfter
    rw [session_of_basicAuth_error answered] at isAfter
    exact sound.session after isAfter

theorem upholds_proxy {middleware : Middleware}
    (member : middleware ∈ proxyLayers (visit.found session) config) :
    middleware.layer.Upholds (visit.Sound config minted earned) (LeavesBacked minted earned) := by
  rcases mem_layerOf.mp member with ⟨proxy, isActive, rfl⟩
  apply upholds_of_inbound
  · intro request passed sound passes
    simp only [proxyOidc, proxyOidcMiddleware_eq, Except.ok.injEq] at passes
    rw [← passes]
    apply sound.attach
    intro identity proven
    rw [sound.head] at proven
    exact .inr (.inr ⟨proxy, isActive, proven⟩)
  · intro request answer sound answered
    simp only [proxyOidc, proxyOidcMiddleware_eq, reduceCtorEq] at answered

theorem upholds_oidcClient {middleware : Middleware}
    (member : middleware ∈ oidcClientLayers (visit.found session) config) :
    middleware.layer.Upholds (visit.Sound config minted earned) (LeavesBacked minted earned) := by
  rcases mem_layerOf.mp member with ⟨oidc, -, rfl⟩
  apply upholds_of_inbound
  · rintro request passed sound ⟨⟩
    refine ⟨sound.head, ?_, sound.session, sound.identity⟩
    rintro client ⟨⟩
    rfl
  · rintro request answer sound ⟨⟩

theorem upholds_userSpan :
    recordUserToSpan.layer.Upholds (visit.Sound config minted earned)
      (LeavesBacked minted earned) := by
  apply upholds_of_inbound
  · rintro request passed sound ⟨⟩
    exact sound
  · rintro request answer sound ⟨⟩

theorem upholds_sessionManager (backed : Backed minted earned session) :
    (sessionManager (visit.found session)).layer.Upholds (visit.Sound config minted earned)
      (LeavesBacked minted earned) := by
  apply upholds_of_inbound
  · rintro request passed sound ⟨⟩
    refine ⟨sound.head, sound.client, ?_, sound.identity⟩
    rintro after ⟨⟩
    exact backed
  · rintro request answer sound ⟨⟩

/-- The refreshes of the visit's client turn earned tokens into earned tokens. -/
def SessionVisit.Refreshes (visit : SessionVisit) (earned : RefreshedTokens → Prop) : Prop :=
  ∀ earlier refresh tokens, earned earlier → earlier.refresh = some refresh →
    visit.client.refreshTokens refresh = some tokens → earned tokens

/-- What `session_to_identity` leaves of the session is backed: it redeems the session's refresh
token, which was earned. -/
theorem backed_withSessionIdentity (refreshes : visit.Refreshes earned)
    (sound : visit.Sound config minted earned request) {external : External} {rolesClaim : String}
    {after : Session}
    (left : (withSessionIdentity external rolesClaim request).session = some after) :
    Backed minted earned after := by
  cases held : request.session with
  | none =>
      have same : withSessionIdentity external rolesClaim request = request := by
        simp only [withSessionIdentity, held, ite_self]
      rw [same, held] at left
      cases left
  | some session =>
      have backed := sound.session session held
      have own : { request with session := some session } = request := by
        rw [← held]
      have isAfter : sessionAfter session (.request external rolesClaim request) = after := by
        rw [sessionAfter, own, left]
        rfl
      rw [← isAfter]
      apply backed.step
      · rintro secrets ⟨⟩
      · intro tokens isBrought
        rcases brought_request isBrought with ⟨client, refresh, isClient, stored, redeemed⟩
        rw [sound.client client isClient] at redeemed
        rcases backed.tokens with ⟨login, allEarned, coherent⟩
        rcases coherent.refresh refresh stored with ⟨earlier, member, same⟩
        exact refreshes earlier refresh tokens (allEarned earlier member) same redeemed

theorem upholds_sessionIdentity (refreshes : visit.Refreshes earned) {middleware : Middleware}
    (member : middleware ∈ sessionIdentityLayers (visit.found session) config) :
    middleware.layer.Upholds (visit.Sound config minted earned) (LeavesBacked minted earned) := by
  rcases mem_layerOf.mp member with ⟨oidc, isActive, rfl⟩
  apply upholds_of_inbound
  · rintro request passed sound ⟨⟩
    refine ⟨withSessionIdentity_head.trans sound.head, ?_, ?_, ?_⟩
    · intro client isClient
      rw [withSessionIdentity_oidcClient] at isClient
      exact sound.client client isClient
    · intro after left
      exact backed_withSessionIdentity refreshes sound left
    · intro identity seen
      cases known : request.identity with
      | some own =>
          have identified : request.Identified := by
            rw [Request.Identified, known]
            rfl
          rw [withSessionIdentity_keeps identified] at seen
          exact sound.identity identity seen
      | none =>
          rcases exists_of_sessionIdentity known seen with
            ⟨after, idToken, access, left, isIdToken, isAccess, parses⟩
          have backed := backed_withSessionIdentity refreshes sound left
          rcases backed.tokens with ⟨login, allEarned, coherent⟩
          rcases coherent.idToken idToken isIdToken with ⟨source, sourceMember, sameIdToken⟩
          rcases coherent.access access isAccess with ⟨holder, holderMember, rfl⟩
          exact .inr ⟨oidc, isActive, source, holder, idToken, allEarned source sourceMember,
            allEarned holder holderMember, sameIdToken, parses⟩
  · rintro request answer sound ⟨⟩

/-- Every layer that `setup_middleware` adds upholds it. -/
theorem upholds_added (refreshes : visit.Refreshes earned)
    (backed : Backed minted earned session) (added : AddedLayer) {middleware : Middleware}
    (member : middleware ∈ added.middleware (visit.found session) config) :
    middleware.layer.Upholds (visit.Sound config minted earned) (LeavesBacked minted earned) := by
  cases added with
  | auth layer =>
      cases layer with
      | browserRedirect => exact upholds_browserRedirect _ member
      | bearer => exact upholds_bearer member
      | basic => exact upholds_basic member
      | proxy => exact upholds_proxy member
  | sessionIdentity => exact upholds_sessionIdentity refreshes member
  | oidcClient => exact upholds_oidcClient member
  | userSpan =>
      rw [List.mem_singleton.mp member]
      exact upholds_userSpan
  | sessionManager =>
      rw [List.mem_singleton.mp member]
      exact upholds_sessionManager backed

namespace SessionVisit

/-- What the finished router makes of a visit with a backed copy. -/
theorem outcome_sound (refreshes : visit.Refreshes earned)
    (backed : Backed minted earned session) :
    (∀ endpoint passed, visit.outcome config paths session = .handed endpoint passed →
      visit.Sound config minted earned passed) ∧
    ∀ answer, visit.outcome config paths session = .answered answer →
      ∀ after, answer.session = some after → Backed minted earned after := by
  generalize isRoute : ((withUserRoutes config paths).built (visit.found session)).routeOf
    (visit.found session) visit.head.path = route
  have calls : visit.outcome config paths session = route.call { head := visit.head } := by
    rw [outcome, FluentRouter.call, isRoute]
  have upholds : ∀ layer ∈ route.layers.map Middleware.layer,
      layer.Upholds (visit.Sound config minted earned) (LeavesBacked minted earned) := by
    intro layer isLayer
    rcases List.mem_map.mp isLayer with ⟨middleware, member, rfl⟩
    rw [← isRoute] at member
    rcases mem_layers_built member with ⟨added, isAdded⟩
    exact upholds_added refreshes backed added isAdded
  have initially : visit.Sound config minted earned { head := visit.head } :=
    ⟨rfl, by rintro client ⟨⟩, by rintro copy ⟨⟩, by rintro identity ⟨⟩⟩
  rcases admitted_upholds upholds initially with ⟨passes, answers⟩
  rw [calls]
  constructor
  · intro endpoint passed handed
    exact passes passed (Route.call_handed.mp handed).2
  · intro answer answered
    exact answers (.answered answer) (Route.call_answered.mp answered)

variable {laterMinted : FlowSecrets → Prop}

/-- What the visit's handler leaves is backed, with the secrets that it mints and the tokens that
its callback earns. -/
theorem backed_handles {endpoint : Endpoint}
    (mints : ∀ secrets, minted secrets → laterMinted secrets)
    (login : visit.isGet = true → endpoint = .login → laterMinted visit.secrets)
    (callback : ∀ params secrets response idToken,
      visit.isGet = true → endpoint = .callback → visit.params = some params →
      minted secrets → AnswersLogin visit.client params secrets response idToken →
      earned (response.tokens visit.now))
    (backed : Backed minted earned session) :
    Backed laterMinted earned (visit.handles endpoint session) := by
  have later : Backed laterMinted earned session := backed.mono mints fun _ holds => holds
  cases endpoint with
  | login =>
      simp only [handles]
      split
      · rename_i isGet
        apply later.step (.login visit.client visit.secrets)
        · rintro secrets ⟨⟩
          exact login isGet rfl
        · rintro tokens ⟨⟩
      · exact later
  | callback =>
      simp only [handles]
      split
      · rename_i params isParams
        split
        · rename_i isGet
          apply later.step (.callback visit.client visit.now params)
          · rintro secrets ⟨⟩
          · intro tokens isBrought
            rcases brought_callback isBrought with ⟨response, idToken, accepts, rfl⟩
            rcases backed.answersLogin accepts with ⟨secrets, isMinted, answers⟩
            exact callback params secrets response idToken isGet rfl isParams isMinted answers
        · exact later
      · exact later
  | logout =>
      simp only [handles]
      split
      · apply later.step (.logout visit.client)
        · rintro secrets ⟨⟩
        · rintro tokens ⟨⟩
      · exact later
  | user name =>
      rcases visit.worksBeside session with same | missing
      · exact later.of_sameOn same
      · exact .of_missing missing
  | _ => exact later

/-- What a visit leaves is backed by what was earned and minted before and by what the visit earns
and mints itself. -/
theorem backed_leaves (refreshes : visit.Refreshes earned)
    (mints : ∀ secrets, minted secrets → laterMinted secrets)
    (login : visit.Reaches config paths session .login → laterMinted visit.secrets)
    (callback : ∀ params secrets response idToken,
      visit.Reaches config paths session .callback → visit.params = some params →
      minted secrets → AnswersLogin visit.client params secrets response idToken →
      earned (response.tokens visit.now))
    (backed : Backed minted earned session) :
    Backed laterMinted earned (visit.leaves config paths session) := by
  have unchanged : Backed laterMinted earned session := backed.mono mints fun _ holds => holds
  rcases visit.outcome_sound refreshes backed with ⟨handed, answered⟩
  cases outcome : visit.outcome config paths session with
  | answered answer =>
      cases left : answer.session with
      | none => simpa only [leaves, outcome, left, Option.getD_none] using unchanged
      | some after =>
          have afterBacked := answered answer outcome after left
          simpa only [leaves, outcome, left, Option.getD_some] using
            afterBacked.mono mints fun _ holds => holds
  | handed endpoint passed =>
      cases left : passed.session with
      | none =>
          simpa only [leaves, outcome, left, Option.map_none, Option.getD_none] using unchanged
      | some copy =>
          have copyBacked := (handed endpoint passed outcome).session copy left
          simp only [leaves, outcome, left, Option.map_some, Option.getD_some]
          apply backed_handles mints _ _ copyBacked
          · rintro isGet rfl
            exact login ⟨isGet, passed, outcome⟩
          · rintro params secrets response idToken isGet rfl
            exact callback params secrets response idToken ⟨isGet, passed, outcome⟩

end SessionVisit

end Layers

section Runs

variable {config : Config} {paths : List String} {start finish state next : VisitedSession}
  {past : List (Session × SessionVisit)} {visit : SessionVisit} {session : Session}

theorem Minted.before {secrets : FlowSecrets} (minted : Minted config paths past secrets)
    (served : Session × SessionVisit) : Minted config paths (served :: past) secrets := by
  rcases minted with ⟨session, visit, member, reaches, same⟩
  exact ⟨session, visit, List.mem_cons_of_mem _ member, reaches, same⟩

theorem refreshes_earned : visit.Refreshes (Earned config paths ((session, visit) :: past)) :=
  fun _ _ _ earlier held redeemed => .refreshed earlier held redeemed

/-- The record and the copies hold tokens and secrets of the visits that were made. -/
structure VisitedSession.Backed (config : Config) (paths : List String) (state : VisitedSession) :
    Prop where
  record : Auth.Backed (Minted config paths state.past) (Earned config paths state.past)
    state.record
  held : ∀ request session, state.held request = some session →
    Auth.Backed (Minted config paths state.past) (Earned config paths state.past) session

/-- A session that has no part in a login, and nobody visits it yet. -/
structure VisitedSession.Fresh (state : VisitedSession) : Prop where
  record : ∀ key ∈ tokenKeys ++ secretKeys, state.record.get key = none
  held : ∀ request, state.held request = none

theorem VisitedSession.Fresh.backed (fresh : start.Fresh) : start.Backed config paths where
  record := .of_missing fresh.record
  held := by
    intro request session held
    rw [fresh.held request] at held
    cases held

theorem backed_arrive (backed : state.Backed config paths) (request : ℕ) :
    (state.arrive request).Backed config paths where
  record := backed.record
  held := by
    intro other session held
    simp only [VisitedSession.arrive, Function.update_apply] at held
    split at held
    · cases held
      exact backed.record
    · exact backed.held other session held

theorem backed_leave (backed : state.Backed config paths) {request : ℕ}
    (held : state.held request = some session) (visit : SessionVisit) (saves : Bool) :
    (state.leave config paths request session visit saves).Backed config paths := by
  have later : ∀ copy, Auth.Backed (Minted config paths state.past)
      (Earned config paths state.past) copy →
      Auth.Backed (Minted config paths ((session, visit) :: state.past))
        (Earned config paths ((session, visit) :: state.past)) copy := by
    intro copy isBacked
    exact isBacked.mono (fun secrets minted => minted.before (session, visit))
      fun tokens earned => .before earned
  have found : Auth.Backed (Minted config paths state.past)
      (Earned config paths ((session, visit) :: state.past)) session :=
    (backed.held request session held).mono (fun _ minted => minted)
      fun tokens earned => .before earned
  constructor
  · cases saves with
    | false => exact later state.record backed.record
    | true =>
        refine SessionVisit.backed_leaves refreshes_earned ?_ ?_ ?_ found
        · exact fun secrets minted => minted.before (session, visit)
        · exact fun reaches => ⟨session, visit, .head _, reaches, rfl⟩
        · intro params secrets response idToken reaches isParams minted answers
          exact .callback minted reaches isParams answers
  · intro other copy isHeld
    simp only [VisitedSession.leave, Function.update_apply] at isHeld
    split at isHeld
    · cases isHeld
    · exact later copy (backed.held other copy isHeld)

theorem backed_step (event : VisitEvent) (backed : state.Backed config paths)
    (stepped : (sessionVisits config paths).step state event = some next) :
    next.Backed config paths := by
  cases event with
  | arrives request =>
      simp only [sessionVisits] at stepped
      split at stepped
      · cases stepped
        exact backed_arrive backed request
      · cases stepped
  | leaves request visit saves =>
      rcases Option.map_eq_some_iff.mp stepped with ⟨session, held, rfl⟩
      exact backed_leave backed held visit saves

theorem backed_run (backed : start.Backed config paths) {events : List VisitEvent}
    (ran : (sessionVisits config paths).run start events = some finish) :
    finish.Backed config paths :=
  Machine.invariant_run (fun state => state.Backed config paths)
    (fun _ event _ backed stepped => backed_step event backed stepped) backed ran

/-- Whatever the order in which the requests of a session arrive and leave, and whichever of them
save their copies: an identity that an endpoint sees is proven by the request itself, or it is read
from tokens that the provider gave to a callback that answers a login of this session, or to a
refresh of such tokens. -/
theorem identities_are_earned (fresh : start.Fresh) {events : List VisitEvent}
    (ran : (sessionVisits config paths).run start events = some finish) {request : ℕ}
    (held : finish.held request = some session) (visit : SessionVisit)
    {identity : AuthenticatedIdentity}
    (seen : visit.seenIdentity config paths session = some identity) :
    visit.Presents config identity ∨
      visit.DrawnFrom config (Earned config paths ((session, visit) :: finish.past))
        identity := by
  have backed := backed_run (fresh.backed : start.Backed config paths) ran
  have found : Auth.Backed (Minted config paths finish.past)
      (Earned config paths ((session, visit) :: finish.past)) session :=
    (backed.held request session held).mono (fun _ minted => minted)
      fun tokens earned => .before earned
  unfold SessionVisit.seenIdentity at seen
  split at seen
  · rename_i endpoint passed handed
    have sound := (visit.outcome_sound refreshes_earned found).1 endpoint passed handed
    exact sound.identity identity seen
  · cases seen

end Runs

/-- Ann logs in and comes back from the provider; then a page is asked for. -/
def annsEvents : List VisitEvent :=
  [.arrives 0, .leaves 0 (annsVisit "/auth/login" none) true,
    .arrives 1,
    .leaves 1 (annsVisit "/auth/callback" (some { code := "ann", state := "state" })) true,
    .arrives 2]

/-- The page knows Ann, by nothing but the tokens of her login. -/
theorem identities_are_earned_ann :
    ∃ finish session identity,
      (sessionVisits codeFlowConfig ["/reports"]).run { record := FlowState.new.session }
        annsEvents = some finish ∧
      (annsVisit "/reports" none).seenIdentity codeFlowConfig ["/reports"] session =
        some identity ∧
      (annsVisit "/reports" none).DrawnFrom codeFlowConfig
        (Earned codeFlowConfig ["/reports"] ((session, annsVisit "/reports" none) :: finish.past))
        identity := by
  have computed : ((((sessionVisits codeFlowConfig ["/reports"]).run
      { record := FlowState.new.session } annsEvents).bind fun finish =>
        (finish.held 2).bind fun session =>
          (annsVisit "/reports" none).seenIdentity codeFlowConfig ["/reports"]
            session).map AuthenticatedIdentity.user) = some "ann" := by
    decide +kernel
  rcases Option.map_eq_some_iff.mp computed with ⟨identity, known, -⟩
  rcases Option.bind_eq_some_iff.mp known with ⟨finish, ran, found⟩
  rcases Option.bind_eq_some_iff.mp found with ⟨session, held, seen⟩
  refine ⟨finish, session, identity, ran, seen, ?_⟩
  rcases identities_are_earned ⟨fun _ _ => rfl, fun _ => rfl⟩ ran held _ seen with
    (⟨oidc, -, proven⟩ | ⟨basic, isActive, -⟩ | ⟨proxy, isActive, -⟩) | drawn
  · cases proven
  · cases isActive
  · cases isActive
  · exact drawn

end AxumConf.Fluent
