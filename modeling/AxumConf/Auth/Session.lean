import AxumConf.Auth.Bearer

/-!
# Identity from the session

`session_to_identity` rebuilds the identity from the ID token that the login stored in the session.
An expired access token is refreshed first; a failed refresh and a forged ID token clear the
session.  The request is passed on in every case.
-/

namespace AxumConf.Auth

open Tower

def sessionAccessToken : String := "oidc_access_token"
def sessionRefreshToken : String := "oidc_refresh_token"
def sessionIdToken : String := "oidc_id_token"
def sessionTokenExpiry : String := "oidc_token_expiry"

/-- The identity in the payload of a JWT of three segments; its signature is not checked here. -/
def parseIdTokenToIdentity (external : External) (idToken : String) (accessToken : Option String)
    (rolesClaim : String) : Option AuthenticatedIdentity :=
  match Text.split idToken '.' with
  | [_header, payload, _signature] =>
      ((external.decodeBase64Url payload).bind external.parseJson).bind fun claims =>
        (claimText claims "sub").map fun sub =>
          { method := .oidc
            user := sub
            email := claimText claims "email"
            groups := textItems ((claims.get "realm_access").bind fun access => access.get "roles")
            roles := textItems (claims.get rolesClaim)
            preferredUsername := claimText claims "preferred_username"
            accessToken }
  | _ => none

/-- The access token ends within 30 seconds; one without a stored expiry never does. -/
def isExpired (external : External) (session : Session) : Bool :=
  (session.getU64 sessionTokenExpiry).any fun expiry => expiry - 30 ≤ external.nowEpochSecs

def insertSome (session : Session) (key : String) (text : Option String) : Session :=
  match text with
  | some text => session.insert key (.string text)
  | none => session

/-- Stores what a refresh brought; absent tokens leave the stored ones in place. -/
def storeRefreshed (session : Session) (refreshed : RefreshedTokens) : Session :=
  let session := session.insert sessionAccessToken (.string refreshed.access)
  let session := insertSome session sessionRefreshToken refreshed.refresh
  let session := insertSome session sessionIdToken refreshed.idToken
  session.insert sessionTokenExpiry (.posInt refreshed.expiry)

def refreshedTokens (client : Option OidcClient) (session : Session) : Option RefreshedTokens :=
  match client, session.getString sessionRefreshToken with
  | some client, some refresh => client.refreshTokens refresh
  | _, _ => none

/-- The session whose ID token is to be read, or none when the session has to be cleared. -/
def freshSession (external : External) (client : Option OidcClient) (session : Session) :
    Option Session :=
  if isExpired external session then
    (refreshedTokens client session).map (storeRefreshed session)
  else some session

def isForged (external : External) (client : Option OidcClient) (idToken : String) : Bool :=
  client.any fun client => verifySignature external client.idTokenKeys idToken == .invalid

def identifyBySession (external : External) (rolesClaim : String) (request : Request)
    (session : Session) : Request :=
  match session.getString sessionIdToken with
  | none => { request with session := some session }
  | some idToken =>
      if isForged external request.oidcClient idToken then
        { request with session := some session.flush }
      else
        match parseIdTokenToIdentity external idToken (session.getString sessionAccessToken)
            rolesClaim with
        | some identity => { request with session := some session, identity := some identity }
        | none => { request with session := some session }

/-- The request that `session_to_identity` passes on. -/
def withSessionIdentity (external : External) (rolesClaim : String) (request : Request) :
    Request :=
  if request.identity.isSome then request
  else
    match request.session with
    | none => request
    | some session =>
        if (session.getString sessionAccessToken).isNone then request
        else
          match freshSession external request.oidcClient session with
          | some fresh => identifyBySession external rolesClaim request fresh
          | none => { request with session := some session.flush }

def sessionToIdentity (external : External) (rolesClaim : String) : Middleware where
  inbound := fun request => .ok (withSessionIdentity external rolesClaim request)
  keepsHead := by
    intro request passed passes
    cases passes
    unfold withSessionIdentity identifyBySession
    repeat' split
    all_goals rfl

/-- The session holds an ID token that is not known to be forged and names a subject. -/
def NamesSubjectOf (external : External) (rolesClaim : String) (client : Option OidcClient)
    (session : Session) : Prop :=
  ∃ idToken, session.getString sessionIdToken = some idToken ∧
    isForged external client idToken = false ∧
    (parseIdTokenToIdentity external idToken (session.getString sessionAccessToken)
      rolesClaim).isSome = true

/-- The session holds an access token, which is current or refreshed now, and then an ID token
that names a subject. -/
def NamesSessionUser (external : External) (rolesClaim : String) (request : Request) : Prop :=
  ∃ session, request.session = some session ∧
    (session.getString sessionAccessToken).isSome = true ∧
    ∃ fresh, freshSession external request.oidcClient session = some fresh ∧
      NamesSubjectOf external rolesClaim request.oidcClient fresh

/-- What a predicate says about a request does not depend on the content of its session. -/
def SessionBlind (post : Request → Prop) : Prop :=
  ∀ request session, post { request with session } ↔ post request

variable {external : External} {rolesClaim : String}

theorem identifyBySession_identified {request : Request} {session : Session}
    (names : NamesSubjectOf external rolesClaim request.oidcClient session) :
    (identifyBySession external rolesClaim request session).Identified := by
  obtain ⟨idToken, stored, genuine, subject⟩ := names
  obtain ⟨identity, parsed⟩ := Option.isSome_iff_exists.mp subject
  simp [identifyBySession, stored, genuine, parsed, Request.Identified]

theorem identifyBySession_unidentified {request : Request} {session : Session}
    (nameless : ¬NamesSubjectOf external rolesClaim request.oidcClient session) :
    ∃ left, identifyBySession external rolesClaim request session =
      { request with session := left } := by
  unfold identifyBySession
  cases stored : session.getString sessionIdToken with
  | none => exact ⟨some session, rfl⟩
  | some idToken =>
      cases forged : isForged external request.oidcClient idToken with
      | true => exact ⟨some session.flush, by simp [forged]⟩
      | false =>
          cases parsed : parseIdTokenToIdentity external idToken
              (session.getString sessionAccessToken) rolesClaim with
          | none => exact ⟨some session, by simp [forged, parsed]⟩
          | some identity =>
              exact absurd ⟨idToken, stored, forged, by simp [parsed]⟩ nameless

theorem withSessionIdentity_identified {request : Request}
    (names : NamesSessionUser external rolesClaim request) :
    (withSessionIdentity external rolesClaim request).Identified := by
  obtain ⟨session, stored, access, fresh, refreshed, subject⟩ := names
  unfold withSessionIdentity
  by_cases known : request.identity.isSome = true
  · simp only [known, if_true]
    exact known
  · have hasAccess : (session.getString sessionAccessToken).isNone = false := by
      simpa [Option.isNone_eq_false_iff] using access
    simp only [known, stored, hasAccess, refreshed, if_false, Bool.false_eq_true]
    exact identifyBySession_identified subject

theorem withSessionIdentity_unidentified {request : Request}
    (nameless : ¬NamesSessionUser external rolesClaim request) :
    ∃ left, withSessionIdentity external rolesClaim request = { request with session := left } := by
  unfold withSessionIdentity
  by_cases known : request.identity.isSome = true
  · exact ⟨request.session, by simp [known]⟩
  · simp only [known, Bool.false_eq_true, if_false]
    cases stored : request.session with
    | none => exact ⟨none, by simp [← stored]⟩
    | some session =>
        by_cases access : (session.getString sessionAccessToken).isNone = true
        · exact ⟨some session, by simp [access, ← stored]⟩
        · simp only [access, Bool.false_eq_true, if_false]
          cases refreshed : freshSession external request.oidcClient session with
          | none => exact ⟨some session.flush, rfl⟩
          | some fresh =>
              apply identifyBySession_unidentified
              intro subject
              refine nameless ⟨session, stored, ?_, fresh, refreshed, subject⟩
              simpa [Option.isSome_iff_ne_none] using access

/-- As far as the inner layers do not look at the session, this layer identifies the session's user
and leaves all other requests as they are. -/
theorem sessionToIdentity_ensures {post : Request → Prop}
    (identified : ∀ request, request.Identified → post request) (blind : SessionBlind post)
    (request : Request) :
    Ensures [(sessionToIdentity external rolesClaim).layer] post request ↔
      NamesSessionUser external rolesClaim request ∨ post request := by
  have passes : Ensures [(sessionToIdentity external rolesClaim).layer] post request ↔
      post (withSessionIdentity external rolesClaim request) := by
    simp only [Middleware.ensures_layer, sessionToIdentity, Except.ok.injEq, forall_eq']
  rw [passes]
  by_cases names : NamesSessionUser external rolesClaim request
  · have attached := identified _ (withSessionIdentity_identified names)
    simp [names, attached]
  · obtain ⟨left, same⟩ := withSessionIdentity_unidentified names
    rw [same, blind request left]
    simp [names]

end AxumConf.Auth
