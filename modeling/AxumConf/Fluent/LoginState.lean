import AxumConf.Fluent.SessionVisits

/-!
# The login state of a session

What the entries of a session mean: a login that is pending, and the tokens of the one that was
completed.  The session layer and the handlers of the code flow do to the entries what the functions
here do to the state.
-/

namespace AxumConf.Fluent

open Auth Tower

structure LoginState where
  pending : Option FlowSecrets := none
  tokens : Option RefreshedTokens := none
  deriving DecidableEq

/-- Tokens with what replaces them; a token that is not replaced stays. -/
def renewed (held fresh : RefreshedTokens) : RefreshedTokens where
  access := fresh.access
  refresh := fresh.refresh.or held.refresh
  idToken := fresh.idToken.or held.idToken
  expiry := fresh.expiry

namespace SessionVisit

variable (visit : SessionVisit) (config : Config) (paths : List String)

/-- The tokens after a refresh, if they need one. -/
def currentTokens (held : RefreshedTokens) : Option RefreshedTokens :=
  if held.expiry - 30 ≤ visit.platform.external.nowEpochSecs then
    (held.refresh.bind visit.client.refreshTokens).map (renewed held)
  else some held

def isForgery (tokens : RefreshedTokens) : Bool :=
  tokens.idToken.any (isForged visit.platform.external (some visit.client.toOidcClient))

/-- The state behind the session layer. -/
def inspect (state : LoginState) : LoginState :=
  match state.tokens with
  | none => state
  | some held =>
      match visit.currentTokens held with
      | none => {}
      | some current =>
          if visit.isForgery current then {} else { state with tokens := some current }

/-- Who is logged in. -/
def loggedIn (rolesClaim : String) (state : LoginState) : Option AuthenticatedIdentity :=
  (visit.inspect state).tokens.bind fun current =>
    current.idToken.bind fun idToken =>
      parseIdTokenToIdentity visit.platform.external idToken (some current.access) rolesClaim

/-- The tokens with which the provider answers a callback of the pending login. -/
def exchanged (state : LoginState) (params : CallbackParams) : Option RefreshedTokens :=
  state.pending.bind fun secrets =>
    if params.state = secrets.csrfState then
      (visit.client.exchangeCode params.code secrets.pkceVerifier).toOption.bind fun response =>
        response.idToken.bind fun idToken =>
          (visit.client.verifyIdToken visit.client.audiences secrets.nonce
            idToken).toOption.map fun _ => response.tokens visit.now
    else none

/-- The state behind the handler of the endpoint. -/
def handleState (endpoint : Endpoint) (state : LoginState) : LoginState :=
  match endpoint with
  | .login => if visit.isGet then { state with pending := some visit.secrets } else state
  | .callback =>
      match visit.params.bind (visit.exchanged state) with
      | some fresh =>
          if visit.isGet then
            { tokens := some ((state.tokens.map fun held => renewed held fresh).getD fresh) }
          else state
      | none => state
  | .logout => if visit.isGet then {} else state
  | _ => state

def acceptsCredentials : Bool :=
  (activeBasic config).all fun basic =>
    match tryAuthenticate visit.platform.external basic visit.head.headers with
    | .authenticated _ => true
    | .invalidCredentials _ => false
    | .noCredentials => basicPassthrough config

def acceptsToken : Bool :=
  (activeOidc config).all fun oidc => oidc.authCodeFlowEnabled ||
    (bearerClaims visit.platform.external visit.platform.bearerKeys visit.head.headers).isSome

/-- The session layer stands before the endpoint, the request gets as far as it and has no identity
yet. -/
def isInspected (endpoint : Endpoint) : Bool :=
  (activeCodeFlow config).isSome &&
    (endpoint == .notFound || isInner endpoint && visit.acceptsCredentials config &&
      (credentialIdentity visit.platform config visit.head).isNone)

/-- The identity that the endpoint sees. -/
def identityIn (endpoint : Endpoint) (state : LoginState) : Option AuthenticatedIdentity :=
  let user := (activeCodeFlow config).bind fun oidc => visit.loggedIn oidc.rolesClaim state
  if endpoint = .notFound then user
  else if isInner endpoint && visit.acceptsCredentials config && visit.acceptsToken config then
    ((activeOidc config).bind fun oidc =>
      bearerIdentity visit.platform.external visit.platform.bearerKeys oidc.rolesClaim
        visit.head.headers).or
      ((credentialIdentity visit.platform config visit.head).or user)
  else none

/-- Where the path of the request leads. -/
def endpoint : Endpoint :=
  (((withUserRoutes config paths).built visit.platform).routeOf visit.platform
    visit.head.path).endpoint

/-- The state after the visit. -/
def next (state : LoginState) : LoginState :=
  let endpoint := visit.endpoint config paths
  visit.handleState endpoint
    (if visit.isInspected config endpoint then visit.inspect state else state)

end SessionVisit

section Entries

variable {session after : Session} {state : LoginState} {held fresh : RefreshedTokens}

/-- The entries of the tokens are these, or there are none. -/
def TokensAre (session : Session) : Option RefreshedTokens → Prop
  | some held => HoldsTokens session held
  | none => ∀ key ∈ tokenKeys, session.get key = none

def SecretsAre (session : Session) : Option FlowSecrets → Prop
  | some secrets => HoldsSecrets session secrets
  | none => NoSecrets session

/-- The session can be read, and its entries are those of the state. -/
structure Represents (session : Session) (state : LoginState) : Prop where
  readable : session.record.isSome = true
  tokens : TokensAre session state.tokens
  secrets : SecretsAre session state.pending

theorem TokensAre.of_sameOn {tokens : Option RefreshedTokens} (are : TokensAre session tokens)
    (same : SameTokens session after) : TokensAre after tokens := by
  cases tokens with
  | none => exact fun key member => (same key member).trans (are key member)
  | some held =>
      refine ⟨?_, ?_, ?_, ?_⟩
      · exact (same.getString (by decide)).trans are.access
      · exact (same.getString (by decide)).trans are.refresh
      · exact (same.getString (by decide)).trans are.idToken
      · exact (same.getU64 (by decide)).trans are.expiry

theorem SecretsAre.of_sameOn {pending : Option FlowSecrets} (are : SecretsAre session pending)
    (same : Session.SameOn secretKeys session after) : SecretsAre after pending := by
  cases pending with
  | none => exact NoSecrets.of_sameOn are same
  | some secrets =>
      refine ⟨?_, ?_, ?_⟩
      · exact (same sessionPkceVerifier (by decide)).trans are.pkceVerifier
      · exact (same sessionCsrfState (by decide)).trans are.csrfState
      · exact (same sessionNonce (by decide)).trans are.nonce

theorem TokensAre.getString_refresh {tokens : Option RefreshedTokens}
    (are : TokensAre session tokens) :
    session.getString sessionRefreshToken = tokens.bind RefreshedTokens.refresh := by
  cases tokens with
  | none => simp [Session.getString, are sessionRefreshToken (by decide)]
  | some held => exact are.refresh

theorem TokensAre.getString_idToken {tokens : Option RefreshedTokens}
    (are : TokensAre session tokens) :
    session.getString sessionIdToken = tokens.bind RefreshedTokens.idToken := by
  cases tokens with
  | none => simp [Session.getString, are sessionIdToken (by decide)]
  | some held => exact are.idToken

/-- Storing tokens renews those that are there. -/
theorem TokensAre.of_stores {tokens : Option RefreshedTokens} (are : TokensAre session tokens)
    (stores : Stores session fresh after) :
    TokensAre after (some ((tokens.map fun held => renewed held fresh).getD fresh)) := by
  have refresh := stores.refresh
  have idToken := stores.idToken
  rw [are.getString_refresh] at refresh
  rw [are.getString_idToken] at idToken
  cases tokens with
  | none =>
      rw [Option.bind_none, Option.or_none] at refresh idToken
      exact ⟨stores.access, refresh, idToken, stores.expiry⟩
  | some held => exact ⟨stores.access, refresh, idToken, stores.expiry⟩

theorem represents_flush (session : Session) : Represents session.flush {} where
  readable := rfl
  tokens _ _ := rfl
  secrets _ _ := rfl

end Entries

section Inspecting

variable {visit : SessionVisit} {session : Session} {state : LoginState}
  {held current : RefreshedTokens} {request : Request} {rolesClaim : String}

/-- The session layer goes on with a session that holds the current tokens, if there are such. -/
theorem represents_freshSession (represents : Represents session state)
    (isHeld : state.tokens = some held) :
    (visit.currentTokens held = none ∧
      freshSession visit.platform.external (some visit.client.toOidcClient) session = none) ∨
    ∃ current fresh, visit.currentTokens held = some current ∧
      freshSession visit.platform.external (some visit.client.toOidcClient) session = some fresh ∧
      Represents fresh { state with tokens := some current } := by
  have tokens := represents.tokens
  rw [isHeld] at tokens
  have expires : isExpired visit.platform.external session =
      decide (held.expiry - 30 ≤ visit.platform.external.nowEpochSecs) := by
    rw [isExpired, tokens.expiry]
    rfl
  have refreshes : refreshedTokens (some visit.client.toOidcClient) session =
      held.refresh.bind visit.client.refreshTokens := by
    have stored : session.getString sessionRefreshToken = held.refresh := tokens.refresh
    unfold refreshedTokens
    rw [stored]
    cases held.refresh with
    | none => rfl
    | some refresh => rfl
  unfold SessionVisit.currentTokens freshSession
  rw [expires, refreshes]
  by_cases expired : held.expiry - 30 ≤ visit.platform.external.nowEpochSecs
  · simp only [expired, decide_true, if_true]
    cases held.refresh.bind visit.client.refreshTokens with
    | none => exact .inl ⟨rfl, rfl⟩
    | some fresh =>
        have stores : Stores session fresh (storeRefreshed session fresh) :=
          stores_storeRefreshed represents.readable
        refine .inr ⟨renewed held fresh, storeRefreshed session fresh, rfl, rfl, ?_, ?_, ?_⟩
        · exact readable_of_getString stores.access
        · exact @TokensAre.of_stores session _ fresh (some held) tokens stores
        · exact represents.secrets.of_sameOn (sameOn_storeRefreshed (by decide))
  · simp only [expired, decide_false, if_false, Bool.false_eq_true]
    refine .inr ⟨held, session, rfl, rfl, represents.readable, tokens, represents.secrets⟩

/-- Reading the identity clears a session with a forged ID token and keeps any other. -/
theorem represents_identifyBySession
    (hasClient : request.oidcClient = some visit.client.toOidcClient)
    (unknown : request.identity = none)
    (represents : Represents session { state with tokens := some current }) :
    ∃ after,
      (identifyBySession visit.platform.external rolesClaim request session).session =
        some after ∧
      Represents after
        (if visit.isForgery current then {} else { state with tokens := some current }) ∧
      (identifyBySession visit.platform.external rolesClaim request session).identity =
        (if visit.isForgery current then none else
          current.idToken.bind fun idToken =>
            parseIdTokenToIdentity visit.platform.external idToken (some current.access)
              rolesClaim) := by
  have tokens : HoldsTokens session current := represents.tokens
  unfold identifyBySession SessionVisit.isForgery
  rw [tokens.idToken, tokens.access, hasClient]
  cases current.idToken with
  | none => exact ⟨session, rfl, represents, unknown⟩
  | some idToken =>
      simp only [Option.any_some, Option.bind_some]
      by_cases forged : isForged visit.platform.external (some visit.client.toOidcClient) idToken
      · simp only [forged, if_true]
        exact ⟨session.flush, rfl, represents_flush session, unknown⟩
      · simp only [forged, if_false, Bool.false_eq_true]
        cases parseIdTokenToIdentity visit.platform.external idToken (some current.access)
            rolesClaim with
        | none => exact ⟨session, rfl, represents, unknown⟩
        | some identity => exact ⟨session, rfl, represents, rfl⟩

/-- The session layer takes the session to the inspected state and identifies who is logged in. -/
theorem represents_withSessionIdentity
    (hasClient : request.oidcClient = some visit.client.toOidcClient)
    (unknown : request.identity = none) (found : request.session = some session)
    (represents : Represents session state) :
    ∃ after,
      (withSessionIdentity visit.platform.external rolesClaim request).session = some after ∧
      Represents after (visit.inspect state) ∧
      (withSessionIdentity visit.platform.external rolesClaim request).identity =
        visit.loggedIn rolesClaim state := by
  unfold withSessionIdentity SessionVisit.loggedIn SessionVisit.inspect
  simp only [unknown, found, Option.isSome_none, Bool.false_eq_true, if_false]
  have tokens := represents.tokens
  cases isHeld : state.tokens with
  | none =>
      rw [isHeld] at tokens
      have noAccess : session.getString sessionAccessToken = none := by
        simp [Session.getString, tokens sessionAccessToken (by decide)]
      simp only [noAccess, Option.isNone_none, if_true, isHeld, Option.bind_none]
      exact ⟨session, found, represents, unknown⟩
  | some held =>
      rw [isHeld] at tokens
      have hasAccess : (session.getString sessionAccessToken).isNone = false := by
        rw [tokens.access]
        rfl
      simp only [hasAccess, Bool.false_eq_true, if_false, hasClient]
      rcases @represents_freshSession visit _ _ _ represents isHeld with
        ⟨lost, noFresh⟩ | ⟨current, fresh, isCurrent, isFresh, freshRepresents⟩
      · simp only [lost, noFresh, Option.bind_none]
        exact ⟨session.flush, rfl, represents_flush session, trivial⟩
      · simp only [isCurrent, isFresh]
        rcases @represents_identifyBySession visit _ _ _ _ rolesClaim hasClient unknown
          freshRepresents with ⟨after, isAfter, afterRepresents, identity⟩
        refine ⟨after, isAfter, afterRepresents, ?_⟩
        rw [identity]
        split
        · rfl
        · rfl

end Inspecting

section Handling

variable {client : CodeFlowClient} {params : CallbackParams} {visit : SessionVisit}
  {session : Session} {state : LoginState}

theorem storedSecret_eq_ok {key name text : String}
    (stored : session.get key = some (.string text)) :
    storedSecret client session key name = .ok text := by
  rcases session with ⟨_ | record⟩
  · simp [Session.get] at stored
  · have held : record key = some (.string text) := stored
    simp only [storedSecret, sessionGetText, held]

theorem exchange_eq_ok_iff {code pkceVerifier : String} {response : TokenResponse} :
    exchange client code pkceVerifier = .ok response ↔
      client.exchangeCode code pkceVerifier = .ok response := by
  constructor
  · exact exchangeCode_of_exchange
  · intro exchanges
    simp only [exchange, exchanges]

theorem verifiedIdToken_eq_ok_iff {nonce idToken : String} {response : TokenResponse} :
    verifiedIdToken client nonce response = .ok idToken ↔
      response.idToken = some idToken ∧
        client.verifyIdToken client.audiences nonce idToken = .ok () := by
  constructor
  · intro verifies
    exact ⟨idToken_of_verifiedIdToken verifies, verifyIdToken_of_verifiedIdToken verifies⟩
  · rintro ⟨brought, valid⟩
    simp only [verifiedIdToken, brought, valid]

/-- In a session with a pending login the callbacks that answer it are accepted. -/
theorem acceptsCallback_iff {secrets : FlowSecrets} {response : TokenResponse} {idToken : String}
    (holds : HoldsSecrets session secrets) :
    AcceptsCallback client params session response idToken ↔
      AnswersLogin client params secrets response idToken := by
  constructor
  · exact answersLogin_of_accepts holds
  · rintro ⟨state, exchanged, received, verified⟩
    simp only [AcceptsCallback, callbackTokens, bind_eq_ok_iff]
    exact ⟨_, storedSecret_eq_ok holds.csrfState, _, rejectIf_ok.mpr (by simpa using state), _,
      storedSecret_eq_ok holds.pkceVerifier, _, storedSecret_eq_ok holds.nonce, _,
      exchange_eq_ok_iff.mpr exchanged, _, verifiedIdToken_eq_ok_iff.mpr ⟨received, verified⟩,
      rfl⟩

theorem toOption_eq_some_iff {Problem Value : Type} {result : Except Problem Value}
    {value : Value} : result.toOption = some value ↔ result = .ok value := by
  cases result with
  | error problem => simp [Except.toOption]
  | ok found => simp [Except.toOption]

/-- The tokens of the state's exchange are those of a response that answers the pending login. -/
theorem exchanged_eq_some_iff {fresh : RefreshedTokens} :
    visit.exchanged state params = some fresh ↔
      ∃ secrets, state.pending = some secrets ∧ ∃ response idToken,
        AnswersLogin visit.client params secrets response idToken ∧
        response.tokens visit.now = fresh := by
  unfold SessionVisit.exchanged
  cases state.pending with
  | none => simp
  | some secrets =>
      simp only [Option.bind_some, Option.some.injEq, exists_eq_left']
      constructor
      · intro exchanged
        split at exchanged
        · rename_i sameState
          rcases Option.bind_eq_some_iff.mp exchanged with ⟨response, exchanges, verifies⟩
          rcases Option.bind_eq_some_iff.mp verifies with ⟨idToken, received, valid⟩
          rcases Option.map_eq_some_iff.mp valid with ⟨⟨⟩, verified, same⟩
          rw [toOption_eq_some_iff] at exchanges verified
          exact ⟨response, idToken, ⟨sameState, exchanges, received, verified⟩, same⟩
        · cases exchanged
      · rintro ⟨response, idToken, answers, rfl⟩
        simp [answers.state, answers.exchanged, answers.received, answers.verified,
          Except.toOption]

/-- Handlers of the user that leave the entries of the login alone. -/
structure SessionVisit.IsQuiet (visit : SessionVisit) : Prop where
  entries : ∀ session, Session.SameOn (tokenKeys ++ secretKeys) session (visit.work session)
  readable : ∀ session : Session, session.record.isSome = true →
    (visit.work session).record.isSome = true

theorem readable_removeFlowState (readable : session.record.isSome = true) :
    (removeFlowState session).record.isSome = true := by
  simpa [removeFlowState, Session.remove] using readable

theorem readable_callback (readable : session.record.isSome = true) (now : ℕ) :
    (callbackHandler client now params session).2.record.isSome = true := by
  unfold callbackHandler
  split
  · exact readable
  · rename_i response idToken accepts
    have hasIdToken := (callbackTokens_ok accepts).2
    have stored : (storeTokens session response idToken now).record.isSome = true := by
      rw [storeTokens_eq now hasIdToken]
      exact readable_of_getString (stores_storeRefreshed readable).access
    have removed := readable_removeFlowState stored
    simpa [Session.remove] using removed

/-- A login leaves its secrets pending beside the tokens. -/
theorem represents_login (represents : Represents session state) (secrets : FlowSecrets) :
    Represents (loginHandler client secrets session).2 { state with pending := some secrets } where
  readable := by simpa [loginHandler] using represents.readable
  tokens := by
    apply represents.tokens.of_sameOn
    exact ((sameTokens_insert _ (by decide)).trans (sameTokens_insert _ (by decide))).trans
      (sameTokens_insert _ (by decide))
  secrets := holdsSecrets_login secrets represents.readable

/-- A callback completes the login that it answers and otherwise leaves the state as it is. -/
theorem represents_callback (represents : Represents session state) :
    Represents (callbackHandler visit.client visit.now params session).2
      (match visit.exchanged state params with
        | some fresh =>
            { tokens := some ((state.tokens.map fun held => renewed held fresh).getD fresh) }
        | none => state) := by
  cases exchanges : visit.exchanged state params with
  | some fresh =>
      rcases exchanged_eq_some_iff.mp exchanges with
        ⟨secrets, isPending, response, idToken, answers, rfl⟩
      have holds := represents.secrets
      rw [isPending] at holds
      have accepts := (acceptsCallback_iff holds).mpr answers
      refine ⟨readable_callback represents.readable visit.now, ?_, noSecrets_callback _ accepts⟩
      exact represents.tokens.of_stores (callbackHandler_stores visit.now accepts)
  | none =>
      cases checked : callbackTokens visit.client params session with
      | error problem =>
          rw [callbackHandler_of_error visit.now checked]
          exact represents
      | ok result =>
          rcases result with ⟨response, idToken⟩
          have holds := represents.secrets
          cases isPending : state.pending with
          | none =>
              rw [isPending] at holds
              exact absurd checked (not_acceptsCallback holds)
          | some secrets =>
              rw [isPending] at holds
              have answers := (acceptsCallback_iff holds).mp checked
              have some := exchanged_eq_some_iff.mpr
                ⟨secrets, isPending, response, idToken, answers, rfl⟩
              rw [some] at exchanges
              cases exchanges

/-- What the handler of an endpoint makes of the session is what it makes of the state. -/
theorem represents_handles (quiet : visit.IsQuiet) (represents : Represents session state)
    (endpoint : Endpoint) :
    Represents (visit.handles endpoint session) (visit.handleState endpoint state) := by
  cases endpoint with
  | login =>
      simp only [SessionVisit.handles, SessionVisit.handleState]
      split
      · exact represents_login represents visit.secrets
      · exact represents
  | callback =>
      simp only [SessionVisit.handles, SessionVisit.handleState]
      cases visit.params with
      | none => exact represents
      | some params =>
          have completed := @represents_callback params visit session state represents
          rw [Option.bind_some]
          cases exchanges : visit.exchanged state params with
          | none =>
              rw [exchanges] at completed
              simp only
              split
              · exact completed
              · exact represents
          | some fresh =>
              rw [exchanges] at completed
              simp only
              split
              · exact completed
              · exact represents
  | logout =>
      simp only [SessionVisit.handles, SessionVisit.handleState]
      split
      · exact represents_flush session
      · exact represents
  | user name =>
      refine ⟨quiet.readable session represents.readable, ?_, ?_⟩
      · apply represents.tokens.of_sameOn
        exact fun key member => quiet.entries session key (List.mem_append_left _ member)
      · apply represents.secrets.of_sameOn
        exact fun key member => quiet.entries session key (List.mem_append_right _ member)
  | _ => exact represents

end Handling

end AxumConf.Fluent
