import AxumConf.Auth.CodeFlow
import AxumConf.Lib.Machine

/-!
# Which login the session's tokens come from

A callback stores its tokens one by one, the refresh token only when the response has one.  What
the session holds afterwards is the response exactly when the response has a refresh token or the
session held none.  Where every callback of a run is of this kind, the session never holds tokens
of two logins.
-/

namespace AxumConf.Auth

def tokenKeys : List String :=
  [sessionAccessToken, sessionRefreshToken, sessionIdToken, sessionTokenExpiry]

def TokenResponse.tokens (response : TokenResponse) (now : ℕ) : RefreshedTokens where
  access := response.access
  refresh := response.refresh
  idToken := response.idToken
  expiry := tokenExpiry now response.expiresIn

/-- The session's tokens and their expiry are those that were brought. -/
structure HoldsTokens (session : Session) (tokens : RefreshedTokens) : Prop where
  access : session.getString sessionAccessToken = some tokens.access
  refresh : session.getString sessionRefreshToken = tokens.refresh
  idToken : session.getString sessionIdToken = tokens.idToken
  expiry : session.getU64 sessionTokenExpiry = some tokens.expiry

/-- What storing tokens leaves in the session: tokens that were not brought stay as they were. -/
structure Stores (session : Session) (tokens : RefreshedTokens) (after : Session) : Prop where
  access : after.getString sessionAccessToken = some tokens.access
  refresh : after.getString sessionRefreshToken =
    tokens.refresh.or (session.getString sessionRefreshToken)
  idToken : after.getString sessionIdToken = tokens.idToken.or (session.getString sessionIdToken)
  expiry : after.getU64 sessionTokenExpiry = some tokens.expiry

/-- The entries of the tokens are the same in both sessions. -/
def SameTokens (session after : Session) : Prop :=
  ∀ key ∈ tokenKeys, after.get key = session.get key

section Storing

variable {session after : Session} {tokens : RefreshedTokens}

theorem SameTokens.getString (same : SameTokens session after) {key : String}
    (member : key ∈ tokenKeys) : after.getString key = session.getString key :=
  Session.SameOn.getString same member

theorem SameTokens.getU64 (same : SameTokens session after) {key : String}
    (member : key ∈ tokenKeys) : after.getU64 key = session.getU64 key :=
  Session.SameOn.getU64 same member

theorem SameTokens.trans {later : Session} (first : SameTokens session after)
    (second : SameTokens after later) : SameTokens session later :=
  Session.SameOn.trans first second

theorem sameTokens_insert {key : String} (value : Json) (foreign : key ∉ tokenKeys) :
    SameTokens session (session.insert key value) :=
  Session.sameOn_insert value foreign

theorem sameTokens_remove {key : String} (foreign : key ∉ tokenKeys) :
    SameTokens session (session.remove key) :=
  Session.sameOn_remove foreign

theorem get_insertSome_ne {key other : String} {text : Option String} (different : other ≠ key) :
    (insertSome session key text).get other = session.get other := by
  cases text with
  | none => rfl
  | some text => exact Session.get_insert_ne different

theorem sameOn_insertSome {keys : List String} {key : String} {text : Option String}
    (foreign : key ∉ keys) : Session.SameOn keys session (insertSome session key text) := by
  cases text with
  | none => exact Session.SameOn.refl keys session
  | some text => exact Session.sameOn_insert _ foreign

/-- Storing tokens changes no other entry. -/
theorem sameOn_storeRefreshed {keys : List String} (foreign : ∀ key ∈ tokenKeys, key ∉ keys) :
    Session.SameOn keys session (storeRefreshed session tokens) := by
  have access : Session.SameOn keys session
      (session.insert sessionAccessToken (.string tokens.access)) :=
    Session.sameOn_insert _ (foreign _ (by decide))
  exact ((access.trans (sameOn_insertSome (foreign _ (by decide)))).trans
    (sameOn_insertSome (foreign _ (by decide)))).trans
    (Session.sameOn_insert _ (foreign _ (by decide)))

theorem record_insertSome_isSome {key : String} {text : Option String} :
    (insertSome session key text).record.isSome = session.record.isSome := by
  cases text with
  | none => rfl
  | some text => exact Session.record_insert_isSome

theorem getString_insertSome {key : String} {text : Option String}
    (readable : session.record.isSome = true) :
    (insertSome session key text).getString key = text.or (session.getString key) := by
  cases text with
  | none => rfl
  | some text =>
      rw [insertSome, Session.getString, Session.get_insert_same readable]
      rfl

/-- Storing into a readable session, one entry after the other. -/
theorem stores_storeRefreshed (readable : session.record.isSome = true) :
    Stores session tokens (storeRefreshed session tokens) where
  access := by
    rw [storeRefreshed, Session.getString, Session.get_insert_ne (by decide),
      get_insertSome_ne (by decide), get_insertSome_ne (by decide),
      Session.get_insert_same readable]
    rfl
  refresh := by
    have stored : (storeRefreshed session tokens).getString sessionRefreshToken =
        (insertSome (session.insert sessionAccessToken (.string tokens.access))
          sessionRefreshToken tokens.refresh).getString sessionRefreshToken := by
      rw [storeRefreshed, Session.getString, Session.get_insert_ne (by decide),
        get_insertSome_ne (by decide), Session.getString]
    rw [stored, getString_insertSome (by simpa using readable), Session.getString,
      Session.get_insert_ne (by decide), Session.getString]
  idToken := by
    have stored : (storeRefreshed session tokens).getString sessionIdToken =
        (insertSome (insertSome (session.insert sessionAccessToken (.string tokens.access))
          sessionRefreshToken tokens.refresh) sessionIdToken tokens.idToken).getString
          sessionIdToken := by
      rw [storeRefreshed, Session.getString, Session.get_insert_ne (by decide), Session.getString]
    rw [stored, getString_insertSome (by simpa [record_insertSome_isSome] using readable),
      Session.getString, get_insertSome_ne (by decide), Session.get_insert_ne (by decide),
      Session.getString]
  expiry := by
    rw [storeRefreshed, Session.getU64,
      Session.get_insert_same (by simpa [record_insertSome_isSome] using readable)]
    rfl

theorem Stores.of_sameTokens {later : Session} (stores : Stores session tokens after)
    (same : SameTokens after later) : Stores session tokens later where
  access := (same.getString (by decide)).trans stores.access
  refresh := (same.getString (by decide)).trans stores.refresh
  idToken := (same.getString (by decide)).trans stores.idToken
  expiry := (same.getU64 (by decide)).trans stores.expiry

/-- Where an ID token was brought, only the refresh token can be an earlier one. -/
theorem Stores.holdsTokens_iff (stores : Stores session tokens after)
    (hasIdToken : tokens.idToken.isSome = true) :
    HoldsTokens after tokens ↔
      tokens.refresh.isSome = true ∨ session.getString sessionRefreshToken = none := by
  have idToken : after.getString sessionIdToken = tokens.idToken := by
    rw [stores.idToken, Option.or_of_isSome hasIdToken]
  constructor
  · intro holds
    have kept := stores.refresh.symm.trans holds.refresh
    cases brought : tokens.refresh with
    | none => exact .inr (by simpa [brought] using kept)
    | some refresh => exact .inl rfl
  · rintro (brought | nothing)
    · refine ⟨stores.access, ?_, idToken, stores.expiry⟩
      rw [stores.refresh, Option.or_of_isSome brought]
    · refine ⟨stores.access, ?_, idToken, stores.expiry⟩
      rw [stores.refresh, nothing, Option.or_none]

end Storing

section Callback

variable {client : CodeFlowClient} {params : CallbackParams} {session : Session}
  {response : TokenResponse} {idToken : String}

theorem readable_of_storedSecret {key name secret : String}
    (stored : storedSecret client session key name = .ok secret) :
    session.record.isSome = true := by
  rcases session with ⟨_ | record⟩
  · simp [storedSecret, sessionGetText] at stored
  · rfl

theorem idToken_of_verifiedIdToken {nonce : String}
    (verified : verifiedIdToken client nonce response = .ok idToken) :
    response.idToken = some idToken := by
  simp only [verifiedIdToken] at verified
  split at verified
  · exact absurd verified (by simp)
  · rename_i brought
    split at verified
    · exact absurd verified (by simp)
    · cases verified
      exact brought

/-- A callback that passes its checks has read the session and brings an ID token. -/
theorem callbackTokens_ok
    (succeeds : callbackTokens client params session = .ok (response, idToken)) :
    session.record.isSome = true ∧ response.idToken = some idToken := by
  simp only [callbackTokens, bind_eq_ok_iff] at succeeds
  rcases succeeds with
    ⟨storedState, stored, _, -, _, -, _, -, exchanged, -, validated, verified, returned⟩
  cases returned
  exact ⟨readable_of_storedSecret stored, idToken_of_verifiedIdToken verified⟩

/-- Storing a response with an ID token is storing all of its tokens. -/
theorem storeTokens_eq (now : ℕ) (hasIdToken : response.idToken = some idToken) :
    storeTokens session response idToken now = storeRefreshed session (response.tokens now) := by
  simp [storeTokens, storeRefreshed, TokenResponse.tokens, hasIdToken, insertSome]

/-- What a successful callback leaves of the tokens is what storing its response leaves. -/
theorem callbackHandler_stores (now : ℕ)
    (succeeds : callbackTokens client params session = .ok (response, idToken)) :
    Stores session (response.tokens now) (callbackHandler client now params session).2 := by
  rcases callbackTokens_ok succeeds with ⟨readable, hasIdToken⟩
  simp only [callbackHandler, succeeds, storeTokens_eq now hasIdToken]
  refine (stores_storeRefreshed readable).of_sameTokens ?_
  exact (((sameTokens_remove (by decide)).trans (sameTokens_remove (by decide))).trans
    (sameTokens_remove (by decide))).trans (sameTokens_remove (by decide))

/-- The session holds the callback's tokens afterwards exactly when the response has a refresh token
or the session held none. -/
theorem callback_holdsTokens_iff (now : ℕ)
    (succeeds : callbackTokens client params session = .ok (response, idToken)) :
    HoldsTokens (callbackHandler client now params session).2 (response.tokens now) ↔
      response.refresh.isSome = true ∨ session.getString sessionRefreshToken = none := by
  refine (callbackHandler_stores now succeeds).holdsTokens_iff ?_
  rw [TokenResponse.tokens, (callbackTokens_ok succeeds).2]
  rfl

end Callback

section Runs

/-- What happens to a session: the handlers, and the two layers that write to it. -/
inductive FlowEvent where
  | login (client : CodeFlowClient) (secrets : FlowSecrets)
  | callback (client : CodeFlowClient) (now : ℕ) (params : CallbackParams)
  | request (external : External) (rolesClaim : String) (request : Request)
  | redirect (external : External) (config : BrowserRedirectConfig) (request : Request)
  | logout (client : CodeFlowClient)

def sessionAfter (session : Session) : FlowEvent → Session
  | .login client secrets => (loginHandler client secrets session).2
  | .callback client now params => (callbackHandler client now params session).2
  | .request external rolesClaim request =>
      (withSessionIdentity external rolesClaim
        { request with session := some session }).session.getD session
  | .redirect external config request =>
      match browserRedirectMiddleware external config { request with session := some session } with
      | .ok passed => passed.session.getD session
      | .error answer => answer.session.getD session
  | .logout client => (logoutHandler client session).2

/-- The tokens that the event's handler or layer is answered by the provider and stores. -/
def brought (session : Session) : FlowEvent → Option RefreshedTokens
  | .callback client now params =>
      match callbackTokens client params session with
      | .ok (response, _) => some (response.tokens now)
      | .error _ => none
  | .request external _ request =>
      if request.identity.isNone && (session.getString sessionAccessToken).isSome &&
          isExpired external session then
        refreshedTokens request.oidcClient session
      else none
  | _ => none

/-- A session, and what its last login brought: the tokens of the callback and of the refreshes
since then. -/
structure FlowState where
  session : Session
  login : List RefreshedTokens

def loginAfter (state : FlowState) (event : FlowEvent) : List RefreshedTokens :=
  match event, brought state.session event with
  | _, none => state.login
  | .callback _ _ _, some tokens => [tokens]
  | _, some tokens => tokens :: state.login

def flow : Machine FlowState FlowEvent where
  step state event :=
    some { session := sessionAfter state.session event, login := loginAfter state event }

/-- The tokens and the expiry that the session holds were all brought by its last login. -/
structure Coherent (state : FlowState) : Prop where
  access : ∀ text, state.session.getString sessionAccessToken = some text →
    ∃ tokens ∈ state.login, tokens.access = text
  refresh : ∀ text, state.session.getString sessionRefreshToken = some text →
    ∃ tokens ∈ state.login, tokens.refresh = some text
  idToken : ∀ text, state.session.getString sessionIdToken = some text →
    ∃ tokens ∈ state.login, tokens.idToken = some text
  expiry : ∀ seconds, state.session.getU64 sessionTokenExpiry = some seconds →
    ∃ tokens ∈ state.login, tokens.expiry = seconds

/-- A callback that succeeds brings a refresh token or finds none. -/
def replacesRefresh (state : FlowState) : FlowEvent → Bool
  | .callback client _ params =>
      match callbackTokens client params state.session with
      | .ok (response, _) =>
          response.refresh.isSome || (state.session.getString sessionRefreshToken).isNone
      | .error _ => true
  | _ => true

variable {session after : Session} {login : List RefreshedTokens}

/-- What an event does to the tokens of the session: it keeps them, drops them or stores those that
were brought. -/
inductive TokensAfter (session : Session) : Option RefreshedTokens → Session → Prop where
  | kept {after : Session} : SameTokens session after → TokensAfter session none after
  | dropped {tokens : Option RefreshedTokens} {after : Session} :
      (∀ key ∈ tokenKeys, after.get key = none) → TokensAfter session tokens after
  | stored {tokens : RefreshedTokens} {after : Session} : Stores session tokens after →
      TokensAfter session (some tokens) after

theorem readable_of_getString {key text : String} (held : session.getString key = some text) :
    session.record.isSome = true := by
  rcases session with ⟨_ | record⟩
  · simp [Session.getString, Session.get] at held
  · rfl

/-- Reading the identity from a session keeps the session or clears it. -/
theorem session_identifyBySession (external : External) (rolesClaim : String) (request : Request)
    (session : Session) :
    (identifyBySession external rolesClaim request session).session = some session ∨
      (identifyBySession external rolesClaim request session).session = some session.flush := by
  simp only [identifyBySession]
  split
  · exact .inl rfl
  · split
    · exact .inr rfl
    · split
      · exact .inl rfl
      · exact .inl rfl

theorem tokensAfter_of_identified {external : External} {rolesClaim : String} {request : Request}
    {fresh : Session} {tokens : Option RefreshedTokens}
    (onTokens : TokensAfter session tokens fresh) :
    TokensAfter session tokens
      ((identifyBySession external rolesClaim request fresh).session.getD session) := by
  rcases session_identifyBySession external rolesClaim request fresh with same | flushed
  · rw [same]
    exact onTokens
  · rw [flushed]
    exact .dropped fun _ _ => rfl

theorem tokensAfter_request (external : External) (rolesClaim : String) (request : Request)
    (session : Session) :
    TokensAfter session (brought session (.request external rolesClaim request))
      (sessionAfter session (.request external rolesClaim request)) := by
  have same : SameTokens session session := fun _ _ => rfl
  simp only [brought, sessionAfter, withSessionIdentity]
  cases known : request.identity with
  | some identity => simpa using TokensAfter.kept same
  | none =>
      cases access : session.getString sessionAccessToken with
      | none => simpa using TokensAfter.kept same
      | some text =>
          have readable := readable_of_getString access
          cases expired : isExpired external session with
          | false =>
              simpa [freshSession, expired] using tokensAfter_of_identified (.kept same)
          | true =>
              cases refreshed : refreshedTokens request.oidcClient session with
              | none =>
                  have cleared : TokensAfter session none session.flush := .dropped fun _ _ => rfl
                  simpa [freshSession, expired, refreshed] using cleared
              | some tokens =>
                  have stored : TokensAfter session (some tokens) (storeRefreshed session tokens) :=
                    .stored (stores_storeRefreshed readable)
                  simpa [freshSession, expired, refreshed] using tokensAfter_of_identified stored

/-- A redirect to the login leaves the session as it is but for the return URL. -/
theorem sessionAfter_redirect (external : External) (config : BrowserRedirectConfig)
    (request : Request) (session : Session) :
    sessionAfter session (.redirect external config request) = session ∨
      ∃ url, sessionAfter session (.redirect external config request) =
        session.insert sessionReturnUrl url := by
  simp only [sessionAfter]
  split
  · rename_i passed passes
    simp only [browserRedirectMiddleware] at passes
    repeat' split at passes
    all_goals
      cases passes
      try exact .inl rfl
  · rename_i answer answers
    simp only [browserRedirectMiddleware] at answers
    repeat' split at answers
    all_goals
      cases answers
      try exact .inr ⟨_, rfl⟩

theorem sameOn_redirect {keys : List String} (foreign : sessionReturnUrl ∉ keys)
    (external : External) (config : BrowserRedirectConfig) (request : Request)
    (session : Session) :
    Session.SameOn keys session (sessionAfter session (.redirect external config request)) := by
  rcases sessionAfter_redirect external config request session with same | ⟨url, stored⟩
  · rw [same]
    exact Session.SameOn.refl keys session
  · rw [stored]
    exact Session.sameOn_insert url foreign

theorem tokensAfter (session : Session) (event : FlowEvent) :
    TokensAfter session (brought session event) (sessionAfter session event) := by
  have same : SameTokens session session := fun _ _ => rfl
  cases event with
  | login client secrets =>
      exact .kept (((sameTokens_insert _ (by decide)).trans (sameTokens_insert _ (by decide))).trans
        (sameTokens_insert _ (by decide)))
  | callback client now params =>
      cases checked : callbackTokens client params session with
      | error problem =>
          simp only [brought, sessionAfter, callbackHandler, checked]
          exact .kept same
      | ok result =>
          have stores := callbackHandler_stores now checked
          simp only [brought, sessionAfter, checked]
          exact .stored stores
  | request external rolesClaim request =>
      exact tokensAfter_request external rolesClaim request session
  | redirect external config request =>
      exact .kept (sameOn_redirect (by decide) external config request session)
  | logout client => exact .dropped fun _ _ => rfl

theorem Coherent.of_sameTokens (coherent : Coherent { session, login })
    (same : SameTokens session after) : Coherent { session := after, login } where
  access text held := coherent.access text (by rwa [same.getString (by decide)] at held)
  refresh text held := coherent.refresh text (by rwa [same.getString (by decide)] at held)
  idToken text held := coherent.idToken text (by rwa [same.getString (by decide)] at held)
  expiry seconds held := coherent.expiry seconds (by rwa [same.getU64 (by decide)] at held)

theorem coherent_of_dropped (dropped : ∀ key ∈ tokenKeys, after.get key = none) :
    Coherent { session := after, login } where
  access text held := by simp [Session.getString, dropped sessionAccessToken (by decide)] at held
  refresh text held := by simp [Session.getString, dropped sessionRefreshToken (by decide)] at held
  idToken text held := by simp [Session.getString, dropped sessionIdToken (by decide)] at held
  expiry seconds held := by simp [Session.getU64, dropped sessionTokenExpiry (by decide)] at held

/-- A token that is stored where it was brought, and left in place where it was not. -/
theorem exists_brought (token : RefreshedTokens → Option String) {tokens : RefreshedTokens}
    {left : Option String} {text : String} (held : (token tokens).or left = some text)
    (leftBrought : token tokens = none → left = some text →
      ∃ earlier ∈ login, token earlier = some text) :
    ∃ earlier ∈ tokens :: login, token earlier = some text := by
  cases brought : token tokens with
  | some value => exact ⟨tokens, by simp, by simpa [brought] using held⟩
  | none =>
      rcases leftBrought brought (by simpa [brought] using held) with ⟨earlier, member, same⟩
      exact ⟨earlier, List.mem_cons_of_mem _ member, same⟩

/-- Storing tokens keeps the session coherent when what is left in place was brought before. -/
theorem coherent_of_stores {tokens : RefreshedTokens} (stores : Stores session tokens after)
    (refreshLeft : tokens.refresh = none → ∀ text,
      session.getString sessionRefreshToken = some text →
      ∃ earlier ∈ login, earlier.refresh = some text)
    (idTokenLeft : tokens.idToken = none → ∀ text,
      session.getString sessionIdToken = some text →
      ∃ earlier ∈ login, earlier.idToken = some text) :
    Coherent { session := after, login := tokens :: login } where
  access text held := by
    refine ⟨tokens, by simp, ?_⟩
    exact Option.some.inj (stores.access.symm.trans held)
  refresh text held := by
    apply exists_brought RefreshedTokens.refresh (stores.refresh.symm.trans held)
    intro notBrought left
    exact refreshLeft notBrought text left
  idToken text held := by
    apply exists_brought RefreshedTokens.idToken (stores.idToken.symm.trans held)
    intro notBrought left
    exact idTokenLeft notBrought text left
  expiry seconds held := by
    refine ⟨tokens, by simp, ?_⟩
    exact Option.some.inj (stores.expiry.symm.trans held)

theorem loginAfter_of_brought_none {state : FlowState} {event : FlowEvent}
    (nothing : brought state.session event = none) : loginAfter state event = state.login := by
  simp only [loginAfter, nothing]

theorem brought_callback {client : CodeFlowClient} {now : ℕ} {params : CallbackParams}
    {tokens : RefreshedTokens}
    (isBrought : brought session (.callback client now params) = some tokens) :
    ∃ response idToken, callbackTokens client params session = .ok (response, idToken) ∧
      tokens = response.tokens now := by
  simp only [brought] at isBrought
  split at isBrought
  · rename_i response idToken succeeds
    cases isBrought
    exact ⟨response, idToken, succeeds, rfl⟩
  · exact absurd isBrought (by simp)

/-- A callback starts the login's tokens anew, everything else adds to them. -/
theorem coherent_step {state : FlowState} {event : FlowEvent} (coherent : Coherent state)
    (replaces : replacesRefresh state event = true) :
    Coherent { session := sessionAfter state.session event, login := loginAfter state event } := by
  have onTokens := tokensAfter state.session event
  generalize isBrought : brought state.session event = tokens at onTokens
  generalize sessionAfter state.session event = after at onTokens
  cases onTokens with
  | kept same =>
      rw [loginAfter_of_brought_none isBrought]
      exact coherent.of_sameTokens same
  | dropped dropped => exact coherent_of_dropped dropped
  | stored stores =>
      cases event with
      | callback client now params =>
          simp only [loginAfter, isBrought]
          rcases brought_callback isBrought with ⟨response, idToken, succeeds, rfl⟩
          refine coherent_of_stores stores ?_ ?_
          · intro notBrought text held
            have noRefresh : response.refresh = none := notBrought
            simp [replacesRefresh, succeeds, noRefresh, held] at replaces
          · intro notBrought
            have hasIdToken := (callbackTokens_ok succeeds).2
            exact absurd (hasIdToken.symm.trans notBrought) (by simp)
      | request external rolesClaim request =>
          simp only [loginAfter, isBrought]
          exact coherent_of_stores stores (fun _ => coherent.refresh) (fun _ => coherent.idToken)
      | login client secrets => exact absurd isBrought (by simp [brought])
      | redirect external config request => exact absurd isBrought (by simp [brought])
      | logout client => exact absurd isBrought (by simp [brought])

/-- After a callback the session is coherent only if the callback replaced the refresh token. -/
theorem replacesRefresh_of_coherent {state : FlowState} {event : FlowEvent}
    (coherent : Coherent
      { session := sessionAfter state.session event, login := loginAfter state event }) :
    replacesRefresh state event = true := by
  cases event with
  | callback client now params =>
      cases checked : callbackTokens client params state.session with
      | error problem => simp [replacesRefresh, checked]
      | ok result =>
          rcases result with ⟨response, idToken⟩
          have stores := callbackHandler_stores now checked
          have current :
              loginAfter state (.callback client now params) = [response.tokens now] := by
            simp only [loginAfter, brought, checked]
          cases brought : response.refresh with
          | some refresh => simp [replacesRefresh, checked, brought]
          | none =>
              cases held : state.session.getString sessionRefreshToken with
              | none => simp [replacesRefresh, checked, held]
              | some text =>
                  have noRefresh : (response.tokens now).refresh = none := brought
                  have left := stores.refresh
                  rw [noRefresh, held] at left
                  rcases coherent.refresh text left with ⟨tokens, member, same⟩
                  rw [current, List.mem_singleton] at member
                  rw [member, noRefresh] at same
                  exact absurd same (by simp)
  | login client secrets => rfl
  | request external rolesClaim request => rfl
  | redirect external config request => rfl
  | logout client => rfl

/-- In a run the session stays coherent exactly as long as every successful callback brings a
refresh token or finds none. -/
theorem coherent_along_iff {start : FlowState} (coherent : Coherent start)
    (events : List FlowEvent) :
    flow.Along (fun state event => ∀ next, flow.step state event = some next → Coherent next)
        start events ↔
      flow.Along (fun state event => replacesRefresh state event = true) start events := by
  refine Machine.along_invariant_iff Coherent ?_ coherent events
  intro state event coherent
  constructor
  · exact fun coherentNext => replacesRefresh_of_coherent (coherentNext _ rfl)
  · rintro replaces next ⟨⟩
    exact coherent_step coherent replaces

/-- A new session. -/
def FlowState.new : FlowState where
  session := { record := some fun _ => none }
  login := []

theorem coherent_new : Coherent FlowState.new :=
  coherent_of_dropped fun _ _ => rfl

/-- Whatever the session held before, it holds exactly the tokens of a successful callback's
response afterwards if and only if the response has a refresh token or the session held none; and a
run keeps the tokens of different logins apart exactly as long as each of its callbacks is of this
kind. -/
theorem tokens_of_last_login_iff (start : FlowState) :
    (∀ (client : CodeFlowClient) (now : ℕ) (params : CallbackParams) (response : TokenResponse)
      (idToken : String), callbackTokens client params start.session = .ok (response, idToken) →
      (HoldsTokens (callbackHandler client now params start.session).2 (response.tokens now) ↔
        response.refresh.isSome = true ∨
          start.session.getString sessionRefreshToken = none)) ∧
    ∀ events : List FlowEvent, Coherent start →
      (flow.Along (fun state event => ∀ next, flow.step state event = some next → Coherent next)
          start events ↔
        flow.Along (fun state event => replacesRefresh state event = true) start events) := by
  constructor
  · intro client now params response idToken succeeds
    exact callback_holdsTokens_iff now succeeds
  · intro events coherent
    exact coherent_along_iff coherent events

def annResponse : TokenResponse where
  access := "ann-access"
  refresh := some "ann-refresh"
  idToken := some "ann-id"
  expiresIn := some 300

def bobResponse : TokenResponse where
  access := "bob-access"
  refresh := none
  idToken := some "bob-id"
  expiresIn := some 300

/-- A provider that gives a refresh token to one of two users only. -/
def twoUserClient : CodeFlowClient where
  refreshTokens := fun _ => none
  idTokenKeys := { keys := fun _ => none, fetched := none }
  scopes := ["openid"]
  audiences := []
  postLoginRedirect := "/"
  postLogoutRedirect := "/"
  endSessionUrl := none
  authorizeUrl := fun _ secrets => "https://sso.example.com/auth?state=" ++ secrets.csrfState
  exchangeCode := fun code _ => if code = "ann" then .ok annResponse else .ok bobResponse
  verifyIdToken := fun _ _ _ => .ok ()
  logoutUrl := fun url _ _ => url
  sessionErrorText := fun _ => "session store unavailable"

def loginStarted (session : Session) : Session :=
  (loginHandler twoUserClient
    { pkceVerifier := "verifier", csrfState := "state", nonce := "nonce" } session).2

def callbackOf (user : String) (session : Session) : Session :=
  (callbackHandler twoUserClient 1750000000 { code := user, state := "state" } session).2

/-- A new session in which one user has logged in and the login of another has started. -/
def secondLogin : Session :=
  loginStarted (callbackOf "ann" (loginStarted FlowState.new.session))

theorem tokens_of_last_login_iff_ann :
    HoldsTokens (callbackOf "ann" (loginStarted FlowState.new.session))
        (annResponse.tokens 1750000000) ∧
      flow.Along (fun state event => ∀ next, flow.step state event = some next → Coherent next)
        FlowState.new
        [.login twoUserClient
            { pkceVerifier := "verifier", csrfState := "state", nonce := "nonce" },
          .callback twoUserClient 1750000000 { code := "ann", state := "state" }] :=
  ⟨((tokens_of_last_login_iff { session := loginStarted FlowState.new.session, login := [] }).1
      _ _ _ annResponse "ann-id" (by decide)).mpr (.inl rfl),
    ((tokens_of_last_login_iff FlowState.new).2 _ coherent_new).mpr (by decide)⟩

/-- The second user's access token stands beside the first user's refresh token. -/
theorem not_tokens_of_last_login :
    callbackTokens twoUserClient { code := "bob", state := "state" } secondLogin =
        .ok (bobResponse, "bob-id") ∧
      ¬HoldsTokens (callbackOf "bob" secondLogin) (bobResponse.tokens 1750000000) := by
  refine ⟨by decide, fun holds => ?_⟩
  exact absurd holds.refresh (by decide)

end Runs

end AxumConf.Auth
