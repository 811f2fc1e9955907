import AxumConf.Auth.TokenCoherence

/-!
# Which login a callback belongs to

The three secrets of a login stand in the session until a callback consumes them.  Whatever happens
to a session, it holds the secrets of its last login or none at all, so a callback that stores
tokens answers the last login, and no other callback does until there is a new one.
-/

namespace AxumConf.Auth

def secretKeys : List String :=
  [sessionPkceVerifier, sessionCsrfState, sessionNonce]

def NoSecrets (session : Session) : Prop :=
  ∀ key ∈ secretKeys, session.get key = none

structure HoldsSecrets (session : Session) (secrets : FlowSecrets) : Prop where
  pkceVerifier : session.get sessionPkceVerifier = some (.string secrets.pkceVerifier)
  csrfState : session.get sessionCsrfState = some (.string secrets.csrfState)
  nonce : session.get sessionNonce = some (.string secrets.nonce)

/-- The session holds no secrets, or those of the last login. -/
def BoundTo (last : Option FlowSecrets) (session : Session) : Prop :=
  NoSecrets session ∨ ∃ secrets, last = some secrets ∧ HoldsSecrets session secrets

def loginSecrets : FlowEvent → Option FlowSecrets
  | .login _ secrets => some secrets
  | _ => none

/-- The secrets of the most recent login. -/
def lastLogin : List FlowEvent → Option FlowSecrets
  | [] => none
  | event :: later => (lastLogin later).or (loginSecrets event)

/-- The callback passes its checks, and stores this ID token and the tokens of this response. -/
def AcceptsCallback (client : CodeFlowClient) (params : CallbackParams) (session : Session)
    (response : TokenResponse) (idToken : String) : Prop :=
  callbackTokens client params session = .ok (response, idToken)

/-- The callback returns the state of the login, its code was exchanged with the login's verifier,
and the ID token that came back is valid for the login's nonce. -/
structure AnswersLogin (client : CodeFlowClient) (params : CallbackParams) (secrets : FlowSecrets)
    (response : TokenResponse) (idToken : String) : Prop where
  state : params.state = secrets.csrfState
  exchanged : client.exchangeCode params.code secrets.pkceVerifier = .ok response
  received : response.idToken = some idToken
  verified : client.verifyIdToken client.audiences secrets.nonce idToken = .ok ()

variable {client : CodeFlowClient} {params : CallbackParams} {session after : Session}
  {response : TokenResponse} {idToken : String} {last : Option FlowSecrets}

theorem NoSecrets.of_sameOn (none : NoSecrets session)
    (same : Session.SameOn secretKeys session after) : NoSecrets after :=
  fun key member => (same key member).trans (none key member)

theorem BoundTo.of_sameOn (bound : BoundTo last session)
    (same : Session.SameOn secretKeys session after) : BoundTo last after := by
  rcases bound with none | ⟨secrets, isLast, holds⟩
  · exact .inl (none.of_sameOn same)
  · refine .inr ⟨secrets, isLast, ?_, ?_, ?_⟩
    · exact (same sessionPkceVerifier (by decide)).trans holds.pkceVerifier
    · exact (same sessionCsrfState (by decide)).trans holds.csrfState
    · exact (same sessionNonce (by decide)).trans holds.nonce

theorem noSecrets_flush (session : Session) : NoSecrets session.flush :=
  fun _ _ => rfl

theorem get_remove_same {key : String} : (session.remove key).get key = none := by
  rcases session with ⟨_ | record⟩
  · rfl
  · simp [Session.remove, Session.get]

theorem get_remove_none {key other : String} (missing : session.get other = none) :
    (session.remove key).get other = none := by
  by_cases same : other = key
  · rw [same]
    exact get_remove_same
  · rw [Session.get_remove_ne same]
    exact missing

theorem noSecrets_removeFlowState : NoSecrets (removeFlowState session) := by
  have pkceVerifier : (removeFlowState session).get sessionPkceVerifier = none :=
    get_remove_none (get_remove_none get_remove_same)
  have csrfState : (removeFlowState session).get sessionCsrfState = none :=
    get_remove_none get_remove_same
  have nonce : (removeFlowState session).get sessionNonce = none := get_remove_same
  simp only [NoSecrets, secretKeys, List.forall_mem_cons]
  exact ⟨pkceVerifier, csrfState, nonce, by simp⟩

/-- A callback that stores tokens removes the secrets. -/
theorem noSecrets_callback (now : ℕ)
    (accepts : AcceptsCallback client params session response idToken) :
    NoSecrets (callbackHandler client now params session).2 := by
  rw [AcceptsCallback] at accepts
  simp only [callbackHandler, accepts]
  exact noSecrets_removeFlowState.of_sameOn (Session.sameOn_remove (by decide))

theorem callbackHandler_of_error {problem : Error} (now : ℕ)
    (fails : callbackTokens client params session = .error problem) :
    (callbackHandler client now params session).2 = session := by
  simp only [callbackHandler, fails]

theorem holdsSecrets_login (secrets : FlowSecrets) (readable : session.record.isSome = true) :
    HoldsSecrets (loginHandler client secrets session).2 secrets where
  pkceVerifier := by
    simp only [loginHandler]
    rw [Session.get_insert_ne (by decide), Session.get_insert_ne (by decide),
      Session.get_insert_same readable]
  csrfState := by
    simp only [loginHandler]
    rw [Session.get_insert_ne (by decide), Session.get_insert_same (by simpa using readable)]
  nonce := by
    simp only [loginHandler]
    rw [Session.get_insert_same (by simpa using readable)]

theorem boundTo_login (secrets : FlowSecrets) :
    BoundTo (some secrets) (loginHandler client secrets session).2 := by
  cases readable : session.record with
  | none =>
      left
      intro key _
      simp [loginHandler, Session.insert, Session.get, readable]
  | some record => exact .inr ⟨secrets, rfl, holdsSecrets_login secrets (by simp [readable])⟩

/-- A request to the service leaves the secrets in place or clears the session. -/
theorem secretsAfter_request (external : External) (rolesClaim : String) (request : Request)
    (session : Session) :
    Session.SameOn secretKeys session
        (sessionAfter session (.request external rolesClaim request)) ∨
      NoSecrets (sessionAfter session (.request external rolesClaim request)) := by
  have same : Session.SameOn secretKeys session session := Session.SameOn.refl _ _
  simp only [sessionAfter, withSessionIdentity]
  split
  · exact .inl same
  · split
    · exact .inl same
    · cases isFresh : freshSession external request.oidcClient session with
      | none => exact .inr (noSecrets_flush session)
      | some fresh =>
          have kept : Session.SameOn secretKeys session fresh := by
            unfold freshSession at isFresh
            split at isFresh
            · rcases Option.map_eq_some_iff.mp isFresh with ⟨tokens, -, rfl⟩
              exact sameOn_storeRefreshed (by decide)
            · cases isFresh
              exact same
          simp only
          rcases session_identifyBySession external rolesClaim
              { request with session := some session } fresh with left | cleared
          · rw [left]
            exact .inl kept
          · rw [cleared]
            exact .inr (noSecrets_flush fresh)

/-- An event leaves the session without secrets, or bound to the last login, if it was before. -/
theorem boundTo_step (bound : BoundTo last session) (event : FlowEvent) :
    BoundTo ((loginSecrets event).or last) (sessionAfter session event) := by
  cases event with
  | login client secrets => exact boundTo_login secrets
  | callback client now params =>
      cases checked : callbackTokens client params session with
      | error problem =>
          simp only [sessionAfter, callbackHandler_of_error now checked]
          exact bound
      | ok result => exact .inl (noSecrets_callback now checked)
  | request external rolesClaim request =>
      rcases secretsAfter_request external rolesClaim request session with same | cleared
      · exact bound.of_sameOn same
      · exact .inl cleared
  | redirect external config request =>
      exact bound.of_sameOn (sameOn_redirect (by decide) external config request session)
  | logout client => exact .inl (noSecrets_flush session)

/-- Only a login puts secrets into a session that holds none. -/
theorem noSecrets_step (none : NoSecrets session) {event : FlowEvent}
    (notLogin : loginSecrets event = .none) : NoSecrets (sessionAfter session event) := by
  have bound : BoundTo .none session := .inl none
  have after := boundTo_step bound event
  rw [notLogin] at after
  rcases after with cleared | ⟨secrets, isLast, -⟩
  · exact cleared
  · exact absurd isLast (by simp)

theorem boundTo_run {start finish : FlowState} {events : List FlowEvent}
    (bound : BoundTo last start.session) (ran : flow.run start events = some finish) :
    BoundTo ((lastLogin events).or last) finish.session := by
  induction events generalizing start last with
  | nil =>
      cases ran
      exact bound
  | cons event later ih =>
      have after := ih (boundTo_step bound event) ran
      rw [lastLogin, Option.or_assoc]
      exact after

theorem noSecrets_run {start finish : FlowState} {events : List FlowEvent}
    (none : NoSecrets start.session) (noLogin : ∀ event ∈ events, loginSecrets event = .none)
    (ran : flow.run start events = some finish) : NoSecrets finish.session := by
  refine Machine.invariant_events (fun state => NoSecrets state.session) ?_ none noLogin ran
  rintro state event next noneNow notLogin ⟨⟩
  exact noSecrets_step noneNow notLogin

theorem storedSecret_of_get {key name secret text : String}
    (stored : session.get key = some (.string text))
    (found : storedSecret client session key name = .ok secret) : secret = text := by
  rcases session with ⟨_ | record⟩
  · simp [Session.get] at stored
  · have held : record key = some (.string text) := stored
    simp only [storedSecret, sessionGetText, held, Except.ok.injEq] at found
    exact found.symm

theorem not_storedSecret_of_none {key name secret : String} (missing : session.get key = none) :
    storedSecret client session key name ≠ .ok secret := by
  rcases session with ⟨_ | record⟩
  · simp [storedSecret, sessionGetText]
  · have absent : record key = none := missing
    simp [storedSecret, sessionGetText, absent]

/-- Without secrets every callback fails. -/
theorem not_acceptsCallback (none : NoSecrets session) :
    ¬AcceptsCallback client params session response idToken := by
  intro accepts
  simp only [AcceptsCallback, callbackTokens, bind_eq_ok_iff] at accepts
  rcases accepts with ⟨state, stored, -⟩
  exact not_storedSecret_of_none (none sessionCsrfState (by decide)) stored

theorem exchangeCode_of_exchange {code pkceVerifier : String}
    (exchanges : exchange client code pkceVerifier = .ok response) :
    client.exchangeCode code pkceVerifier = .ok response := by
  unfold exchange at exchanges
  cases answer : client.exchangeCode code pkceVerifier with
  | error problem => cases problem <;> simp [answer] at exchanges
  | ok brought => simpa [answer] using exchanges

theorem verifyIdToken_of_verifiedIdToken {nonce : String}
    (verifies : verifiedIdToken client nonce response = .ok idToken) :
    client.verifyIdToken client.audiences nonce idToken = .ok () := by
  simp only [verifiedIdToken, idToken_of_verifiedIdToken verifies] at verifies
  cases answer : client.verifyIdToken client.audiences nonce idToken with
  | error message => simp [answer] at verifies
  | ok done => rfl

/-- A callback that is accepted in a session with the secrets of a login answers that login. -/
theorem answersLogin_of_accepts {secrets : FlowSecrets} (holds : HoldsSecrets session secrets)
    (accepts : AcceptsCallback client params session response idToken) :
    AnswersLogin client params secrets response idToken := by
  simp only [AcceptsCallback, callbackTokens, bind_eq_ok_iff] at accepts
  rcases accepts with ⟨state, storedState, _, sameState, pkceVerifier, storedVerifier, nonce,
    storedNonce, exchanged, exchanges, validated, validates, returned⟩
  cases returned
  have isState := storedSecret_of_get holds.csrfState storedState
  have isVerifier := storedSecret_of_get holds.pkceVerifier storedVerifier
  have isNonce := storedSecret_of_get holds.nonce storedNonce
  subst isState isVerifier isNonce
  have stateMatches := rejectIf_ok.mp sameState
  exact
    { state := by simpa using stateMatches
      exchanged := exchangeCode_of_exchange exchanges
      received := idToken_of_verifiedIdToken validates
      verified := verifyIdToken_of_verifiedIdToken validates }

/-- In every run on a session that starts without secrets, a callback that stores tokens answers the
most recent login; no callback stores tokens again before the next login; and a callback that fails
leaves the session as it is. -/
theorem flow_secrets_are_single_use {start finish : FlowState} {events : List FlowEvent}
    (fresh : NoSecrets start.session) (ran : flow.run start events = some finish) :
    (∀ client params response idToken,
      AcceptsCallback client params finish.session response idToken →
      ∃ secrets, lastLogin events = some secrets ∧
        AnswersLogin client params secrets response idToken) ∧
    (∀ client now params response idToken,
      AcceptsCallback client params finish.session response idToken →
      ∀ later replayed, (∀ event ∈ later, loginSecrets event = none) →
        flow.run finish (.callback client now params :: later) = some replayed →
        ∀ other again tokens token,
          ¬AcceptsCallback other again replayed.session tokens token) ∧
    (∀ client now params problem, callbackTokens client params finish.session = .error problem →
      (callbackHandler client now params finish.session).2 = finish.session) := by
  refine ⟨?_, ?_, ?_⟩
  · intro client params response idToken accepts
    have initially : BoundTo none start.session := .inl fresh
    have bound : BoundTo (lastLogin events) finish.session := by
      simpa using boundTo_run initially ran
    rcases bound with none | ⟨secrets, isLast, holds⟩
    · exact absurd accepts (not_acceptsCallback none)
    · exact ⟨secrets, isLast, answersLogin_of_accepts holds accepts⟩
  · intro client now params response idToken accepts later replayed noLogin ranLater
    have consumed : NoSecrets (callbackHandler client now params finish.session).2 :=
      noSecrets_callback now accepts
    intro other again tokens token
    exact not_acceptsCallback (noSecrets_run consumed noLogin ranLater)
  · intro client now params problem fails
    exact callbackHandler_of_error now fails

def annSecrets : FlowSecrets where
  pkceVerifier := "verifier"
  csrfState := "state"
  nonce := "nonce"

/-- Ann's callback answers her login, and no callback after it is accepted. -/
theorem flow_secrets_are_single_use_ann :
    (∃ secrets, lastLogin [.login twoUserClient annSecrets] = some secrets ∧
      AnswersLogin twoUserClient { code := "ann", state := "state" } secrets annResponse
        "ann-id") ∧
    ∀ client params response idToken,
      ¬AcceptsCallback client params (callbackOf "ann" (loginStarted FlowState.new.session))
        response idToken := by
  have accepted : AcceptsCallback twoUserClient { code := "ann", state := "state" }
      (loginStarted FlowState.new.session) annResponse "ann-id" := by
    unfold AcceptsCallback
    decide
  have singleUse := @flow_secrets_are_single_use FlowState.new
    { session := loginStarted FlowState.new.session, login := [] }
    [.login twoUserClient annSecrets] (fun _ _ => rfl) rfl
  refine ⟨singleUse.1 _ _ _ _ accepted, ?_⟩
  exact singleUse.2.1 _ 1750000000 _ _ _ accepted [] _ (by simp) rfl

end AxumConf.Auth
