import AxumConf.Auth.TokenCoherence
import Mathlib.Logic.Function.Basic

/-!
# Requests that refresh one session at the same time

Every request has its own copy of the session's record, which it loads before it looks at the
tokens, and saves at its end if it has changed them.  Between the two it may wait for the provider,
who honours a refresh token once.  A request whose refresh is refused deletes the record at once.

Where no request presents a refresh token that another one has redeemed, at most one request has
tokens that are not saved yet, and they are the newest; so the record survives and holds the newest
tokens whenever none are unsaved.
-/

namespace AxumConf.Auth

/-- A provider that honours each refresh token once and returns a new one. -/
structure RefreshProvider where
  grants : String → RefreshedTokens
  rotates : ∀ token, ∃ next, (grants token).refresh = some next ∧ next ≠ token

def RefreshProvider.answer (provider : RefreshProvider) (redeemed : List String) (token : String) :
    Option RefreshedTokens :=
  if redeemed.contains token then none else some (provider.grants token)

/-- The client while these tokens have been redeemed. -/
def RefreshProvider.client (provider : RefreshProvider) (idTokenKeys : JwksProvider)
    (redeemed : List String) : OidcClient where
  refreshTokens := provider.answer redeemed
  idTokenKeys := idTokenKeys

/-- Where a request stands in `session_to_identity`, with its copy of the session. -/
inductive RequestState where
  | waiting
  | loaded (session : Session)
  | answered (session : Session) (answer : Option RefreshedTokens)
  | written (session : Session)
  | flushing
  | done

/-- What the layer does with the session that it has loaded. -/
inductive SessionCheck where
  | passes
  | inspects
  | refreshes (token : String)
  | clears
  deriving DecidableEq

structure SharedSession where
  /-- What the store holds under the session's id. -/
  record : Option Session
  requests : ℕ → RequestState := fun _ => .waiting
  redeemed : List String := []
  /-- What the provider has granted, the newest first. -/
  granted : List RefreshedTokens := []

/-- A request takes its next step, at this time. -/
structure Turn where
  request : ℕ
  now : ℕ

def atTime (external : External) (now : ℕ) : External :=
  { external with nowEpochSecs := now }

def SharedSession.moves (state : SharedSession) (request : ℕ) (next : RequestState) :
    SharedSession :=
  { state with requests := Function.update state.requests request next }

section Steps

variable (external : External) (idTokenKeys : JwksProvider) (provider : RefreshProvider)

def checkSession (session : Session) : SessionCheck :=
  if (session.getString sessionAccessToken).isNone then .passes
  else if isExpired external session then
    match session.getString sessionRefreshToken with
    | some token => .refreshes token
    | none => .clears
  else .inspects

/-- The stored ID token is known to be forged. -/
def holdsForged (session : Session) : Bool :=
  (session.getString sessionIdToken).any fun idToken =>
    verifySignature external idTokenKeys idToken == .invalid

/-- The layer builds the identity from this session or clears the session. -/
def inspected (session : Session) (next : RequestState) : RequestState :=
  if holdsForged external idTokenKeys session then .flushing else next

def afterAnswer (session : Session) (answer : Option RefreshedTokens) : RequestState :=
  match answer with
  | some tokens =>
      inspected external idTokenKeys (storeRefreshed session tokens)
        (.written (storeRefreshed session tokens))
  | none => .flushing

/-- The provider is asked to redeem the token. -/
def SharedSession.asks (state : SharedSession) (request : ℕ) (session : Session)
    (token : String) : SharedSession :=
  match provider.answer state.redeemed token with
  | some tokens =>
      { state.moves request (.answered session (some tokens)) with
        redeemed := token :: state.redeemed
        granted := tokens :: state.granted }
  | none => state.moves request (.answered session none)

/-- A request without a record has no session and passes. -/
def SharedSession.loads (state : SharedSession) (request : ℕ) : SharedSession :=
  match state.record with
  | some session => state.moves request (.loaded session)
  | none => state.moves request .done

def SharedSession.checks (state : SharedSession) (turn : Turn) (session : Session) :
    SharedSession :=
  match checkSession (atTime external turn.now) session with
  | .passes => state.moves turn.request .done
  | .inspects => state.moves turn.request (inspected external idTokenKeys session .done)
  | .refreshes token => state.asks provider turn.request session token
  | .clears => state.moves turn.request .flushing

/-- One session that any number of requests use; a flush deletes its record, and a request that has
written saves its own copy. -/
def sharedSession : Machine SharedSession Turn where
  step state turn :=
    match state.requests turn.request with
    | .waiting => some (state.loads turn.request)
    | .loaded session => some (state.checks external idTokenKeys provider turn session)
    | .answered session answer =>
        some (state.moves turn.request (afterAnswer external idTokenKeys session answer))
    | .written session => some { state.moves turn.request .done with record := some session }
    | .flushing => some { state.moves turn.request .done with record := none }
    | .done => none

/-- The step asks the provider for a refresh token that no other request has redeemed, or asks for
nothing. -/
def presentsLiveToken (state : SharedSession) (turn : Turn) : Bool :=
  match state.requests turn.request with
  | .loaded session =>
      match checkSession (atTime external turn.now) session with
      | .refreshes token => !state.redeemed.contains token
      | _ => true
  | _ => true

end Steps

section Checks

/-- What a check that asks for a token, or clears, has read. -/
def SessionCheck.HasRead (session : Session) : SessionCheck → Prop
  | .refreshes token => session.getString sessionRefreshToken = some token
  | .clears => session.getString sessionRefreshToken = none
  | _ => True

theorem hasRead_checkSession (external : External) (session : Session) :
    (checkSession external session).HasRead session := by
  unfold checkSession
  split
  · trivial
  · split
    · cases held : session.getString sessionRefreshToken with
      | none => exact held
      | some token => exact held
    · trivial

end Checks

section Alone

variable (external : External) (idTokenKeys : JwksProvider) (provider : RefreshProvider)
  (redeemed : List String)

/-- Where a request stands after it has loaded the session and no other one has come between. -/
def runsAlone (session : Session) : RequestState :=
  match checkSession external session with
  | .passes => .done
  | .inspects => inspected external idTokenKeys session .done
  | .refreshes token =>
      afterAnswer external idTokenKeys session (provider.answer redeemed token)
  | .clears => .flushing

/-- The session as the request sees it then. -/
def RequestState.leaves (session : Session) : RequestState → Session
  | .written fresh => fresh
  | .flushing => session.flush
  | _ => session

variable {external : External} {idTokenKeys : JwksProvider} {provider : RefreshProvider}
  {redeemed : List String}

theorem identifyBySession_inspected {rolesClaim : String} {request : Request} {session : Session}
    (sameKeys : request.oidcClient = some (provider.client idTokenKeys redeemed)) :
    (identifyBySession external rolesClaim request session).session =
      some (if holdsForged external idTokenKeys session then session.flush else session) := by
  unfold identifyBySession holdsForged
  cases session.getString sessionIdToken with
  | none => rfl
  | some idToken =>
      have forged : isForged external request.oidcClient idToken =
          (verifySignature external idTokenKeys idToken == .invalid) := by
        simp [isForged, sameKeys, RefreshProvider.client]
      simp only [forged, Option.any_some]
      by_cases invalid : (verifySignature external idTokenKeys idToken == .invalid) = true
      · simp only [invalid, if_true]
      · simp only [invalid, Bool.false_eq_true, if_false]
        split
        · rfl
        · rfl

/-- A request that would leave a session leaves it cleared when its ID token is forged. -/
theorem leaves_inspected (fresh session : Session) (next : RequestState)
    (leaves : next.leaves session = fresh) :
    (inspected external idTokenKeys fresh next).leaves session =
      if holdsForged external idTokenKeys fresh then fresh.flush else fresh := by
  unfold inspected
  split
  · rfl
  · exact leaves

/-- Alone, the steps of a request leave the session that `session_to_identity` leaves. -/
theorem withSessionIdentity_runsAlone {rolesClaim : String} {request : Request}
    {session : Session} (anonymous : request.identity = none)
    (loaded : request.session = some session)
    (sameClient : request.oidcClient = some (provider.client idTokenKeys redeemed)) :
    (withSessionIdentity external rolesClaim request).session =
      some ((runsAlone external idTokenKeys provider redeemed session).leaves session) := by
  unfold withSessionIdentity runsAlone checkSession
  simp only [anonymous, loaded, Option.isSome_none, Bool.false_eq_true, if_false, freshSession,
    refreshedTokens, sameClient]
  by_cases noAccess : (session.getString sessionAccessToken).isNone = true
  · simp only [noAccess, if_true]
    exact loaded
  · simp only [noAccess, Bool.false_eq_true, if_false]
    by_cases expired : isExpired external session = true
    · simp only [expired, if_true]
      cases session.getString sessionRefreshToken with
      | none => rfl
      | some token =>
          simp only [RefreshProvider.client]
          cases provider.answer redeemed token with
          | none => rfl
          | some tokens =>
              have leaves := @leaves_inspected external idTokenKeys
                (storeRefreshed session tokens) session (.written _) rfl
              exact (identifyBySession_inspected sameClient).trans (congrArg some leaves.symm)
    · simp only [expired, Bool.false_eq_true, if_false]
      have leaves := @leaves_inspected external idTokenKeys session session .done rfl
      exact (identifyBySession_inspected sameClient).trans (congrArg some leaves.symm)

/-- One or two turns in a row take a request from its copy to where it stands alone. -/
theorem run_runsAlone {state : SharedSession} {id now : ℕ} {session : Session}
    (loaded : state.requests id = .loaded session) :
    ∃ turns finish,
      (sharedSession external idTokenKeys provider).run state turns = some finish ∧
      finish.requests id =
        runsAlone (atTime external now) idTokenKeys provider state.redeemed session := by
  unfold runsAlone
  cases checked : checkSession (atTime external now) session with
  | passes =>
      refine ⟨[⟨id, now⟩], state.moves id .done, ?_, by simp [SharedSession.moves]⟩
      simp [sharedSession, loaded, SharedSession.checks, checked]
  | inspects =>
      refine ⟨[⟨id, now⟩], state.moves id (inspected external idTokenKeys session .done), ?_, ?_⟩
      · simp [sharedSession, loaded, SharedSession.checks, checked]
      · simp only [SharedSession.moves, Function.update_self]
        rfl
  | refreshes token =>
      have first : (sharedSession external idTokenKeys provider).step state ⟨id, now⟩ =
          some (state.asks provider id session token) := by
        simp [sharedSession, loaded, SharedSession.checks, checked]
      have answered : (state.asks provider id session token).requests id =
          .answered session (provider.answer state.redeemed token) := by
        unfold SharedSession.asks
        split
        case h_1 tokens answers => simp [SharedSession.moves, answers]
        case h_2 answers => simp [SharedSession.moves, answers]
      refine ⟨[⟨id, now⟩, ⟨id, now⟩], (state.asks provider id session token).moves id
        (afterAnswer external idTokenKeys session (provider.answer state.redeemed token)), ?_, ?_⟩
      · rw [Machine.run_cons, first, Option.bind_some]
        simp [sharedSession, answered]
      · simp only [SharedSession.moves, Function.update_self]
        rfl
  | clears =>
      refine ⟨[⟨id, now⟩], state.moves id .flushing, ?_, by simp [SharedSession.moves]⟩
      simp [sharedSession, loaded, SharedSession.checks, checked]

end Alone

section Invariant

variable (external : External) (idTokenKeys : JwksProvider)

/-- The session holds every token that was brought, and the expiry. -/
structure HoldsBrought (session : Session) (tokens : RefreshedTokens) : Prop where
  access : session.getString sessionAccessToken = some tokens.access
  refresh : ∀ text, tokens.refresh = some text →
    session.getString sessionRefreshToken = some text
  idToken : ∀ text, tokens.idToken = some text → session.getString sessionIdToken = some text
  expiry : session.getU64 sessionTokenExpiry = some tokens.expiry

theorem Stores.holdsBrought {session after : Session} {tokens : RefreshedTokens}
    (stores : Stores session tokens after) : HoldsBrought after tokens where
  access := stores.access
  refresh text brought := by rw [stores.refresh, brought, Option.some_or]
  idToken text brought := by rw [stores.idToken, brought, Option.some_or]
  expiry := stores.expiry

/-- A session of a login that can be refreshed and whose ID token is not known to be forged. -/
structure Refreshable (session : Session) : Prop where
  readable : session.record.isSome = true
  hasRefresh : (session.getString sessionRefreshToken).isSome = true
  genuine : holdsForged external idTokenKeys session = false

/-- The ID tokens that the provider grants verify against its keys. -/
def GrantsGenuine (provider : RefreshProvider) : Prop :=
  ∀ token idToken, (provider.grants token).idToken = some idToken →
    verifySignature external idTokenKeys idToken ≠ .invalid

/-- A request has tokens that are not saved yet. -/
def RequestState.isUnsaved : RequestState → Bool
  | .answered _ _ | .written _ => true
  | _ => false

/-- What holds of a request while the stored record is this session: its copy is refreshable, its
refresh token is redeemed or the stored one, and unsaved tokens are the newest. -/
def RequestKept (provider : RefreshProvider) (state : SharedSession) (session : Session) :
    RequestState → Prop
  | .waiting | .done => True
  | .loaded copy =>
      Refreshable external idTokenKeys copy ∧
        ∀ token, copy.getString sessionRefreshToken = some token →
          token ∈ state.redeemed ∨ session.getString sessionRefreshToken = some token
  | .answered copy answer =>
      Refreshable external idTokenKeys copy ∧
        ∃ token, answer = some (provider.grants token) ∧
          state.granted.head? = some (provider.grants token)
  | .written copy =>
      Refreshable external idTokenKeys copy ∧
        ∃ tokens, state.granted.head? = some tokens ∧ HoldsBrought copy tokens
  | .flushing => False

/-- The record exists, at most one request has unsaved tokens, and while one has, the stored refresh
token is redeemed. -/
structure LoginKept (provider : RefreshProvider) (state : SharedSession) (session : Session) :
    Prop where
  record : state.record = some session
  refreshable : Refreshable external idTokenKeys session
  requests : ∀ id, RequestKept external idTokenKeys provider state session (state.requests id)
  oneUnsaved : ∀ id other, (state.requests id).isUnsaved = true →
    (state.requests other).isUnsaved = true → id = other
  redeemed : ∀ id, (state.requests id).isUnsaved = true →
    ∀ token, session.getString sessionRefreshToken = some token → token ∈ state.redeemed
  newest : (∀ id, (state.requests id).isUnsaved = false) →
    ∀ tokens, state.granted.head? = some tokens → HoldsBrought session tokens

variable {external : External} {idTokenKeys : JwksProvider} {provider : RefreshProvider}
  {state : SharedSession} {session : Session}

theorem record_storeRefreshed_isSome {tokens : RefreshedTokens} :
    (storeRefreshed session tokens).record.isSome = session.record.isSome := by
  simp [storeRefreshed, record_insertSome_isSome]

/-- What the provider grants can be refreshed again. -/
theorem Refreshable.storeRefreshed (refreshable : Refreshable external idTokenKeys session)
    (grantsGenuine : GrantsGenuine external idTokenKeys provider) (token : String) :
    Refreshable external idTokenKeys (storeRefreshed session (provider.grants token)) := by
  have stores := @stores_storeRefreshed session (provider.grants token) refreshable.readable
  refine ⟨?_, ?_, ?_⟩
  · rw [record_storeRefreshed_isSome]
    exact refreshable.readable
  · rcases provider.rotates token with ⟨next, brought, _⟩
    rw [stores.refresh, brought]
    rfl
  · have genuine := refreshable.genuine
    simp only [holdsForged, stores.idToken] at genuine ⊢
    cases granted : (provider.grants token).idToken with
    | none => simpa using genuine
    | some idToken => simpa using grantsGenuine token idToken granted

theorem requests_moves (state : SharedSession) (id other : ℕ) (next : RequestState) :
    (state.moves id next).requests other = if other = id then next else state.requests other :=
  Function.update_apply state.requests id next other

/-- A request that moves without asking or saving keeps the login, if its tokens stay saved or
unsaved. -/
theorem LoginKept.moves (kept : LoginKept external idTokenKeys provider state session) {id : ℕ}
    {next : RequestState} (same : next.isUnsaved = (state.requests id).isUnsaved)
    (fits : RequestKept external idTokenKeys provider state session next) :
    LoginKept external idTokenKeys provider (state.moves id next) session := by
  have unsaved : ∀ other, ((state.moves id next).requests other).isUnsaved =
      (state.requests other).isUnsaved := by
    intro other
    rw [requests_moves]
    split
    case isTrue isSame => rw [same, isSame]
    case isFalse => rfl
  refine ⟨kept.record, kept.refreshable, ?_, ?_, ?_, ?_⟩
  · intro other
    rw [requests_moves]
    split
    · exact fits
    · exact kept.requests other
  · intro first second firstUnsaved secondUnsaved
    rw [unsaved] at firstUnsaved secondUnsaved
    exact kept.oneUnsaved first second firstUnsaved secondUnsaved
  · intro other otherUnsaved
    rw [unsaved] at otherUnsaved
    exact kept.redeemed other otherUnsaved
  · intro allSaved
    apply kept.newest
    intro other
    rw [← unsaved]
    exact allSaved other

/-- Of a request whose tokens are saved only its refresh token depends on the state. -/
theorem RequestKept.of_saved {after : SharedSession} {stored : Session} {request : RequestState}
    (kept : RequestKept external idTokenKeys provider state session request)
    (saved : request.isUnsaved = false)
    (tokens : ∀ token,
      token ∈ state.redeemed ∨ session.getString sessionRefreshToken = some token →
        token ∈ after.redeemed ∨ stored.getString sessionRefreshToken = some token) :
    RequestKept external idTokenKeys provider after stored request := by
  cases request with
  | waiting => trivial
  | loaded copy => exact ⟨kept.1, fun token holds => tokens token (kept.2 token holds)⟩
  | answered copy answer => cases saved
  | written copy => cases saved
  | flushing => exact kept
  | done => trivial

theorem onlyUnsaved {id other : ℕ} {next : RequestState}
    (allSaved : ∀ request, (state.requests request).isUnsaved = false)
    (unsaved : ((state.moves id next).requests other).isUnsaved = true) : other = id := by
  rw [requests_moves] at unsaved
  split at unsaved
  case isTrue same => exact same
  case isFalse =>
    rw [allSaved other] at unsaved
    cases unsaved

/-- A live refresh token is redeemed: nobody else has unsaved tokens, for then the stored token
would be redeemed, and every copy's with it. -/
theorem LoginKept.asks (kept : LoginKept external idTokenKeys provider state session) {id : ℕ}
    {copy : Session} {token : String} (loaded : state.requests id = .loaded copy)
    (holds : copy.getString sessionRefreshToken = some token) (live : token ∉ state.redeemed) :
    LoginKept external idTokenKeys provider (state.asks provider id copy token) session := by
  have fits := kept.requests id
  rw [loaded] at fits
  rcases fits with ⟨copyRefreshable, copyToken⟩
  have stored : session.getString sessionRefreshToken = some token := by
    rcases copyToken token holds with redeemed | isStored
    · exact absurd redeemed live
    · exact isStored
  have allSaved : ∀ other, (state.requests other).isUnsaved = false := by
    intro other
    apply Bool.eq_false_iff.mpr
    intro unsaved
    exact live (kept.redeemed other unsaved token stored)
  have answers : provider.answer state.redeemed token = some (provider.grants token) := by
    simp [RefreshProvider.answer, live]
  simp only [SharedSession.asks, answers]
  refine ⟨kept.record, kept.refreshable, ?_, ?_, ?_, ?_⟩
  · intro other
    simp only [requests_moves]
    split
    · exact ⟨copyRefreshable, token, rfl, rfl⟩
    · apply (kept.requests other).of_saved (allSaved other)
      intro text known
      exact known.imp_left (List.mem_cons_of_mem token)
  · intro first second firstUnsaved secondUnsaved
    rw [onlyUnsaved allSaved firstUnsaved, onlyUnsaved allSaved secondUnsaved]
  · intro _ _ other isOther
    rw [stored] at isOther
    cases isOther
    exact List.mem_cons_self
  · intro saved
    have unsaved := saved id
    simp only [requests_moves, if_true] at unsaved
    cases unsaved

/-- The only request with unsaved tokens saves them. -/
theorem LoginKept.saves (kept : LoginKept external idTokenKeys provider state session) {id : ℕ}
    {copy : Session} (written : state.requests id = .written copy) :
    LoginKept external idTokenKeys provider { state.moves id .done with record := some copy }
      copy := by
  have fits := kept.requests id
  rw [written] at fits
  rcases fits with ⟨refreshable, tokens, isNewest, holds⟩
  have unsaved : (state.requests id).isUnsaved = true := by rw [written]; rfl
  have othersSaved : ∀ other, other ≠ id → (state.requests other).isUnsaved = false := by
    intro other different
    apply Bool.eq_false_iff.mpr
    intro otherUnsaved
    exact different (kept.oneUnsaved other id otherUnsaved unsaved)
  have allSaved : ∀ other, ((state.moves id .done).requests other).isUnsaved = false := by
    intro other
    rw [requests_moves]
    split
    case isTrue => rfl
    case isFalse different => exact othersSaved other different
  refine ⟨rfl, refreshable, ?_, ?_, ?_, ?_⟩
  · intro other
    simp only [requests_moves]
    split
    case isTrue => trivial
    case isFalse different =>
      apply (kept.requests other).of_saved (othersSaved other different)
      rintro text (redeemed | isStored)
      · exact .inl redeemed
      · exact .inl (kept.redeemed id unsaved text isStored)
  · intro first _ firstUnsaved _
    rw [allSaved first] at firstUnsaved
    cases firstUnsaved
  · intro other otherUnsaved
    rw [allSaved other] at otherUnsaved
    cases otherUnsaved
  · intro _ newest isGranted
    rw [Option.some.inj (isGranted.symm.trans isNewest)]
    exact holds

theorem LoginKept.afterAnswer (kept : LoginKept external idTokenKeys provider state session)
    (grantsGenuine : GrantsGenuine external idTokenKeys provider) {id : ℕ} {copy : Session}
    {answer : Option RefreshedTokens} (answered : state.requests id = .answered copy answer) :
    LoginKept external idTokenKeys provider
      (state.moves id (afterAnswer external idTokenKeys copy answer)) session := by
  have fits := kept.requests id
  rw [answered] at fits
  rcases fits with ⟨refreshable, token, rfl, isNewest⟩
  have stored := refreshable.storeRefreshed grantsGenuine token
  have holds := (@stores_storeRefreshed copy (provider.grants token)
    refreshable.readable).holdsBrought
  have writes : AxumConf.Auth.afterAnswer external idTokenKeys copy (some (provider.grants token)) =
      .written (storeRefreshed copy (provider.grants token)) := by
    simp [Auth.afterAnswer, inspected, stored.genuine]
  rw [writes]
  apply kept.moves
  · rw [answered]
    rfl
  · exact ⟨stored, _, isNewest, holds⟩

/-- The layer looks at a copy: it passes the request on or asks for a live token. -/
theorem LoginKept.checks (kept : LoginKept external idTokenKeys provider state session)
    {turn : Turn} {copy : Session} (loaded : state.requests turn.request = .loaded copy)
    (live : presentsLiveToken external state turn = true) :
    LoginKept external idTokenKeys provider (state.checks external idTokenKeys provider turn copy)
      session := by
  have fits := kept.requests turn.request
  rw [loaded] at fits
  rcases fits with ⟨refreshable, -⟩
  have stands : (state.requests turn.request).isUnsaved = false := by rw [loaded]; rfl
  have hasRead := hasRead_checkSession (atTime external turn.now) copy
  unfold SharedSession.checks
  unfold presentsLiveToken at live
  simp only [loaded] at live
  cases checked : checkSession (atTime external turn.now) copy with
  | passes => exact kept.moves stands.symm trivial
  | inspects =>
      have passes : inspected external idTokenKeys copy .done = .done := by
        simp [inspected, refreshable.genuine]
      simp only [passes]
      exact kept.moves stands.symm trivial
  | refreshes token =>
      simp only [checked] at live
      rw [checked] at hasRead
      exact kept.asks loaded hasRead (by simpa using live)
  | clears =>
      rw [checked] at hasRead
      have hasRefresh := refreshable.hasRefresh
      rw [hasRead] at hasRefresh
      cases hasRefresh

/-- A step that presents no redeemed refresh token keeps the login. -/
theorem loginKept_step (grantsGenuine : GrantsGenuine external idTokenKeys provider) {turn : Turn}
    {next : SharedSession} (live : presentsLiveToken external state turn = true)
    (stepped : (sharedSession external idTokenKeys provider).step state turn = some next)
    (kept : LoginKept external idTokenKeys provider state session) :
    ∃ stored, LoginKept external idTokenKeys provider next stored := by
  simp only [sharedSession] at stepped
  have fits := kept.requests turn.request
  cases stands : state.requests turn.request with
  | waiting =>
      simp only [stands, Option.some.injEq, SharedSession.loads, kept.record] at stepped
      subst stepped
      refine ⟨session, kept.moves ?_ ⟨kept.refreshable, fun token holds => .inr holds⟩⟩
      rw [stands]
      rfl
  | loaded copy =>
      simp only [stands, Option.some.injEq] at stepped
      subst stepped
      exact ⟨session, kept.checks stands live⟩
  | answered copy answer =>
      simp only [stands, Option.some.injEq] at stepped
      subst stepped
      exact ⟨session, kept.afterAnswer grantsGenuine stands⟩
  | written copy =>
      simp only [stands, Option.some.injEq] at stepped
      subst stepped
      exact ⟨copy, kept.saves stands⟩
  | flushing =>
      rw [stands] at fits
      exact fits.elim
  | done =>
      simp only [stands] at stepped
      cases stepped

end Invariant

section Runs

/-- The session exists, nobody is about to flush it, whoever saves tokens saves the newest ones, and
it holds the newest ones when none are unsaved. -/
structure LoginSurvives (state : SharedSession) : Prop where
  exists_record : state.record.isSome = true
  nobodyFlushes : ∀ id, state.requests id ≠ .flushing
  savesNewest : ∀ id copy, state.requests id = .written copy →
    ∀ tokens, state.granted.head? = some tokens → HoldsBrought copy tokens
  holdsNewest : (∀ id, state.requests id = .waiting ∨ state.requests id = .done) →
    ∀ session tokens, state.record = some session → state.granted.head? = some tokens →
      HoldsBrought session tokens

variable {external : External} {idTokenKeys : JwksProvider} {provider : RefreshProvider}
  {state : SharedSession} {session : Session}

theorem LoginKept.survives (kept : LoginKept external idTokenKeys provider state session) :
    LoginSurvives state where
  exists_record := by
    rw [kept.record]
    rfl
  nobodyFlushes id flushing := by
    have fits := kept.requests id
    rw [flushing] at fits
    exact fits
  savesNewest id copy written tokens isNewest := by
    have fits := kept.requests id
    rw [written] at fits
    rcases fits with ⟨-, newest, isGranted, holds⟩
    rw [Option.some.inj (isNewest.symm.trans isGranted)]
    exact holds
  holdsNewest finished stored tokens isStored isNewest := by
    rw [Option.some.inj (isStored.symm.trans kept.record)]
    apply kept.newest ?_ tokens isNewest
    intro id
    rcases finished id with waiting | done
    · rw [waiting]
      rfl
    · rw [done]
      rfl

/-- A stored session before any request. -/
def SharedSession.start (session : Session) : SharedSession where
  record := some session

theorem loginKept_start (refreshable : Refreshable external idTokenKeys session) :
    LoginKept external idTokenKeys provider (SharedSession.start session) session := by
  refine ⟨rfl, refreshable, fun _ => trivial, ?_, ?_, ?_⟩
  · intro _ _ unsaved
    cases unsaved
  · intro _ unsaved
    cases unsaved
  · intro _ _ granted
    cases granted

/-- A request that presents a redeemed token is refused and deletes the record. -/
theorem deletes_of_not_presentsLiveToken {turn : Turn}
    (redeemed : presentsLiveToken external state turn = false) :
    ∃ lost, (sharedSession external idTokenKeys provider).run state [turn, turn, turn] = some lost ∧
      lost.record = none := by
  unfold presentsLiveToken at redeemed
  cases stands : state.requests turn.request with
  | loaded session =>
      simp only [stands] at redeemed
      cases checked : checkSession (atTime external turn.now) session with
      | refreshes token =>
          simp only [checked, Bool.not_eq_false'] at redeemed
          have refused : provider.answer state.redeemed token = none := by
            rw [RefreshProvider.answer, if_pos redeemed]
          have first : (sharedSession external idTokenKeys provider).step state turn =
              some (state.moves turn.request (.answered session none)) := by
            simp [sharedSession, stands, SharedSession.checks, checked, SharedSession.asks, refused]
          let refusedState := state.moves turn.request (.answered session none)
          let flushing := refusedState.moves turn.request .flushing
          have second : (sharedSession external idTokenKeys provider).step refusedState turn =
              some flushing := by
            simp [sharedSession, refusedState, flushing, requests_moves, afterAnswer]
          have third : (sharedSession external idTokenKeys provider).step flushing turn =
              some { flushing.moves turn.request .done with record := none } := by
            simp [sharedSession, flushing, requests_moves]
          refine ⟨{ flushing.moves turn.request .done with record := none }, ?_, rfl⟩
          simp only [Machine.run_cons, Machine.run_nil, first, Option.bind_some]
          rw [second, Option.bind_some, third, Option.bind_some]
      | passes => simp [checked] at redeemed
      | inspects => simp [checked] at redeemed
      | clears => simp [checked] at redeemed
  | waiting => simp [stands] at redeemed
  | answered session answer => simp [stands] at redeemed
  | written session => simp [stands] at redeemed
  | flushing => simp [stands] at redeemed
  | done => simp [stands] at redeemed

/-- In every run of any number of requests in which each one that asks the provider presents a
refresh token that has not been redeemed, the login survives in every state; the first one that
presents a redeemed token deletes the record. -/
theorem login_survives_until_redeemed
    (grantsGenuine : GrantsGenuine external idTokenKeys provider)
    (refreshable : Refreshable external idTokenKeys session) {turns : List Turn}
    {finish : SharedSession}
    (live : (sharedSession external idTokenKeys provider).Along
      (fun state turn => presentsLiveToken external state turn = true)
      (SharedSession.start session) turns)
    (ran : (sharedSession external idTokenKeys provider).run (SharedSession.start session) turns =
      some finish) :
    LoginSurvives finish ∧ ∀ turn, presentsLiveToken external finish turn = false →
      ∃ lost, (sharedSession external idTokenKeys provider).run finish [turn, turn, turn] =
          some lost ∧ ¬LoginSurvives lost := by
  have kept : ∃ stored, LoginKept external idTokenKeys provider finish stored := by
    apply Machine.invariant_along
      (fun state => ∃ stored, LoginKept external idTokenKeys provider state stored) ?_
      ⟨session, loginKept_start refreshable⟩ live ran
    rintro before turn after ⟨stored, keptBefore⟩ presentsLive stepped
    exact loginKept_step grantsGenuine presentsLive stepped keptBefore
  rcases kept with ⟨stored, kept⟩
  refine ⟨kept.survives, ?_⟩
  intro turn redeemed
  rcases @deletes_of_not_presentsLiveToken external idTokenKeys provider finish turn redeemed with
    ⟨lost, ranOn, deleted⟩
  refine ⟨lost, ranOn, ?_⟩
  intro survives
  have exists_record := survives.exists_record
  rw [deleted] at exists_record
  cases exists_record

def keylessExternal : External where
  toStr := HeaderValue.visibleText
  netContains := fun _ _ => false
  decodeBase64 := fun _ => none
  decodeBase64Url := fun _ => none
  parseJson := fun _ => none
  decodeHeader := fun _ => some (some "key")
  decode := fun _ _ _ => none
  nowEpochSecs := 1750000000

def noKeys : JwksProvider where
  keys := fun _ => none
  fetched := none

def rotatingProvider : RefreshProvider where
  grants token :=
    { access := "access of " ++ token, refresh := some (token ++ "+"), idToken := none,
      expiry := 1750003600 }
  rotates token := by
    refine ⟨token ++ "+", rfl, ?_⟩
    intro same
    have longer := congrArg String.length same
    simp at longer

def expiredSession : Session where
  record := some fun key =>
    if key = sessionAccessToken then some (.string "access")
    else if key = sessionRefreshToken then some (.string "refresh")
    else if key = sessionIdToken then some (.string "id")
    else if key = sessionTokenExpiry then some (.posInt 1750000000)
    else none

theorem grantsGenuine_rotatingProvider : GrantsGenuine keylessExternal noKeys rotatingProvider := by
  intro token idToken granted
  cases granted

theorem refreshable_expiredSession : Refreshable keylessExternal noKeys expiredSession :=
  ⟨rfl, rfl, rfl⟩

/-- The turns of these requests, all at the expiry of the access token. -/
def turnsOf (requests : List ℕ) : List Turn :=
  requests.map fun request => { request, now := 1750000000 }

/-- Both requests load the session; one checks it while the access token is good, and the other
refreshes it at the expiry.  A third one loads what the refresh brought before it is over. -/
def interleavedTurns : List Turn :=
  [{ request := 0, now := 1749999900 }, { request := 1, now := 1749999900 },
    { request := 1, now := 1749999900 }, { request := 0, now := 1750000000 },
    { request := 0, now := 1750000000 }, { request := 0, now := 1750000000 },
    { request := 2, now := 1750000000 }, { request := 2, now := 1750000000 }]

theorem login_survives_until_redeemed_interleaved :
    ∃ finish, (sharedSession keylessExternal noKeys rotatingProvider).run
        (SharedSession.start expiredSession) interleavedTurns = some finish ∧
      finish.granted = [rotatingProvider.grants "refresh"] ∧ LoginSurvives finish :=
  ⟨_, rfl, rfl, (@login_survives_until_redeemed keylessExternal noKeys rotatingProvider
    expiredSession grantsGenuine_rotatingProvider refreshable_expiredSession interleavedTurns _
    (by decide) rfl).1⟩

/-- Two requests load the expired session, one refreshes it and saves; the other is refused and
deletes the record. -/
theorem second_refresh_deletes_login :
    ∃ finish, (sharedSession keylessExternal noKeys rotatingProvider).run
        (SharedSession.start expiredSession) (turnsOf [0, 1, 0, 0, 0, 1, 1, 1]) = some finish ∧
      (∀ id, finish.requests id = .waiting ∨ finish.requests id = .done) ∧
      finish.granted = [rotatingProvider.grants "refresh"] ∧ finish.record = none := by
  refine ⟨_, rfl, ?_, rfl, rfl⟩
  intro id
  match id with
  | 0 => exact .inr rfl
  | 1 => exact .inr rfl
  | id + 2 => exact .inl rfl

end Runs

end AxumConf.Auth
