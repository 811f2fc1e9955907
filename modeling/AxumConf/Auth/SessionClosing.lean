import AxumConf.Auth.Session

/-!
# Sessions fail closed

The conditions under which the session middleware attaches an identity, and those under which it
clears the session, as they are read off the session record, the clock, the provider and the
signature check.
-/

namespace AxumConf.Auth

section Conditions

variable (external : External) (client : Option OidcClient)

/-- No stored expiry comes within 30 seconds. -/
def Unexpired (session : Session) : Prop :=
  ∀ expiry, session.getU64 sessionTokenExpiry = some expiry →
    external.nowEpochSecs < expiry - 30

/-- A client and a refresh token are there, and the provider grants the refresh. -/
def RefreshGranted (session : Session) (tokens : RefreshedTokens) : Prop :=
  ∃ found refresh, client = some found ∧ session.getString sessionRefreshToken = some refresh ∧
    found.refreshTokens refresh = some tokens

/-- The session whose tokens are in force, which is the stored one or the refreshed one. -/
inductive InForce (session : Session) : Session → Prop where
  | stored (unexpired : Unexpired external session) : InForce session session
  | refreshed (expired : ¬Unexpired external session) (tokens : RefreshedTokens)
      (granted : RefreshGranted client session tokens) :
      InForce session (storeRefreshed session tokens)

def SignatureInvalid (idToken : String) : Prop :=
  ∃ found, client = some found ∧ verifySignature external found.idTokenKeys idToken = .invalid

/-- What the session vouches for: the subject of an ID token whose signature is not known to be
invalid. -/
def Vouches (rolesClaim : String) (fresh : Session) (identity : AuthenticatedIdentity) : Prop :=
  ∃ idToken, fresh.getString sessionIdToken = some idToken ∧
    ¬SignatureInvalid external client idToken ∧
    parseIdTokenToIdentity external idToken (fresh.getString sessionAccessToken) rolesClaim =
      some identity

/-- The token is expired and not refreshed, or the signature of the ID token is invalid. -/
inductive Defunct (session : Session) : Prop where
  | unrefreshed (expired : ¬Unexpired external session)
      (denied : ∀ tokens, ¬RefreshGranted client session tokens)
  | forged (fresh : Session) (inForce : InForce external client session fresh) (idToken : String)
      (holds : fresh.getString sessionIdToken = some idToken)
      (invalid : SignatureInvalid external client idToken)

end Conditions

variable {external : External} {client : Option OidcClient} {rolesClaim : String}

theorem isExpired_eq_false_iff {session : Session} :
    isExpired external session = false ↔ Unexpired external session := by
  unfold isExpired Unexpired
  cases session.getU64 sessionTokenExpiry with
  | none => simp
  | some expiry =>
      simp only [Option.any_some, decide_eq_false_iff_not, Option.some.injEq, forall_eq']
      omega

theorem refreshedTokens_eq_some_iff {session : Session} {tokens : RefreshedTokens} :
    refreshedTokens client session = some tokens ↔ RefreshGranted client session tokens := by
  unfold refreshedTokens RefreshGranted
  cases client with
  | none => simp
  | some found =>
      cases session.getString sessionRefreshToken with
      | none => simp
      | some refresh => simp

theorem isForged_eq_true_iff {idToken : String} :
    isForged external client idToken = true ↔ SignatureInvalid external client idToken := by
  unfold isForged SignatureInvalid
  cases client with
  | none => simp
  | some found => simp

theorem freshSession_eq_some_iff {session fresh : Session} :
    freshSession external client session = some fresh ↔
      InForce external client session fresh := by
  unfold freshSession
  cases expired : isExpired external session with
  | false =>
      have unexpired := isExpired_eq_false_iff.mp expired
      simp only [Bool.false_eq_true, if_false, Option.some.injEq]
      constructor
      · rintro rfl
        exact .stored unexpired
      · intro inForce
        cases inForce with
        | stored _ => rfl
        | refreshed isExpired _ _ => exact absurd unexpired isExpired
  | true =>
      have notUnexpired : ¬Unexpired external session := by
        intro unexpired
        rw [isExpired_eq_false_iff.mpr unexpired] at expired
        cases expired
      simp only [if_true, Option.map_eq_some_iff, refreshedTokens_eq_some_iff]
      constructor
      · rintro ⟨tokens, granted, rfl⟩
        exact .refreshed notUnexpired tokens granted
      · intro inForce
        cases inForce with
        | stored unexpired => exact absurd unexpired notUnexpired
        | refreshed _ tokens granted => exact ⟨tokens, granted, rfl⟩

theorem freshSession_eq_none_iff {session : Session} :
    freshSession external client session = none ↔
      ¬Unexpired external session ∧ ∀ tokens, ¬RefreshGranted client session tokens := by
  unfold freshSession
  rw [← isExpired_eq_false_iff]
  cases isExpired external session with
  | false => simp
  | true => simp [Option.eq_none_iff_forall_ne_some, refreshedTokens_eq_some_iff]

section Paths

variable {request : Request} {session fresh : Session}

theorem withSessionIdentity_of_inForce (unidentified : request.identity = none)
    (holds : request.session = some session)
    (hasAccess : (session.getString sessionAccessToken).isSome = true)
    (inForce : InForce external request.oidcClient session fresh) :
    withSessionIdentity external rolesClaim request =
      identifyBySession external rolesClaim request fresh := by
  have isAccess : (session.getString sessionAccessToken).isNone = false := by
    simpa [Option.isNone_eq_false_iff] using hasAccess
  have isFresh := freshSession_eq_some_iff.mpr inForce
  simp [withSessionIdentity, unidentified, holds, isAccess, isFresh]

theorem withSessionIdentity_of_unrefreshed (unidentified : request.identity = none)
    (holds : request.session = some session)
    (hasAccess : (session.getString sessionAccessToken).isSome = true)
    (expired : ¬Unexpired external session)
    (denied : ∀ tokens, ¬RefreshGranted request.oidcClient session tokens) :
    withSessionIdentity external rolesClaim request =
      { request with session := some session.flush } := by
  have isAccess : (session.getString sessionAccessToken).isNone = false := by
    simpa [Option.isNone_eq_false_iff] using hasAccess
  have isStale := freshSession_eq_none_iff.mpr ⟨expired, denied⟩
  simp [withSessionIdentity, unidentified, holds, isAccess, isStale]

theorem identifyBySession_of_invalid {idToken : String}
    (holds : fresh.getString sessionIdToken = some idToken)
    (invalid : SignatureInvalid external request.oidcClient idToken) :
    identifyBySession external rolesClaim request fresh =
      { request with session := some fresh.flush } := by
  have forged := isForged_eq_true_iff.mpr invalid
  simp [identifyBySession, holds, forged]

theorem identifyBySession_identity {identity : AuthenticatedIdentity}
    (unidentified : request.identity = none) :
    (identifyBySession external rolesClaim request fresh).identity = some identity ↔
      Vouches external request.oidcClient rolesClaim fresh identity := by
  unfold Vouches
  cases holds : fresh.getString sessionIdToken with
  | none => simp [identifyBySession, holds, unidentified]
  | some idToken =>
      simp only [Option.some.injEq, exists_eq_left']
      by_cases invalid : SignatureInvalid external request.oidcClient idToken
      · simp [identifyBySession_of_invalid holds invalid, unidentified, invalid]
      · have genuine : isForged external request.oidcClient idToken = false := by
          rw [← Bool.not_eq_true, isForged_eq_true_iff]
          exact invalid
        simp only [identifyBySession, holds, genuine, Bool.false_eq_true, if_false, invalid,
          not_false_eq_true, true_and]
        cases parseIdTokenToIdentity external idToken (fresh.getString sessionAccessToken)
            rolesClaim with
        | none => simp [unidentified]
        | some parsed => simp

end Paths

/-- The session middleware attaches an identity exactly when a session with an access token is in
force and vouches for it, never replaces one, and clears the session where it is defunct. -/
theorem sessionToIdentity_failsClosed (external : External) (rolesClaim : String)
    (request : Request) :
    ∃ passed, (sessionToIdentity external rolesClaim).inbound request = .ok passed ∧
      (∀ identity, request.identity = none ∧ passed.identity = some identity ↔
        request.identity = none ∧ ∃ session, request.session = some session ∧
          (session.getString sessionAccessToken).isSome = true ∧
          ∃ fresh, InForce external request.oidcClient session fresh ∧
            Vouches external request.oidcClient rolesClaim fresh identity) ∧
      (∀ identity, request.identity = some identity → passed = request) ∧
      ∀ session, request.identity = none → request.session = some session →
        (session.getString sessionAccessToken).isSome = true →
        Defunct external request.oidcClient session →
        passed.session = some session.flush ∧ passed.identity = none := by
  refine ⟨withSessionIdentity external rolesClaim request, rfl, ?_, ?_, ?_⟩
  · intro identity
    apply and_congr_right
    intro unidentified
    constructor
    · intro attached
      have names : NamesSessionUser external rolesClaim request := by
        by_contra nameless
        rcases withSessionIdentity_unidentified nameless with ⟨left, same⟩
        simp [same, unidentified] at attached
      rcases names with ⟨session, holds, hasAccess, fresh, isFresh, -⟩
      have inForce := freshSession_eq_some_iff.mp isFresh
      rw [withSessionIdentity_of_inForce unidentified holds hasAccess inForce,
        identifyBySession_identity unidentified] at attached
      exact ⟨session, holds, hasAccess, fresh, inForce, attached⟩
    · rintro ⟨session, holds, hasAccess, fresh, inForce, vouches⟩
      rw [withSessionIdentity_of_inForce unidentified holds hasAccess inForce]
      exact (identifyBySession_identity unidentified).mpr vouches
  · intro identity identified
    simp [withSessionIdentity, identified]
  · intro session unidentified holds hasAccess defunct
    cases defunct with
    | unrefreshed expired denied =>
        rw [withSessionIdentity_of_unrefreshed unidentified holds hasAccess expired denied]
        exact ⟨rfl, unidentified⟩
    | forged fresh inForce idToken holdsIdToken invalid =>
        rw [withSessionIdentity_of_inForce unidentified holds hasAccess inForce,
          identifyBySession_of_invalid holdsIdToken invalid]
        exact ⟨rfl, unidentified⟩

end AxumConf.Auth
