import AxumConf.Auth.LoginBinding

/-!
# Sessions whose tokens are earned

What holds of a session for any account of which secrets were minted and which tokens were earned:
its tokens are earned ones, and its secrets, if it has any, are those of one login.  Every event
keeps this, given that it mints and brings nothing else.
-/

namespace AxumConf.Auth

/-- The session's tokens are earned, and its secrets, if it has any, are those of one login. -/
structure Backed (minted : FlowSecrets → Prop) (earned : RefreshedTokens → Prop)
    (session : Session) : Prop where
  tokens : ∃ login, (∀ tokens ∈ login, earned tokens) ∧ Coherent { session, login }
  secrets : ∃ last, (∀ secrets, last = some secrets → minted secrets) ∧ BoundTo last session

namespace Backed

variable {minted laterMinted : FlowSecrets → Prop} {earned laterEarned : RefreshedTokens → Prop}
  {session after : Session}

theorem mono (backed : Backed minted earned session)
    (mints : ∀ secrets, minted secrets → laterMinted secrets)
    (earns : ∀ tokens, earned tokens → laterEarned tokens) :
    Backed laterMinted laterEarned session := by
  rcases backed with ⟨⟨login, allEarned, coherent⟩, last, isMinted, bound⟩
  refine ⟨⟨login, ?_, coherent⟩, last, ?_, bound⟩
  · intro tokens member
    exact earns tokens (allEarned tokens member)
  · intro secrets isLast
    exact mints secrets (isMinted secrets isLast)

/-- A session without entries of the login. -/
theorem of_missing (missing : ∀ key ∈ tokenKeys ++ secretKeys, session.get key = none) :
    Backed minted earned session := by
  refine ⟨⟨[], by simp, ?_⟩, none, by simp, .inl ?_⟩
  · exact coherent_of_dropped fun key member => missing key (List.mem_append_left _ member)
  · exact fun key member => missing key (List.mem_append_right _ member)

theorem of_sameOn (backed : Backed minted earned session)
    (same : Session.SameOn (tokenKeys ++ secretKeys) session after) :
    Backed minted earned after := by
  rcases backed with ⟨⟨login, allEarned, coherent⟩, last, isMinted, bound⟩
  refine ⟨⟨login, allEarned, ?_⟩, last, isMinted, ?_⟩
  · exact coherent.of_sameTokens fun key member => same key (List.mem_append_left _ member)
  · exact bound.of_sameOn fun key member => same key (List.mem_append_right _ member)

/-- An event leaves the session backed by what was earned and minted before and what it brings and
mints itself. -/
theorem step (backed : Backed minted earned session) (event : FlowEvent)
    (mints : ∀ secrets, loginSecrets event = some secrets → minted secrets)
    (earns : ∀ tokens, brought session event = some tokens → earned tokens) :
    Backed minted earned (sessionAfter session event) := by
  rcases backed with ⟨⟨login, allEarned, coherent⟩, last, isMinted, bound⟩
  refine ⟨?_, (loginSecrets event).or last, ?_, boundTo_step bound event⟩
  · have onTokens := tokensAfter session event
    generalize isBrought : brought session event = tokens at onTokens
    generalize sessionAfter session event = after at onTokens
    cases onTokens with
    | kept same => exact ⟨login, allEarned, coherent.of_sameTokens same⟩
    | dropped dropped => exact ⟨login, allEarned, coherent_of_dropped dropped⟩
    | @stored tokens after stores =>
        refine ⟨tokens :: login, ?_, ?_⟩
        · simp only [List.forall_mem_cons]
          exact ⟨earns tokens isBrought, allEarned⟩
        · exact coherent_of_stores stores (fun _ => coherent.refresh) (fun _ => coherent.idToken)
  · intro secrets isLast
    cases fresh : loginSecrets event with
    | some ownSecrets =>
        rw [fresh, Option.some_or, Option.some.injEq] at isLast
        rw [← isLast]
        exact mints ownSecrets fresh
    | none =>
        rw [fresh, Option.none_or] at isLast
        exact isMinted secrets isLast

/-- A callback that is accepted answers a login whose secrets were minted. -/
theorem answersLogin (backed : Backed minted earned session) {client : CodeFlowClient}
    {params : CallbackParams} {response : TokenResponse} {idToken : String}
    (accepts : AcceptsCallback client params session response idToken) :
    ∃ secrets, minted secrets ∧ AnswersLogin client params secrets response idToken := by
  rcases backed.secrets with ⟨last, isMinted, empty | ⟨secrets, isLast, holds⟩⟩
  · exact absurd accepts (not_acceptsCallback empty)
  · exact ⟨secrets, isMinted secrets isLast, answersLogin_of_accepts holds accepts⟩

end Backed

section Sessions

variable {external : External} {rolesClaim : String} {request : Request}

/-- What a request brings are tokens for which its client redeemed the session's refresh token. -/
theorem brought_request {session : Session} {tokens : RefreshedTokens}
    (isBrought : brought session (.request external rolesClaim request) = some tokens) :
    ∃ client refresh, request.oidcClient = some client ∧
      session.getString sessionRefreshToken = some refresh ∧
      client.refreshTokens refresh = some tokens := by
  simp only [brought] at isBrought
  split at isBrought
  · unfold refreshedTokens at isBrought
    split at isBrought
    · rename_i client refresh hasClient held
      exact ⟨client, refresh, hasClient, held, isBrought⟩
    · cases isBrought
  · cases isBrought

theorem freshSession_access {client : Option OidcClient} {session fresh : Session}
    (access : (session.getString sessionAccessToken).isSome = true)
    (isFresh : freshSession external client session = some fresh) :
    (fresh.getString sessionAccessToken).isSome = true := by
  unfold freshSession at isFresh
  split at isFresh
  · rcases Option.map_eq_some_iff.mp isFresh with ⟨tokens, -, rfl⟩
    rcases Option.isSome_iff_exists.mp access with ⟨text, held⟩
    rw [(stores_storeRefreshed (readable_of_getString held)).access]
    rfl
  · cases isFresh
    exact access

/-- An identity that the session yields is read from the ID token and the access token of the
session that the layer passes on. -/
theorem exists_of_sessionIdentity (unknown : request.identity = none)
    {identity : AuthenticatedIdentity}
    (seen : (withSessionIdentity external rolesClaim request).identity = some identity) :
    ∃ after idToken access,
      (withSessionIdentity external rolesClaim request).session = some after ∧
      after.getString sessionIdToken = some idToken ∧
      after.getString sessionAccessToken = some access ∧
      parseIdTokenToIdentity external idToken (some access) rolesClaim = some identity := by
  have named : NamesSessionUser external rolesClaim request := by
    by_contra nameless
    rcases withSessionIdentity_unidentified nameless with ⟨left, same⟩
    rw [same, unknown] at seen
    cases seen
  rcases named with
    ⟨session, held, hasAccess, fresh, isFresh, idToken, stored, genuine, names⟩
  rcases Option.isSome_iff_exists.mp (freshSession_access hasAccess isFresh) with ⟨access, isAccess⟩
  have notNone : (session.getString sessionAccessToken).isNone = false := by
    rw [Option.isNone_eq_false_iff]
    exact hasAccess
  have passes : withSessionIdentity external rolesClaim request =
      identifyBySession external rolesClaim request fresh := by
    simp only [withSessionIdentity, unknown, Option.isSome_none, Bool.false_eq_true, if_false,
      held, notNone, isFresh]
  rcases Option.isSome_iff_exists.mp names with ⟨parsed, parses⟩
  rw [isAccess] at parses
  have read : identifyBySession external rolesClaim request fresh =
      { request with session := some fresh, identity := some parsed } := by
    simp only [identifyBySession, stored, genuine, Bool.false_eq_true, if_false, isAccess, parses]
  rw [passes, read] at seen ⊢
  cases seen
  exact ⟨fresh, idToken, access, rfl, stored, isAccess, parses⟩

end Sessions

end AxumConf.Auth
