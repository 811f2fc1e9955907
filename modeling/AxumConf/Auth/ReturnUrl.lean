import AxumConf.Auth.LoginBinding
import AxumConf.Lib.Url

/-!
# Where the login returns to

A return URL is stored and redirected to only if `is_safe_local_path` accepts it.  What is accepted
stays on the origin unless tabs or newlines stand between the first slash and a second one, which
browsers remove before they look at the slashes.
-/

namespace AxumConf.Auth

open Url

theorem isSafeLocalPath_cons {path : String} (safe : isSafeLocalPath path = true) :
    ∃ rest, path.toList = '/' :: rest := by
  simp only [isSafeLocalPath, Bool.and_eq_true] at safe
  rcases Text.startsWith_iff.mp safe.1.1 with ⟨rest, rfl⟩
  exact ⟨rest.toList, by simp⟩

theorem isSafeLocalPath_originalUrl (head : RequestHead) :
    isSafeLocalPath (originalUrl head) = true := by
  unfold originalUrl
  cases accepted : head.pathAndQuery.filter isSafeLocalPath with
  | none => decide
  | some path => exact (Option.filter_eq_some_iff.mp accepted).2

variable {client : CodeFlowClient} {params : CallbackParams} {session : Session}
  {response : TokenResponse} {idToken : String}

/-- Storing the tokens and removing the secrets leaves the return URL in place. -/
theorem sameReturnUrl_removeFlowState (tokens : RefreshedTokens) :
    Session.SameOn [sessionReturnUrl] session
      (removeFlowState (storeRefreshed session tokens)) := by
  have stored : Session.SameOn [sessionReturnUrl] session (storeRefreshed session tokens) :=
    sameOn_storeRefreshed (by decide)
  exact ((stored.trans (Session.sameOn_remove (by decide))).trans
    (Session.sameOn_remove (by decide))).trans (Session.sameOn_remove (by decide))

/-- A callback that is accepted redirects to the stored return URL if it is safe, and to the
configured path otherwise. -/
theorem callbackHandler_target (now : ℕ)
    (accepts : AcceptsCallback client params session response idToken) :
    (callbackHandler client now params session).1 =
      .ok (redirectTemporary
        (((session.getString sessionReturnUrl).filter isSafeLocalPath).getD
          client.postLoginRedirect)) := by
  rw [AcceptsCallback] at accepts
  have hasIdToken := (callbackTokens_ok accepts).2
  simp only [callbackHandler, accepts, storeTokens_eq now hasIdToken]
  rw [(sameReturnUrl_removeFlowState (response.tokens now)).getString (by decide)]

/-- A safe path, the return URL that a redirect to the login stores and the one that a callback
redirects to stay on the origin of every base exactly when they hide no second slash. -/
theorem staysOnOrigin_iff (parser : Url.Parser) :
    (∀ path, isSafeLocalPath path = true → (StaysOnOrigin parser path ↔ ¬HidesSlash path)) ∧
    (∀ head, StaysOnOrigin parser (originalUrl head) ↔ ¬HidesSlash (originalUrl head)) ∧
    ∀ (client : CodeFlowClient) (now : ℕ) (params : CallbackParams) (session : Session)
      (response : TokenResponse) (idToken : String),
      AcceptsCallback client params session response idToken →
      ∃ target, (callbackHandler client now params session).1 = .ok (redirectTemporary target) ∧
        (target = client.postLoginRedirect ∨
          session.getString sessionReturnUrl = some target ∧
            (StaysOnOrigin parser target ↔ ¬HidesSlash target)) := by
  have safePaths : ∀ path, isSafeLocalPath path = true →
      (StaysOnOrigin parser path ↔ ¬HidesSlash path) := by
    intro path safe
    rcases isSafeLocalPath_cons safe with ⟨rest, isPath⟩
    exact staysOnOrigin_path_iff isPath
  refine ⟨safePaths, fun head => safePaths _ (isSafeLocalPath_originalUrl head), ?_⟩
  intro client now params session response idToken accepts
  refine ⟨_, callbackHandler_target now accepts, ?_⟩
  cases stored : (session.getString sessionReturnUrl).filter isSafeLocalPath with
  | none => exact .inl rfl
  | some target =>
      rcases Option.filter_eq_some_iff.mp stored with ⟨isStored, safe⟩
      exact .inr ⟨isStored, safePaths target safe⟩

/-- Takes an authority for a host, unless it is empty. -/
def hostsOnly : Url.Parser where
  authority := fun _ host => if host.isEmpty then none else some (String.ofList host, none)
  schemeStart := fun _ _ => none

def appOrigin : Url.Origin where
  scheme := .https
  host := "app.example.com"
  port := none

/-- The page of the users stays on every origin, and Ann's callback redirects to the configured
path, as her session holds no return URL. -/
theorem staysOnOrigin_iff_users :
    StaysOnOrigin hostsOnly "/users" ∧
      ∃ target, (callbackHandler twoUserClient 1750000000 { code := "ann", state := "state" }
          (loginStarted FlowState.new.session)).1 = .ok (redirectTemporary target) ∧
        target = twoUserClient.postLoginRedirect := by
  have accepted : AcceptsCallback twoUserClient { code := "ann", state := "state" }
      (loginStarted FlowState.new.session) annResponse "ann-id" := by
    unfold AcceptsCallback
    decide
  have stays := staysOnOrigin_iff hostsOnly
  refine ⟨(stays.1 "/users" (by decide +kernel)).mpr ?_, ?_⟩
  · rintro ⟨character, found, slash⟩
    cases found
    exact absurd slash (by decide)
  · rcases stays.2.2 _ 1750000000 _ _ _ _ accepted with ⟨target, redirects, configured | stored⟩
    · exact ⟨target, redirects, configured⟩
    · cases stored.1

/-- A path with a tab behind its slash is accepted and leads to another host. -/
theorem accepted_path_leaves_origin :
    isSafeLocalPath "/\t/evil.com" = true ∧
      resolve hostsOnly appOrigin "/\t/evil.com" = some { appOrigin with host := "evil.com" } ∧
      ¬StaysOnOrigin hostsOnly "/\t/evil.com" := by
  have leads : resolve hostsOnly appOrigin "/\t/evil.com" =
      some { appOrigin with host := "evil.com" } := by decide +kernel
  refine ⟨by decide +kernel, leads, ?_⟩
  intro stays
  have same := leads.symm.trans (stays appOrigin)
  exact absurd same (by decide +kernel)

end AxumConf.Auth
