import AxumConf.Auth.BrowserRedirect
import AxumConf.Auth.Session

/-!
# The authorization code flow

The handlers of login, callback and logout.  The provider, the crates that speak to it and the
random secrets enter as parameters; what the handlers leave in the session is all that later
requests know of the user.
-/

namespace AxumConf.Auth

def sessionPkceVerifier : String := "oidc_pkce_verifier"
def sessionCsrfState : String := "oidc_csrf_state"
def sessionNonce : String := "oidc_nonce"

def defaultTokenLifetimeSecs : ℕ := 300

structure FlowSecrets where
  pkceVerifier : String
  csrfState : String
  nonce : String
  deriving DecidableEq, Repr

structure CallbackParams where
  code : String
  state : String
  deriving DecidableEq, Repr

structure TokenResponse where
  access : String
  refresh : Option String
  idToken : Option String
  expiresIn : Option ℕ
  deriving DecidableEq, Repr

inductive ExchangeError where
  | notConfigured (message : String)
  | failed (message : String)
  deriving DecidableEq, Repr

/-- Why `session.get` fails: the store cannot be read, or the value has another type. -/
inductive SessionError where
  | unreadable
  | wrongType
  deriving DecidableEq, Repr

structure CodeFlowClient extends OidcClient where
  scopes : List String
  audiences : List String
  postLoginRedirect : String
  postLogoutRedirect : String
  endSessionUrl : Option String
  /-- The authorization request of `openidconnect`. -/
  authorizeUrl : List String → FlowSecrets → String
  /-- The token endpoint's answer to a code and the PKCE verifier. -/
  exchangeCode : String → String → Except ExchangeError TokenResponse
  /-- Validates an ID token for the trusted audiences and the nonce. -/
  verifyIdToken : List String → String → String → Except String Unit
  /-- The end-session URL with the ID token hint and the redirect in its query. -/
  logoutUrl : String → Option String → String → String
  sessionErrorText : SessionError → String

/-- `session.get::<String>(key).await` -/
def sessionGetText (session : Session) (key : String) : Except SessionError (Option String) :=
  match session.record with
  | none => .error .unreadable
  | some record =>
      match record key with
      | none => .ok none
      | some (.string text) => .ok (some text)
      | some _ => .error .wrongType

def authenticationError (message : String) : Error := { kind := .authentication, message }

section Handlers

variable (client : CodeFlowClient)

def loginHandler (secrets : FlowSecrets) (session : Session) : Response × Session :=
  let session := session.insert sessionPkceVerifier (.string secrets.pkceVerifier)
  let session := session.insert sessionCsrfState (.string secrets.csrfState)
  let session := session.insert sessionNonce (.string secrets.nonce)
  (redirectTemporary (client.authorizeUrl client.scopes secrets), session)

def storedSecret (session : Session) (key name : String) : Except Error String :=
  match sessionGetText session key with
  | .error problem =>
      .error (authenticationError ("Session error: " ++ client.sessionErrorText problem))
  | .ok none => .error (authenticationError ("Missing " ++ name ++ " in session"))
  | .ok (some secret) => .ok secret

def exchange (code pkceVerifier : String) : Except Error TokenResponse :=
  match client.exchangeCode code pkceVerifier with
  | .error (.notConfigured message) =>
      .error (authenticationError ("Token endpoint not configured: " ++ message))
  | .error (.failed message) =>
      .error (authenticationError ("Token exchange failed: " ++ message))
  | .ok response => .ok response

def verifiedIdToken (nonce : String) (response : TokenResponse) : Except Error String :=
  match response.idToken with
  | none => .error (authenticationError "No ID token in response")
  | some idToken =>
      match client.verifyIdToken client.audiences nonce idToken with
      | .error message => .error (authenticationError ("ID token validation failed: " ++ message))
      | .ok () => .ok idToken

/-- The checks of `callback_handler`: the token response, and the ID token in it. -/
def callbackTokens (params : CallbackParams) (session : Session) :
    Except Error (TokenResponse × String) := do
  let storedState ← storedSecret client session sessionCsrfState "CSRF state"
  rejectIf (params.state != storedState) (authenticationError "CSRF state mismatch")
  let pkceVerifier ← storedSecret client session sessionPkceVerifier "PKCE verifier"
  let nonce ← storedSecret client session sessionNonce "nonce"
  let response ← exchange client params.code pkceVerifier
  let idToken ← verifiedIdToken client nonce response
  pure (response, idToken)

/-- Seconds since the epoch, as a 64-bit number. -/
def tokenExpiry (now : ℕ) (expiresIn : Option ℕ) : ℕ :=
  (now + expiresIn.getD defaultTokenLifetimeSecs) % 2 ^ 64

def storeTokens (session : Session) (response : TokenResponse) (idToken : String) (now : ℕ) :
    Session :=
  let session := session.insert sessionAccessToken (.string response.access)
  let session := insertSome session sessionRefreshToken response.refresh
  let session := session.insert sessionIdToken (.string idToken)
  session.insert sessionTokenExpiry (.posInt (tokenExpiry now response.expiresIn))

def removeFlowState (session : Session) : Session :=
  ((session.remove sessionPkceVerifier).remove sessionCsrfState).remove sessionNonce

def callbackHandler (now : ℕ) (params : CallbackParams) (session : Session) :
    Except Error Response × Session :=
  match callbackTokens client params session with
  | .error problem => (.error problem, session)
  | .ok (response, idToken) =>
      let session := removeFlowState (storeTokens session response idToken now)
      let returnUrl := session.getString sessionReturnUrl
      let target := (returnUrl.filter isSafeLocalPath).getD client.postLoginRedirect
      (.ok (redirectTemporary target), session.remove sessionReturnUrl)

def logoutHandler (session : Session) : Response × Session :=
  let idTokenHint := session.getString sessionIdToken
  let target :=
    match client.endSessionUrl with
    | some url => client.logoutUrl url idTokenHint client.postLogoutRedirect
    | none => client.postLogoutRedirect
  (redirectTemporary target, session.flush)

end Handlers

end AxumConf.Auth
