import AxumConf.Config.Error
import AxumConf.Lib.Address
import AxumConf.Lib.Text

/-!
# Authentication settings

The `[http.oidc]`, `[http.basic_auth]` and `[http.proxy_oidc]` sections and their checks.  A field's
default is the value of a key that the file leaves out.
-/

namespace AxumConf

structure HttpOidcConfig where
  issuerUrl : String := ""
  realm : String := ""
  audiences : List String := []
  jwksUrl : Option String := none
  clientId : String
  clientSecret : String
  redirectUri : Option String := none
  scopes : List String := ["openid"]
  postLoginRedirect : String := "/"
  postLogoutRedirect : String := "/"
  loginRoute : String := "/auth/login"
  callbackRoute : String := "/auth/callback"
  logoutRoute : String := "/auth/logout"
  autoRedirectToLogin : Bool := false
  rolesClaim : String := "applicationRoles"
  deriving DecidableEq, Repr

namespace HttpOidcConfig

def authCodeFlowEnabled (config : HttpOidcConfig) : Bool :=
  config.redirectUri.isSome

/-- The issuer for discovery and for the `iss` claim; a realm makes it Keycloak's. -/
def issuer (config : HttpOidcConfig) : String :=
  let base := Text.trimEndMatches config.issuerUrl '/'
  if (Text.trim config.realm).isEmpty then base else base ++ "/realms/" ++ config.realm

private def isHttpUrl (url : String) : Bool :=
  Text.startsWith url "http://" || Text.startsWith url "https://"

def validate (config : HttpOidcConfig) : Checked := do
  rejectIf ((Text.trim config.issuerUrl).isEmpty)
    (.invalidInput
      ("OIDC issuer_url is required. Set [http.oidc] issuer_url = " ++
       "\"https://your-keycloak-server\" in config."))
  rejectIf (!isHttpUrl config.issuerUrl)
    (.invalidInput
      ("OIDC issuer_url must start with http:// or https://. Example: " ++
       "\"https://keycloak.example.com\""))
  rejectIf ((Text.trim config.clientId).isEmpty)
    (.invalidInput
      "OIDC client_id is required. Set [http.oidc] client_id = \"your-client-id\" in config.")
  rejectIf config.clientSecret.isEmpty
    (.invalidInput
      ("OIDC client_secret is required. Set [http.oidc] client_secret = " ++
       "\"\x7b\x7b OIDC_CLIENT_SECRET \x7d\x7d\" to use env var."))
  rejectIf (config.redirectUri.any fun url => !isHttpUrl url)
    (.invalidInput "OIDC redirect_uri must start with http:// or https://.")
  rejectIf (config.jwksUrl.any fun url => !isHttpUrl url)
    (.invalidInput "OIDC jwks_url must start with http:// or https://.")

end HttpOidcConfig

inductive BasicAuthMode where
  | basic
  | apiKey
  | either
  deriving DecidableEq, Repr

def BasicAuthMode.allowsBasic (mode : BasicAuthMode) : Bool :=
  match mode with
  | basic | either => true
  | apiKey => false

def BasicAuthMode.allowsApiKey (mode : BasicAuthMode) : Bool :=
  match mode with
  | apiKey | either => true
  | basic => false

structure BasicAuthUser where
  username : String
  password : String
  email : Option String := none
  groups : List String := []
  roles : List String := []
  preferredUsername : Option String := none
  deriving DecidableEq, Repr

structure BasicAuthApiKey where
  key : String
  name : Option String := none
  email : Option String := none
  groups : List String := []
  roles : List String := []
  preferredUsername : Option String := none
  deriving DecidableEq, Repr

structure HttpBasicAuthConfig where
  mode : BasicAuthMode := .either
  apiKeyHeader : String := "X-API-Key"
  users : List BasicAuthUser := []
  apiKeys : List BasicAuthApiKey := []
  deriving DecidableEq, Repr

namespace HttpBasicAuthConfig

def validateMode (config : HttpBasicAuthConfig) : Checked :=
  match config.mode with
  | .basic => rejectIf config.users.isEmpty
      (.invalidInput
        ("Basic auth mode 'basic' requires at least one user. Add [[http.basic_auth.users]] to " ++
         "config."))
  | .apiKey => rejectIf config.apiKeys.isEmpty
      (.invalidInput
        ("Basic auth mode 'api_key' requires at least one API key. Add " ++
         "[[http.basic_auth.api_keys]] to config."))
  | .either => rejectIf (config.users.isEmpty && config.apiKeys.isEmpty)
      (.invalidInput
        "Basic auth requires at least one user or API key. Add credentials to config.")

def validateUser (user : BasicAuthUser) : Checked := do
  rejectIf ((Text.trim user.username).isEmpty)
    (.invalidInput "Basic auth username cannot be empty.")
  rejectIf user.password.isEmpty
    (.invalidInput
      "Basic auth password cannot be empty. Use \x7b\x7b ENV_VAR \x7d\x7d for secrets.")

def validateApiKey (apiKey : BasicAuthApiKey) : Checked :=
  rejectIf apiKey.key.isEmpty
    (.invalidInput "API key cannot be empty. Use \x7b\x7b ENV_VAR \x7d\x7d for secrets.")

def validate (config : HttpBasicAuthConfig) : Checked := do
  config.validateMode
  config.users.forM validateUser
  config.apiKeys.forM validateApiKey
  rejectIf ((Text.trim config.apiKeyHeader).isEmpty)
    (.invalidInput "API key header name cannot be empty.")

end HttpBasicAuthConfig

structure HttpProxyOidcConfig where
  userHeader : String := "X-Auth-Request-User"
  emailHeader : String := "X-Auth-Request-Email"
  groupsHeader : String := "X-Auth-Request-Groups"
  preferredUsernameHeader : String := "X-Auth-Request-Preferred-Username"
  accessTokenHeader : String := "X-Auth-Request-Access-Token"
  rolesHeader : String := "X-Auth-Request-Roles"
  trustedProxies : List IpNet := []
  sharedSecret : Option String := none
  sharedSecretHeader : String := "X-Proxy-Secret"
  deriving DecidableEq, Repr

namespace HttpProxyOidcConfig

/-- The configured secret; a blank one counts as none. -/
def effectiveSharedSecret (config : HttpProxyOidcConfig) : Option String :=
  (config.sharedSecret.map Text.trim).filter fun secret => !secret.isEmpty

def hasTrustAnchor (config : HttpProxyOidcConfig) : Bool :=
  !config.trustedProxies.isEmpty || config.effectiveSharedSecret.isSome

end HttpProxyOidcConfig

end AxumConf
