import AxumConf.Auth.Jwks

/-!
# The issuer of the provider

The configured issuer on its way to discovery and to the validation of tokens.  Both compare it
character for character; on the way its trailing slashes are lost.
-/

namespace AxumConf.Auth

structure ProviderMetadata where
  issuer : String
  jwksUri : String
  deriving DecidableEq, Repr

/-- `openidconnect` on its way to a provider. -/
structure Discovery where
  /-- `IssuerUrl::new` -/
  parseIssuer : String → Except String Unit
  /-- The document at the well-known address of an issuer, if it and the keys that it points to are
  to be had. -/
  published : String → Option ProviderMetadata
  /-- `discover_async` for an issuer, with the error that is left after the retries. -/
  discoverAsync : String → Except Error ProviderMetadata

/-- Discovery brings the published document, which has to name the issuer that it is asked for. -/
def Discovery.Documented (discovery : Discovery) : Prop :=
  ∀ issuer metadata, discovery.discoverAsync issuer = .ok metadata ↔
    discovery.published issuer = some metadata ∧ metadata.issuer = issuer

def withRealmHint (error : Error) (issuer realm : String) : Error :=
  if (Text.trim realm).isEmpty then error
  else
    { kind := error.kind
      message := error.message ++ "; issuer resolved to `" ++ issuer ++
        "`; if your provider is not Keycloak, unset `realm`" }

def discoverProviderMetadata (discovery : Discovery) (issuer realm : String) :
    Except Error ProviderMetadata :=
  match discovery.parseIssuer issuer with
  | .error problem => .error (.config ("Invalid OIDC issuer URL: " ++ problem))
  | .ok () =>
      (discovery.discoverAsync issuer).mapError fun error => withRealmHint error issuer realm

/-- The URL and the settings of the keys that bearer tokens are validated with. -/
def bearerProvider (discovery : Discovery) (config : HttpOidcConfig) (isProduction : Bool) :
    Except Error (String × JwksSettings) :=
  let settings := { issuer := config.issuer, audiences := config.audiences, isProduction }
  match config.jwksUrl with
  | some url => .ok (url, settings)
  | none =>
      (discoverProviderMetadata discovery config.issuer config.realm).map fun metadata =>
        (metadata.jwksUri, settings)

/-- The URL and the settings of the keys that stored ID tokens are checked with. -/
def idTokenProvider (discovery : Discovery) (config : HttpOidcConfig) :
    Except Error (String × JwksSettings) :=
  (discoverProviderMetadata discovery config.issuer config.realm).map fun metadata =>
    (metadata.jwksUri,
      { issuer := config.issuer, audiences := [config.clientId], isProduction := false })

/-- All keys that are built with these settings ask for this issuer. -/
def RequiresIssuer (settings : JwksSettings) (issuer : String) : Prop :=
  ∀ fromJwk jwks kid cached, buildKeys fromJwk settings jwks kid = some cached →
    cached.validation.issuer = issuer

/-- The configured URL is the issuer that tokens and the discovery document have to name, and a
provider that names it is accepted. -/
structure IssuerVerbatim (config : HttpOidcConfig) : Prop where
  bearerTokens : ∀ discovery isProduction url settings,
    bearerProvider discovery config isProduction = .ok (url, settings) →
    RequiresIssuer settings config.issuerUrl
  idTokens : ∀ discovery url settings, idTokenProvider discovery config = .ok (url, settings) →
    RequiresIssuer settings config.issuerUrl
  document : ∀ discovery metadata, discovery.Documented →
    discoverProviderMetadata discovery config.issuer config.realm = .ok metadata →
    metadata.issuer = config.issuerUrl
  acceptsProvider : ∀ discovery metadata, discovery.Documented →
    discovery.parseIssuer config.issuerUrl = .ok () →
    discovery.published config.issuerUrl = some metadata →
    metadata.issuer = config.issuerUrl →
    discoverProviderMetadata discovery config.issuer config.realm = .ok metadata

variable {discovery : Discovery} {config : HttpOidcConfig} {issuer realm : String}
  {metadata : ProviderMetadata} {settings : JwksSettings}

theorem discoverProviderMetadata_ok_iff (documented : discovery.Documented) :
    discoverProviderMetadata discovery issuer realm = .ok metadata ↔
      discovery.parseIssuer issuer = .ok () ∧
        discovery.published issuer = some metadata ∧ metadata.issuer = issuer := by
  rw [← documented issuer metadata, discoverProviderMetadata]
  cases discovery.parseIssuer issuer with
  | error problem => simp
  | ok done =>
      cases discovery.discoverAsync issuer with
      | error problem => simp [Except.mapError]
      | ok found => simp [Except.mapError]

theorem requiresIssuer_own : RequiresIssuer settings settings.issuer := by
  intro fromJwk jwks kid cached found
  rcases buildKeys_some found with ⟨jwk, -, -, decodingKey, -, rfl⟩
  rfl

theorem issuer_of_bearerProvider {isProduction : Bool} {url : String}
    (provider : bearerProvider discovery config isProduction = .ok (url, settings)) :
    settings.issuer = config.issuer := by
  unfold bearerProvider at provider
  cases given : config.jwksUrl with
  | some jwksUrl =>
      simp only [given, Except.ok.injEq, Prod.mk.injEq] at provider
      rw [← provider.2]
  | none =>
      cases discovered : discoverProviderMetadata discovery config.issuer config.realm with
      | error problem => simp [given, discovered, Except.map] at provider
      | ok metadata =>
          simp only [given, discovered, Except.map, Except.ok.injEq, Prod.mk.injEq] at provider
          rw [← provider.2]

theorem issuer_of_idTokenProvider {url : String}
    (provider : idTokenProvider discovery config = .ok (url, settings)) :
    settings.issuer = config.issuer := by
  unfold idTokenProvider at provider
  cases discovered : discoverProviderMetadata discovery config.issuer config.realm with
  | error problem => simp [discovered, Except.map] at provider
  | ok metadata =>
      simp only [discovered, Except.map, Except.ok.injEq, Prod.mk.injEq] at provider
      rw [← provider.2]

theorem issuer_eq_issuerUrl_iff (noRealm : Text.trim config.realm = "") :
    config.issuer = config.issuerUrl ↔ Text.endsWith config.issuerUrl '/' = false := by
  have blank : (Text.trim config.realm).isEmpty = true := String.isEmpty_iff.mpr noRealm
  simp only [HttpOidcConfig.issuer, blank, if_true]
  exact Text.trimEndMatches_eq_self_iff

theorem issuerVerbatim_of_issuer (same : config.issuer = config.issuerUrl) :
    IssuerVerbatim config where
  bearerTokens := by
    intro discovery isProduction url settings provider
    rw [← same, ← issuer_of_bearerProvider provider]
    exact requiresIssuer_own
  idTokens := by
    intro discovery url settings provider
    rw [← same, ← issuer_of_idTokenProvider provider]
    exact requiresIssuer_own
  document := by
    intro discovery metadata documented discovered
    rw [← same]
    exact ((discoverProviderMetadata_ok_iff documented).mp discovered).2.2
  acceptsProvider := by
    intro discovery metadata documented parses published named
    apply (discoverProviderMetadata_ok_iff documented).mpr
    rw [same]
    exact ⟨parses, published, named⟩

/-- A provider with one document, which names this issuer. -/
def servesIssuer (issuer jwksUri : String) (publishes : String → Bool) : Discovery where
  parseIssuer := fun _ => .ok ()
  published := fun asked => if publishes asked then some { issuer, jwksUri } else none
  discoverAsync := fun asked =>
    if publishes asked then
      if issuer = asked then .ok { issuer, jwksUri }
      else
        .error (.config
          ("OIDC discovery failed: Validation error: unexpected issuer URI `" ++ issuer ++
           "` (expected `" ++ asked ++ "`)"))
    else .error (.config "OIDC discovery failed: Server returned invalid response: 404")

theorem servesIssuer_documented (issuer jwksUri : String) (publishes : String → Bool) :
    (servesIssuer issuer jwksUri publishes).Documented := by
  intro asked metadata
  cases served : publishes asked with
  | false => simp [servesIssuer, served]
  | true =>
      by_cases named : issuer = asked
      · subst named
        simp only [servesIssuer, served, if_true, Except.ok.injEq, Option.some.injEq]
        constructor
        · rintro rfl
          exact ⟨rfl, rfl⟩
        · rintro ⟨rfl, -⟩
          rfl
      · simp only [servesIssuer, served, named, if_true, if_false, reduceCtorEq,
          Option.some.injEq, false_iff]
        rintro ⟨rfl, isNamed⟩
        exact named isNamed

theorem issuer_of_verbatim (verbatim : IssuerVerbatim config) :
    config.issuer = config.issuerUrl := by
  have documented := servesIssuer_documented config.issuerUrl "" fun _ => true
  have accepted := verbatim.acceptsProvider _ _ documented rfl rfl rfl
  exact ((discoverProviderMetadata_ok_iff documented).mp accepted).2.2.symm

/-- Without a realm the configured issuer is required of tokens and documents exactly when it does
not end in a slash. -/
theorem issuerVerbatim_iff (_accepted : config.validate = .ok ())
    (noRealm : Text.trim config.realm = "") :
    IssuerVerbatim config ↔ Text.endsWith config.issuerUrl '/' = false := by
  rw [← issuer_eq_issuerUrl_iff noRealm]
  constructor
  · intro verbatim
    exact issuer_of_verbatim verbatim
  · intro same
    exact issuerVerbatim_of_issuer same

def idpConfig : HttpOidcConfig where
  issuerUrl := "https://sso.example.com/idp"
  clientId := "my-app"
  clientSecret := "secret"

def tenantConfig : HttpOidcConfig where
  issuerUrl := "https://tenant.example.com/"
  clientId := "my-app"
  clientSecret := "secret"

/-- The provider names its issuer with the slash, in the document that is found with and without
one. -/
def tenantDiscovery : Discovery :=
  servesIssuer "https://tenant.example.com/" "https://tenant.example.com/.well-known/jwks.json"
    fun asked => asked == "https://tenant.example.com/" || asked == "https://tenant.example.com"

theorem idpConfig_verbatim : IssuerVerbatim idpConfig :=
  (issuerVerbatim_iff (by decide +kernel) (by decide)).mpr (by decide +kernel)

/-- The provider that advertises the configured issuer is refused for the slash at its end. -/
theorem tenantConfig_refused :
    tenantConfig.validate = .ok () ∧ tenantConfig.realm = "" ∧ tenantDiscovery.Documented ∧
      (tenantDiscovery.published tenantConfig.issuerUrl).map ProviderMetadata.issuer =
        some tenantConfig.issuerUrl ∧
      discoverProviderMetadata tenantDiscovery tenantConfig.issuer tenantConfig.realm =
        .error (.config ("OIDC discovery failed: Validation error: unexpected issuer URI " ++
          "`https://tenant.example.com/` (expected `https://tenant.example.com`)")) ∧
      ¬IssuerVerbatim tenantConfig := by
  refine ⟨by decide +kernel, rfl, servesIssuer_documented _ _ _, by decide +kernel,
    by decide +kernel, ?_⟩
  intro verbatim
  exact absurd (issuer_of_verbatim verbatim) (by decide +kernel)

end AxumConf.Auth
