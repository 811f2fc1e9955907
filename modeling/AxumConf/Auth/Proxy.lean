import AxumConf.Http

/-!
# Identity from proxy headers

`proxy_oidc_middleware` reads the identity that a reverse proxy puts into headers, if the request
demonstrably comes from a trusted proxy.  It never refuses a request.
-/

namespace AxumConf.Auth

open Tower

variable (external : External) (config : HttpProxyOidcConfig)

def matchesSharedSecret (headers : Headers) : Bool :=
  match config.effectiveSharedSecret, external.headerText headers config.sharedSecretHeader with
  | some secret, some provided => provided == secret
  | _, _ => false

def isTrustedPeer (peerIp : Option IpAddr) : Bool :=
  peerIp.any fun ip => config.trustedProxies.any fun net => external.netContains net ip

/-- With a trust anchor the request has to match one; without any, headers are trusted outside
production only. -/
def isTrustedSource (isProduction : Bool) (peerIp : Option IpAddr) (headers : Headers) : Bool :=
  if matchesSharedSecret external config headers then true
  else if isTrustedPeer external config peerIp then true
  else if config.hasTrustAnchor then false
  else !isProduction

def nonEmptyHeader (headers : Headers) (name : String) : Option String :=
  (external.headerText headers name).filter fun text => !text.isEmpty

def listHeader (headers : Headers) (name : String) : List String :=
  ((external.headerText headers name).map fun text =>
    ((Text.split text ',').map Text.trim).filter fun entry => !entry.isEmpty).getD []

def extractIdentity (headers : Headers) : Option AuthenticatedIdentity :=
  (external.headerText headers config.userHeader).map fun user =>
    { method := .proxyOidc
      user
      email := nonEmptyHeader external headers config.emailHeader
      groups := listHeader external headers config.groupsHeader
      roles := listHeader external headers config.rolesHeader
      preferredUsername := nonEmptyHeader external headers config.preferredUsernameHeader
      accessToken := nonEmptyHeader external headers config.accessTokenHeader }

def proxyOidcMiddleware (isProduction : Bool) (request : Request) : Except Answer Request :=
  if isTrustedSource external config isProduction request.head.peerIp request.head.headers then
    match extractIdentity external config request.head.headers with
    | some identity => .ok { request with identity := some identity }
    | none => .ok request
  else .ok request

def proxyOidc (isProduction : Bool) : Middleware where
  inbound := proxyOidcMiddleware external config isProduction
  keepsHead := by
    intro request passed passes
    unfold proxyOidcMiddleware at passes
    repeat' split at passes
    all_goals
      cases passes
      rfl

/-- The request comes from a trusted source and names a user in readable text. -/
def NamesTrustedUser (isProduction : Bool) (head : RequestHead) : Prop :=
  isTrustedSource external config isProduction head.peerIp head.headers = true ∧
    (external.headerText head.headers config.userHeader).isSome = true

variable {external config}

/-- The proxy middleware identifies the trusted requests that name a user and leaves all others. -/
theorem proxyOidc_settles (isProduction : Bool) :
    Settles Request.Identified [(proxyOidc external config isProduction).layer] fun request =>
      NamesTrustedUser external config isProduction request.head := by
  intro post identified request
  simp only [Middleware.ensures_layer, proxyOidc, proxyOidcMiddleware, NamesTrustedUser,
    extractIdentity]
  split
  case isTrue trusted =>
    cases named : external.headerText request.head.headers config.userHeader with
    | none => simp
    | some user =>
        simp only [Option.map_some, Except.ok.injEq, forall_eq', trusted, Option.isSome_some,
          and_self, true_or, iff_true]
        exact identified _ rfl
  case isFalse untrusted => simp [untrusted]

section Trust

variable (external : External) (config : HttpProxyOidcConfig)

/-- The request carries the configured shared secret, which is not blank. -/
def CarriesSecret (headers : Headers) : Prop :=
  ∃ secret, config.sharedSecret = some secret ∧ Text.trim secret ≠ "" ∧
    external.headerText headers config.sharedSecretHeader = some (Text.trim secret)

def ComesFromTrustedProxy (peerIp : Option IpAddr) : Prop :=
  ∃ ip, peerIp = some ip ∧ ∃ net ∈ config.trustedProxies, external.netContains net ip = true

def Anchored : Prop :=
  config.trustedProxies ≠ [] ∨
    ∃ secret, config.sharedSecret = some secret ∧ Text.trim secret ≠ ""

/-- No anchor vouches for the request, and one is needed. -/
structure Untrusted (isProduction : Bool) (head : RequestHead) : Prop where
  noSecret : ¬CarriesSecret external config head.headers
  noPeer : ¬ComesFromTrustedProxy external config head.peerIp
  needsAnchor : Anchored config ∨ isProduction = true

/-- The requests are the same but for their headers. -/
def DifferInHeaders (first second : Request) : Prop :=
  second = { first with head := { first.head with headers := second.head.headers } }

end Trust

theorem effectiveSharedSecret_some {text : String} :
    config.effectiveSharedSecret = some text ↔
      ∃ secret, config.sharedSecret = some secret ∧ Text.trim secret ≠ "" ∧
        Text.trim secret = text := by
  cases configured : config.sharedSecret with
  | none => simp [HttpProxyOidcConfig.effectiveSharedSecret, configured]
  | some secret =>
      simp only [HttpProxyOidcConfig.effectiveSharedSecret, configured, Option.map_some,
        Option.some.injEq, exists_eq_left', Option.filter_eq_some_iff, Bool.not_eq_true',
        String.isEmpty_eq_false_iff]
      constructor
      · rintro ⟨rfl, notBlank⟩
        exact ⟨notBlank, rfl⟩
      · rintro ⟨notBlank, rfl⟩
        exact ⟨rfl, notBlank⟩

theorem matchesSharedSecret_iff {headers : Headers} :
    matchesSharedSecret external config headers = true ↔
      CarriesSecret external config headers := by
  unfold matchesSharedSecret CarriesSecret
  cases effective : config.effectiveSharedSecret with
  | none =>
      have absent : ∀ secret, config.sharedSecret = some secret → Text.trim secret = "" := by
        intro secret configured
        by_contra notBlank
        have present := effectiveSharedSecret_some.mpr ⟨secret, configured, notBlank, rfl⟩
        exact absurd (effective.symm.trans present) (by simp)
      simp only [Bool.false_eq_true, false_iff]
      rintro ⟨secret, configured, notBlank, -⟩
      exact notBlank (absent secret configured)
  | some text =>
      rcases effectiveSharedSecret_some.mp effective with ⟨secret, configured, notBlank, rfl⟩
      cases external.headerText headers config.sharedSecretHeader with
      | none => simp
      | some provided => simp [configured, notBlank]

theorem isTrustedPeer_iff {peerIp : Option IpAddr} :
    isTrustedPeer external config peerIp = true ↔
      ComesFromTrustedProxy external config peerIp := by
  cases peerIp <;> simp [isTrustedPeer, ComesFromTrustedProxy]

theorem hasTrustAnchor_iff : config.hasTrustAnchor = true ↔ Anchored config := by
  have secret : config.effectiveSharedSecret.isSome = true ↔
      ∃ secret, config.sharedSecret = some secret ∧ Text.trim secret ≠ "" := by
    simp only [Option.isSome_iff_exists, effectiveSharedSecret_some]
    constructor
    · rintro ⟨_, secret, configured, notBlank, -⟩
      exact ⟨secret, configured, notBlank⟩
    · rintro ⟨secret, configured, notBlank⟩
      exact ⟨_, secret, configured, notBlank, rfl⟩
  simp [HttpProxyOidcConfig.hasTrustAnchor, Anchored, ← secret]

theorem untrusted_iff {isProduction : Bool} {head : RequestHead} :
    Untrusted external config isProduction head ↔
      isTrustedSource external config isProduction head.peerIp head.headers = false := by
  have anchored := @hasTrustAnchor_iff config
  constructor
  · rintro ⟨noSecret, noPeer, needsAnchor⟩
    have unmatched : matchesSharedSecret external config head.headers = false := by
      simpa [← matchesSharedSecret_iff] using noSecret
    have stranger : isTrustedPeer external config head.peerIp = false := by
      simpa [← isTrustedPeer_iff] using noPeer
    rw [← anchored] at needsAnchor
    rcases needsAnchor with configured | production
    · simp [isTrustedSource, unmatched, stranger, configured]
    · simp [isTrustedSource, unmatched, stranger, production]
  · intro distrusted
    unfold isTrustedSource at distrusted
    split at distrusted
    · exact absurd distrusted (by simp)
    · rename_i unmatched
      split at distrusted
      · exact absurd distrusted (by simp)
      · rename_i stranger
        refine ⟨fun carries => unmatched (matchesSharedSecret_iff.mpr carries),
          fun comes => stranger (isTrustedPeer_iff.mpr comes), ?_⟩
        split at distrusted
        · rename_i configured
          exact .inl (anchored.mp configured)
        · exact .inr (by simpa using distrusted)

theorem proxyOidcMiddleware_of_untrusted {isProduction : Bool} {request : Request}
    (untrusted : Untrusted external config isProduction request.head) :
    proxyOidcMiddleware external config isProduction request = .ok request := by
  simp [proxyOidcMiddleware, untrusted_iff.mp untrusted]

/-- Two untrusted requests that differ in their headers only reach the inner service with the same
identity, and without an anchor no request is given one in production. -/
theorem untrusted_headers_have_no_influence (external : External) (config : HttpProxyOidcConfig)
    (isProduction : Bool) (endpoint : Endpoint) :
    (∀ first second, DifferInHeaders first second →
      Untrusted external config isProduction first.head →
      Untrusted external config isProduction second.head →
      ∃ firstPassed secondPassed,
        (proxyOidc external config isProduction).layer.wrap (.handed endpoint) first =
          .handed endpoint firstPassed ∧
        (proxyOidc external config isProduction).layer.wrap (.handed endpoint) second =
          .handed endpoint secondPassed ∧
        secondPassed.identity = firstPassed.identity) ∧
    (isProduction = true → ¬Anchored config → ∀ request,
      (proxyOidc external config isProduction).layer.wrap (.handed endpoint) request =
        .handed endpoint request) := by
  have passes : ∀ request, Untrusted external config isProduction request.head →
      (proxyOidc external config isProduction).layer.wrap (.handed endpoint) request =
        .handed endpoint request := by
    intro request untrusted
    simp [Layer.wrap, Middleware.layer, proxyOidc, proxyOidcMiddleware_of_untrusted untrusted,
      Except.mapError]
  constructor
  · intro first second differ untrustedFirst untrustedSecond
    refine ⟨first, second, passes first untrustedFirst, passes second untrustedSecond, ?_⟩
    rw [differ]
  · intro production unanchored request
    refine passes request ⟨?_, ?_, .inr production⟩
    · rintro ⟨secret, configured, notBlank, -⟩
      exact unanchored (.inr ⟨secret, configured, notBlank⟩)
    · rintro ⟨ip, -, net, member, -⟩
      exact unanchored (.inl (List.ne_nil_of_mem member))

/-- A proxy with a secret. -/
def secretProxy : HttpProxyOidcConfig where
  sharedSecret := some "s3cret"

/-- A request whose headers name this user and guess at the secret. -/
def forgedRequest (user : String) : Request where
  head :=
    { path := "/"
      pathAndQuery := some "/"
      headers := fun name =>
        if name = "X-Auth-Request-User" then some (HeaderValue.ofText user)
        else if name = secretProxy.sharedSecretHeader then some (HeaderValue.ofText "guess")
        else none
      peerIp := none }

theorem forgedRequest_untrusted (user : String) :
    Untrusted External.visible secretProxy true (forgedRequest user).head where
  noSecret := by
    rintro ⟨secret, configured, -, provided⟩
    cases configured
    have other : secretProxy.sharedSecretHeader ≠ "X-Auth-Request-User" := by decide
    have sent : (forgedRequest user).head.headers secretProxy.sharedSecretHeader =
        some (HeaderValue.ofText "guess") := by
      simp [forgedRequest, other]
    rw [External.headerText, sent] at provided
    revert provided
    decide +kernel
  noPeer := by
    rintro ⟨ip, isPeer, -⟩
    cases isPeer
  needsAnchor := .inr rfl

/-- The handler sees the same, whoever the headers name. -/
theorem untrusted_headers_have_no_influence_forged :
    ∃ firstPassed secondPassed,
      (proxyOidc External.visible secretProxy true).layer.wrap (.handed (.user "/"))
        (forgedRequest "ann") = .handed (.user "/") firstPassed ∧
      (proxyOidc External.visible secretProxy true).layer.wrap (.handed (.user "/"))
        (forgedRequest "admin") = .handed (.user "/") secondPassed ∧
      secondPassed.identity = firstPassed.identity :=
  (untrusted_headers_have_no_influence External.visible secretProxy true (.user "/")).1
    (forgedRequest "ann") (forgedRequest "admin") rfl (forgedRequest_untrusted "ann")
    (forgedRequest_untrusted "admin")

end AxumConf.Auth
