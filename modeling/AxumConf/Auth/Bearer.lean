import AxumConf.Http

/-!
# Bearer tokens

Validation of a JWT against the cached signing keys, the mapping of its claims to an identity, and
`bearer_auth_middleware`.  A valid token without a textual `sub` claim maps to no identity, and the
middleware then passes the request on without one, in blocking mode too.
-/

namespace AxumConf.Auth

open Tower

inductive TokenError where
  | keyNotFound
  | invalid
  deriving DecidableEq, Repr

inductive SignatureCheck where
  | valid
  | invalid
  | unverifiable
  deriving DecidableEq, Repr

section Tokens

variable (external : External) (jwks : JwksProvider)

def tryDecode (keys : String → Option CachedKey) (token kid : String) : Except TokenError Json :=
  match keys kid with
  | none => .error .keyNotFound
  | some cached =>
      match external.decode token cached.decodingKey cached.validation with
      | none => .error .invalid
      | some claims => .ok claims

/-- The claims of a valid token; a key that is not cached is looked for once more after a fetch. -/
def validateToken (token : String) : Except TokenError Json :=
  match external.decodeHeader token with
  | some (some kid) =>
      match tryDecode external jwks.keys token kid with
      | .error .keyNotFound =>
          match jwks.fetched with
          | none => .error .invalid
          | some keys => tryDecode external keys token kid
      | outcome => outcome
  | _ => .error .invalid

def locateKey (kid : String) : Option CachedKey :=
  match jwks.keys kid with
  | some cached => some cached
  | none => jwks.fetched.bind fun keys => keys kid

/-- Checks signature and issuer only. -/
def verifySignature (token : String) : SignatureCheck :=
  match external.decodeHeader token with
  | some (some kid) =>
      match locateKey jwks kid with
      | none => .unverifiable
      | some cached =>
          let relaxed := { cached.validation with validateExp := false, validateAud := false }
          match external.decode token cached.decodingKey relaxed with
          | some _ => .valid
          | none => .invalid
  | _ => .invalid

end Tokens

section Claims

variable (claims : Json)

def claimText (name : String) : Option String :=
  (claims.get name).bind Json.asStr

def textItems (items : Option Json) : List String :=
  ((items.bind Json.asArray).map fun values => values.filterMap Json.asStr).getD []

def claimsToIdentity (rolesClaim : String) (accessToken : Option String) :
    Option AuthenticatedIdentity :=
  (claimText claims "sub").map fun sub =>
    { method := .oidc
      user := sub
      email := (claimText claims "email").filter fun text => !text.isEmpty
      groups := textItems ((claims.get "realm_access").bind fun access => access.get "roles")
      roles := textItems (claims.get rolesClaim)
      preferredUsername :=
        (claimText claims "preferred_username").filter fun text => !text.isEmpty
      accessToken }

end Claims

structure BearerAuthConfig where
  passthrough : Bool
  rolesClaim : String
  deriving DecidableEq, Repr

def bearerToken (external : External) (headers : Headers) : Option String :=
  (external.headerText headers "authorization").bind fun value => Text.stripPrefix value "Bearer "

def bearerAuthMiddleware (external : External) (jwks : JwksProvider) (config : BearerAuthConfig)
    (request : Request) : Except Answer Request :=
  let rejected (body : String) : Except Answer Request :=
    if config.passthrough then .ok request
    else .error { response := { status := 401, body }, session := request.session }
  match bearerToken external request.head.headers with
  | none => rejected "Missing Bearer token"
  | some token =>
      match validateToken external jwks token with
      | .ok claims =>
          match claimsToIdentity claims config.rolesClaim (some token) with
          | some identity => .ok { request with identity := some identity }
          | none => .ok request
      | .error _ => rejected "Invalid Bearer token"

def bearerAuth (external : External) (jwks : JwksProvider) (config : BearerAuthConfig) :
    Middleware where
  inbound := bearerAuthMiddleware external jwks config
  keepsHead := by
    intro request passed passes
    simp only [bearerAuthMiddleware] at passes
    repeat' split at passes
    all_goals
      cases passes
      try rfl

def bearerClaims (external : External) (jwks : JwksProvider) (headers : Headers) : Option Json :=
  (bearerToken external headers).bind fun token => (validateToken external jwks token).toOption

/-- The request carries a valid bearer token with a textual subject. -/
def NamesSubject (external : External) (jwks : JwksProvider) (headers : Headers) : Prop :=
  ∃ claims, bearerClaims external jwks headers = some claims ∧
    (claimText claims "sub").isSome = true

variable {external : External} {jwks : JwksProvider} {config : BearerAuthConfig}

/-- The bearer middleware identifies the bearer of a token with a subject and, in blocking mode,
refuses every request without a valid token. -/
theorem bearerAuth_settles :
    Settles Request.Identified [(bearerAuth external jwks config).layer] fun request =>
      NamesSubject external jwks request.head.headers ∨
        (bearerClaims external jwks request.head.headers = none ∧ config.passthrough = false) := by
  intro post identified request
  simp only [Middleware.ensures_layer, bearerAuth, bearerAuthMiddleware, NamesSubject,
    bearerClaims]
  cases bearerToken external request.head.headers with
  | none => cases config.passthrough <;> simp
  | some token =>
      simp only [Option.bind_some]
      cases validateToken external jwks token with
      | error problem => cases config.passthrough <;> simp [Except.toOption]
      | ok claims =>
          simp only [claimsToIdentity, Except.toOption, Option.some.injEq, exists_eq_left',
            reduceCtorEq, false_and, or_false]
          cases claimText claims "sub" with
          | none => simp
          | some sub =>
              simp only [Option.map_some, Except.ok.injEq, forall_eq', Option.isSome_some,
                true_or, iff_true]
              exact identified _ rfl

end AxumConf.Auth
