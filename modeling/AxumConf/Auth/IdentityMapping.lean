import AxumConf.Auth.Session

/-!
# The two identity mappings

The claims of a bearer token and those of the session's ID token are mapped to an identity by two
functions.  They differ in one point: `claims_to_identity` drops an empty `email` or
`preferred_username`, `parse_id_token_to_identity` keeps it.
-/

namespace AxumConf.Auth

/-- The token is a JWT of three segments whose payload is the claims. -/
def CarriesClaims (external : External) (token : String) (claims : Json) : Prop :=
  ∃ header payload signature, Text.split token '.' = [header, payload, signature] ∧
    (external.decodeBase64Url payload).bind external.parseJson = some claims

def nonEmpty (text : Option String) : Option String :=
  text.filter fun text => !text.isEmpty

def withoutEmptyTexts (identity : AuthenticatedIdentity) : AuthenticatedIdentity :=
  { identity with
    email := nonEmpty identity.email
    preferredUsername := nonEmpty identity.preferredUsername }

variable {external : External} {token : String} {claims : Json}

theorem nonEmpty_eq_self_iff {text : Option String} : nonEmpty text = text ↔ text ≠ some "" := by
  cases text with
  | none => simp [nonEmpty]
  | some content => simp [nonEmpty, Option.filter]

theorem parseIdTokenToIdentity_of_carriesClaims (carries : CarriesClaims external token claims)
    (rolesClaim : String) (accessToken : Option String) :
    parseIdTokenToIdentity external token accessToken rolesClaim =
      (claimText claims "sub").map fun sub =>
        { method := .oidc
          user := sub
          email := claimText claims "email"
          groups := textItems ((claims.get "realm_access").bind fun access => access.get "roles")
          roles := textItems (claims.get rolesClaim)
          preferredUsername := claimText claims "preferred_username"
          accessToken } := by
  rcases carries with ⟨header, payload, signature, segments, decoded⟩
  simp only [parseIdTokenToIdentity, segments, decoded, Option.bind_some]

/-- The bearer's identity is the session's without its empty texts. -/
theorem claimsToIdentity_eq_withoutEmptyTexts (carries : CarriesClaims external token claims)
    (rolesClaim : String) (accessToken : Option String) :
    claimsToIdentity claims rolesClaim accessToken =
      (parseIdTokenToIdentity external token accessToken rolesClaim).map withoutEmptyTexts := by
  rw [parseIdTokenToIdentity_of_carriesClaims carries, Option.map_map]
  rfl

/-- The mappings agree on the claims that name no subject and on those without an empty e-mail
address or user name. -/
theorem mappings_agree_iff (carries : CarriesClaims external token claims) (rolesClaim : String)
    (accessToken : Option String) :
    claimsToIdentity claims rolesClaim accessToken =
        parseIdTokenToIdentity external token accessToken rolesClaim ↔
      claimText claims "sub" = none ∨
        (claimText claims "email" ≠ some "" ∧ claimText claims "preferred_username" ≠ some "") := by
  rw [claimsToIdentity_eq_withoutEmptyTexts carries,
    parseIdTokenToIdentity_of_carriesClaims carries]
  cases claimText claims "sub" with
  | none => simp
  | some sub =>
      simp only [Option.map_some, Option.some.injEq, withoutEmptyTexts, reduceCtorEq, false_or,
        AuthenticatedIdentity.mk.injEq, true_and, and_true, nonEmpty_eq_self_iff]

def emptyEmailClaims : Json := .object [("sub", .string "u"), ("email", .string "")]

def subjectClaims : Json := .object [("sub", .string "ann")]

def payloadBytes (payload : String) : List UInt8 :=
  payload.toList.map fun character => UInt8.ofNat character.toNat

/-- The decoders on the payloads of two tokens. -/
def payloadExternal : External where
  toStr := fun _ => none
  netContains := fun _ _ => false
  decodeBase64 := fun _ => none
  decodeBase64Url := fun segment =>
    if segment = "eyJzdWIiOiJ1IiwiZW1haWwiOiIifQ" then
      some (payloadBytes "\x7b\"sub\":\"u\",\"email\":\"\"\x7d")
    else if segment = "eyJzdWIiOiJhbm4ifQ" then some (payloadBytes "\x7b\"sub\":\"ann\"\x7d")
    else none
  parseJson := fun bytes =>
    if bytes = payloadBytes "\x7b\"sub\":\"u\",\"email\":\"\"\x7d" then some emptyEmailClaims
    else if bytes = payloadBytes "\x7b\"sub\":\"ann\"\x7d" then some subjectClaims
    else none
  decodeHeader := fun _ => none
  decode := fun _ _ _ => none
  nowEpochSecs := 0

theorem mappings_agree_iff_subject :
    claimsToIdentity subjectClaims "applicationRoles" none =
      parseIdTokenToIdentity payloadExternal "e30.eyJzdWIiOiJhbm4ifQ.c2ln" none
        "applicationRoles" :=
  (mappings_agree_iff ⟨"e30", "eyJzdWIiOiJhbm4ifQ", "c2ln", by decide, by rfl⟩ _ _).mpr
    (.inr (by decide))

/-- A user without an e-mail address has none by the bearer token, and an empty one by the ID
token. -/
theorem not_mappings_agree :
    CarriesClaims payloadExternal "e30.eyJzdWIiOiJ1IiwiZW1haWwiOiIifQ.c2ln" emptyEmailClaims ∧
      claimsToIdentity emptyEmailClaims "applicationRoles" none ≠
        parseIdTokenToIdentity payloadExternal "e30.eyJzdWIiOiJ1IiwiZW1haWwiOiIifQ.c2ln" none
          "applicationRoles" :=
  ⟨⟨"e30", "eyJzdWIiOiJ1IiwiZW1haWwiOiIifQ", "c2ln", by decide, by rfl⟩, by decide⟩

end AxumConf.Auth
