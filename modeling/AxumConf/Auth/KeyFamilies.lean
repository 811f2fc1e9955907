import AxumConf.Auth.Jwks

/-!
# Key families

Which tokens the signing keys of a fetched set accept.  The cache lists one algorithm for a key, the
one that the key declares or else RS256, and `jsonwebtoken` takes a listed algorithm only with a key
of its family.
-/

namespace AxumConf.Auth

/-- `AlgorithmFamily` of `jsonwebtoken` -/
inductive AlgorithmFamily where
  | hmac
  | rsa
  | ec
  | ed
  deriving DecidableEq, Repr

def Algorithm.family : Algorithm → AlgorithmFamily
  | hs256 | hs384 | hs512 => .hmac
  | es256 | es384 => .ec
  | rs256 | rs384 | rs512 | ps256 | ps384 | ps512 => .rsa
  | edDSA => .ed

structure TokenHeader where
  algorithm : Algorithm
  keyId : Option String
  deriving DecidableEq, Repr

/-- What `jsonwebtoken` reads in tokens and in the keys of `DecodingKey::from_jwk`. -/
structure TokenReader where
  header : String → Option TokenHeader
  /-- The claims of a token that gives none of them twice. -/
  payload : String → Option Json
  family : String → AlgorithmFamily
  /-- The signature of a token is that of the key under the algorithm. -/
  verifies : Algorithm → String → String → Bool

/-- The `aud` claim is a text or a list of texts. -/
def audiencesOf (claims : Json) : List String :=
  match claims.get "aud" with
  | some (.string audience) => [audience]
  | some (.array items) => (items.mapM Json.asStr).getD []
  | _ => []

/-- The claims name the issuer and one of the audiences, and have not expired. -/
def ClaimsHold (issuer : String) (audiences : List String) (now : ℕ) (claims : Json) : Prop :=
  claimText claims "iss" = some issuer ∧
    (∃ audience ∈ audiencesOf claims, audience ∈ audiences) ∧
    ∃ expiry ∈ (claims.get "exp").bind Json.asU64, now < expiry

instance (issuer : String) (audiences : List String) (now : ℕ) (claims : Json) :
    Decidable (ClaimsHold issuer audiences now claims) :=
  inferInstanceAs (Decidable (_ ∧ _ ∧ _))

/-- What `jsonwebtoken` documents of `decode_header` and `decode`: a token passes under a listed
algorithm only, with a key of that family and its signature, and does if its claims hold. -/
structure DecodesBy (external : External) (reader : TokenReader) : Prop where
  decodeHeader : ∀ token,
    external.decodeHeader token = (reader.header token).map TokenHeader.keyId
  listed : ∀ {token decodingKey : String} {validation : Validation} {claims : Json},
    external.decode token decodingKey validation = some claims →
      ∃ header, reader.header token = some header ∧
        header.algorithm.name = validation.algorithm ∧
        reader.family decodingKey = header.algorithm.family ∧
        reader.verifies header.algorithm decodingKey token = true
  accepts : ∀ {token decodingKey : String} {validation : Validation} {header : TokenHeader}
    {claims : Json},
    reader.header token = some header → header.algorithm.name = validation.algorithm →
      reader.family decodingKey = header.algorithm.family →
      reader.verifies header.algorithm decodingKey token = true →
      reader.payload token = some claims →
      ClaimsHold validation.issuer validation.audience external.nowEpochSecs claims →
      external.decode token decodingKey validation = some claims

/-- The token names the key id and is signed by the key, under an algorithm of its family. -/
structure SignedBy (reader : TokenReader) (kid decodingKey token : String)
    (algorithm : Algorithm) : Prop where
  names : reader.header token = some { algorithm, keyId := some kid }
  ofFamily : reader.family decodingKey = algorithm.family
  signed : reader.verifies algorithm decodingKey token = true

def DistinctIds (jwks : JwkSet) : Prop :=
  (jwks.filterMap Jwk.keyId).Nodup

instance (jwks : JwkSet) : Decidable (DistinctIds jwks) :=
  inferInstanceAs (Decidable (List.Nodup _))

/-- Every RSA, EC or OKP key of the set accepts the tokens that it signed, under whichever algorithm
of its family. -/
def AcceptsOwnFamily (external : External) (reader : TokenReader) (fromJwk : Jwk → Option String)
    (settings : JwksSettings) (jwks : JwkSet) (fetched : Option (String → Option CachedKey)) :
    Prop :=
  ∀ jwk ∈ jwks, ∀ kid decodingKey, jwk.keyId = some kid → fromJwk jwk = some decodingKey →
    reader.family decodingKey ≠ .hmac →
    ∀ token algorithm claims, SignedBy reader kid decodingKey token algorithm →
      reader.payload token = some claims →
      ClaimsHold settings.issuer settings.audiences external.nowEpochSecs claims →
      validateToken external { keys := buildKeys fromJwk settings jwks, fetched } token = .ok claims

theorem Algorithm.name_injective : Function.Injective Algorithm.name := by
  intro algorithm other sameName
  cases algorithm <;> cases other <;> first | rfl | simp [name] at sameName

section Keys

variable {fromJwk : Jwk → Option String} {settings : JwksSettings} {jwks : JwkSet} {jwk : Jwk}
  {kid decodingKey : String}

/-- Keys with other ids leave the one of this id as it is. -/
theorem foldl_insertKey_of_absent (absent : ∀ jwk ∈ jwks, jwk.keyId ≠ some kid)
    (keys : String → Option CachedKey) :
    jwks.foldl (insertKey fromJwk settings) keys kid = keys kid := by
  induction jwks generalizing keys with
  | nil => rfl
  | cons first later ih =>
      rw [List.foldl_cons, ih fun other member => absent other (List.mem_cons_of_mem _ member)]
      rcases insertKey_cases keys first with same | ⟨id, readKey, isKid, -, updated⟩
      · rw [same]
      · have distinct : kid ≠ id := by
          rintro rfl
          exact absent first List.mem_cons_self isKid
        rw [updated, Function.update_of_ne distinct]

/-- Of distinct key ids each one's key stays in the cache. -/
theorem foldl_insertKey_of_distinct (distinct : DistinctIds jwks) (member : jwk ∈ jwks)
    (named : jwk.keyId = some kid) (readable : fromJwk jwk = some decodingKey)
    (keys : String → Option CachedKey) :
    jwks.foldl (insertKey fromJwk settings) keys kid =
      some (cachedKey settings jwk decodingKey) := by
  induction jwks generalizing keys with
  | nil => cases member
  | cons first later ih =>
      rw [List.foldl_cons]
      rcases List.mem_cons.mp member with rfl | inLater
      · have absent : ∀ other ∈ later, other.keyId ≠ some kid := by
          intro other otherMember sameId
          rw [DistinctIds, List.filterMap_cons_some named, List.nodup_cons] at distinct
          exact distinct.1 (List.mem_filterMap.mpr ⟨other, otherMember, sameId⟩)
        rw [foldl_insertKey_of_absent absent]
        simp [insertKey, named, readable]
      · apply ih _ inLater
        exact distinct.sublist ((List.sublist_cons_self first later).filterMap Jwk.keyId)

theorem buildKeys_of_distinct (configured : settings.audiences ≠ []) (distinct : DistinctIds jwks)
    (member : jwk ∈ jwks) (named : jwk.keyId = some kid)
    (readable : fromJwk jwk = some decodingKey) :
    buildKeys fromJwk settings jwks kid = some (cachedKey settings jwk decodingKey) := by
  have someAudience : settings.audiences.isEmpty = false := by simpa using configured
  simp only [buildKeys, someAudience, Bool.false_and, Bool.false_eq_true, if_false]
  exact foldl_insertKey_of_distinct distinct member named readable _

end Keys

section Tokens

variable {external : External} {reader : TokenReader} {keys : String → Option CachedKey}
  {cached : CachedKey} {header : TokenHeader} {kid token : String}

/-- A token that names a cached key is decoded with that key. -/
theorem validateToken_of_cached (decodes : DecodesBy external reader)
    (readHeader : reader.header token = some header) (names : header.keyId = some kid)
    (located : keys kid = some cached) (fetched : Option (String → Option CachedKey))
    (claims : Json) :
    validateToken external { keys, fetched } token = .ok claims ↔
      external.decode token cached.decodingKey cached.validation = some claims := by
  simp only [validateToken, decodes.decodeHeader, readHeader, Option.map_some, names, tryDecode,
    located]
  cases external.decode token cached.decodingKey cached.validation <;> simp

/-- A decoded token was signed by the key, under the algorithm that its cache entry lists. -/
theorem listed_of_decode (decodes : DecodesBy external reader)
    (readHeader : reader.header token = some header) {jwk : Jwk} {decodingKey : String}
    {settings : JwksSettings} {claims : Json}
    (decoded : external.decode token decodingKey (cachedKey settings jwk decodingKey).validation =
      some claims) :
    header.algorithm = (jwkSigningAlgorithm jwk).getD .rs256 ∧
      reader.family decodingKey = header.algorithm.family := by
  rcases decodes.listed decoded with ⟨listedHeader, sameToken, sameName, ofFamily, -⟩
  rw [readHeader, Option.some.injEq] at sameToken
  subst sameToken
  exact ⟨Algorithm.name_injective sameName, ofFamily⟩

end Tokens

section Acceptance

variable {external : External} {reader : TokenReader} {fromJwk : Jwk → Option String}
  {settings : JwksSettings} {jwks : JwkSet} {jwk : Jwk} {kid decodingKey : String}

/-- A key that declares an algorithm for signatures accepts the tokens that it signed under that one
alone, an RSA key that declares none accepts those under RS256, and no key accepts a token of
another family. -/
theorem validateToken_by_namedKey (decodes : DecodesBy external reader)
    (configured : settings.audiences ≠ []) (distinct : DistinctIds jwks) (member : jwk ∈ jwks)
    (named : jwk.keyId = some kid) (readable : fromJwk jwk = some decodingKey)
    (fetched : Option (String → Option CachedKey)) :
    (∀ token algorithm claims, SignedBy reader kid decodingKey token algorithm →
        reader.payload token = some claims →
        ClaimsHold settings.issuer settings.audiences external.nowEpochSecs claims →
        jwkSigningAlgorithm jwk = some algorithm ∨
          (jwkSigningAlgorithm jwk = none ∧ algorithm = .rs256) →
        validateToken external { keys := buildKeys fromJwk settings jwks, fetched } token =
          .ok claims) ∧
      (∀ token header declared claims, reader.header token = some header →
        header.keyId = some kid → jwkSigningAlgorithm jwk = some declared →
        header.algorithm ≠ declared →
        validateToken external { keys := buildKeys fromJwk settings jwks, fetched } token ≠
          .ok claims) ∧
      (∀ token header claims, reader.header token = some header → header.keyId = some kid →
        header.algorithm.family ≠ reader.family decodingKey →
        validateToken external { keys := buildKeys fromJwk settings jwks, fetched } token ≠
          .ok claims) := by
  have located : buildKeys fromJwk settings jwks kid = some (cachedKey settings jwk decodingKey) :=
    buildKeys_of_distinct configured distinct member named readable
  refine ⟨?_, ?_, ?_⟩
  · intro token algorithm claims signedBy isPayload hold accepting
    rw [validateToken_of_cached decodes signedBy.names rfl located]
    have isListed : algorithm = (jwkSigningAlgorithm jwk).getD .rs256 := by
      rcases accepting with declared | ⟨undeclared, isDefault⟩
      · rw [declared, Option.getD_some]
      · rw [undeclared, Option.getD_none, isDefault]
    exact decodes.accepts signedBy.names (congrArg Algorithm.name isListed) signedBy.ofFamily
      signedBy.signed isPayload hold
  · intro token header declared claims readHeader names declares differs
    rw [Ne, validateToken_of_cached decodes readHeader names located]
    intro decoded
    have isListed := (listed_of_decode decodes readHeader decoded).1
    rw [declares, Option.getD_some] at isListed
    exact differs isListed
  · intro token header claims readHeader names differs
    rw [Ne, validateToken_of_cached decodes readHeader names located]
    intro decoded
    exact differs (listed_of_decode decodes readHeader decoded).2.symm

end Acceptance

/-- Takes a token exactly where its key lists the algorithm and the claims hold. -/
def TokenReader.decode (reader : TokenReader) (now : ℕ) (token decodingKey : String)
    (validation : Validation) : Option Json :=
  match reader.header token, reader.payload token with
  | some header, some claims =>
      if header.algorithm.name = validation.algorithm ∧
          reader.family decodingKey = header.algorithm.family ∧
          reader.verifies header.algorithm decodingKey token = true ∧
          ClaimsHold validation.issuer validation.audience now claims then some claims
      else none
  | _, _ => none

def TokenReader.external (reader : TokenReader) : External :=
  { External.visible with
    decodeHeader := fun token => (reader.header token).map TokenHeader.keyId
    decode := reader.decode External.visible.nowEpochSecs }

theorem TokenReader.decodesBy (reader : TokenReader) : DecodesBy reader.external reader where
  decodeHeader _ := rfl
  listed := by
    intro token decodingKey validation claims decoded
    simp only [external, decode] at decoded
    split at decoded
    · rename_i header payload readHeader _
      split at decoded
      · rename_i passes
        exact ⟨header, readHeader, passes.1, passes.2.1, passes.2.2.1⟩
      · cases decoded
    · cases decoded
  accepts := by
    intro token decodingKey validation header claims readHeader listed ofFamily verified isPayload
      hold
    simp only [external, decode, readHeader, isPayload]
    exact if_pos ⟨listed, ofFamily, verified, hold⟩

def rsaKey : Jwk where
  keyId := some "rsa"
  keyAlgorithm := some (.signing .rs256)
  material := "n=7"

/-- A P-256 key without `alg`. -/
def curveKey : Jwk where
  keyId := some "curve"
  keyAlgorithm := none
  material := "x=1"

def apiClaims : Json :=
  .object [("sub", .string "ann"), ("iss", .string "https://sso.example.com"),
    ("aud", .string "api"), ("exp", .posInt 1750000300)]

/-- The tokens are signed by the keys that they name. -/
def apiReader : TokenReader where
  header
    | "rs256" => some { algorithm := .rs256, keyId := some "rsa" }
    | "ps256" => some { algorithm := .ps256, keyId := some "rsa" }
    | "es256" => some { algorithm := .es256, keyId := some "curve" }
    | _ => none
  payload _ := some apiClaims
  family decodingKey := if decodingKey = "x=1" then .ec else .rsa
  verifies algorithm decodingKey token :=
    match token with
    | "rs256" => algorithm = .rs256 && decodingKey == "n=7"
    | "ps256" => algorithm = .ps256 && decodingKey == "n=7"
    | "es256" => algorithm = .es256 && decodingKey == "x=1"
    | _ => false

theorem apiClaims_hold : ClaimsHold apiSettings.issuer apiSettings.audiences
    External.visible.nowEpochSecs apiClaims := by
  decide

theorem validateToken_by_rsaKey :
    validateToken apiReader.external
        { keys := buildKeys (fun jwk => some jwk.material) apiSettings [rsaKey, curveKey]
          fetched := none } "rs256" = .ok apiClaims ∧
      validateToken apiReader.external
        { keys := buildKeys (fun jwk => some jwk.material) apiSettings [rsaKey, curveKey]
          fetched := none } "ps256" ≠ .ok apiClaims := by
  have judged := @validateToken_by_namedKey _ _ (fun jwk => some jwk.material) apiSettings
    [rsaKey, curveKey] rsaKey "rsa" "n=7" apiReader.decodesBy (by decide) (by decide)
    List.mem_cons_self rfl rfl none
  exact ⟨judged.1 "rs256" .rs256 apiClaims ⟨rfl, rfl, rfl⟩ rfl apiClaims_hold (.inl rfl),
    judged.2.1 "ps256" _ .rs256 apiClaims rfl rfl rfl (by decide)⟩

/-- A PS256 token of a key that declares RS256 is rejected, and an ES256 token of a key without a
declared algorithm. -/
theorem ownFamily_rejected :
    DecodesBy apiReader.external apiReader ∧ apiSettings.audiences ≠ [] ∧
      DistinctIds [rsaKey] ∧ DistinctIds [curveKey] ∧
      ¬ AcceptsOwnFamily apiReader.external apiReader (fun jwk => some jwk.material) apiSettings
        [rsaKey] none ∧
      ¬ AcceptsOwnFamily apiReader.external apiReader (fun jwk => some jwk.material) apiSettings
        [curveKey] none := by
  refine ⟨apiReader.decodesBy, by decide, by decide, by decide, ?_, ?_⟩
  · intro accepts
    have accepted := accepts rsaKey List.mem_cons_self "rsa" "n=7" rfl rfl (by decide) "ps256"
      .ps256 apiClaims ⟨rfl, rfl, rfl⟩ rfl apiClaims_hold
    cases accepted
  · intro accepts
    have accepted := accepts curveKey List.mem_cons_self "curve" "x=1" rfl rfl (by decide) "es256"
      .es256 apiClaims ⟨rfl, rfl, rfl⟩ rfl apiClaims_hold
    cases accepted

end AxumConf.Auth
