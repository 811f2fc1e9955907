import AxumConf.Config.Http
import AxumConf.Lib.Tower

/-!
# Requests and responses

What the middleware of the service reads and writes.  The crates below the service enter as
`External`: each field is one of their functions, and nothing is assumed about it unless a theorem
says so.
-/

namespace AxumConf

structure HeaderValue where
  bytes : List UInt8
  deriving DecidableEq, Repr

/-- What `HeaderMap::get` answers for a name: the first value of the header. -/
abbrev Headers := String → Option HeaderValue

def Headers.set (headers : Headers) (name : String) (value : HeaderValue) : Headers :=
  fun other => if other = name then some value else headers other

@[simp] theorem Headers.set_same (headers : Headers) (name : String) (value : HeaderValue) :
    headers.set name value name = some value := by
  simp [Headers.set]

def HeaderValue.ofText (text : String) : HeaderValue where
  bytes := text.toList.map fun character => UInt8.ofNat character.toNat

/-- The text of a header value of visible ASCII characters and tabs. -/
def HeaderValue.visibleText (value : HeaderValue) : Option String :=
  if value.bytes.all (fun byte => (32 ≤ byte && byte < 127) || byte == 9) then
    some (String.ofList (value.bytes.map fun byte => Char.ofNat byte.toNat))
  else none

inductive Json where
  | null
  | bool (value : Bool)
  | posInt (value : ℕ)
  | negInt (value : ℕ)
  | float (literal : String)
  | string (text : String)
  | array (items : List Json)
  | object (members : List (String × Json))

namespace Json

def get : Json → String → Option Json
  | object members, key => members.lookup key
  | _, _ => none

def asStr : Json → Option String
  | string text => some text
  | _ => none

def asArray : Json → Option (List Json)
  | array items => some items
  | _ => none

def asU64 : Json → Option ℕ
  | posInt value => some value
  | _ => none

end Json

inductive AuthMethod where
  | basicAuth
  | apiKey
  | oidc
  | proxyOidc
  deriving DecidableEq, Repr

structure AuthenticatedIdentity where
  method : AuthMethod
  user : String
  email : Option String
  groups : List String
  roles : List String
  preferredUsername : Option String
  accessToken : Option String
  deriving DecidableEq, Repr

/-- A session handle.  Its record is missing when the store cannot be read. -/
structure Session where
  record : Option (String → Option Json)

namespace Session

def get (session : Session) (key : String) : Option Json :=
  session.record.bind fun record => record key

/-- `session.get::<String>(key).await.ok().flatten()` -/
def getString (session : Session) (key : String) : Option String :=
  (session.get key).bind Json.asStr

/-- `session.get::<u64>(key).await.ok().flatten()` -/
def getU64 (session : Session) (key : String) : Option ℕ :=
  (session.get key).bind Json.asU64

def insert (session : Session) (key : String) (value : Json) : Session where
  record := session.record.map fun record other => if other = key then some value else record other

def flush (_session : Session) : Session where
  record := some fun _ => none

def remove (session : Session) (key : String) : Session where
  record := session.record.map fun record other => if other = key then none else record other

variable {session : Session} {key other : String} {value : Json}

theorem get_insert_same (readable : session.record.isSome = true) :
    (session.insert key value).get key = some value := by
  rcases Option.isSome_iff_exists.mp readable with ⟨record, isRecord⟩
  simp [insert, get, isRecord]

theorem get_insert_ne (different : other ≠ key) :
    (session.insert key value).get other = session.get other := by
  rcases session with ⟨none | record⟩
  · rfl
  · simp [insert, get, different]

theorem get_remove_ne (different : other ≠ key) :
    (session.remove key).get other = session.get other := by
  rcases session with ⟨none | record⟩
  · rfl
  · simp [remove, get, different]

@[simp] theorem record_insert_isSome :
    (session.insert key value).record.isSome = session.record.isSome := by
  simp [insert]

/-- The entries of these keys are the same in both sessions. -/
def SameOn (keys : List String) (session after : Session) : Prop :=
  ∀ key ∈ keys, after.get key = session.get key

variable {keys : List String} {after later : Session}

theorem SameOn.refl (keys : List String) (session : Session) : SameOn keys session session :=
  fun _ _ => rfl

theorem SameOn.trans (first : SameOn keys session after) (second : SameOn keys after later) :
    SameOn keys session later :=
  fun key member => (second key member).trans (first key member)

theorem SameOn.getString (same : SameOn keys session after) (member : key ∈ keys) :
    after.getString key = session.getString key := by
  rw [Session.getString, Session.getString, same key member]

theorem SameOn.getU64 (same : SameOn keys session after) (member : key ∈ keys) :
    after.getU64 key = session.getU64 key := by
  rw [Session.getU64, Session.getU64, same key member]

theorem sameOn_insert (value : Json) (foreign : key ∉ keys) :
    SameOn keys session (session.insert key value) := by
  intro kept member
  refine get_insert_ne ?_
  rintro rfl
  exact foreign member

theorem sameOn_remove (foreign : key ∉ keys) : SameOn keys session (session.remove key) := by
  intro kept member
  refine get_remove_ne ?_
  rintro rfl
  exact foreign member

end Session

structure RefreshedTokens where
  access : String
  refresh : Option String
  idToken : Option String
  expiry : ℕ
  deriving DecidableEq, Repr

/-- What a token's signature and claims are checked against. -/
structure Validation where
  algorithm : String
  issuer : String
  audience : List String
  validateExp : Bool
  validateAud : Bool
  deriving DecidableEq, Repr

structure CachedKey where
  decodingKey : String
  validation : Validation
  deriving DecidableEq, Repr

/-- The cached signing keys by key id, and those that a fetch made now would bring, if it
succeeds. -/
structure JwksProvider where
  keys : String → Option CachedKey
  fetched : Option (String → Option CachedKey)

/-- The client of the authorization code flow; the provider answers its refreshes. -/
structure OidcClient where
  refreshTokens : String → Option RefreshedTokens
  idTokenKeys : JwksProvider

/-- The part of a request that no authentication layer changes. -/
structure RequestHead where
  method : String := "GET"
  path : String
  pathAndQuery : Option String
  headers : Headers
  peerIp : Option IpAddr

structure Request where
  head : RequestHead
  identity : Option AuthenticatedIdentity := none
  session : Option Session := none
  oidcClient : Option OidcClient := none

def Request.Identified (request : Request) : Prop :=
  request.identity.isSome = true

structure Response where
  status : ℕ
  headers : Headers := fun _ => none
  body : String := ""

inductive Endpoint where
  | user (name : String)
  | directory (config : StaticDirConfig)
  | login
  | callback
  | logout
  | metrics
  | readiness
  | liveness
  | notFound
  deriving DecidableEq, Repr

/-- The response of a layer that does not pass the request on, and the session as it leaves it. -/
structure Answer where
  response : Response
  session : Option Session

inductive Outcome where
  | answered (answer : Answer)
  | handed (endpoint : Endpoint) (request : Request)

/-- A middleware as `axum::middleware::from_fn` takes one: it answers the request or passes one on,
whose head it leaves as it is, and it returns what the service behind it responds. -/
structure Middleware where
  inbound : Request → Except Answer Request
  keepsHead : ∀ request passed, inbound request = .ok passed → passed.head = request.head
  /-- What it writes into the `user` field of the tracing span of a request that reaches it. -/
  recordsUser : Request → Option String := fun _ => none

namespace Middleware

open Tower

def layer (middleware : Middleware) : Layer Request Outcome where
  inbound := fun request => (middleware.inbound request).mapError .answered

theorem layer_inbound_ok {middleware : Middleware} {request passed : Request} :
    middleware.layer.inbound request = .ok passed ↔ middleware.inbound request = .ok passed := by
  simp only [layer]
  cases middleware.inbound request <;> simp [Except.mapError]

theorem layer_transparent (middleware : Middleware) : middleware.layer.Transparent :=
  fun _ _ => rfl

theorem ensures_layer {middleware : Middleware} {post : Request → Prop} {request : Request} :
    Ensures [middleware.layer] post request ↔
      ∀ passed, middleware.inbound request = .ok passed → post passed := by
  simp only [ensures_cons, ensures_nil, Layer.Ensures, layer_inbound_ok]

theorem ensures_append {inner outer : List Middleware} {post : Request → Prop} :
    Ensures ((inner ++ outer).map layer) post =
      Ensures (outer.map layer) (Ensures (inner.map layer) post) := by
  funext request
  rw [List.map_append]
  exact propext Tower.ensures_append

/-- What the layers write into the span of a request, in the order in which it reaches them. -/
def recordedUsers : List Middleware → Request → List String
  | [], _ => []
  | middleware :: outer, request =>
      recordedUsers outer request ++
        match admitted (outer.map layer) request with
        | .ok reached => (middleware.recordsUser reached).toList
        | .error _ => []

theorem layer_inbound_error {middleware : Middleware} {request : Request} {outcome : Outcome}
    (answers : middleware.layer.inbound request = .error outcome) :
    ∃ answer, outcome = .answered answer := by
  simp only [layer] at answers
  cases refused : middleware.inbound request with
  | error answer =>
      simp only [refused, Except.mapError, Except.error.injEq] at answers
      exact ⟨answer, answers.symm⟩
  | ok passed => simp [refused, Except.mapError] at answers

end Middleware

/-- Functions of the crates and of the platform that the middleware calls. -/
structure External where
  /-- `HeaderValue::to_str` -/
  toStr : HeaderValue → Option String
  /-- `IpNet::contains` -/
  netContains : IpNet → IpAddr → Bool
  /-- `base64` in its standard alphabet -/
  decodeBase64 : String → Option (List UInt8)
  /-- `base64` in its URL-safe alphabet, without padding -/
  decodeBase64Url : String → Option (List UInt8)
  /-- `serde_json::from_slice` -/
  parseJson : List UInt8 → Option Json
  /-- `jsonwebtoken::decode_header`, the `kid` of the header -/
  decodeHeader : String → Option (Option String)
  /-- `jsonwebtoken::decode`, the claims of the token -/
  decode : String → String → Validation → Option Json
  /-- Seconds since the epoch. -/
  nowEpochSecs : ℕ

/-- `String::from_utf8` -/
def fromUtf8 (bytes : List UInt8) : Option String :=
  String.fromUTF8? ⟨bytes.toArray⟩

def External.headerText (external : External) (headers : Headers) (name : String) :
    Option String :=
  (headers name).bind external.toStr

/-- Reads the text of headers and knows no network, encoding or key. -/
def External.visible : External where
  toStr := HeaderValue.visibleText
  netContains := fun _ _ => false
  decodeBase64 := fun _ => none
  decodeBase64Url := fun _ => none
  parseJson := fun _ => none
  decodeHeader := fun _ => none
  decode := fun _ _ _ => none
  nowEpochSecs := 1750000000

end AxumConf
