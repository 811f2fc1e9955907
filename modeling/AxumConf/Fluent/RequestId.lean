import AxumConf.Config.Http
import AxumConf.Http
import AxumConf.Lib.Tower

/-!
# Request ids

`RequestIdGenerator::make_request_id` keeps a client's id only when `is_valid_request_id` accepts
it.  The generator is installed through `SetRequestIdLayer`, which asks it only for requests without
the header, so an id that the client did send is never checked.
-/

namespace AxumConf.Fluent

open Tower

def xRequestId : String := "x-request-id"

def isRequestIdCharacter (character : Char) : Bool :=
  character.isAlphanum || character == '-' || character == '.' || character == '_' ||
    character == ':'

/-- 1 to 128 octets, each an ASCII alphanumeric or one of `-._:`. -/
def isValidRequestId (value : String) : Bool :=
  !value.isEmpty && value.utf8ByteSize ≤ 128 && value.toList.all isRequestIdCharacter

/-- The request id layers of `tower-http` and the header value of a minted id. -/
structure RequestIdApi where
  /-- `HeaderValue::from_str` -/
  fromStr : String → Option HeaderValue
  /-- The text of the UUID that the generator mints for the request at hand. -/
  newUuid : String
  /-- The request that `SetRequestIdLayer` passes on when it has this generator. -/
  setRequestId : (Request → Option HeaderValue) → Request → Request
  /-- The response that `PropagateRequestIdLayer` makes of the one to the given request. -/
  propagateRequestId : Request → Response → Response

variable (external : External) (api : RequestIdApi)

/-- `SetRequestIdLayer` keeps an existing header and asks the generator when there is none,
`PropagateRequestIdLayer` copies the request's id to a response without one, and a UUID's text is
a header value that reads back as that text. -/
structure RequestIdApi.Documented : Prop where
  keeps_present : ∀ make request value, request.head.headers xRequestId = some value →
    (api.setRequestId make request).head.headers xRequestId = some value
  makes_absent : ∀ make request, request.head.headers xRequestId = none →
    (api.setRequestId make request).head.headers xRequestId = make request
  propagates : ∀ request response,
    (api.propagateRequestId request response).headers xRequestId =
      (response.headers xRequestId).or (request.head.headers xRequestId)
  newUuid_valid : isValidRequestId api.newUuid = true
  newUuid_header : ∃ value, api.fromStr api.newUuid = some value ∧
    external.toStr value = some api.newUuid

/-- The value is text that `is_valid_request_id` accepts. -/
def AcceptsRequestId (value : HeaderValue) : Prop :=
  (external.toStr value).any isValidRequestId = true

instance (value : HeaderValue) : Decidable (AcceptsRequestId external value) :=
  inferInstanceAs (Decidable (_ = true))

/-- The generator: a well-formed id of the client is preserved, otherwise one is minted. -/
def makeRequestId (request : Request) : Option HeaderValue :=
  match request.head.headers xRequestId with
  | some value =>
      if AcceptsRequestId external value then some value else api.fromStr api.newUuid
  | none => api.fromStr api.newUuid

/-- The layers in the order in which `setup_request_id` adds them: the setter is outermost. -/
def setupRequestId (config : Config) : List (Layer Request Response) :=
  if config.isMiddlewareEnabled .requestId then
    [{ inbound := fun request => .ok request, outbound := api.propagateRequestId },
      { inbound := fun request => .ok (api.setRequestId (makeRequestId external api) request) }]
  else []

/-- The id that the logging layer records in the span of a request. -/
def spanRequestId (request : Request) : String :=
  (external.headerText request.head.headers xRequestId).getD "unknown"

/-- The id is the client's, accepted, or freshly minted. -/
def CleanRequestId (request : Request) (id : Option HeaderValue) : Prop :=
  ∃ value, id = some value ∧
    ((request.head.headers xRequestId = some value ∧ AcceptsRequestId external value) ∨
      api.fromStr api.newUuid = some value)

def SeesCleanId (config : Config) (request : Request) : Prop :=
  ∃ seen, admitted (setupRequestId external api config) request = .ok seen ∧
    CleanRequestId external api request (seen.head.headers xRequestId)

/-- The id that a response without one gets is clean. -/
def PropagatesCleanId (config : Config) (request : Request) : Prop :=
  ∀ service : Request → Response, (∀ passed, (service passed).headers xRequestId = none) →
    CleanRequestId external api request
      ((stack (setupRequestId external api config) service request).headers xRequestId)

variable {external : External} {api : RequestIdApi}

theorem newUuid_accepted (documented : api.Documented external) {value : HeaderValue}
    (minted : api.fromStr api.newUuid = some value) : AcceptsRequestId external value := by
  obtain ⟨header, parsed, readable⟩ := documented.newUuid_header
  have same : header = value := Option.some.inj (parsed.symm.trans minted)
  subst same
  simp [AcceptsRequestId, readable, documented.newUuid_valid]

theorem makeRequestId_absent {request : Request}
    (absent : request.head.headers xRequestId = none) :
    makeRequestId external api request = api.fromStr api.newUuid := by
  simp [makeRequestId, absent]

theorem setRequestId_header (documented : api.Documented external) (request : Request) :
    (api.setRequestId (makeRequestId external api) request).head.headers xRequestId =
      (request.head.headers xRequestId).or (api.fromStr api.newUuid) := by
  cases present : request.head.headers xRequestId with
  | some value =>
      rw [Option.some_or]
      exact documented.keeps_present _ request value present
  | none =>
      rw [Option.none_or, documented.makes_absent _ request present]
      exact makeRequestId_absent present

theorem cleanRequestId_iff (documented : api.Documented external) (request : Request) :
    CleanRequestId external api request
        ((request.head.headers xRequestId).or (api.fromStr api.newUuid)) ↔
      ∀ value, request.head.headers xRequestId = some value →
        AcceptsRequestId external value := by
  obtain ⟨minted, parsed, _⟩ := documented.newUuid_header
  cases present : request.head.headers xRequestId with
  | none =>
      simp only [Option.none_or, reduceCtorEq, false_imp_iff, implies_true, iff_true]
      exact ⟨minted, parsed, .inr parsed⟩
  | some client =>
      simp only [Option.some_or, Option.some.injEq, forall_eq']
      constructor
      · rintro ⟨value, same, clean⟩
        cases same
        rcases clean with ⟨_, accepted⟩ | generated
        · exact accepted
        · exact newUuid_accepted documented generated
      · intro accepted
        exact ⟨client, rfl, .inl ⟨present, accepted⟩⟩

theorem seesCleanId_iff {config : Config} (enabled : config.isMiddlewareEnabled .requestId = true)
    (documented : api.Documented external) (request : Request) :
    SeesCleanId external api config request ↔
      ∀ value, request.head.headers xRequestId = some value →
        AcceptsRequestId external value := by
  have seen : admitted (setupRequestId external api config) request =
      .ok (api.setRequestId (makeRequestId external api) request) := by
    simp [setupRequestId, enabled, admitted, bind, Except.bind]
  unfold SeesCleanId
  simp only [seen, Except.ok.injEq, exists_eq_left', setRequestId_header documented]
  exact cleanRequestId_iff documented request

theorem propagatesCleanId_iff {config : Config}
    (enabled : config.isMiddlewareEnabled .requestId = true)
    (documented : api.Documented external) (request : Request) :
    PropagatesCleanId external api config request ↔
      ∀ value, request.head.headers xRequestId = some value →
        AcceptsRequestId external value := by
  have answered : ∀ service : Request → Response,
      (∀ passed, (service passed).headers xRequestId = none) →
      (stack (setupRequestId external api config) service request).headers xRequestId =
        (request.head.headers xRequestId).or (api.fromStr api.newUuid) := by
    intro service silent
    simp only [setupRequestId, enabled, if_true, stack, List.foldl_cons, List.foldl_nil,
      Layer.wrap]
    rw [documented.propagates, silent, Option.none_or]
    exact setRequestId_header documented request
  unfold PropagatesCleanId
  constructor
  · intro clean
    have echoed := clean (fun _ => { status := 200 }) (fun _ => rfl)
    rw [answered _ (fun _ => rfl)] at echoed
    exact (cleanRequestId_iff documented request).mp echoed
  · intro accepted service silent
    rw [answered service silent]
    exact (cleanRequestId_iff documented request).mpr accepted

/-- Inner layers and the response get a clean id exactly when the client sent none or a valid
one. -/
theorem requestId_clean_iff {config : Config}
    (enabled : config.isMiddlewareEnabled .requestId = true)
    (documented : api.Documented external) (request : Request) :
    (SeesCleanId external api config request ∧ PropagatesCleanId external api config request) ↔
      ∀ value, request.head.headers xRequestId = some value →
        AcceptsRequestId external value := by
  rw [seesCleanId_iff enabled documented, propagatesCleanId_iff enabled documented, and_self]

/-- Under the same condition the span records an id of the safe alphabet. -/
theorem spanRequestId_valid {config : Config}
    (enabled : config.isMiddlewareEnabled .requestId = true)
    (documented : api.Documented external) {request : Request}
    (accepted : ∀ value, request.head.headers xRequestId = some value →
      AcceptsRequestId external value) :
    ∃ seen, admitted (setupRequestId external api config) request = .ok seen ∧
      isValidRequestId (spanRequestId external seen) = true := by
  obtain ⟨seen, admits, value, header, clean⟩ :=
    (seesCleanId_iff enabled documented request).mpr accepted
  have valid : AcceptsRequestId external value := by
    rcases clean with ⟨_, valid⟩ | generated
    · exact valid
    · exact newUuid_accepted documented generated
  refine ⟨seen, admits, ?_⟩
  obtain ⟨text, readable, isValid⟩ : ∃ text, external.toStr value = some text ∧
      isValidRequestId text = true := by
    cases readable : external.toStr value with
    | none => simp [AcceptsRequestId, readable] at valid
    | some text => exact ⟨text, rfl, by simpa [AcceptsRequestId, readable] using valid⟩
  simpa [spanRequestId, External.headerText, header, readable] using isValid

/-- Layers as documented, over header values of visible ASCII. -/
def visibleExternal : External where
  toStr := HeaderValue.visibleText
  netContains := fun _ _ => false
  decodeBase64 := fun _ => none
  decodeBase64Url := fun _ => none
  parseJson := fun _ => none
  decodeHeader := fun _ => none
  decode := fun _ _ _ => none
  nowEpochSecs := 0

def visibleRequestIds : RequestIdApi where
  fromStr := fun text => some (HeaderValue.ofText text)
  newUuid := "018f9c3e-7b2a-7e51-9d3a-1c2b3d4e5f60"
  setRequestId := fun make request =>
    match request.head.headers xRequestId, make request with
    | none, some value =>
        { request with
          head := { request.head with headers := request.head.headers.set xRequestId value } }
    | _, _ => request
  propagateRequestId := fun request response =>
    match response.headers xRequestId, request.head.headers xRequestId with
    | none, some value => { response with headers := response.headers.set xRequestId value }
    | _, _ => response

theorem visibleRequestIds_documented : visibleRequestIds.Documented visibleExternal := by
  constructor
  · intro make request value present
    simp [visibleRequestIds, present]
  · intro make request absent
    cases made : make request with
    | none => simp [visibleRequestIds, absent, made]
    | some value => simp [visibleRequestIds, absent, made]
  · intro request response
    cases own : response.headers xRequestId with
    | some value => simp [visibleRequestIds, own]
    | none =>
        cases sent : request.head.headers xRequestId with
        | none => simp [visibleRequestIds, own, sent]
        | some value => simp [visibleRequestIds, own, sent]
  · decide +kernel
  · exact ⟨_, rfl, by decide +kernel⟩

def requestWithId (id : String) : Request where
  head :=
    { path := "/"
      pathAndQuery := some "/"
      headers := fun name => if name = xRequestId then some (HeaderValue.ofText id) else none
      peerIp := none }

theorem requestId_clean_iff_trace :
    (SeesCleanId visibleExternal visibleRequestIds {} (requestWithId "trace_id-123.4:5") ∧
        PropagatesCleanId visibleExternal visibleRequestIds {}
          (requestWithId "trace_id-123.4:5")) ↔
      ∀ value, (requestWithId "trace_id-123.4:5").head.headers xRequestId = some value →
        AcceptsRequestId visibleExternal value :=
  requestId_clean_iff (by decide) visibleRequestIds_documented _

/-- An id with a blank, which the validator rejects, reaches the inner layers. -/
theorem not_requestId_clean :
    ¬(SeesCleanId visibleExternal visibleRequestIds {} (requestWithId "has space") ∧
      PropagatesCleanId visibleExternal visibleRequestIds {} (requestWithId "has space")) := by
  rintro ⟨sees, _⟩
  have accepted := (seesCleanId_iff (by decide) visibleRequestIds_documented
    (requestWithId "has space")).mp sees (HeaderValue.ofText "has space") rfl
  revert accepted
  decide +kernel

end AxumConf.Fluent
