import AxumConf.Config.Http
import Mathlib.Data.List.Induction
import Mathlib.Tactic.Tauto

/-!
# The CORS layer

`setup_cors` folds the configured origins into a `tower-http` layer with a builder whose setters
replace what was set before.  The builder is outside the repository: it enters as `CorsApi`, and
what its documentation says about origins as `CorsApi.Documented`.  The layer therefore answers the
last configured origin only, whatever stands before it in the list.
-/

namespace AxumConf.Fluent

/-- `tower_http::cors::CorsLayer` and `http::HeaderValue::from_str`. -/
structure CorsApi (Layer HeaderValue : Type) where
  headerValue : String → Option HeaderValue
  new : Layer
  veryPermissive : Layer
  allowOrigin : Layer → HeaderValue → Layer
  allowAnyOrigin : Layer → Layer
  allowMethods : Layer → List CorsMethod → Layer
  allowAnyMethod : Layer → Layer
  allowHeaders : Layer → List CorsHeader → Layer
  allowAnyHeader : Layer → Layer
  exposeHeaders : Layer → List CorsHeader → Layer
  maxAge : Layer → ℕ → Layer
  allowCredentials : Layer → Bool → Layer
  /-- The `Access-Control-Allow-Origin` header that a request of the given origin is answered. -/
  allowOriginHeader : Layer → HeaderValue → Option HeaderValue

variable {Layer HeaderValue : Type}

/-- The builder's documented behaviour: a new layer sends no headers, a single header value means
exactly that origin and replaces any earlier setting, and the other setters leave origins alone. -/
structure CorsApi.Documented (api : CorsApi Layer HeaderValue) : Prop where
  new_header : ∀ origin, api.allowOriginHeader api.new origin = none
  allowOrigin_header : ∀ layer text value origin, text ≠ "*" → api.headerValue text = some value →
    (api.allowOriginHeader (api.allowOrigin layer value) origin = some origin ↔ value = origin)
  allowMethods_header : ∀ layer methods,
    api.allowOriginHeader (api.allowMethods layer methods) = api.allowOriginHeader layer
  allowAnyMethod_header : ∀ layer,
    api.allowOriginHeader (api.allowAnyMethod layer) = api.allowOriginHeader layer
  allowHeaders_header : ∀ layer headers,
    api.allowOriginHeader (api.allowHeaders layer headers) = api.allowOriginHeader layer
  allowAnyHeader_header : ∀ layer,
    api.allowOriginHeader (api.allowAnyHeader layer) = api.allowOriginHeader layer
  exposeHeaders_header : ∀ layer headers,
    api.allowOriginHeader (api.exposeHeaders layer headers) = api.allowOriginHeader layer
  maxAge_header : ∀ layer age,
    api.allowOriginHeader (api.maxAge layer age) = api.allowOriginHeader layer
  allowCredentials_header : ∀ layer allowed,
    api.allowOriginHeader (api.allowCredentials layer allowed) = api.allowOriginHeader layer

section Builder

variable (api : CorsApi Layer HeaderValue) (cors : HttpCorsConfig)

def hasCredentials : Bool :=
  cors.allowCredentials.getD false

/-- One turn of the loop over the configured origins; an invalid header value is skipped. -/
def addOrigin (layer : Layer) (origin : String) : Layer :=
  match api.headerValue origin with
  | some value => api.allowOrigin layer value
  | none => layer

def withOrigins (layer : Layer) : Layer :=
  match cors.allowedOrigins with
  | some origins => origins.foldl (addOrigin api) layer
  | none => if hasCredentials cors then layer else api.allowAnyOrigin layer

def withMethods (layer : Layer) : Layer :=
  match cors.allowedMethods with
  | some methods => api.allowMethods layer methods
  | none => if hasCredentials cors then layer else api.allowAnyMethod layer

def withHeaders (layer : Layer) : Layer :=
  match cors.allowedHeaders with
  | some headers => api.allowHeaders layer headers
  | none => if hasCredentials cors then layer else api.allowAnyHeader layer

def withExposedHeaders (layer : Layer) : Layer :=
  match cors.exposedHeaders with
  | some headers => api.exposeHeaders layer headers
  | none => layer

def withMaxAge (layer : Layer) : Layer :=
  match cors.maxAge with
  | some age => api.maxAge layer age
  | none => layer

def withCredentials (layer : Layer) : Layer :=
  if hasCredentials cors then api.allowCredentials layer true else layer

def corsLayer : Layer :=
  withCredentials api cors (withMaxAge api cors (withExposedHeaders api cors
    (withHeaders api cors (withMethods api cors (withOrigins api cors api.new)))))

end Builder

def setupCors (api : CorsApi Layer HeaderValue) (config : Config) : Option Layer :=
  if !config.isMiddlewareEnabled .cors then none
  else
    match config.http.cors with
    | some cors => some (corsLayer api cors)
    | none => if config.isProduction then some api.new else some api.veryPermissive

/-- A request of this origin is answered that the origin is allowed. -/
def AllowsOrigin (api : CorsApi Layer HeaderValue) (config : Config) (origin : HeaderValue) :
    Prop :=
  (setupCors api config).bind (fun layer => api.allowOriginHeader layer origin) = some origin

def ListsOrigin (api : CorsApi Layer HeaderValue) (origins : List String) (origin : HeaderValue) :
    Prop :=
  ∃ text ∈ origins, api.headerValue text = some origin

def EndsWithOrigin (api : CorsApi Layer HeaderValue) (origins : List String)
    (origin : HeaderValue) : Prop :=
  origins.getLast?.bind api.headerValue = some origin

section Origins

variable {api : CorsApi Layer HeaderValue}

section Setters

variable (documented : api.Documented) (cors : HttpCorsConfig) (layer : Layer)

include documented

theorem withCredentials_header :
    api.allowOriginHeader (withCredentials api cors layer) = api.allowOriginHeader layer := by
  unfold withCredentials
  split
  · apply documented.allowCredentials_header
  · rfl

theorem withMaxAge_header :
    api.allowOriginHeader (withMaxAge api cors layer) = api.allowOriginHeader layer := by
  unfold withMaxAge
  split
  · apply documented.maxAge_header
  · rfl

theorem withExposedHeaders_header :
    api.allowOriginHeader (withExposedHeaders api cors layer) = api.allowOriginHeader layer := by
  unfold withExposedHeaders
  split
  · apply documented.exposeHeaders_header
  · rfl

theorem withHeaders_header :
    api.allowOriginHeader (withHeaders api cors layer) = api.allowOriginHeader layer := by
  unfold withHeaders
  split
  · apply documented.allowHeaders_header
  · split
    · rfl
    · apply documented.allowAnyHeader_header

theorem withMethods_header :
    api.allowOriginHeader (withMethods api cors layer) = api.allowOriginHeader layer := by
  unfold withMethods
  split
  · apply documented.allowMethods_header
  · split
    · rfl
    · apply documented.allowAnyMethod_header

end Setters

/-- Only the origins decide which origin the layer allows. -/
theorem corsLayer_header (documented : api.Documented) (cors : HttpCorsConfig) :
    api.allowOriginHeader (corsLayer api cors) =
      api.allowOriginHeader (withOrigins api cors api.new) := by
  simp only [corsLayer, withCredentials_header documented, withMaxAge_header documented,
    withExposedHeaders_header documented, withHeaders_header documented,
    withMethods_header documented]

/-- The fold over the origins allows the last one and forgets the others. -/
theorem foldl_addOrigin_header (documented : api.Documented) {origins : List String}
    (valid : ∀ text ∈ origins, text ≠ "*" ∧ (api.headerValue text).isSome = true)
    (origin : HeaderValue) :
    api.allowOriginHeader (origins.foldl (addOrigin api) api.new) origin = some origin ↔
      EndsWithOrigin api origins origin := by
  cases origins using List.reverseRecOn with
  | nil => simp [EndsWithOrigin, documented.new_header]
  | append_singleton earlier last =>
      obtain ⟨notAny, isSome⟩ := valid last (by simp)
      obtain ⟨value, parsed⟩ := Option.isSome_iff_exists.mp isSome
      simp only [List.foldl_append, List.foldl_cons, List.foldl_nil, addOrigin, parsed,
        EndsWithOrigin, List.getLast?_append, List.getLast?_singleton, Option.some_or,
        Option.bind_some, Option.some.injEq]
      apply documented.allowOrigin_header _ last _ _ notAny parsed

theorem listsOrigin_of_endsWithOrigin {origins : List String} {origin : HeaderValue}
    (ends : EndsWithOrigin api origins origin) : ListsOrigin api origins origin := by
  unfold EndsWithOrigin at ends
  obtain ⟨last, isLast, parsed⟩ := Option.bind_eq_some_iff.mp ends
  exact ⟨last, List.mem_of_getLast? isLast, parsed⟩

variable {config : Config} {cors : HttpCorsConfig} {origins : List String}

theorem allowsOrigin_iff_endsWithOrigin (documented : api.Documented)
    (enabled : config.isMiddlewareEnabled .cors = true) (configured : config.http.cors = some cors)
    (specified : cors.allowedOrigins = some origins)
    (valid : ∀ text ∈ origins, text ≠ "*" ∧ (api.headerValue text).isSome = true)
    (origin : HeaderValue) :
    AllowsOrigin api config origin ↔ EndsWithOrigin api origins origin := by
  have layered : setupCors api config = some (corsLayer api cors) := by
    simp [setupCors, enabled, configured]
  have folded : withOrigins api cors api.new = origins.foldl (addOrigin api) api.new := by
    simp [withOrigins, specified]
  simp only [AllowsOrigin, layered, Option.bind_some, corsLayer_header documented, folded]
  exact foldl_addOrigin_header documented valid origin

/-- Listed and allowed agree on an origin exactly when it is not listed or is listed last. -/
theorem allowsOrigin_iff_listsOrigin (documented : api.Documented)
    (enabled : config.isMiddlewareEnabled .cors = true) (configured : config.http.cors = some cors)
    (specified : cors.allowedOrigins = some origins)
    (valid : ∀ text ∈ origins, text ≠ "*" ∧ (api.headerValue text).isSome = true)
    (origin : HeaderValue) :
    (AllowsOrigin api config origin ↔ ListsOrigin api origins origin) ↔
      ¬ListsOrigin api origins origin ∨ EndsWithOrigin api origins origin := by
  have allows := allowsOrigin_iff_endsWithOrigin documented enabled configured specified valid
    origin
  have lists : EndsWithOrigin api origins origin → ListsOrigin api origins origin :=
    listsOrigin_of_endsWithOrigin
  tauto

end Origins

/-- What a layer has been told about origins. -/
inductive OriginRule where
  | denied
  | anyOrigin
  | mirrored
  | exactly (origin : String)
  deriving DecidableEq, Repr

/-- A builder that keeps the last setting, with texts as header values. -/
def originRules : CorsApi OriginRule String where
  headerValue := fun text =>
    if text.toList.all (fun character => 32 ≤ character.toNat ∧ character.toNat < 127) then
      some text
    else none
  new := .denied
  veryPermissive := .mirrored
  allowOrigin := fun _ origin => .exactly origin
  allowAnyOrigin := fun _ => .anyOrigin
  allowMethods := fun rule _ => rule
  allowAnyMethod := fun rule => rule
  allowHeaders := fun rule _ => rule
  allowAnyHeader := fun rule => rule
  exposeHeaders := fun rule _ => rule
  maxAge := fun rule _ => rule
  allowCredentials := fun rule _ => rule
  allowOriginHeader := fun rule origin =>
    match rule with
    | .denied => none
    | .anyOrigin => some "*"
    | .mirrored => some origin
    | .exactly allowed => some allowed

theorem originRules_documented : originRules.Documented := by
  constructor
  case allowOrigin_header =>
    intro layer text value origin _ _
    simp [originRules]
  all_goals intros; rfl

def twoOrigins : HttpCorsConfig where
  allowCredentials := some true
  allowedOrigins := some ["https://app.example.com", "https://admin.example.com"]

def twoOriginsConfig : Config where
  http := { cors := some twoOrigins }

theorem allowsOrigin_iff_listsOrigin_admin :
    (AllowsOrigin originRules twoOriginsConfig "https://admin.example.com" ↔
      ListsOrigin originRules ["https://app.example.com", "https://admin.example.com"]
        "https://admin.example.com") ↔
      ¬ListsOrigin originRules ["https://app.example.com", "https://admin.example.com"]
        "https://admin.example.com" ∨
      EndsWithOrigin originRules ["https://app.example.com", "https://admin.example.com"]
        "https://admin.example.com" :=
  @allowsOrigin_iff_listsOrigin _ _ originRules twoOriginsConfig twoOrigins _
    originRules_documented (by decide) rfl rfl (by decide +kernel) _

/-- The first of two listed origins is not allowed. -/
theorem not_allowsOrigin_iff_listsOrigin :
    ¬(AllowsOrigin originRules twoOriginsConfig "https://app.example.com" ↔
      ListsOrigin originRules ["https://app.example.com", "https://admin.example.com"]
        "https://app.example.com") := by
  have listed : ListsOrigin originRules ["https://app.example.com", "https://admin.example.com"]
      "https://app.example.com" := ⟨"https://app.example.com", by simp, by decide +kernel⟩
  have denied : ¬AllowsOrigin originRules twoOriginsConfig "https://app.example.com" := by
    unfold AllowsOrigin
    decide +kernel
  intro same
  exact denied (same.mpr listed)

end AxumConf.Fluent
