import AxumConf.Fluent.Pipeline

/-!
# What a response went through

Which responses of the finished service carry the security headers, and which of them a request id.
-/

namespace AxumConf.Fluent

open Tower

def securityNames : List String :=
  ["x-content-type-options", "x-frame-options", "strict-transport-security",
    "content-security-policy"]

/-- The layers outside of the security headers that a crate provides. -/
def OuterLayer.isObserving : OuterLayer → Bool
  | .logging | .prometheus | .timeout _ | .governor _ => true
  | _ => false

def setAll (headers : List (String × HeaderValue)) (base : Headers) : Headers :=
  headers.foldl (fun current header => current.set header.1 header.2) base

/-- The headers that the layer puts on every response. -/
def OuterLayer.written : OuterLayer → List (String × HeaderValue)
  | .helmet headers => headers
  | .responseHeader name value => [(name, value)]
  | _ => []

def OuterLayer.Writes (layer : OuterLayer) : Prop :=
  (∃ headers, layer = .helmet headers) ∨ ∃ name value, layer = .responseHeader name value

/-- A text as a response of `axum`. -/
def textResponse (text : String) : Response where
  status := 200
  headers := fun name => if name = contentType then some plainText else none
  body := text

/-- A route with `get` answers `HEAD` as well, without the body, and no other method. -/
def textAnswer (text method : String) : Response :=
  if method = "GET" then textResponse text
  else if method = "HEAD" then { textResponse text with body := "" }
  else
    { status := 405
      headers := fun name => if name = "allow" then some (.ofText "GET,HEAD") else none }

/-- Panic recovery passes requests and responses on and makes its answer of a panic. -/
structure OuterApi.CatchesPanics (api : OuterApi) : Prop where
  passes : ∀ answer request, (api.catchPanic answer).inbound request = .ok request
  hands_back : ∀ answer request response,
    (api.catchPanic answer).outbound request response = response
  rescues : ∀ answer panic, (api.catchPanic answer).rescue panic = some (answer panic)

/-- The layers of the security headers pass requests on and overwrite the headers of responses,
tracing, metrics, timeout and rate limit leave the headers of a response alone and answer without
those in question, request ids are written to their own header, and the plain texts of the security
headers are header values. -/
structure OuterApi.Documented (api : OuterApi) : Prop where
  ids : api.ids.Documented api.external
  catches : api.CatchesPanics
  into_layer : ∀ texts, api.intoLayer texts =
    texts.mapM fun header => (api.ids.fromStr header.2).map fun value => (header.1, value)
  writers_pass : ∀ layer : OuterLayer, layer.Writes → ∀ request,
    (api.crate layer).inbound request = .ok request
  writes : ∀ layer : OuterLayer, layer.Writes → ∀ request response,
    (api.crate layer).outbound request response =
      { response with headers := setAll layer.written response.headers }
  gets_text : ∀ text method, api.getText text method = textAnswer text method
  propagates_only : ∀ request response name, name ≠ xRequestId →
    (api.ids.propagateRequestId request response).headers name = response.headers name
  keeps_headers : ∀ layer : OuterLayer, layer.isObserving = true → ∀ request response,
    ((api.crate layer).outbound request response).headers = response.headers
  answers_bare : ∀ layer : OuterLayer, layer.isObserving = true → ∀ request response,
    (api.crate layer).inbound request = .error response →
    ∀ name ∈ securityNames, response.headers name = none
  plain_values : ∀ text ∈ ["nosniff", "DENY", "SAMEORIGIN"], (api.ids.fromStr text).isSome = true

/-- The metrics, the readiness probe and the files of the fallback directory come without these
headers. -/
def Handlers.Bare (handlers : Handlers) : Prop :=
  ∀ endpoint, isWithin endpoint = false → ∀ request response,
    handlers.serve endpoint request = .ok response →
    ∀ name ∈ xRequestId :: securityNames, response.headers name = none

section Lookup

theorem setAll_of_notMem {headers : List (String × HeaderValue)} {name : String}
    (absent : name ∉ headers.map Prod.fst) (base : Headers) :
    setAll headers base name = base name := by
  induction headers generalizing base with
  | nil => rfl
  | cons header rest ih =>
      simp only [List.map_cons, List.mem_cons, not_or] at absent
      have later := ih absent.2 (base.set header.1 header.2)
      simp only [setAll, List.foldl_cons] at later ⊢
      rw [later, Headers.set, if_neg absent.1]

theorem setAll_of_mem {headers : List (String × HeaderValue)} {name : String} {value : HeaderValue}
    (distinct : (headers.map Prod.fst).Nodup) (member : (name, value) ∈ headers) (base : Headers) :
    setAll headers base name = some value := by
  induction headers generalizing base with
  | nil => cases member
  | cons header rest ih =>
      simp only [List.map_cons, List.nodup_cons] at distinct
      rcases List.mem_cons.mp member with here | later
      · subst here
        have kept := setAll_of_notMem distinct.1 (base.set name value)
        simp only [setAll, List.foldl_cons] at kept ⊢
        rw [kept, Headers.set_same]
      · exact ih distinct.2 later (base.set header.1 header.2)

end Lookup

section Writing

variable {api : OuterApi} {config : PipelineConfig} {service : Request → Except Panic Response}

/-- Puts headers on every response. -/
def writing (headers : List (String × HeaderValue)) : Shell Request Response Panic where
  inbound := fun request => .ok request
  outbound := fun _ response => { response with headers := setAll headers response.headers }

theorem writing_wrap (headers : List (String × HeaderValue))
    (service : Request → Except Panic Response) (request : Request) :
    (writing headers).wrap service request =
      (service request).map fun response =>
        { response with headers := setAll headers response.headers } := by
  simp only [Shell.wrap, writing]
  cases service request with
  | error panic => rfl
  | ok response => rfl

theorem writing_writing (first second : List (String × HeaderValue)) :
    (writing second).wrap ((writing first).wrap service) =
      (writing (first ++ second)).wrap service := by
  funext request
  simp only [writing_wrap]
  cases service request with
  | error panic => rfl
  | ok response => simp [Except.map, setAll, List.foldl_append]

theorem OuterApi.Documented.shell_of_writes (documented : api.Documented) {layer : OuterLayer}
    (writes : layer.Writes) : api.shell layer = writing layer.written := by
  have isCrate : api.shell layer = { toLayer := api.crate layer } := by
    rcases writes with ⟨headers, rfl⟩ | ⟨name, value, rfl⟩
    · rfl
    · rfl
  have inbound : (api.crate layer).inbound = (writing layer.written).inbound :=
    funext (documented.writers_pass layer writes)
  have outbound : (api.crate layer).outbound = (writing layer.written).outbound :=
    funext fun request => funext (documented.writes layer writes request)
  have sameLayer : api.crate layer = (writing layer.written).toLayer :=
    Layer.ext inbound outbound
  rw [isCrate, sameLayer]
  rfl

/-- Layers that write headers are like one that writes all of them. -/
theorem OuterApi.Documented.enclose_of_writes (documented : api.Documented)
    {layers : List OuterLayer} (writes : ∀ layer ∈ layers, layer.Writes)
    (service : Request → Except Panic Response) :
    enclose (api.shells layers) service =
      (writing (layers.flatMap OuterLayer.written)).wrap service := by
  induction layers generalizing service with
  | nil =>
      funext request
      simp only [OuterApi.shells, List.map_nil, enclose_nil, List.flatMap_nil, writing_wrap]
      cases service request with
      | error panic => rfl
      | ok response => rfl
  | cons layer rest ih =>
      rcases List.forall_mem_cons.mp writes with ⟨writesFirst, writesRest⟩
      have later := ih writesRest ((api.shell layer).wrap service)
      simp only [OuterApi.shells, List.map_cons, enclose_cons] at later ⊢
      rw [later, documented.shell_of_writes writesFirst, writing_writing, List.flatMap_cons]

theorem mem_headerLayers {name : String} {text : Option String} {layer : OuterLayer}
    (member : layer ∈ headerLayers api name text) :
    ∃ value, layer = .responseHeader name value := by
  simp only [headerLayers, Option.mem_toList, Option.map_eq_some_iff] at member
  rcases member with ⟨value, -, rfl⟩
  exact ⟨value, rfl⟩

theorem helmetLayers_write : ∀ layer ∈ helmetLayers api config, layer.Writes := by
  intro layer member
  simp only [helmetLayers, enabledLayers] at member
  split at member
  · simp only [List.mem_append] at member
    rcases member with (helmet | hsts) | csp
    · simp only [Option.mem_toList, Option.map_eq_some_iff] at helmet
      rcases helmet with ⟨headers, -, rfl⟩
      exact .inl ⟨headers, rfl⟩
    · rcases mem_headerLayers hsts with ⟨value, rfl⟩
      exact .inr ⟨_, value, rfl⟩
    · rcases mem_headerLayers csp with ⟨value, rfl⟩
      exact .inr ⟨_, value, rfl⟩
  · cases member

/-- What `setup_helmet` puts on responses. -/
def securityHeaders (api : OuterApi) (config : PipelineConfig) : List (String × HeaderValue) :=
  (helmetLayers api config).flatMap OuterLayer.written

theorem OuterApi.Documented.names_intoLayer (documented : api.Documented)
    {texts : List (String × String)} {headers : List (String × HeaderValue)}
    (built : api.intoLayer texts = some headers) :
    headers.map Prod.fst = texts.map Prod.fst := by
  rw [documented.into_layer] at built
  induction texts generalizing headers with
  | nil =>
      cases built
      rfl
  | cons text rest ih =>
      simp only [List.mapM_cons, Option.bind_eq_bind, Option.bind_eq_some_iff,
        Option.map_eq_some_iff, Option.pure_def, Option.some.injEq] at built
      rcases built with ⟨header, ⟨value, -, rfl⟩, others, builtRest, rfl⟩
      rw [List.map_cons, List.map_cons, ih builtRest]

theorem names_helmetTexts_sublist :
    ((helmetTexts api config).map Prod.fst).Sublist
      ["x-content-type-options", "x-frame-options"] := by
  unfold helmetTexts
  split
  · exact List.Sublist.refl _
  · exact .cons _ (List.Sublist.refl _)

theorem names_headerLayers_sublist (name : String) (text : Option String) :
    (((headerLayers api name text).flatMap OuterLayer.written).map Prod.fst).Sublist [name] := by
  unfold headerLayers
  cases text.bind api.ids.fromStr with
  | none => exact List.nil_sublist _
  | some value => exact List.Sublist.refl _

/-- No two security headers have a name in common. -/
theorem OuterApi.Documented.names_securityHeaders (documented : api.Documented) :
    ((securityHeaders api config).map Prod.fst).Sublist securityNames := by
  unfold securityHeaders helmetLayers enabledLayers
  split
  · simp only [List.flatMap_append, List.map_append]
    have helmet : ((((api.intoLayer (helmetTexts api config)).map
        OuterLayer.helmet).toList.flatMap OuterLayer.written).map Prod.fst).Sublist
          ["x-content-type-options", "x-frame-options"] := by
      cases built : api.intoLayer (helmetTexts api config) with
      | none => exact List.nil_sublist _
      | some headers =>
          simp only [Option.map_some, Option.toList_some, List.flatMap_cons, List.flatMap_nil,
            List.append_nil, OuterLayer.written]
          rw [documented.names_intoLayer built]
          exact names_helmetTexts_sublist
    exact (helmet.append (names_headerLayers_sublist _ _)).append (names_headerLayers_sublist _ _)
  · exact List.nil_sublist _

theorem OuterApi.Documented.securityHeaders_nodup (documented : api.Documented) :
    ((securityHeaders api config).map Prod.fst).Nodup :=
  documented.names_securityHeaders.nodup (by decide)

theorem OuterApi.Documented.mem_securityNames (documented : api.Documented) {name : String}
    {value : HeaderValue} (member : (name, value) ∈ securityHeaders api config) :
    name ∈ securityNames :=
  documented.names_securityHeaders.subset (List.mem_map_of_mem member)

end Writing

section Marks

variable {api : OuterApi} {config : PipelineConfig} {handlers : Handlers}

/-- Positions 19 to 26, which stand outside of the security headers. -/
def outsideHelmet (config : PipelineConfig) : List OuterLayer :=
  loggingLayers config ++ metricsLayers config ++ limitingLayers config ++
    requestIdLayers config ++ catchPanicLayers config

theorem mem_enabledLayers {config : PipelineConfig} {middleware : HttpMiddleware}
    {layers : List OuterLayer} {layer : OuterLayer}
    (member : layer ∈ enabledLayers config middleware layers) :
    config.isMiddlewareEnabled middleware = true ∧ layer ∈ layers := by
  unfold enabledLayers at member
  split at member
  · rename_i enabled
    exact ⟨enabled, member⟩
  · cases member

def OuterLayer.isOutside : OuterLayer → Bool
  | .propagateRequestId | .setRequestId | .catchPanic => true
  | layer => layer.isObserving

theorem isOutside_of_mem {layer : OuterLayer} (member : layer ∈ outsideHelmet config) :
    layer.isOutside = true := by
  simp only [outsideHelmet, limitingLayers, List.mem_append] at member
  rcases member with (((logging | metrics) | timeout | governor) | ids) | panic
  · have listed := (mem_enabledLayers logging).2
    rw [List.mem_singleton.mp listed]
    rfl
  · unfold metricsLayers at metrics
    split at metrics
    · have listed := (mem_enabledLayers metrics).2
      rw [List.mem_singleton.mp listed]
      rfl
    · cases metrics
  · have listed := (mem_enabledLayers timeout).2
    simp only [Option.mem_toList, Option.map_eq_some_iff] at listed
    rcases listed with ⟨limit, -, rfl⟩
    rfl
  · unfold rateLimitingLayers at governor
    split at governor
    · have listed := (mem_enabledLayers governor).2
      rw [List.mem_singleton.mp listed]
      rfl
    · cases governor
  · have listed := (mem_enabledLayers ids).2
    simp only [List.mem_cons, List.not_mem_nil, or_false] at listed
    rcases listed with rfl | rfl
    · rfl
    · rfl
  · have listed := (mem_enabledLayers panic).2
    rw [List.mem_singleton.mp listed]
    rfl

/-- The layers of positions 11 to 17, which only a crate provides. -/
def OuterLayer.isShaping : OuterLayer → Bool
  | .concurrencyLimit _ | .disableDefaultBodyLimit | .requestBodyLimit _ | .requestDecompression
  | .compression | .trimTrailingSlash | .sensitiveHeaders _ | .apiVersioning _ | .cors _ _ => true
  | _ => false

theorem isShaping_of_mem {layer : OuterLayer} (member : layer ∈ shapingLayers api config) :
    layer ∈ deduplicationLayers config ∨ layer.isShaping = true := by
  simp only [shapingLayers, List.mem_append] at member
  rcases member with ((((((ids | limit) | payload) | coding) | path) | sensitive) | version) | cors
  · exact .inl ids
  · rw [List.mem_singleton.mp (mem_enabledLayers limit).2]
    exact .inr rfl
  · have listed := (mem_enabledLayers payload).2
    simp only [List.mem_cons, List.not_mem_nil, or_false] at listed
    rcases listed with rfl | rfl
    · exact .inr rfl
    · exact .inr rfl
  · unfold compressionLayers at coding
    split at coding
    · have listed := (mem_enabledLayers coding).2
      simp only [List.mem_cons, List.not_mem_nil, or_false] at listed
      rcases listed with rfl | rfl
      · exact .inr rfl
      · exact .inr rfl
    · cases coding
  · rw [List.mem_singleton.mp (mem_enabledLayers path).2]
    exact .inr rfl
  · rw [List.mem_singleton.mp (mem_enabledLayers sensitive).2]
    exact .inr rfl
  · rw [List.mem_singleton.mp (mem_enabledLayers version).2]
    exact .inr rfl
  · rw [List.mem_singleton.mp (mem_enabledLayers cors).2]
    exact .inr rfl

/-- Every layer deduplicates, shapes, writes headers or stands outside of those that do. -/
theorem mem_allLayers_cases {layer : OuterLayer} (member : layer ∈ allLayers api config) :
    layer ∈ deduplicationLayers config ∨ layer.isShaping = true ∨ layer.Writes ∨
      layer.isOutside = true := by
  simp only [allLayers, List.mem_append] at member
  rcases member with (((((shaping | helmet) | logging) | metrics) | limiting) | ids) | panic
  · exact (isShaping_of_mem shaping).imp_right .inl
  · exact .inr (.inr (.inl (helmetLayers_write layer helmet)))
  all_goals
    refine .inr (.inr (.inr (@isOutside_of_mem config layer ?_)))
    simp only [outsideHelmet, List.mem_append]
    tauto

/-- The response has this value of the header. -/
def HasHeader (name : String) (value : HeaderValue) (response : Response) : Prop :=
  response.headers name = some value

theorem panicResponse_bare {name : String} (guarded : name ∈ xRequestId :: securityNames) :
    panicResponse.headers name = none := by
  have notType : name ≠ contentType := by
    rintro rfl
    revert guarded
    decide
  exact if_neg notType

theorem OuterApi.CatchesPanics.shell_catchPanic (catches : api.CatchesPanics) :
    api.shell .catchPanic =
      { inbound := fun request => .ok request, rescue := fun _ => some panicResponse } := by
  have inbound := funext (catches.passes fun _ => panicResponse)
  have outbound := funext fun request =>
    funext (catches.hands_back (fun _ => panicResponse) request)
  have rescue := funext (catches.rescues fun _ => panicResponse)
  exact Shell.ext inbound outbound rescue

theorem OuterApi.Documented.observing_neutral (documented : api.Documented) {layer : OuterLayer}
    (observing : layer.isObserving = true) {name : String} {value : HeaderValue}
    (security : name ∈ securityNames) : (api.shell layer).Neutral (HasHeader name value) := by
  have isCrate : api.shell layer = { toLayer := api.crate layer } := by
    cases layer <;> first | rfl | cases observing
  rw [isCrate]
  refine ⟨?_, ?_, ?_⟩
  · intro request passed response _
    simp only [HasHeader, documented.keeps_headers layer observing]
  · intro request response answers
    simp [HasHeader, documented.answers_bare layer observing request response answers name security]
  · intro panic response rescues
    cases rescues

theorem OuterApi.Documented.outside_neutral (documented : api.Documented) {layer : OuterLayer}
    (outside : layer.isOutside = true) {name : String} {value : HeaderValue}
    (security : name ∈ securityNames) : (api.shell layer).Neutral (HasHeader name value) := by
  by_cases observing : layer.isObserving = true
  · exact documented.observing_neutral observing security
  cases layer with
  | propagateRequestId =>
      have passing : (api.shell .propagateRequestId).Passing :=
        ⟨fun request => ⟨request, rfl⟩, fun _ => rfl⟩
      apply passing.neutral
      intro request passed response _
      have otherName : name ≠ xRequestId := by
        rintro rfl
        revert security
        decide
      have kept := documented.propagates_only passed response name otherName
      simp only [HasHeader, OuterApi.shell, kept]
  | setRequestId =>
      have passing : (api.shell .setRequestId).Passing :=
        ⟨fun _ => ⟨_, rfl⟩, fun _ => rfl⟩
      exact passing.neutral fun _ _ _ _ => Iff.rfl
  | catchPanic =>
      rw [documented.catches.shell_catchPanic]
      refine ⟨fun _ _ _ _ => Iff.rfl, ?_, ?_⟩
      · intro request response answers
        cases answers
      · intro panic response rescues
        cases rescues
        simp [HasHeader, panicResponse_bare (List.mem_cons_of_mem _ security)]
  | _ => exact absurd outside observing

theorem OuterApi.Documented.neutral_of_subset (documented : api.Documented)
    {layers : List OuterLayer} (inside : layers ⊆ outsideHelmet config) {name : String}
    {value : HeaderValue} (security : name ∈ securityNames) :
    ∀ shell ∈ api.shells layers, shell.Neutral (HasHeader name value) := by
  intro shell member
  rcases List.mem_map.mp member with ⟨layer, listed, rfl⟩
  exact documented.outside_neutral (isOutside_of_mem (inside listed)) security

theorem writing_sets {headers : List (String × HeaderValue)}
    (distinct : (headers.map Prod.fst).Nodup) {name : String} {value : HeaderValue}
    (member : (name, value) ∈ headers) : (writing headers).Sets (HasHeader name value) := by
  have passing : (writing headers).Passing := ⟨fun request => ⟨request, rfl⟩, fun _ => rfl⟩
  exact passing.sets fun _ _ response _ => setAll_of_mem distinct member response.headers

end Marks

section Responses

variable {platform : Platform} {api : OuterApi} {config : PipelineConfig} {handlers : Handlers}

/-- The route that the finished service takes for a path. -/
def routeFor (platform : Platform) (api : OuterApi) (config : PipelineConfig) (paths : List String)
    (path : String) : Route :=
  ((pipeline platform api config paths).routeOf platform path).route

theorem call_eq (paths : List String) (head : RequestHead) :
    (pipeline platform api config paths).call platform api handlers head =
      enclose (api.shells (layersAround api config
          (routeFor platform api config paths head.path).endpoint))
        (handlers.behind api (routeFor platform api config paths head.path)) { head } := by
  rw [OuterRouter.call, OuterRoute.call, outer_routeOf]
  rfl

theorem behind_of_outside {paths : List String} {path : String}
    (outside : isWithin (routeFor platform api config paths path).endpoint = false)
    (request : Request) :
    handlers.behind api (routeFor platform api config paths path) request =
      handlers.handle api (routeFor platform api config paths path).endpoint request := by
  have unlayered : (routeFor platform api config paths path).layers = [] :=
    layers_routeOf paths path outside
  simp [Handlers.behind, Route.call, unlayered, stack]

theorem textAnswer_bare (text method : String) {name : String}
    (guarded : name ∈ xRequestId :: securityNames) :
    (textAnswer text method).headers name = none := by
  have notType : name ≠ contentType := by
    rintro rfl
    revert guarded
    decide
  have notAllow : name ≠ "allow" := by
    rintro rfl
    revert guarded
    decide
  unfold textAnswer
  split
  · exact if_neg notType
  · split
    · exact if_neg notType
    · exact if_neg notAllow

theorem Handlers.Bare.handle (bare : handlers.Bare) (documented : api.Documented)
    {endpoint : Endpoint} (outside : isWithin endpoint = false) {request : Request}
    {response : Response} (handled : handlers.handle api endpoint request = .ok response)
    {name : String} (guarded : name ∈ xRequestId :: securityNames) :
    response.headers name = none := by
  by_cases live : endpoint = .liveness
  · subst live
    cases handled
    rw [documented.gets_text]
    exact textAnswer_bare _ request.head.method guarded
  · have served : handlers.handle api endpoint request = handlers.serve endpoint request := by
      cases endpoint <;> first | rfl | exact absurd rfl live
    rw [served] at handled
    exact bare endpoint outside request response handled name guarded

theorem layersAround_subset {endpoint : Endpoint} (outside : isWithin endpoint = false) :
    layersAround api config endpoint ⊆ outsideHelmet config := by
  intro layer member
  simp only [outsideHelmet, List.mem_append]
  cases endpoint with
  | directory directory =>
      have isFallback : directory.isFallback = true := by simpa [isWithin] using outside
      simp [layersAround, isFallback] at member
  | metrics =>
      simp only [layersAround, List.mem_append] at member
      tauto
  | readiness =>
      simp only [layersAround, List.mem_append] at member
      tauto
  | liveness => exact .inr member
  | user name => cases outside
  | login => cases outside
  | callback => cases outside
  | logout => cases outside
  | notFound => cases outside

/-- The request gets past the layers outside of the security headers, and what it meets there
returns. -/
def ComesThroughHelmet (api : OuterApi) (config : PipelineConfig) (handlers : Handlers)
    (route : Route) (head : RequestHead) : Prop :=
  ∃ passed inside,
    admitted (Shell.layers (api.shells (outsideHelmet config))) { head } = .ok passed ∧
      enclose (api.shells (shapingLayers api config)) (handlers.behind api route) passed =
        .ok inside

theorem OuterApi.Documented.shells_allLayers (documented : api.Documented)
    (service : Request → Except Panic Response) :
    enclose (api.shells (allLayers api config)) service =
      enclose (api.shells (shapingLayers api config) ++
        writing (securityHeaders api config) :: api.shells (outsideHelmet config)) service := by
  have split : allLayers api config =
      shapingLayers api config ++ (helmetLayers api config ++ outsideHelmet config) := by
    simp only [allLayers, outsideHelmet, List.append_assoc]
  rw [split, OuterApi.shells, List.map_append, List.map_append, enclose_append, enclose_append,
    enclose_append, enclose_cons]
  have written := documented.enclose_of_writes (@helmetLayers_write api config)
    (enclose (api.shells (shapingLayers api config)) service)
  simp only [OuterApi.shells] at written ⊢
  rw [written]
  rfl

/-- A header of `setup_helmet` is on exactly those responses that come through its layers: not on
those of a probe route or the fallback directory, and not on what a layer further out answers. -/
theorem securityHeader_iff (documented : api.Documented) (bare : handlers.Bare)
    (paths : List String) {name : String} {value : HeaderValue}
    (member : (name, value) ∈ securityHeaders api config) {head : RequestHead}
    {response : Response}
    (returned : (pipeline platform api config paths).call platform api handlers head =
      .ok response) :
    response.headers name = some value ↔
      isWithin (routeFor platform api config paths head.path).endpoint = true ∧
        ComesThroughHelmet api config handlers (routeFor platform api config paths head.path)
          head := by
  have security := documented.mem_securityNames member
  rw [call_eq] at returned
  change HasHeader name value response ↔ _
  cases within : isWithin (routeFor platform api config paths head.path).endpoint with
  | false =>
      have neutral : ∀ shell ∈ api.shells (layersAround api config
          (routeFor platform api config paths head.path).endpoint),
          shell.Neutral (HasHeader name value) :=
        documented.neutral_of_subset (layersAround_subset within) security
      rw [mark_iff_of_neutral neutral returned]
      simp only [Bool.false_eq_true, false_and, iff_false, not_exists, not_and]
      intro passed inside _ served marked
      rw [behind_of_outside within] at served
      have unmarked := bare.handle documented within served (List.mem_cons_of_mem _ security)
      rw [HasHeader, unmarked] at marked
      cases marked
  | true =>
      rw [layersAround_of_isWithin api config within, documented.shells_allLayers] at returned
      have sets : (writing (securityHeaders api config)).Sets (HasHeader name value) :=
        writing_sets documented.securityHeaders_nodup member
      have neutral : ∀ shell ∈ api.shells (outsideHelmet config),
          shell.Neutral (HasHeader name value) :=
        documented.neutral_of_subset (List.Subset.refl _) security
      rw [mark_iff_of_sets sets neutral returned]
      simp only [true_and, ComesThroughHelmet, Shell.layers, List.map_cons, admitted_cons_eq_ok]
      constructor
      · rintro ⟨passed, inside, ⟨reached, admits, passes⟩, served⟩
        cases passes
        exact ⟨passed, inside, admits, served⟩
      · rintro ⟨passed, inside, admits, served⟩
        exact ⟨passed, inside, ⟨passed, admits, rfl⟩, served⟩

/-- Whatever frame option is configured, there is one to put on responses. -/
theorem exists_xFrame (documented : api.Documented)
    (enabled : config.isMiddlewareEnabled .securityHeaders = true) :
    ∃ value, api.ids.fromStr (xFrame api config).text = some value ∧
      ("x-frame-options", value) ∈ securityHeaders api config := by
  have frameValue : (api.ids.fromStr (xFrame api config).text).isSome = true := by
    unfold xFrame
    split
    · split
      · rename_i accepted
        exact accepted
      · exact documented.plain_values "DENY" (by simp)
    · rename_i frame notOrigin
      cases configured : config.xFrameOptions with
      | deny => exact documented.plain_values "DENY" (by simp)
      | sameOrigin => exact documented.plain_values "SAMEORIGIN" (by simp)
      | allowFrom url => exact absurd configured (notOrigin url)
  rcases Option.isSome_iff_exists.mp frameValue with ⟨frame, isFrame⟩
  rcases Option.isSome_iff_exists.mp (documented.plain_values "nosniff" (by simp)) with
    ⟨nosniff, isNosniff⟩
  refine ⟨frame, isFrame, ?_⟩
  unfold securityHeaders helmetLayers enabledLayers
  rw [if_pos enabled]
  have built : ∃ headers, api.intoLayer (helmetTexts api config) = some headers ∧
      ("x-frame-options", frame) ∈ headers := by
    unfold helmetTexts
    split
    · exact ⟨[("x-content-type-options", nosniff), ("x-frame-options", frame)],
        by simp [documented.into_layer, isFrame, isNosniff], by simp⟩
    · exact ⟨[("x-frame-options", frame)], by simp [documented.into_layer, isFrame], by simp⟩
  rcases built with ⟨headers, isBuilt, member⟩
  simp [isBuilt, OuterLayer.written, member]

/-- There is a frame option to put on responses whatever is configured, and every header of
`setup_helmet` is on exactly those responses that come through its layers: not on those of a probe
route or the fallback directory, and not on what a layer further out answers. -/
theorem securityHeaders_cover (platform : Platform) (api : OuterApi) (config : PipelineConfig)
    (handlers : Handlers) (documented : api.Documented) (bare : handlers.Bare)
    (enabled : config.isMiddlewareEnabled .securityHeaders = true) (paths : List String) :
    (∃ value, api.ids.fromStr (xFrame api config).text = some value ∧
        ("x-frame-options", value) ∈ securityHeaders api config) ∧
      ∀ name value, (name, value) ∈ securityHeaders api config → ∀ head response,
        (pipeline platform api config paths).call platform api handlers head = .ok response →
        (response.headers name = some value ↔
          isWithin (routeFor platform api config paths head.path).endpoint = true ∧
            ComesThroughHelmet api config handlers
              (routeFor platform api config paths head.path) head) := by
  refine ⟨exists_xFrame documented enabled, ?_⟩
  intro name value member head response returned
  exact securityHeader_iff documented bare paths member returned

end Responses

section RequestIds

variable {platform : Platform} {api : OuterApi} {config : PipelineConfig} {handlers : Handlers}

/-- The request id layers stand around the endpoint. -/
def carriesIds : Endpoint → Bool
  | .liveness => false
  | .directory directory => !directory.isFallback
  | _ => true

/-- The layers around an endpoint that are inside of the request id layers. -/
def layersInside (api : OuterApi) (config : PipelineConfig) : Endpoint → List OuterLayer
  | .liveness => []
  | .readiness => limitingLayers config
  | .metrics => metricsLayers config ++ limitingLayers config
  | .directory directory =>
      if directory.isFallback then []
      else
        shapingLayers api config ++ helmetLayers api config ++ loggingLayers config ++
          metricsLayers config ++ limitingLayers config
  | _ =>
      shapingLayers api config ++ helmetLayers api config ++ loggingLayers config ++
        metricsLayers config ++ limitingLayers config

theorem layersAround_of_carriesIds {endpoint : Endpoint} (carries : carriesIds endpoint = true) :
    layersAround api config endpoint =
      layersInside api config endpoint ++ requestIdLayers config ++ catchPanicLayers config := by
  cases endpoint with
  | directory directory =>
      have isRoute : directory.isFallback = false := by simpa [carriesIds] using carries
      simp only [layersAround, layersInside, allLayers, isRoute, Bool.false_eq_true, if_false]
  | liveness => cases carries
  | metrics => rfl
  | readiness => rfl
  | user name => rfl
  | login => rfl
  | callback => rfl
  | logout => rfl
  | notFound => rfl

theorem layersAround_subset_catchPanic {endpoint : Endpoint}
    (carries : carriesIds endpoint = false) :
    layersAround api config endpoint ⊆ catchPanicLayers config ∧ isWithin endpoint = false := by
  cases endpoint with
  | directory directory =>
      have isFallback : directory.isFallback = true := by simpa [carriesIds] using carries
      simp [layersAround, isWithin, isFallback]
  | liveness => exact ⟨List.Subset.refl _, rfl⟩
  | metrics => cases carries
  | readiness => cases carries
  | user name => cases carries
  | login => cases carries
  | callback => cases carries
  | logout => cases carries
  | notFound => cases carries

/-- The request as the layers inside of the request id layers get it. -/
def identifiedRequest (api : OuterApi) (request : Request) : Request :=
  api.ids.setRequestId (makeRequestId api.external api.ids) request

/-- The two request id layers as one. -/
def idShell (api : OuterApi) : Shell Request Response Panic where
  inbound := fun request => .ok (identifiedRequest api request)
  outbound := api.ids.propagateRequestId

theorem wrap_requestIdLayers (service : Request → Except Panic Response) :
    enclose (api.shells [.propagateRequestId, .setRequestId]) service =
      (idShell api).wrap service := by
  funext request
  simp only [OuterApi.shells, List.map_cons, List.map_nil, enclose_cons, enclose_nil, Shell.wrap,
    OuterApi.shell, idShell, identifiedRequest]
  cases service (api.ids.setRequestId (makeRequestId api.external api.ids) request) with
  | error panic => rfl
  | ok response => rfl

def HasRequestId (response : Response) : Prop :=
  (response.headers xRequestId).isSome = true

theorem idShell_sets (documented : api.Documented) : (idShell api).Sets HasRequestId := by
  have passing : (idShell api).Passing := ⟨fun _ => ⟨_, rfl⟩, fun _ => rfl⟩
  apply passing.sets
  intro request passed response passes
  cases passes
  rcases documented.ids.newUuid_header with ⟨minted, isMinted, -⟩
  simp only [HasRequestId, idShell, documented.ids.propagates, identifiedRequest,
    setRequestId_header documented.ids, isMinted]
  cases response.headers xRequestId with
  | some own => rfl
  | none =>
      cases request.head.headers xRequestId with
      | some sent => rfl
      | none => rfl

theorem OuterApi.CatchesPanics.neutral (catches : api.CatchesPanics) :
    ∀ shell ∈ api.shells (catchPanicLayers config), shell.Neutral HasRequestId := by
  intro shell member
  rcases List.mem_map.mp member with ⟨layer, listed, rfl⟩
  rw [List.mem_singleton.mp (mem_enabledLayers listed).2, catches.shell_catchPanic]
  refine ⟨fun _ _ _ _ => Iff.rfl, ?_, ?_⟩
  · intro request response answers
    cases answers
  · intro panic response rescues
    cases rescues
    simp [HasRequestId, panicResponse_bare List.mem_cons_self]

theorem OuterApi.CatchesPanics.admitted_catchPanic (catches : api.CatchesPanics)
    (request : Request) :
    admitted (Shell.layers (api.shells (catchPanicLayers config))) request = .ok request := by
  unfold catchPanicLayers enabledLayers
  split
  · rw [OuterApi.shells, List.map_singleton, catches.shell_catchPanic]
    rfl
  · rfl

/-- With request ids enabled, a response carries one unless it was made of a panic, or comes from
the liveness probe or the fallback directory, which stand outside: also the responses of the limits,
of deduplication and of authentication do. -/
theorem requestId_present_iff (platform : Platform) (api : OuterApi) (config : PipelineConfig)
    (handlers : Handlers) (documented : api.Documented) (bare : handlers.Bare)
    (enabled : config.isMiddlewareEnabled .requestId = true) (paths : List String) :
    ∀ head response,
      (pipeline platform api config paths).call platform api handlers head = .ok response →
      (HasRequestId response ↔
        carriesIds (routeFor platform api config paths head.path).endpoint = true ∧
          ∃ inside, enclose (api.shells (layersInside api config
              (routeFor platform api config paths head.path).endpoint))
            (handlers.behind api (routeFor platform api config paths head.path))
            (identifiedRequest api { head }) = .ok inside) := by
  intro head response returned
  rw [call_eq] at returned
  cases carries : carriesIds (routeFor platform api config paths head.path).endpoint with
  | false =>
      rcases @layersAround_subset_catchPanic api config _ carries with ⟨inside, outside⟩
      have neutral : ∀ shell ∈ api.shells (layersAround api config
          (routeFor platform api config paths head.path).endpoint),
          shell.Neutral HasRequestId := by
        intro shell member
        rcases List.mem_map.mp member with ⟨layer, listed, rfl⟩
        exact documented.catches.neutral (api.shell layer) (List.mem_map_of_mem (inside listed))
      rw [mark_iff_of_neutral neutral returned]
      simp only [Bool.false_eq_true, false_and, iff_false, not_exists, not_and]
      intro passed served _ handled marked
      rw [behind_of_outside outside] at handled
      rw [HasRequestId, bare.handle documented outside handled List.mem_cons_self] at marked
      cases marked
  | true =>
      have ids : requestIdLayers config = [.propagateRequestId, .setRequestId] := if_pos enabled
      rw [layersAround_of_carriesIds carries, ids, OuterApi.shells, List.map_append,
        List.map_append, enclose_append, enclose_append] at returned
      have joined := @wrap_requestIdLayers api (enclose (api.shells (layersInside api config
        (routeFor platform api config paths head.path).endpoint))
        (handlers.behind api (routeFor platform api config paths head.path)))
      simp only [OuterApi.shells] at joined
      rw [joined, ← enclose_cons, ← enclose_append] at returned
      rw [mark_iff_of_sets (idShell_sets documented) documented.catches.neutral returned]
      have reached := @OuterApi.CatchesPanics.admitted_catchPanic api config documented.catches
        { head }
      simp only [Shell.layers] at reached
      simp only [true_and, Shell.layers, List.map_cons, admitted_cons_eq_ok, reached,
        Except.ok.injEq, exists_eq_left']
      constructor
      · rintro ⟨passed, inside, passes, served⟩
        cases passes
        exact ⟨inside, served⟩
      · rintro ⟨inside, served⟩
        exact ⟨identifiedRequest api { head }, inside, rfl, served⟩

end RequestIds

/-- No request reaches a limit. -/
def unlimitedApi : OuterApi where
  external := visibleExternal
  ids := visibleRequestIds
  headerName := fun text => some text.toLower
  intoLayer := fun texts => texts.mapM fun header =>
    (visibleRequestIds.fromStr header.2).map fun value => (header.1, value)
  crate := fun layer => (writing layer.written).toLayer
  catchPanic := fun answer =>
    { inbound := fun request => .ok request, rescue := fun panic => some (answer panic) }
  getText := textAnswer

theorem unlimitedApi_documented : unlimitedApi.Documented where
  ids := visibleRequestIds_documented
  catches := ⟨fun _ _ => rfl, fun _ _ _ => rfl, fun _ _ => rfl⟩
  into_layer := fun _ => rfl
  writers_pass := fun _ _ _ => rfl
  writes := fun _ _ _ _ => rfl
  gets_text := fun _ _ => rfl
  propagates_only := by
    intro request response name otherName
    simp only [unlimitedApi, visibleRequestIds]
    split
    · exact if_neg otherName
    · rfl
  keeps_headers := by
    intro layer observing request response
    cases layer <;> first | rfl | cases observing
  answers_bare := by
    intro layer _ request response answers
    cases answers
  plain_values := fun _ _ => rfl

/-- One route of the user panics. -/
def boomHandlers : Handlers where
  serve := fun endpoint _ =>
    if endpoint = .user "/boom" then .error (.str "boom") else .ok { status := 200, body := "ok" }

theorem boomHandlers_bare : boomHandlers.Bare := by
  intro endpoint outside request response served name guarded
  simp only [boomHandlers] at served
  split at served
  · cases served
  · cases served
    rfl

/-- Every security header is configured. -/
def framedConfig : PipelineConfig where
  hstsMaxAge := some 63072000
  contentSecurityPolicy := some "default-src 'self'"

theorem securityHeaders_cover_boom :
    (∃ value, unlimitedApi.ids.fromStr (xFrame unlimitedApi framedConfig).text = some value ∧
        ("x-frame-options", value) ∈ securityHeaders unlimitedApi framedConfig) ∧
      ∀ name value, (name, value) ∈ securityHeaders unlimitedApi framedConfig →
        ∀ head response,
          (pipeline subjectlessPlatform unlimitedApi framedConfig ["/boom", "/app"]).call
            subjectlessPlatform unlimitedApi boomHandlers head = .ok response →
          (response.headers name = some value ↔
            isWithin (routeFor subjectlessPlatform unlimitedApi framedConfig ["/boom", "/app"]
                head.path).endpoint = true ∧
              ComesThroughHelmet unlimitedApi framedConfig boomHandlers
                (routeFor subjectlessPlatform unlimitedApi framedConfig ["/boom", "/app"]
                  head.path) head) :=
  securityHeaders_cover subjectlessPlatform unlimitedApi framedConfig boomHandlers
    unlimitedApi_documented boomHandlers_bare (by decide) ["/boom", "/app"]

def boomHead : RequestHead where
  path := "/boom"
  pathAndQuery := some "/boom"
  headers := fun _ => none
  peerIp := none

/-- A panic is rescued outside of the request id layers. -/
theorem requestId_present_iff_boom :
    ∃ response, (pipeline subjectlessPlatform unlimitedApi {} ["/boom"]).call subjectlessPlatform
        unlimitedApi boomHandlers boomHead = .ok response ∧
      (HasRequestId response ↔
        carriesIds (routeFor subjectlessPlatform unlimitedApi {} ["/boom"]
            boomHead.path).endpoint = true ∧
          ∃ inside, enclose (unlimitedApi.shells (layersInside unlimitedApi {}
              (routeFor subjectlessPlatform unlimitedApi {} ["/boom"] boomHead.path).endpoint))
            (boomHandlers.behind unlimitedApi (routeFor subjectlessPlatform unlimitedApi {}
              ["/boom"] boomHead.path))
            (identifiedRequest unlimitedApi { head := boomHead }) = .ok inside) := by
  have returns : ((pipeline subjectlessPlatform unlimitedApi {} ["/boom"]).call
      subjectlessPlatform unlimitedApi boomHandlers boomHead).toOption.isSome = true := by
    decide +kernel
  cases returned : (pipeline subjectlessPlatform unlimitedApi {} ["/boom"]).call
      subjectlessPlatform unlimitedApi boomHandlers boomHead with
  | error panic =>
      rw [returned] at returns
      cases returns
  | ok response =>
      exact ⟨response, rfl, requestId_present_iff subjectlessPlatform unlimitedApi {} boomHandlers
        unlimitedApi_documented boomHandlers_bare (by decide) ["/boom"] boomHead response returned⟩

end AxumConf.Fluent
