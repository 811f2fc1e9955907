import AxumConf.Dedup.Window
import AxumConf.Fluent.ResponseHeaders

/-!
# Duplicate requests

The finished service over any number of requests: deduplication is the innermost of the outer
layers, so it sees the requests to the routes of positions 1 to 9, with the id that the request id
layers settled and before any of the authentication.  The checks of the requests are taken one after
another, though the handling of the requests may overlap, and the tasks that sweep the tracker run
in between; what checks that overlap can do is told of the tracker itself.
-/

namespace AxumConf.Fluent

open Dedup Tower

def xDuplicateRequest : String := "x-duplicate-request"

def duplicateResponse : Response where
  status := 409
  headers := fun name =>
    if name = contentType then some plainText
    else if name = xDuplicateRequest then some (.ofText "true")
    else none
  body := "Duplicate request detected"

/-- `DeduplicationService::call` with the tracker and the clock as it finds them. -/
def deduplicationLayer (external : External) (tracker : RequestTracker String) (now later : ℕ) :
    Layer Request Response where
  inbound := fun request =>
    match external.headerText request.head.headers xRequestId with
    | none => .ok request
    | some requestId =>
        if (tracker.checkAndMark now later requestId).1 then .error duplicateResponse
        else .ok request

def PipelineConfig.withoutDeduplication (config : PipelineConfig) : PipelineConfig :=
  { config with deduplication := none }

/-- A request to the service, with the readings of the clock that its check takes, the id minted for
it, and the layers of the crates and the handlers in the state in which it finds them. -/
structure Arrival where
  head : RequestHead
  now : ℕ
  later : ℕ
  newUuid : String
  crate : OuterLayer → Layer Request Response
  handlers : Handlers

namespace Arrival

variable (arrival : Arrival) (api : OuterApi) (tracker : RequestTracker String)

def apiAt : OuterApi :=
  { api with ids := { api.ids with newUuid := arrival.newUuid }, crate := arrival.crate }

/-- With the tracker behind the layer of deduplication. -/
def apiWith : OuterApi :=
  { arrival.apiAt api with
    crate := fun layer =>
      match layer with
      | .deduplication _ => deduplicationLayer api.external tracker arrival.now arrival.later
      | layer => arrival.crate layer }

/-- The client's id, or the one that is minted where there is none. -/
def requestId : Option String :=
  ((arrival.head.headers xRequestId).or (api.ids.fromStr arrival.newUuid)).bind api.external.toStr

variable (platform : Platform) (config : PipelineConfig) (paths : List String)

/-- The response of the finished service. -/
def outcome : Except Panic Response :=
  (pipeline platform api config paths).call platform (arrival.apiWith api tracker)
    arrival.handlers arrival.head

def endpoint : Endpoint :=
  (routeFor platform api config paths arrival.head.path).endpoint

/-- What the layers outside of deduplication make of the request. -/
def outside : Except Response Request :=
  admitted (Shell.layers ((arrival.apiAt api).shells (layersAround api config.withoutDeduplication
    (arrival.endpoint api platform config paths)))) { head := arrival.head }

/-- The id with which the request comes to deduplication, if it does. -/
def presented : Option String :=
  if isWithin (arrival.endpoint api platform config paths) then
    match arrival.outside api platform config paths with
    | .ok passed => api.external.headerText passed.head.headers xRequestId
    | .error _ => none
  else none

/-- The tracker after the request. -/
def mark : RequestTracker String :=
  match arrival.presented api platform config paths with
  | some requestId => (tracker.checkAndMark arrival.now arrival.later requestId).2
  | none => tracker

/-- The response of the service without deduplication. -/
def undisturbed : Except Panic Response :=
  (pipeline platform api config.withoutDeduplication paths).call platform (arrival.apiAt api)
    arrival.handlers arrival.head

/-- The response to a duplicate, after the layers outside of deduplication. -/
def refused : Except Panic Response :=
  enclose ((arrival.apiAt api).shells (layersAround api config.withoutDeduplication
    (arrival.endpoint api platform config paths))) (fun _ => .ok duplicateResponse)
    { head := arrival.head }

/-- The request gets as far as deduplication. -/
def Arrives : Prop :=
  isWithin (arrival.endpoint api platform config paths) = true ∧
    (arrival.outside api platform config paths).toOption.isSome = true

instance : Decidable (arrival.Arrives api platform config paths) :=
  inferInstanceAs (Decidable (_ ∧ _))

end Arrival

inductive TrafficEvent where
  | arrives (arrival : Arrival)
  /-- `cleanup_task` sweeps the tracker. -/
  | sweep (now : ℕ)

def TrafficEvent.readings : TrafficEvent → List ℕ
  | arrives arrival => [arrival.now, arrival.later]
  | sweep now => [now]

section Traffic

variable (platform : Platform) (api : OuterApi) (config : PipelineConfig) (paths : List String)

/-- The tracker after these requests and sweeps. -/
def trackerAfter (tracker : RequestTracker String) : List TrafficEvent → RequestTracker String
  | [] => tracker
  | .arrives arrival :: rest => trackerAfter (arrival.mark api tracker platform config paths) rest
  | .sweep now :: rest => trackerAfter (tracker.cleanupExpired now) rest

/-- One of the last `max 1 max_entries` requests that deduplication let through with a readable id
had the id of this request, less than a time-to-live ago. -/
def Arrival.Repeats (settings : HttpDeduplicationConfig) (log : List (String × ℕ))
    (arrival : Arrival) : Prop :=
  arrival.Arrives api platform config paths ∧
    ∃ requestId, arrival.requestId api = some requestId ∧
      seenWithin (max 1 settings.maxEntries) settings.ttl arrival.now requestId log = true

instance (settings : HttpDeduplicationConfig) (log : List (String × ℕ)) (arrival : Arrival) :
    Decidable (arrival.Repeats platform api config paths settings log) :=
  decidable_of_iff (arrival.Arrives api platform config paths ∧
      (arrival.requestId api).any fun requestId =>
        seenWithin (max 1 settings.maxEntries) settings.ttl arrival.now requestId log) (by
    simp only [Arrival.Repeats, Option.any_eq_true])

/-- The readable ids of the requests that deduplication let through, with the instants of their
checks. -/
def Arrival.logged (settings : HttpDeduplicationConfig) (log : List (String × ℕ))
    (arrival : Arrival) : List (String × ℕ) :=
  if arrival.Arrives api platform config paths ∧
      ¬arrival.Repeats platform api config paths settings log then
    log ++ ((arrival.requestId api).map fun requestId => (requestId, arrival.now)).toList
  else log

def letThrough (settings : HttpDeduplicationConfig) (log : List (String × ℕ)) :
    List TrafficEvent → List (String × ℕ)
  | [] => log
  | .arrives arrival :: rest =>
      letThrough settings (arrival.logged platform api config paths settings log) rest
  | .sweep _ :: rest => letThrough settings log rest

end Traffic

/-- The layers of the crates leave an id alone that stands in the request, and the request id layers
and panic recovery are as documented. -/
structure OuterApi.KeepsIds (api : OuterApi) : Prop where
  ids : api.ids.Documented api.external
  catches : api.CatchesPanics
  keeps : ∀ layer request passed, (api.crate layer).inbound request = .ok passed →
    passed.head.headers xRequestId = request.head.headers xRequestId

section Routes

variable {platform : Platform} {api : OuterApi} {config : PipelineConfig}

theorem route_routeOf (router : OuterRouter) (path : String) :
    (router.routeOf platform path).route =
      ((platform.matchRoute ((router.routes.map OuterRoute.route).map Route.pattern) path).bind
        fun position => (router.routes.map OuterRoute.route)[position]?).getD
          router.fallback.route := by
  simp only [OuterRouter.routeOf, List.map_map, Function.comp_def, List.getElem?_map]
  cases platform.matchRoute (router.routes.map fun route => route.route.pattern) path with
  | none => rfl
  | some position =>
      simp only [Option.bind_some]
      cases router.routes[position]? with
      | none => rfl
      | some route => rfl

/-- The routes do not depend on the settings of the outer layers. -/
theorem routeFor_withoutDeduplication (paths : List String) (path : String) :
    routeFor platform api config.withoutDeduplication paths path =
      routeFor platform api config paths path := by
  rcases pipeline_eq_built platform api config paths with ⟨routes, fallback⟩
  rcases pipeline_eq_built platform api config.withoutDeduplication paths with
    ⟨routesWithout, fallbackWithout⟩
  have sameConfig : config.withoutDeduplication.toConfig = config.toConfig := rfl
  rw [sameConfig] at routesWithout fallbackWithout
  rw [routeFor, routeFor, route_routeOf, route_routeOf, routes, fallback, routesWithout,
    fallbackWithout]

theorem deduplicationLayers_withoutDeduplication :
    deduplicationLayers config.withoutDeduplication = [] := by
  unfold deduplicationLayers enabledLayers
  split
  · split
    · rfl
    · rfl
  · rfl

theorem allLayers_eq_deduplication_append :
    allLayers api config =
      deduplicationLayers config ++ allLayers api config.withoutDeduplication := by
  have without := @deduplicationLayers_withoutDeduplication config
  simp only [allLayers, shapingLayers, without, List.nil_append, List.append_assoc]
  rfl

/-- Deduplication is the innermost layer around the endpoints within, and not around others. -/
theorem layersAround_eq_deduplication_append (endpoint : Endpoint) :
    layersAround api config endpoint =
      (if isWithin endpoint then deduplicationLayers config else []) ++
        layersAround api config.withoutDeduplication endpoint := by
  cases within : isWithin endpoint with
  | true =>
      rw [layersAround_of_isWithin api config within,
        layersAround_of_isWithin api config.withoutDeduplication within, if_pos rfl]
      exact allLayers_eq_deduplication_append
  | false =>
      cases endpoint with
      | directory directory =>
          have isFallback : directory.isFallback = true := by simpa [isWithin] using within
          simp [layersAround, isFallback]
      | metrics => rfl
      | readiness => rfl
      | liveness => rfl
      | user name => cases within
      | login => cases within
      | callback => cases within
      | logout => cases within
      | notFound => cases within

/-- Without deduplication no layer deduplicates. -/
theorem ne_deduplication_of_mem {endpoint : Endpoint} {layer : OuterLayer}
    (member : layer ∈ layersAround api config.withoutDeduplication endpoint)
    (settings : HttpDeduplicationConfig) : layer ≠ .deduplication settings := by
  rintro rfl
  cases within : isWithin endpoint with
  | false =>
      have outside := isOutside_of_mem (layersAround_subset within member)
      cases outside
  | true =>
      rw [layersAround_of_isWithin _ _ within] at member
      rcases mem_allLayers_cases member with deduplicates | shapes | writes | outside
      · rw [deduplicationLayers_withoutDeduplication] at deduplicates
        cases deduplicates
      · cases shapes
      · rcases writes with ⟨headers, isHelmet⟩ | ⟨name, value, isHeader⟩
        · cases isHelmet
        · cases isHeader
      · cases outside

end Routes

section Checking

variable {platform : Platform} {api : OuterApi} {config : PipelineConfig} {paths : List String}
  {arrival : Arrival} {tracker : RequestTracker String}

theorem shells_apiWith {layers : List OuterLayer}
    (others : ∀ layer ∈ layers, ∀ settings, layer ≠ .deduplication settings) :
    (arrival.apiWith api tracker).shells layers = (arrival.apiAt api).shells layers := by
  apply List.map_congr_left
  intro layer member
  cases layer with
  | deduplication settings => exact absurd rfl (others _ member settings)
  | _ => rfl

theorem shells_apiWith_layersAround (endpoint : Endpoint) :
    (arrival.apiWith api tracker).shells (layersAround api config.withoutDeduplication endpoint) =
      (arrival.apiAt api).shells (layersAround api config.withoutDeduplication endpoint) :=
  shells_apiWith fun _ member => ne_deduplication_of_mem member

theorem outcome_eq (paths : List String) :
    arrival.outcome api tracker platform config paths =
      enclose ((arrival.apiWith api tracker).shells (layersAround api config
          (arrival.endpoint api platform config paths)))
        (arrival.handlers.behind (arrival.apiAt api)
          (routeFor platform api config paths arrival.head.path))
        { head := arrival.head } := by
  rw [Arrival.outcome, OuterRouter.call, OuterRoute.call, outer_routeOf]
  rfl

theorem undisturbed_eq (paths : List String) :
    arrival.undisturbed api platform config paths =
      enclose ((arrival.apiAt api).shells (layersAround api config.withoutDeduplication
          (arrival.endpoint api platform config paths)))
        (arrival.handlers.behind (arrival.apiAt api)
          (routeFor platform api config paths arrival.head.path))
        { head := arrival.head } := by
  have sameRoute := @routeFor_withoutDeduplication platform api config paths arrival.head.path
  rw [Arrival.undisturbed, OuterRouter.call, OuterRoute.call, outer_routeOf, Arrival.endpoint,
    ← sameRoute]
  rfl

theorem carriesIds_of_isWithin {endpoint : Endpoint} (within : isWithin endpoint = true) :
    carriesIds endpoint = true := by
  cases endpoint with
  | directory directory => exact within
  | metrics => cases within
  | readiness => cases within
  | liveness => cases within
  | user name => rfl
  | login => rfl
  | callback => rfl
  | logout => rfl
  | notFound => rfl

theorem OuterApi.KeepsIds.shell_keeps {api : OuterApi} (documented : api.KeepsIds)
    {layer : OuterLayer} {request passed : Request} {value : HeaderValue}
    (lets : (api.shell layer).inbound request = .ok passed)
    (present : request.head.headers xRequestId = some value) :
    passed.head.headers xRequestId = some value := by
  cases layer with
  | setRequestId =>
      cases lets
      exact documented.ids.keeps_present _ request value present
  | propagateRequestId =>
      cases lets
      exact present
  | catchPanic =>
      rw [documented.catches.shell_catchPanic] at lets
      cases lets
      exact present
  | _ => exact (documented.keeps _ request passed lets).trans present

theorem OuterApi.KeepsIds.admitted_keeps {api : OuterApi} (documented : api.KeepsIds)
    {layers : List OuterLayer} {request passed : Request} {value : HeaderValue}
    (lets : admitted (Shell.layers (api.shells layers)) request = .ok passed)
    (present : request.head.headers xRequestId = some value) :
    passed.head.headers xRequestId = some value := by
  induction layers generalizing passed with
  | nil =>
      cases lets
      exact present
  | cons layer outer ih =>
      simp only [OuterApi.shells, Shell.layers, List.map_cons, admitted_cons_eq_ok] at lets
      rcases lets with ⟨reached, outside, inside⟩
      exact documented.shell_keeps inside (ih outside)

/-- The layers outside let in the request with the id of the client, or the minted one. -/
theorem requestId_of_outside (enabled : config.isMiddlewareEnabled .requestId = true)
    (documented : (arrival.apiAt api).KeepsIds)
    (within : isWithin (arrival.endpoint api platform config paths) = true) {passed : Request}
    (lets : arrival.outside api platform config paths = .ok passed) :
    api.external.headerText passed.head.headers xRequestId = arrival.requestId api := by
  have ids : requestIdLayers config.withoutDeduplication = [.propagateRequestId, .setRequestId] :=
    if_pos enabled
  have reached := @OuterApi.CatchesPanics.admitted_catchPanic (arrival.apiAt api)
    config.withoutDeduplication documented.catches { head := arrival.head }
  simp only [Arrival.outside, layersAround_of_carriesIds (carriesIds_of_isWithin within), ids,
    OuterApi.shells, Shell.layers, List.map_append] at lets reached
  rcases admitted_append_eq_ok.mp lets with ⟨first, outermost, rest⟩
  rw [reached, Except.ok.injEq] at outermost
  subst outermost
  rcases admitted_append_eq_ok.mp rest with ⟨identified, settles, inside⟩
  have settled : identified = identifiedRequest (arrival.apiAt api) { head := arrival.head } :=
    (Except.ok.inj settles).symm
  rcases documented.ids.newUuid_header with ⟨minted, isMinted, -⟩
  have header : identified.head.headers xRequestId =
      (arrival.head.headers xRequestId).or ((arrival.apiAt api).ids.fromStr
        (arrival.apiAt api).ids.newUuid) := by
    rw [settled]
    exact setRequestId_header documented.ids { head := arrival.head }
  obtain ⟨value, present⟩ : ∃ value, (arrival.head.headers xRequestId).or
      ((arrival.apiAt api).ids.fromStr (arrival.apiAt api).ids.newUuid) = some value := by
    rw [isMinted]
    cases arrival.head.headers xRequestId with
    | none => exact ⟨minted, rfl⟩
    | some sent => exact ⟨sent, rfl⟩
  have kept := documented.admitted_keeps inside (header.trans present)
  rw [External.headerText, kept, Arrival.requestId, ← present]
  rfl

/-- What comes to deduplication is the request's id. -/
theorem presented_eq (enabled : config.isMiddlewareEnabled .requestId = true)
    (documented : (arrival.apiAt api).KeepsIds) :
    arrival.presented api platform config paths =
      if arrival.Arrives api platform config paths then arrival.requestId api else none := by
  unfold Arrival.presented
  cases within : isWithin (arrival.endpoint api platform config paths) with
  | false =>
      have stays : ¬arrival.Arrives api platform config paths := by
        simp [Arrival.Arrives, within]
      rw [if_neg stays]
      rfl
  | true =>
      cases lets : arrival.outside api platform config paths with
      | error response =>
          have stays : ¬arrival.Arrives api platform config paths := by
            simp [Arrival.Arrives, lets, Except.toOption]
          rw [if_neg stays]
          rfl
      | ok passed =>
          have arrives : arrival.Arrives api platform config paths := by
            simp [Arrival.Arrives, within, lets, Except.toOption]
          rw [if_pos arrives]
          exact requestId_of_outside enabled documented within lets

theorem wrap_deduplication (settings : HttpDeduplicationConfig)
    (service : Request → Except Panic Response) (request : Request) :
    ((arrival.apiWith api tracker).shell (.deduplication settings)).wrap service request =
      if (api.external.headerText request.head.headers xRequestId).any fun requestId =>
          (tracker.checkAndMark arrival.now arrival.later requestId).1 then
        .ok duplicateResponse
      else service request := by
  simp only [Shell.wrap, OuterApi.shell, Arrival.apiWith, deduplicationLayer]
  cases api.external.headerText request.head.headers xRequestId with
  | none =>
      simp only [Option.any_none, Bool.false_eq_true, if_false]
      cases service request with
      | ok response => rfl
      | error panic => rfl
  | some requestId =>
      simp only [Option.any_some]
      by_cases seen : (tracker.checkAndMark arrival.now arrival.later requestId).1 = true
      · simp only [if_pos seen]
      · simp only [if_neg seen]
        cases service request with
        | ok response => rfl
        | error panic => rfl

/-- The response depends on the check of the id that comes to deduplication, if one does. -/
theorem outcome_of_presented {settings : HttpDeduplicationConfig}
    (layer : deduplicationLayers config = [.deduplication settings]) :
    arrival.outcome api tracker platform config paths =
      if (arrival.presented api platform config paths).any fun requestId =>
          (tracker.checkAndMark arrival.now arrival.later requestId).1 then
        arrival.refused api platform config paths
      else arrival.undisturbed api platform config paths := by
  rw [outcome_eq, undisturbed_eq, layersAround_eq_deduplication_append, OuterApi.shells,
    List.map_append, enclose_append]
  have outer := @shells_apiWith_layersAround api config arrival tracker
    (arrival.endpoint api platform config paths)
  rw [OuterApi.shells] at outer
  rw [outer]
  cases within : isWithin (arrival.endpoint api platform config paths) with
  | false => simp [Arrival.presented, within]
  | true =>
      rw [if_pos rfl, layer, List.map_singleton, enclose_cons, enclose_nil]
      cases lets : arrival.outside api platform config paths with
      | error response =>
          have unchecked : arrival.presented api platform config paths = none := by
            simp only [Arrival.presented, within, lets, if_true]
          rw [unchecked, Option.any_none, if_neg Bool.false_ne_true]
          apply enclose_congr
          intro passed gets
          rw [Arrival.outside, gets] at lets
          cases lets
      | ok passed =>
          have checked : arrival.presented api platform config paths =
              api.external.headerText passed.head.headers xRequestId := by
            simp only [Arrival.presented, within, lets, if_true]
          rw [checked]
          split
          · rename_i seen
            apply enclose_congr
            intro other gets
            rw [Arrival.outside, gets, Except.ok.injEq] at lets
            rw [wrap_deduplication, lets, if_pos seen]
          · rename_i unseen
            apply enclose_congr
            intro other gets
            rw [Arrival.outside, gets, Except.ok.injEq] at lets
            rw [wrap_deduplication, lets, if_neg unseen]

end Checking

section Runs

variable {platform : Platform} {api : OuterApi} {config : PipelineConfig} {paths : List String}
  {settings : HttpDeduplicationConfig} {log : List (String × ℕ)} {now : ℕ}
  {tracker : RequestTracker String} {arrival : Arrival}

/-- The tracker of this configuration remembers the window of the log. -/
structure Tracked (settings : HttpDeduplicationConfig) (log : List (String × ℕ)) (now : ℕ)
    (tracker : RequestTracker String) : Prop where
  follows : Follows log now tracker
  ttl : tracker.ttl = settings.ttl
  maxEntries : tracker.maxEntries = settings.maxEntries

theorem Tracked.later (tracked : Tracked settings log now tracker) {later : ℕ}
    (ordered : now ≤ later) : Tracked settings log later tracker :=
  ⟨tracked.follows.later ordered, tracked.ttl, tracked.maxEntries⟩

/-- The check of the id that is presented tells whether the request repeats one of the window. -/
theorem Tracked.repeats_iff (tracked : Tracked settings log arrival.now tracker)
    (presented : arrival.presented api platform config paths =
      if arrival.Arrives api platform config paths then arrival.requestId api else none) :
    ((arrival.presented api platform config paths).any fun requestId =>
        (tracker.checkAndMark arrival.now arrival.later requestId).1) = true ↔
      arrival.Repeats platform api config paths settings log := by
  have answer := fun requestId => tracked.follows.checkAndMark_fst arrival.later requestId
  simp only [tracked.ttl, tracked.maxEntries] at answer
  simp only [presented, answer, Option.any_eq_true, Arrival.Repeats]
  split
  · rename_i arrives
    simp [arrives]
  · rename_i stays
    simp [stays]

theorem Tracked.mark (tracked : Tracked settings log arrival.now tracker)
    (ordered : arrival.now ≤ arrival.later) (few : log.length + 1 < 2 ^ 64)
    (presented : arrival.presented api platform config paths =
      if arrival.Arrives api platform config paths then arrival.requestId api else none) :
    Tracked settings (arrival.logged platform api config paths settings log) arrival.later
      (arrival.mark api tracker platform config paths) := by
  unfold Arrival.mark Arrival.logged
  rw [presented]
  by_cases arrives : arrival.Arrives api platform config paths
  · rw [if_pos arrives]
    cases id : arrival.requestId api with
    | none =>
        simp only [Option.map_none, Option.toList_none, List.append_nil, ite_self]
        exact tracked.later ordered
    | some requestId =>
        have checked := tracked.follows.checkAndMark ordered requestId fun _ => few
        rw [tracked.ttl, tracked.maxEntries] at checked
        refine ⟨?_, ?_, ?_⟩
        · cases seen : seenWithin (max 1 settings.maxEntries) settings.ttl arrival.now requestId
              log with
          | true =>
              have repeated : arrival.Repeats platform api config paths settings log :=
                ⟨arrives, requestId, id, seen⟩
              rw [if_neg fun fresh => fresh.2 repeated]
              simpa only [seen, if_true] using checked
          | false =>
              have fresh : ¬arrival.Repeats platform api config paths settings log := by
                rintro ⟨-, other, isId, isSeen⟩
                rw [id, Option.some.injEq] at isId
                rw [← isId, seen] at isSeen
                cases isSeen
              rw [if_pos ⟨arrives, fresh⟩]
              simpa only [seen, Bool.false_eq_true, if_false, Option.map_some,
                Option.toList_some] using checked
        · simp only [ttl_checkAndMark, tracked.ttl]
        · simp only [maxEntries_checkAndMark, tracked.maxEntries]
  · rw [if_neg arrives, if_neg fun fresh => arrives fresh.1]
    exact tracked.later ordered

theorem length_logged_le : (arrival.logged platform api config paths settings log).length ≤
    log.length + 1 := by
  unfold Arrival.logged
  split
  · rw [List.length_append]
    cases arrival.requestId api with
    | none => simp
    | some requestId => simp
  · exact Nat.le_succ _

/-- The tracker follows the log along every run of requests and sweeps. -/
theorem Tracked.run {events : List TrafficEvent} (tracked : Tracked settings log now tracker)
    (presented : ∀ arrival, .arrives arrival ∈ events →
      arrival.presented api platform config paths =
        if arrival.Arrives api platform config paths then arrival.requestId api else none)
    (clock : (now :: events.flatMap TrafficEvent.readings).Pairwise (· ≤ ·))
    (few : log.length + events.length < 2 ^ 64) {time : ℕ}
    (after : ∀ reading ∈ now :: events.flatMap TrafficEvent.readings, reading ≤ time) :
    Tracked settings (letThrough platform api config paths settings log events) time
      (trackerAfter platform api config paths tracker events) := by
  induction events generalizing log now tracker with
  | nil => exact tracked.later (after now List.mem_cons_self)
  | cons event rest ih =>
      have presentedRest : ∀ arrival, .arrives arrival ∈ rest →
          arrival.presented api platform config paths =
            if arrival.Arrives api platform config paths then arrival.requestId api else none :=
        fun arrival member => presented arrival (List.mem_cons_of_mem _ member)
      cases event with
      | sweep reading =>
          simp only [List.flatMap_cons, TrafficEvent.readings, List.singleton_append,
            List.length_cons] at clock after few
          rcases List.pairwise_cons.mp clock with ⟨ordered, clockRest⟩
          have now := tracked.later (ordered reading List.mem_cons_self)
          exact ih ⟨now.follows.cleanupExpired, now.ttl, now.maxEntries⟩ presentedRest clockRest
            (by omega) fun other member => after other (List.mem_cons_of_mem _ member)
      | arrives arrival =>
          simp only [List.flatMap_cons, TrafficEvent.readings, List.cons_append, List.nil_append,
            List.length_cons] at clock after few
          rcases List.pairwise_cons.mp clock with ⟨ordered, clockNow⟩
          rcases List.pairwise_cons.mp clockNow with ⟨orderedLater, clockRest⟩
          have now := tracked.later (ordered arrival.now List.mem_cons_self)
          have marked := now.mark (orderedLater arrival.later List.mem_cons_self) (by omega)
            (presented arrival List.mem_cons_self)
          have longer := @length_logged_le platform api config paths settings log arrival
          exact ih marked presentedRest clockRest (by omega)
            fun other member => after other (List.mem_cons_of_mem _ (List.mem_cons_of_mem _ member))

end Runs

/-- In every run of requests that are checked one after another, with sweeps in between, a request
that comes as far as deduplication is refused exactly when one of the last `max 1 max_entries`
requests that were let through with a readable id had its id less than a time-to-live ago.  Any
other request is answered as if there were no deduplication: those to the probe routes and the
fallback directory, those that a layer further out answers, and those whose id is no text. -/
theorem duplicates_refused (platform : Platform) (api : OuterApi) (config : PipelineConfig)
    (paths : List String) {settings : HttpDeduplicationConfig}
    (configured : config.deduplication = some settings)
    (enabled : config.isMiddlewareEnabled .requestDeduplication = true)
    (enabledIds : config.isMiddlewareEnabled .requestId = true) {events : List TrafficEvent}
    (documented : ∀ arrival, .arrives arrival ∈ events → (arrival.apiAt api).KeepsIds)
    (clock : (events.flatMap TrafficEvent.readings).Pairwise (· ≤ ·))
    (few : events.length < 2 ^ 64) :
    ∀ before arrival rest, events = before ++ .arrives arrival :: rest →
      arrival.outcome api
          (trackerAfter platform api config paths (.new settings.ttl settings.maxEntries) before)
          platform config paths =
        if arrival.Repeats platform api config paths settings
            (letThrough platform api config paths settings [] before) then
          arrival.refused api platform config paths
        else arrival.undisturbed api platform config paths := by
  rintro before arrival rest rfl
  have presented : ∀ other, .arrives other ∈ before ++ .arrives arrival :: rest →
      other.presented api platform config paths =
        if other.Arrives api platform config paths then other.requestId api else none :=
    fun other member => presented_eq enabledIds (documented other member)
  have layer : deduplicationLayers config = [.deduplication settings] := by
    simp only [deduplicationLayers, enabledLayers, enabled, enabledIds, configured, if_true]
    rfl
  rw [List.flatMap_append, List.flatMap_cons, List.pairwise_append] at clock
  rcases clock with ⟨clockBefore, -, across⟩
  have fromZero : (0 :: before.flatMap TrafficEvent.readings).Pairwise (· ≤ ·) :=
    List.pairwise_cons.mpr ⟨fun reading _ => Nat.zero_le reading, clockBefore⟩
  have started : Tracked settings [] 0 (.new settings.ttl settings.maxEntries) :=
    ⟨.new settings.ttl settings.maxEntries, rfl, rfl⟩
  have fewer : ([] : List (String × ℕ)).length + before.length < 2 ^ 64 := by
    rw [List.length_append] at few
    rw [List.length_nil]
    omega
  have tracked : Tracked settings (letThrough platform api config paths settings [] before)
      arrival.now (trackerAfter platform api config paths
        (.new settings.ttl settings.maxEntries) before) := by
    apply started.run (fun other member => presented other (List.mem_append_left _ member))
      fromZero fewer
    intro reading member
    rcases List.mem_cons.mp member with rfl | earlier
    · exact Nat.zero_le _
    · exact across reading earlier arrival.now
        (List.mem_append_left _ List.mem_cons_self)
  rw [outcome_of_presented layer]
  have repeats := tracked.repeats_iff
    (presented arrival (List.mem_append_right _ List.mem_cons_self))
  by_cases repeated : arrival.Repeats platform api config paths settings
      (letThrough platform api config paths settings [] before)
  · rw [if_pos (repeats.mpr repeated), if_pos repeated]
  · rw [if_neg fun seen => repeated (repeats.mp seen), if_neg repeated]

def dedupConfig : PipelineConfig where
  deduplication := some {}

/-- A request to a route that panics. -/
def boomArrival (now : ℕ) : Arrival where
  head :=
    { path := "/boom"
      pathAndQuery := some "/boom"
      headers := fun name => if name = xRequestId then some (HeaderValue.ofText "order-7") else none
      peerIp := none }
  now := now
  later := now + 1
  newUuid := visibleRequestIds.newUuid
  crate := unlimitedApi.crate
  handlers := boomHandlers

theorem boomArrival_keepsIds (now : ℕ) : ((boomArrival now).apiAt unlimitedApi).KeepsIds where
  ids := visibleRequestIds_documented
  catches := unlimitedApi_documented.catches
  keeps := by
    intro layer request passed lets
    cases lets
    rfl

/-- The panic of the first request does not spare the second its refusal. -/
theorem duplicates_refused_boom :
    (boomArrival 30).outcome unlimitedApi
        (trackerAfter subjectlessPlatform unlimitedApi dedupConfig ["/boom"]
          (.new (60 * 10 ^ 9) 10000) [.arrives (boomArrival 10), .sweep 20]) subjectlessPlatform
        dedupConfig ["/boom"] =
      (boomArrival 30).refused unlimitedApi subjectlessPlatform dedupConfig ["/boom"] := by
  have repeated : (boomArrival 30).Repeats subjectlessPlatform unlimitedApi dedupConfig ["/boom"] {}
      (letThrough subjectlessPlatform unlimitedApi dedupConfig ["/boom"] {} []
        [.arrives (boomArrival 10), .sweep 20]) := by
    decide +kernel
  have documented : ∀ other, .arrives other ∈
      [TrafficEvent.arrives (boomArrival 10), .sweep 20, .arrives (boomArrival 30)] →
      (other.apiAt unlimitedApi).KeepsIds := by
    intro other member
    simp only [List.mem_cons, List.not_mem_nil, or_false, reduceCtorEq, false_or,
      TrafficEvent.arrives.injEq] at member
    rcases member with rfl | rfl
    · exact boomArrival_keepsIds 10
    · exact boomArrival_keepsIds 30
  have answer := duplicates_refused subjectlessPlatform unlimitedApi dedupConfig ["/boom"] rfl
    (by decide) (by decide) documented (by decide) (by decide)
    [.arrives (boomArrival 10), .sweep 20] (boomArrival 30) [] rfl
  exact answer.trans (if_pos repeated)

end AxumConf.Fluent
