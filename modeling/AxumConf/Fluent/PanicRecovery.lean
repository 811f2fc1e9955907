import AxumConf.Fluent.ResponseHeaders

/-!
# Which panics get out

`setup_catch_panic` adds the outermost layer, and the fallback directory is mounted after it.
-/

namespace AxumConf.Fluent

open Tower

section Recovery

variable {platform : Platform} {api : OuterApi} {config : PipelineConfig} {handlers : Handlers}

def isFallbackDirectory : Endpoint → Bool
  | .directory directory => directory.isFallback
  | _ => false

theorem OuterApi.CatchesPanics.rescue_eq_none_iff (catches : api.CatchesPanics)
    {layer : OuterLayer} {panic : Panic} :
    (api.shell layer).rescue panic = none ↔ layer ≠ .catchPanic := by
  cases layer with
  | catchPanic => simp [OuterApi.shell, catches.rescues]
  | _ => simp [OuterApi.shell]

theorem catchPanic_notMem_enabled {middleware : HttpMiddleware} {layers : List OuterLayer}
    (absent : .catchPanic ∉ layers) : .catchPanic ∉ enabledLayers config middleware layers :=
  fun member => absent (mem_enabledLayers member).2

theorem catchPanic_mem_catchPanicLayers :
    .catchPanic ∈ catchPanicLayers config ↔ config.isMiddlewareEnabled .catchPanic = true := by
  constructor
  · intro member
    exact (mem_enabledLayers member).1
  · intro enabled
    simp [catchPanicLayers, enabledLayers, enabled]

theorem catchPanic_notMem_shaping : .catchPanic ∉ shapingLayers api config := by
  intro member
  rcases isShaping_of_mem member with deduplicates | shapes
  · have listed := (mem_enabledLayers (mem_enabledLayers deduplicates).2).2
    simp at listed
  · cases shapes

theorem catchPanic_notMem_helmet : .catchPanic ∉ helmetLayers api config := by
  intro member
  rcases helmetLayers_write _ member with ⟨headers, isHelmet⟩ | ⟨name, value, isHeader⟩
  · cases isHelmet
  · cases isHeader

theorem catchPanic_notMem_observing :
    .catchPanic ∉ loggingLayers config ++ metricsLayers config ++ limitingLayers config ++
      requestIdLayers config := by
  simp only [limitingLayers, List.mem_append, not_or]
  refine ⟨⟨⟨?_, ?_⟩, ?_, ?_⟩, ?_⟩
  · exact catchPanic_notMem_enabled (by simp)
  · unfold metricsLayers
    split
    · exact catchPanic_notMem_enabled (by simp)
    · simp
  · exact catchPanic_notMem_enabled (by simp)
  · unfold rateLimitingLayers
    split
    · exact catchPanic_notMem_enabled (by simp)
    · simp
  · exact catchPanic_notMem_enabled (by simp)

theorem catchPanic_mem_layersAround {endpoint : Endpoint} :
    .catchPanic ∈ layersAround api config endpoint ↔
      config.isMiddlewareEnabled .catchPanic = true ∧ isFallbackDirectory endpoint = false := by
  have shaping := @catchPanic_notMem_shaping api config
  have helmet := @catchPanic_notMem_helmet api config
  have observing := @catchPanic_notMem_observing config
  have last := @catchPanic_mem_catchPanicLayers config
  simp only [List.mem_append, not_or] at observing
  rcases observing with ⟨⟨⟨logging, metrics⟩, limiting⟩, ids⟩
  have around : .catchPanic ∈ allLayers api config ↔
      config.isMiddlewareEnabled .catchPanic = true := by
    simp only [allLayers, List.mem_append, shaping, helmet, logging, metrics, limiting, ids,
      false_or, last]
  cases endpoint with
  | directory directory =>
      cases isFallback : directory.isFallback with
      | true => simp [layersAround, isFallbackDirectory, isFallback]
      | false => simp [layersAround, isFallbackDirectory, isFallback, around]
  | metrics => simp [layersAround, isFallbackDirectory, metrics, limiting, ids, last]
  | readiness => simp [layersAround, isFallbackDirectory, limiting, ids, last]
  | liveness => simp [layersAround, isFallbackDirectory, last]
  | user name => simp [layersAround, isFallbackDirectory, around]
  | login => simp [layersAround, isFallbackDirectory, around]
  | callback => simp [layersAround, isFallbackDirectory, around]
  | logout => simp [layersAround, isFallbackDirectory, around]
  | notFound => simp [layersAround, isFallbackDirectory, around]

end Recovery

/-- A panic gets out of the service exactly when the request gets to what panics and panic recovery
is disabled or does not reach there, as it does not reach the fallback directory. -/
theorem panic_escapes_iff (platform : Platform) (api : OuterApi) (config : PipelineConfig)
    (handlers : Handlers) (catches : api.CatchesPanics) (paths : List String) (head : RequestHead)
    (panic : Panic) :
    (pipeline platform api config paths).call platform api handlers head = .error panic ↔
      (∃ passed,
        admitted (Shell.layers (api.shells (layersAround api config
          (routeFor platform api config paths head.path).endpoint))) { head } = .ok passed ∧
        handlers.behind api (routeFor platform api config paths head.path) passed = .error panic) ∧
      (config.isMiddlewareEnabled .catchPanic = false ∨
        isFallbackDirectory (routeFor platform api config paths head.path).endpoint = true) := by
  rw [call_eq, enclose_eq_error_iff]
  refine and_congr Iff.rfl ?_
  have loose : (∀ shell ∈ api.shells (layersAround api config
      (routeFor platform api config paths head.path).endpoint), shell.rescue panic = none) ↔
      .catchPanic ∉ layersAround api config
        (routeFor platform api config paths head.path).endpoint := by
    simp only [OuterApi.shells, List.forall_mem_map, catches.rescue_eq_none_iff]
    constructor
    · intro every member
      exact every .catchPanic member rfl
    · rintro absent layer member rfl
      exact absent member
  rw [loose, catchPanic_mem_layersAround, Classical.not_and_iff_not_or_not]
  simp

def looseConfig : PipelineConfig where
  http := { middleware := some (.exclude [.catchPanic]) }

/-- The panic of a handler ends the connection when panic recovery is disabled. -/
theorem panic_escapes_iff_boom :
    (pipeline subjectlessPlatform unlimitedApi looseConfig ["/boom"]).call subjectlessPlatform
      unlimitedApi boomHandlers boomHead = .error (.str "boom") := by
  refine (panic_escapes_iff subjectlessPlatform unlimitedApi looseConfig boomHandlers
    unlimitedApi_documented.catches ["/boom"] boomHead (.str "boom")).mpr ⟨?_, .inl (by decide)⟩
  exact ⟨identifiedRequest unlimitedApi { head := boomHead }, rfl, rfl⟩

end AxumConf.Fluent
