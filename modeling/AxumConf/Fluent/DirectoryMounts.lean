import AxumConf.Fluent.RouteCoverage

/-!
# Where the static directories are mounted

A route entry is mounted under its path, before or after the authentication layers as it is
protected or public. A fallback entry becomes the fallback of the router whether it is enabled or
not.
-/

namespace AxumConf.Fluent

open Auth Tower

/-- The mount that an entry of the given class asks for. -/
def entryMount (isProtected : Bool) (directory : StaticDirConfig) :
    Option (RoutePattern × StaticDirConfig) :=
  match directory.route with
  | .route path =>
      if directory.isProtected = isProtected then some (.nested path, directory) else none
  | .fallback _ => none

def entryMounts (config : Config) (isProtected : Bool) : List (RoutePattern × StaticDirConfig) :=
  config.http.directories.filterMap (entryMount isProtected)

def endpointDirectory : Endpoint → Option StaticDirConfig
  | .directory directory => some directory
  | _ => none

def routeMount (route : Route) : Option (RoutePattern × StaticDirConfig) :=
  (endpointDirectory route.endpoint).map fun directory => (route.pattern, directory)

/-- The router has each route entry once and in its class, and the enabled fallback entry and no
other directory as its fallback. -/
structure MountsDirectories (platform : Platform) (config : Config) (final : FluentRouter) :
    Prop where
  classes : ∃ inner outer, final.routes = inner ++ outer ∧
    inner.filterMap routeMount = entryMounts config true ∧
    outer.filterMap routeMount = entryMounts config false ∧
    (∀ route ∈ inner,
      route.layers = insideLayers.flatMap (AddedLayer.middleware platform config)) ∧
    ∀ route ∈ outer, (routeMount route).isSome = true →
      route.layers = outsideLayers.flatMap (AddedLayer.middleware platform config)
  fallback : ∀ directory, endpointDirectory final.fallback.endpoint = some directory ↔
    directory ∈ config.http.directories ∧ directory.route = .fallback true

section Mounted

variable {platform : Platform} {config : Config} {paths : List String}

theorem filterMap_within (added : List AddedLayer) (routes : List Route) :
    (routes.map fun route => route.within platform config added).filterMap routeMount =
      routes.filterMap routeMount := by
  rw [List.filterMap_map]
  rfl

theorem filterMap_directoryRoutes (isProtected : Bool) :
    (directoryRoutes config isProtected).filterMap routeMount = entryMounts config isProtected := by
  unfold directoryRoutes entryMounts
  rw [List.filterMap_filterMap]
  congr 1
  funext directory
  unfold directoryRoute entryMount
  cases directory.route with
  | route path =>
      by_cases same : directory.isProtected = isProtected
      · simp [same, routeMount, endpointDirectory]
      · simp [same]
  | fallback enabled => rfl

theorem routeMount_probe {enabled : Bool} {path : String} {endpoint : Endpoint}
    (elsewhere : endpointDirectory endpoint = none) :
    (if enabled then [({ pattern := .exact path, endpoint } : Route)] else []).filterMap
      routeMount = [] := by
  cases enabled with
  | false => rfl
  | true => simp [routeMount, elsewhere]

theorem filterMap_probeRoutes : (probeRoutes config).filterMap routeMount = [] := by
  simp only [probeRoutes, List.filterMap_append, metricsRoutes, readinessRoutes, livenessRoutes]
  rw [routeMount_probe rfl, routeMount_probe rfl, routeMount_probe rfl]
  rfl

theorem filterMap_codeFlowRoutes : (codeFlowRoutes config).filterMap routeMount = [] := by
  unfold codeFlowRoutes
  split
  · split
    · rfl
    · rfl
  · rfl

theorem filterMap_userRoutes :
    (withUserRoutes config paths).routes.filterMap routeMount = [] := by
  simp [withUserRoutes, routeMount, endpointDirectory, List.filterMap_map, Function.comp_def]

theorem eq_of_length_le_one {Item : Type} {items : List Item} (single : items.length ≤ 1)
    {first second : Item} (isFirst : first ∈ items) (isSecond : second ∈ items) :
    first = second := by
  cases items with
  | nil => cases isFirst
  | cons item rest =>
      have isEmpty : rest = [] := by
        apply List.eq_nil_of_length_eq_zero
        rw [List.length_cons] at single
        omega
      rw [isEmpty, List.mem_singleton] at isFirst isSecond
      rw [isFirst, isSecond]

/-- Two fallback entries are not accepted. -/
theorem fallback_unique (accepted : config.http.validate = .ok ())
    {first second : StaticDirConfig} (isFirst : first ∈ config.http.directories)
    (isSecond : second ∈ config.http.directories) (fallbackFirst : first.isFallback = true)
    (fallbackSecond : second.isFallback = true) : first = second := by
  have single : (config.http.directories.filter StaticDirConfig.isFallback).length ≤ 1 := by
    simp only [HttpConfig.validate, checked_bind_ok, rejectIf_ok, decide_eq_false_iff_not]
      at accepted
    omega
  exact eq_of_length_le_one single (List.mem_filter.mpr ⟨isFirst, fallbackFirst⟩)
    (List.mem_filter.mpr ⟨isSecond, fallbackSecond⟩)

theorem isFallback_of_route {directory : StaticDirConfig} {enabled : Bool}
    (isRoute : directory.route = .fallback enabled) : directory.isFallback = true := by
  simp [StaticDirConfig.isFallback, isRoute]

theorem layers_directoryRoutes {isProtected : Bool} {route : Route}
    (member : route ∈ directoryRoutes config isProtected) : route.layers = [] := by
  rcases List.mem_filterMap.mp member with ⟨directory, -, registers⟩
  unfold directoryRoute at registers
  split at registers
  · split at registers
    · cases registers
      rfl
    · cases registers
  · cases registers

theorem layers_codeFlowRoutes {route : Route} (member : route ∈ codeFlowRoutes config) :
    route.layers = [] := by
  unfold codeFlowRoutes at member
  split at member
  · split at member
    · simp only [List.mem_cons, List.not_mem_nil, or_false] at member
      rcases member with rfl | rfl | rfl
      · rfl
      · rfl
      · rfl
    · cases member
  · cases member

theorem layers_userRoutes {route : Route} (member : route ∈ (withUserRoutes config paths).routes) :
    route.layers = [] := by
  rcases List.mem_map.mp member with ⟨path, -, rfl⟩
  rfl

theorem layers_within {routes : List Route} {added : List AddedLayer} {route : Route}
    (bare : ∀ registered ∈ routes, registered.layers = [])
    (member : route ∈ routes.map fun registered => registered.within platform config added) :
    route.layers = added.flatMap (AddedLayer.middleware platform config) := by
  rcases List.mem_map.mp member with ⟨registered, isRegistered, rfl⟩
  rw [Route.within, Route.wrap, bare registered isRegistered, List.nil_append]

/-- The directories of a router that was built, whatever its fallback entry says. -/
theorem classes_built (platform : Platform) (config : Config) (paths : List String) :
    ∃ inner outer, ((withUserRoutes config paths).built platform).routes = inner ++ outer ∧
      inner.filterMap routeMount = entryMounts config true ∧
      outer.filterMap routeMount = entryMounts config false ∧
      (∀ route ∈ inner,
        route.layers = insideLayers.flatMap (AddedLayer.middleware platform config)) ∧
      ∀ route ∈ outer, (routeMount route).isSome = true →
        route.layers = outsideLayers.flatMap (AddedLayer.middleware platform config) := by
  refine ⟨((withUserRoutes config paths).routes ++ directoryRoutes config true).map fun route =>
      route.within platform config insideLayers,
    ((directoryRoutes config false ++ codeFlowRoutes config).map fun route =>
      route.within platform config outsideLayers) ++ probeRoutes config, ?_, ?_, ?_, ?_, ?_⟩
  · rw [FluentRouter.routes_built, List.append_assoc]
    rfl
  · rw [filterMap_within, List.filterMap_append, filterMap_userRoutes,
      filterMap_directoryRoutes, List.nil_append]
  · rw [List.filterMap_append, filterMap_within, List.filterMap_append,
      filterMap_directoryRoutes, filterMap_codeFlowRoutes, filterMap_probeRoutes,
      List.append_nil, List.append_nil]
  · intro route member
    refine layers_within ?_ member
    intro registered isRegistered
    rcases List.mem_append.mp isRegistered with ofUser | ofDirectory
    · exact layers_userRoutes ofUser
    · exact layers_directoryRoutes ofDirectory
  · intro route member isMount
    rcases List.mem_append.mp member with outside | probe
    · refine layers_within ?_ outside
      intro registered isRegistered
      rcases List.mem_append.mp isRegistered with ofDirectory | ofFlow
      · exact layers_directoryRoutes ofDirectory
      · exact layers_codeFlowRoutes ofFlow
    · rw [List.filterMap_eq_nil_iff.mp filterMap_probeRoutes route probe] at isMount
      cases isMount

theorem endpoint_fallback_built (platform : Platform) (accepted : config.http.validate = .ok ())
    (enabled : ∀ directory ∈ config.http.directories, directory.route ≠ .fallback false)
    (directory : StaticDirConfig) :
    endpointDirectory ((withUserRoutes config paths).built platform).fallback.endpoint =
        some directory ↔
      directory ∈ config.http.directories ∧ directory.route = .fallback true := by
  cases found : config.http.directories.find? StaticDirConfig.isFallback with
  | some entry =>
      have isEntry := List.mem_of_find?_eq_some found
      have isFallback := List.find?_some found
      rw [FluentRouter.fallback_built_of_some platform _ found]
      simp only [endpointDirectory, Option.some.injEq]
      constructor
      · rintro rfl
        refine ⟨isEntry, ?_⟩
        cases route : entry.route with
        | route path => simp [StaticDirConfig.isFallback, route] at isFallback
        | fallback isEnabled =>
            cases isEnabled with
            | true => rfl
            | false => exact absurd route (enabled entry isEntry)
      · rintro ⟨member, route⟩
        exact fallback_unique accepted isEntry member isFallback (isFallback_of_route route)
  | none =>
      rw [FluentRouter.fallback_built_of_none platform _ found]
      constructor
      · intro isDirectory
        cases isDirectory
      · rintro ⟨member, route⟩
        exact absurd (isFallback_of_route route) (List.find?_eq_none.mp found directory member)

/-- A fallback entry that is not enabled takes the fallback all the same. -/
theorem enabled_of_mounts {platform : Platform} (accepted : config.http.validate = .ok ())
    (mounts : MountsDirectories platform config ((withUserRoutes config paths).built platform)) :
    ∀ directory ∈ config.http.directories, directory.route ≠ .fallback false := by
  intro directory member disabled
  have isFallback := isFallback_of_route disabled
  cases found : config.http.directories.find? StaticDirConfig.isFallback with
  | some entry =>
      have served := mounts.fallback entry
      rw [FluentRouter.fallback_built_of_some platform _ found] at served
      have enabled := (served.mp rfl).2
      have same : entry = directory := fallback_unique accepted (List.mem_of_find?_eq_some found)
        member (List.find?_some found) isFallback
      rw [same, disabled] at enabled
      cases enabled
  | none => exact absurd isFallback (List.find?_eq_none.mp found directory member)

end Mounted

section Builds

variable {Layer HeaderValue : Type}

/-- Whatever the calls that leave the process return, building does not panic, and the router that
it returns has the directories where they belong. -/
def BuildsMounts (crates : Crates Layer HeaderValue) (platform : Platform) (config : Config)
    (paths : List String) : Prop :=
  ∀ startup, ((withUserRoutes config paths).trySetupMiddleware crates platform startup).Ensures
    (MountsDirectories platform config) fun _ => True

/-- Every build mounts the directories as they are configured exactly where the settings are sound
and no entry is a fallback that is not enabled. -/
theorem buildsMounts_iff (crates : Crates Layer HeaderValue) (platform : Platform)
    (config : Config) (paths : List String) (documented : crates.Documented)
    (accepted : config.http.validate = .ok ()) :
    BuildsMounts crates platform config paths ↔
      BesideFramework crates (withUserRoutes config paths) ∧
        Sound crates (withUserRoutes config paths) ∧
        ∀ directory ∈ config.http.directories, directory.route ≠ .fallback false := by
  constructor
  · intro builds
    have survives : BuildsWithoutPanic crates platform (withUserRoutes config paths) := by
      intro startup panics
      have ensured := builds startup
      rw [panics] at ensured
      exact ensured
    rcases steps_of_buildsWithoutPanic documented survives with ⟨fits, -⟩
    have beside : BesideFramework crates (withUserRoutes config paths) := fits.beside
    have sound := Sound.of_buildsWithoutPanic documented beside survives
    refine ⟨beside, sound, ?_⟩
    have done := @trySetupMiddleware_eq_done _ _ crates platform {} _ documented beside sound
      (by simp [Startup.Fails, Startup.fetchKeys, Startup.discover, Startup.openStore])
    have ensured := builds {}
    rw [done] at ensured
    exact enabled_of_mounts accepted ensured
  · rintro ⟨beside, sound, enabled⟩ startup
    have ensured := @Sound.ensures _ _ _ platform startup _ sound documented beside
    refine ensured.mono ?_ fun _ _ => trivial
    rintro _ rfl
    exact ⟨classes_built platform config paths, endpoint_fallback_built platform accepted enabled⟩

theorem buildsMounts_reports :
    BuildsMounts plainCrates subjectlessPlatform reportsConfig ["/users"] ↔
      BesideFramework plainCrates (withUserRoutes reportsConfig ["/users"]) ∧
        Sound plainCrates (withUserRoutes reportsConfig ["/users"]) ∧
        ∀ directory ∈ reportsConfig.http.directories, directory.route ≠ .fallback false :=
  buildsMounts_iff plainCrates subjectlessPlatform reportsConfig ["/users"] plainCrates_documented
    (by decide +kernel)

/-- A directory that is no fallback. -/
def unmountedDirectory : StaticDirConfig where
  directory := "dist"
  route := .fallback false

def unmountedConfig : Config where
  http := { directories := [unmountedDirectory] }

/-- The router answers every other path from the directory that is no fallback. -/
theorem unmountedDirectory_served :
    unmountedConfig.http.validate = .ok () ∧
      ∃ final, (withUserRoutes unmountedConfig ["/users"]).trySetupMiddleware plainCrates
          subjectlessPlatform {} = .done final ∧
        endpointDirectory final.fallback.endpoint = some unmountedDirectory ∧
        ¬MountsDirectories subjectlessPlatform unmountedConfig final := by
  refine ⟨by decide +kernel, _, rfl, rfl, ?_⟩
  intro mounts
  have enabled := ((mounts.fallback unmountedDirectory).mp rfl).2
  cases enabled

end Builds

end AxumConf.Fluent
