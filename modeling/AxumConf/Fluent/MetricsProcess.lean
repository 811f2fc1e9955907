import AxumConf.Fluent.Startup

/-!
# Metrics of several routers

The path of the metrics is kept in a cell of the process that the first router fills, and the
recorder of the metrics is one for the whole process.  A router that is set up later records into
the registry of the first; its endpoint renders an empty one, at the path of the first, where its
setup does not panic.
-/

namespace AxumConf.Fluent

/-- What an entry of `metrics_buckets` matches with the recorded names. -/
inductive MetricMatch where
  | full
  | ofPrefix
  | ofSuffix
  deriving DecidableEq, Repr

inductive Matcher where
  | full (name : String)
  | ofPrefix (name : String)
  | ofSuffix (name : String)
  deriving DecidableEq, Repr

structure MetricBucketsConfig where
  metric : String
  nameMatch : MetricMatch := .full
  buckets : List Rat
  deriving DecidableEq, Repr

def MetricBucketsConfig.toMatcher (entry : MetricBucketsConfig) : Matcher :=
  match entry.nameMatch with
  | .full => .full entry.metric
  | .ofPrefix => .ofPrefix entry.metric
  | .ofSuffix => .ofSuffix entry.metric

/-- The fields of `[http]` that only `setup_metrics` reads; the timeouts are in nanoseconds. -/
structure MetricsConfig where
  metricsBuckets : List MetricBucketsConfig := []
  metricsGlobalLabels : List (String × String) := []
  metricsIdleTimeout : Option ℕ := none
  metricsUpkeepTimeout : Option ℕ := none
  deriving DecidableEq, Repr

def MetricsConfig.anyCustom (config : MetricsConfig) : Bool :=
  !config.metricsBuckets.isEmpty || !config.metricsGlobalLabels.isEmpty ||
    config.metricsIdleTimeout.isSome || config.metricsUpkeepTimeout.isSome

structure MeteredRouter extends FluentRouter where
  metrics : MetricsConfig := {}

/-- The crates of the metrics: the builder of recorders, the recorder of the default handle, and
whether a prefix is set, or a recorder becomes the one of the process, after so many others. -/
structure MetricsCrates (Recorder : Type) where
  newBuilder : Recorder
  setBucketsForMetric : Recorder → Matcher → List Rat → Option Recorder
  addGlobalLabel : Recorder → String → String → Recorder
  idleTimeout : Recorder → ℕ → Recorder
  durationMatcher : Matcher
  durationBuckets : List Rat
  defaultRecorder : Recorder
  setsPrefix : ℕ → Bool
  setsGlobalRecorder : ℕ → Bool

/-- The prefix can be set and a recorder installed; another recorder is not installed after it. -/
structure MetricsCrates.Documented {Recorder : Type} (prometheus : MetricsCrates Recorder) :
    Prop where
  firstPrefix : prometheus.setsPrefix 0 = true
  firstRecorder : prometheus.setsGlobalRecorder 0 = true
  onlyRecorder : ∀ installed, prometheus.setsGlobalRecorder (installed + 1) = false

/-- What a handle renders: the registry behind a recorder, named after the call that built it. -/
structure Registry (Recorder : Type) where
  builtBy : ℕ
  recorder : Recorder
  deriving DecidableEq, Repr

/-- What the process keeps from the routers that were set up before: `METRICS_PATH`, the number of
their calls, and the recorders that were installed, the last one first. -/
structure MetricsProcess (Recorder : Type) where
  metricsPath : Option String := none
  calls : ℕ := 0
  installed : List (Registry Recorder) := []
  deriving DecidableEq, Repr

/-- The process after a call, the router that it built, and what its metrics endpoint renders. -/
structure MetricsSetup (Recorder : Type) where
  process : MetricsProcess Recorder
  built : Building
  rendered : Option (Registry Recorder) := none

def exposesMetrics (router : FluentRouter) : Bool :=
  router.config.http.withMetrics && router.config.isMiddlewareEnabled .metrics

section Setup

variable {Layer HeaderValue Recorder : Type} (crates : Crates Layer HeaderValue)
  (prometheus : MetricsCrates Recorder)

/-- `OnceLock::get_or_init` -/
def getOrInit (cell : Option String) (init : String) : String := cell.getD init

/-- An entry without buckets is skipped. -/
def configureBuckets (recorder : Recorder) (entry : MetricBucketsConfig) : Option Recorder :=
  if entry.buckets.isEmpty then some recorder
  else prometheus.setBucketsForMetric recorder entry.toMatcher entry.buckets

def configureMetricsRecorder (config : MetricsConfig) : Option Recorder := do
  let recorder ← prometheus.setBucketsForMetric prometheus.newBuilder prometheus.durationMatcher
    prometheus.durationBuckets
  let recorder ← config.metricsBuckets.foldlM (configureBuckets prometheus) recorder
  let labelled := config.metricsGlobalLabels.foldl
    (fun recorder label => prometheus.addGlobalLabel recorder label.1 label.2) recorder
  return config.metricsIdleTimeout.elim labelled (prometheus.idleTimeout labelled)

/-- `install_recorder`: the handle renders the registry of the recorder that was installed. -/
def installRecorder (process : MetricsProcess Recorder) (recorder : Recorder) :
    Option (MetricsProcess Recorder × Registry Recorder) :=
  if prometheus.setsGlobalRecorder process.installed.length then
    let registry := { builtBy := process.calls, recorder }
    some ({ process with installed := registry :: process.installed }, registry)
  else none

/-- Where the recorder is not installed, the handle is that of a throwaway. -/
def buildCustomMetricsRecorder (process : MetricsProcess Recorder) (config : MetricsConfig) :
    MetricsProcess Recorder × Registry Recorder :=
  let recorder := (configureMetricsRecorder prometheus config).getD prometheus.newBuilder
  (installRecorder prometheus process recorder).getD
    (process, { builtBy := process.calls, recorder := prometheus.newBuilder })

/-- The handle of the pair; the default one panics where its recorder is not installed. -/
def buildPair (process : MetricsProcess Recorder) (config : MetricsConfig) :
    Option (MetricsProcess Recorder × Registry Recorder) :=
  if config.anyCustom then some (buildCustomMetricsRecorder prometheus process config)
  else installRecorder prometheus process prometheus.defaultRecorder

def MetricsProcess.called (process : MetricsProcess Recorder) (path : String) :
    MetricsProcess Recorder :=
  { process with metricsPath := some path, calls := process.calls + 1 }

def setupMetrics (process : MetricsProcess Recorder) (router : MeteredRouter) :
    MetricsSetup Recorder :=
  if exposesMetrics router.toFluentRouter then
    let path := getOrInit process.metricsPath router.config.http.metricsRoute
    if prometheus.setsPrefix process.calls then
      match buildPair prometheus process router.metrics with
      | some (next, handle) =>
          { process := next.called path
            built := router.tryRoute crates path .metrics
            rendered := some handle }
      | none => { process := process.called path, built := .panicked }
    else { process := process.called path, built := .panicked }
  else { process, built := .done router.toFluentRouter }

/-- The recorder that the configuration of the router asks for. -/
def ownRecorder (config : MetricsConfig) : Recorder :=
  if config.anyCustom then
    (configureMetricsRecorder prometheus config).getD prometheus.newBuilder
  else prometheus.defaultRecorder

variable {crates prometheus} {before : List MeteredRouter} {router : MeteredRouter}
  {process : MetricsProcess Recorder}

theorem setupMetrics_of_not_exposes (hidden : exposesMetrics router.toFluentRouter = false) :
    setupMetrics crates prometheus process router =
      { process, built := .done router.toFluentRouter } := by
  rw [setupMetrics, hidden, if_neg Bool.false_ne_true]

section Recorders

variable (documented : prometheus.Documented)

include documented

theorem installRecorder_fresh {recorder : Recorder} :
    installRecorder prometheus ({} : MetricsProcess Recorder) recorder =
      some ({ installed := [{ builtBy := 0, recorder }] }, { builtBy := 0, recorder }) := by
  simp [installRecorder, documented.firstRecorder]

theorem installRecorder_of_installed {recorder : Recorder} (occupied : process.installed ≠ []) :
    installRecorder prometheus process recorder = none := by
  rcases List.exists_cons_of_ne_nil occupied with ⟨registry, others, isInstalled⟩
  simp [installRecorder, isInstalled, documented.onlyRecorder]

/-- The first pair is that of the recorder that the configuration asks for. -/
theorem buildPair_fresh {config : MetricsConfig} :
    buildPair prometheus ({} : MetricsProcess Recorder) config =
      some ({ installed := [{ builtBy := 0, recorder := ownRecorder prometheus config }] },
        { builtBy := 0, recorder := ownRecorder prometheus config }) := by
  cases custom : config.anyCustom with
  | true =>
      simp [buildPair, ownRecorder, custom, buildCustomMetricsRecorder,
        installRecorder_fresh documented]
  | false => simp [buildPair, ownRecorder, custom, installRecorder_fresh documented]

/-- A later pair is that of a throwaway, if there is one. -/
theorem buildPair_of_installed {config : MetricsConfig} (occupied : process.installed ≠ []) :
    buildPair prometheus process config = none ∨
      buildPair prometheus process config =
        some (process, { builtBy := process.calls, recorder := prometheus.newBuilder }) := by
  cases custom : config.anyCustom with
  | true =>
      right
      simp [buildPair, custom, buildCustomMetricsRecorder,
        installRecorder_of_installed documented occupied]
  | false =>
      left
      simp [buildPair, custom, installRecorder_of_installed documented occupied]

end Recorders

/-- The recorder of the process was built by an earlier call, at whose path the metrics stay. -/
structure Occupied (process : MetricsProcess Recorder) (path : String) : Prop where
  kept : process.metricsPath = some path
  installed : process.installed ≠ []
  earlier : ∀ registry ∈ process.installed, registry.builtBy < process.calls

section Sequence

variable (documented : prometheus.Documented)

include documented

theorem setupMetrics_fresh (exposes : exposesMetrics router.toFluentRouter = true) :
    setupMetrics crates prometheus {} router =
      { process :=
          { metricsPath := some router.config.http.metricsRoute
            calls := 1
            installed :=
              [{ builtBy := 0, recorder := ownRecorder prometheus router.metrics }] }
        built := router.tryRoute crates router.config.http.metricsRoute .metrics
        rendered := some { builtBy := 0, recorder := ownRecorder prometheus router.metrics } } := by
  simp [setupMetrics, exposes, documented.firstPrefix, buildPair_fresh documented, getOrInit,
    MetricsProcess.called]

/-- What a router does that is not the first: the recorder and the path stay, and its endpoint, if
its setup does not panic, renders a registry that was not installed. -/
theorem setupMetrics_later {path : String} (occupied : Occupied process path)
    (exposes : exposesMetrics router.toFluentRouter = true) :
    (setupMetrics crates prometheus process router).process = process.called path ∧
      ((setupMetrics crates prometheus process router).built = .panicked ∨
        (setupMetrics crates prometheus process router).rendered =
          some { builtBy := process.calls, recorder := prometheus.newBuilder }) := by
  have same : getOrInit process.metricsPath router.config.http.metricsRoute = path := by
    rw [occupied.kept]
    rfl
  cases sets : prometheus.setsPrefix process.calls with
  | false => simp [setupMetrics, exposes, sets, same]
  | true =>
      have later := @buildPair_of_installed _ prometheus process documented router.metrics
        occupied.installed
      rcases later with none | throwaway
      · simp [setupMetrics, exposes, sets, same, none]
      · simp [setupMetrics, exposes, sets, same, throwaway]

theorem Occupied.setupMetrics {path : String} (occupied : Occupied process path) :
    Occupied (setupMetrics crates prometheus process router).process path := by
  cases exposes : exposesMetrics router.toFluentRouter with
  | false => rwa [setupMetrics_of_not_exposes exposes]
  | true =>
      rw [(setupMetrics_later documented occupied exposes).1]
      refine ⟨rfl, occupied.installed, ?_⟩
      intro registry member
      exact Nat.lt_succ_of_lt (occupied.earlier registry member)

/-- The first router of a process is set up as if there were no others. -/
theorem setupMetrics_first :
    (setupMetrics crates prometheus {} router).built = router.trySetupMetrics crates := by
  cases exposes : exposesMetrics router.toFluentRouter with
  | false =>
      rw [setupMetrics_of_not_exposes exposes]
      rw [exposesMetrics] at exposes
      rw [FluentRouter.trySetupMetrics, exposes, if_neg Bool.false_ne_true]
      rfl
  | true =>
      rw [setupMetrics_fresh documented exposes]
      rw [exposesMetrics] at exposes
      rw [FluentRouter.trySetupMetrics, exposes, if_pos rfl]

end Sequence

end Setup

section TwoRouters

end TwoRouters

end AxumConf.Fluent
