import AxumConf.Config.Http
import Mathlib.Data.List.Basic

/-!
# Reading the middleware settings

`HttpConfig` flattens its middleware settings: their keys are read beside its own ones, under the
names of the variants.  A table `[http.middleware]` is a key that no field has, and such keys are
skipped.
-/

namespace AxumConf

inductive TomlValue where
  | string (text : String)
  | array (items : List TomlValue)
  | table (entries : List (String × TomlValue))
  | other

abbrev TomlTable := List (String × TomlValue)

namespace HttpMiddleware

/-- `rename_all = "kebab-case"` -/
def name : HttpMiddleware → String
  | oidc => "oidc"
  | basicAuth => "basic-auth"
  | proxyOidc => "proxy-oidc"
  | requestDeduplication => "request-deduplication"
  | rateLimiting => "rate-limiting"
  | concurrencyLimit => "concurrency-limit"
  | maxPayloadSize => "max-payload-size"
  | compression => "compression"
  | pathNormalization => "path-normalization"
  | sensitiveHeaders => "sensitive-headers"
  | requestId => "request-id"
  | apiVersioning => "api-versioning"
  | cors => "cors"
  | securityHeaders => "security-headers"
  | logging => "logging"
  | metrics => "metrics"
  | liveness => "liveness"
  | readiness => "readiness"
  | timeout => "timeout"
  | catchPanic => "catch-panic"
  | session => "session"
  | openTelemetry => "open-telemetry"

def all : List HttpMiddleware :=
  [oidc, basicAuth, proxyOidc, requestDeduplication, rateLimiting, concurrencyLimit,
    maxPayloadSize, compression, pathNormalization, sensitiveHeaders, requestId, apiVersioning,
    cors, securityHeaders, logging, metrics, liveness, readiness, timeout, catchPanic, session,
    openTelemetry]

def deserialize : TomlValue → Option HttpMiddleware
  | .string text => all.find? fun middleware => middleware.name == text
  | _ => none

theorem deserialize_name (middleware : HttpMiddleware) :
    deserialize (.string middleware.name) = some middleware := by
  cases middleware <;> decide

end HttpMiddleware

section Deserialization

def deserializeList : TomlValue → Option (List HttpMiddleware)
  | .array items => items.mapM HttpMiddleware.deserialize
  | _ => none

/-- The names of the variants, which no attribute renames. -/
def middlewareVariants : List String := ["Include", "Exclude"]

def deserializeVariant (key : String) (value : TomlValue) : Option HttpMiddlewareConfig :=
  if key = "Include" then (deserializeList value).map .includeOnly
  else if key = "Exclude" then (deserializeList value).map .exclude
  else none

/-- The keys that the fields of `HttpConfig` have. -/
def httpFields : List String :=
  ["bind_addr", "bind_port", "max_concurrent_requests", "max_requests_per_sec", "request_timeout",
    "max_payload_size_bytes", "support_compression", "with_metrics", "trim_trailing_slash",
    "liveness_route", "readiness_route", "metrics_route", "x_content_type_nosniff",
    "x_frame_options", "hsts_max_age", "hsts_include_subdomains", "content_security_policy",
    "directories", "session_secure_cookie", "session_same_site", "session_store",
    "session_signing_key", "oidc", "basic_auth", "proxy_oidc", "cors", "metrics_buckets",
    "metrics_global_labels", "metrics_idle_timeout", "metrics_upkeep_timeout",
    "default_api_version", "deduplication", "shutdown_timeout"]

/-- The entries that are kept for the flattened field. -/
def collected (table : TomlTable) : TomlTable :=
  table.filter fun entry => !httpFields.contains entry.1

/-- The first entry that is named like a variant; where it cannot be read there is no setting. -/
def flattenedMiddleware (table : TomlTable) : Option HttpMiddlewareConfig :=
  ((collected table).find? fun entry => middlewareVariants.contains entry.1).bind fun entry =>
    deserializeVariant entry.1 entry.2

/-- `HttpConfig::deserialize`, where `readFields` reads every other field. -/
def deserializeHttp (readFields : TomlTable → Except String HttpConfig) (table : TomlTable) :
    Except String HttpConfig :=
  (readFields table).map fun http => { http with middleware := flattenedMiddleware table }

end Deserialization

namespace HttpMiddlewareConfig

def list : HttpMiddlewareConfig → List HttpMiddleware
  | includeOnly list => list
  | exclude list => list

def keyword : HttpMiddlewareConfig → String
  | includeOnly _ => "include"
  | exclude _ => "exclude"

def variantName : HttpMiddlewareConfig → String
  | includeOnly _ => "Include"
  | exclude _ => "Exclude"

/-- The table `[http.middleware]` with `include` or `exclude` and the names of the list. -/
def toSection (asked : HttpMiddlewareConfig) : TomlValue :=
  .table [(asked.keyword, .array (asked.list.map fun middleware => .string middleware.name))]

end HttpMiddlewareConfig

/-- The table is read, with these settings in force. -/
def ParsesTo (readFields : TomlTable → Except String HttpConfig) (table : TomlTable)
    (asked : HttpMiddlewareConfig) : Prop :=
  ∃ http, deserializeHttp readFields table = .ok http ∧ http.middleware = some asked ∧
    ∀ middleware, Config.isMiddlewareEnabled { http } middleware = asked.isEnabled middleware

/-- The first key of the table that is named like a variant makes the same settings. -/
def SetsDirectly (table : TomlTable) (asked : HttpMiddlewareConfig) : Prop :=
  ∃ ahead value behind, table = ahead ++ (asked.variantName, value) :: behind ∧
    deserializeList value = some asked.list ∧ ∀ entry ∈ ahead, entry.1 ∉ middlewareVariants

section Sections

variable {table ahead behind : TomlTable} {asked : HttpMiddlewareConfig}

theorem find?_collected (table : TomlTable) :
    (collected table).find? (fun entry => middlewareVariants.contains entry.1) =
      table.find? fun entry => middlewareVariants.contains entry.1 := by
  rw [collected, List.find?_filter]
  congr 1
  funext entry
  have apart : ∀ key ∈ middlewareVariants, key ∉ httpFields := by decide
  cases isVariant : middlewareVariants.contains entry.1 with
  | false => simp
  | true =>
      have noField := apart entry.1 (List.contains_iff_mem.mp isVariant)
      simp [noField]

theorem deserializeVariant_eq_some_iff {key : String} {value : TomlValue} :
    deserializeVariant key value = some asked ↔
      key = asked.variantName ∧ deserializeList value = some asked.list := by
  have apart : "Exclude" ≠ "Include" := by decide
  unfold deserializeVariant
  split
  · rename_i isInclude
    cases asked with
    | includeOnly list =>
        simp [HttpMiddlewareConfig.variantName, HttpMiddlewareConfig.list, isInclude]
    | exclude list => simp [HttpMiddlewareConfig.variantName, isInclude, apart.symm]
  · rename_i notInclude
    split
    · rename_i isExclude
      cases asked with
      | includeOnly list => simp [HttpMiddlewareConfig.variantName, isExclude, apart]
      | exclude list =>
          simp [HttpMiddlewareConfig.variantName, HttpMiddlewareConfig.list, isExclude]
    · rename_i notExclude
      cases asked with
      | includeOnly list => simp [HttpMiddlewareConfig.variantName, notInclude]
      | exclude list => simp [HttpMiddlewareConfig.variantName, notExclude]

theorem variantName_mem (asked : HttpMiddlewareConfig) :
    asked.variantName ∈ middlewareVariants := by
  cases asked with
  | includeOnly list => exact List.mem_cons_self
  | exclude list => exact List.mem_cons_of_mem _ List.mem_cons_self

theorem flattenedMiddleware_eq_some_iff :
    flattenedMiddleware table = some asked ↔ SetsDirectly table asked := by
  simp only [flattenedMiddleware, find?_collected, Option.bind_eq_some_iff,
    deserializeVariant_eq_some_iff, List.find?_eq_some_iff_append]
  constructor
  · rintro ⟨⟨key, value⟩, ⟨isVariant, ahead, behind, rfl, none⟩, rfl, isList⟩
    exact ⟨ahead, value, behind, rfl, isList, by simpa using none⟩
  · rintro ⟨ahead, value, behind, rfl, isList, none⟩
    refine ⟨(asked.variantName, value), ⟨?_, ahead, behind, rfl, by simpa using none⟩, rfl, isList⟩
    exact List.contains_iff_mem.mpr (variantName_mem asked)

/-- No section counts. -/
theorem flattenedMiddleware_section (ahead behind : TomlTable) (value : TomlValue) :
    flattenedMiddleware (ahead ++ ("middleware", value) :: behind) =
      flattenedMiddleware (ahead ++ behind) := by
  have noVariant : middlewareVariants.contains "middleware" = false := by decide
  simp only [flattenedMiddleware, find?_collected, List.find?_append, List.find?_cons, noVariant]

/-- The names of a list are read under the name of the variant. -/
theorem setsDirectly_variant (asked : HttpMiddlewareConfig) :
    SetsDirectly [(asked.variantName,
      .array (asked.list.map fun middleware => .string middleware.name))] asked := by
  refine ⟨[], _, [], rfl, ?_, by simp⟩
  simp only [deserializeList]
  induction asked.list with
  | nil => rfl
  | cons middleware rest ih =>
      rw [List.map_cons, List.mapM_cons, HttpMiddleware.deserialize_name, ih]
      rfl

theorem parsesTo_iff (readFields : TomlTable → Except String HttpConfig) :
    ParsesTo readFields table asked ↔
      (∃ http, readFields table = .ok http) ∧ flattenedMiddleware table = some asked := by
  unfold ParsesTo deserializeHttp
  cases readFields table with
  | error problem => simp [Except.map]
  | ok http =>
      simp only [Except.map, Except.ok.injEq, exists_eq_left', exists_eq', true_and]
      constructor
      · exact And.left
      · intro inForce
        refine ⟨inForce, ?_⟩
        intro middleware
        rw [Config.isMiddlewareEnabled, inForce]
        rfl

end Sections

/-- A section is in force exactly where the table is read and has the same settings without it. -/
theorem parsesTo_section_iff (readFields : TomlTable → Except String HttpConfig)
    (ahead behind : TomlTable) (asked : HttpMiddlewareConfig) :
    ParsesTo readFields (ahead ++ ("middleware", asked.toSection) :: behind) asked ↔
      (∃ http, readFields (ahead ++ ("middleware", asked.toSection) :: behind) = .ok http) ∧
        SetsDirectly (ahead ++ behind) asked := by
  rw [parsesTo_iff, flattenedMiddleware_section, flattenedMiddleware_eq_some_iff]

section Ignored

def rateLimitTable : TomlTable :=
  [("max_payload_size_bytes", .string "1KiB"),
    ("middleware", (HttpMiddlewareConfig.exclude [.rateLimiting]).toSection)]

/-- The settings of a section are in force where the table names them beside it as well. -/
theorem parsesTo_section_iff_beside :
    ParsesTo (fun _ => .ok {})
      ([] ++ ("middleware", (HttpMiddlewareConfig.exclude [.rateLimiting]).toSection) ::
        [("Exclude", .array [.string "rate-limiting"])]) (.exclude [.rateLimiting]) :=
  (parsesTo_section_iff (fun _ => .ok {}) [] _ (.exclude [.rateLimiting])).mpr
    ⟨⟨_, rfl⟩, setsDirectly_variant (.exclude [.rateLimiting])⟩

/-- Rate limiting stays enabled where `[http.middleware]` excludes it. -/
theorem rateLimiting_not_excluded :
    ¬ParsesTo (fun _ => .ok {}) rateLimitTable (.exclude [.rateLimiting]) ∧
      ∃ http, deserializeHttp (fun _ => .ok {}) rateLimitTable = .ok http ∧
        http.middleware = none ∧ Config.isMiddlewareEnabled { http } .rateLimiting = true := by
  have ignored : flattenedMiddleware rateLimitTable = none := by decide
  constructor
  · intro parses
    rcases parses with ⟨http, parsed, inForce, -⟩
    simp only [deserializeHttp, Except.map, Except.ok.injEq] at parsed
    rw [← parsed, ignored] at inForce
    cases inForce
  · refine ⟨_, rfl, ignored, ?_⟩
    rw [ignored]
    rfl

end Ignored

end AxumConf
