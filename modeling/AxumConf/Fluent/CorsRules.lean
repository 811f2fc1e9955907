import AxumConf.Fluent.Cors

/-!
# CORS layers that cannot be added

`tower-http` does not let a layer allow credentials together with a wildcard, and panics when such a
layer is added to a router.  What a layer has been told so far is a `CorsRules`; the builder's
setters change one rule each, so the rules of the layer that `setup_cors` builds can be read off the
configuration.
-/

namespace AxumConf.Fluent

structure CorsRules where
  credentials : Bool := false
  anyOrigin : Bool := false
  anyMethod : Bool := false
  anyHeader : Bool := false
  exposesAnyHeader : Bool := false
  deriving DecidableEq, Repr

/-- The combination of rules that `tower-http` refuses. -/
def CorsRules.combinesWildcard (rules : CorsRules) : Bool :=
  rules.credentials &&
    (rules.anyOrigin || rules.anyMethod || rules.anyHeader || rules.exposesAnyHeader)

variable {Layer HeaderValue : Type}

/-- The documented effect of the builder's setters: a lone `*` is a wildcard, and a setter leaves
the other rules alone. -/
structure CorsApi.DocumentedRules (api : CorsApi Layer HeaderValue) (rules : Layer → CorsRules) :
    Prop where
  new_rules : rules api.new = {}
  veryPermissive_rules : (rules api.veryPermissive).combinesWildcard = false
  allowOrigin_rules : ∀ layer text value, api.headerValue text = some value →
    rules (api.allowOrigin layer value) = { rules layer with anyOrigin := text == "*" }
  allowAnyOrigin_rules : ∀ layer,
    rules (api.allowAnyOrigin layer) = { rules layer with anyOrigin := true }
  allowMethods_rules : ∀ layer methods,
    rules (api.allowMethods layer methods) = { rules layer with anyMethod := methods == [⟨"*"⟩] }
  allowAnyMethod_rules : ∀ layer,
    rules (api.allowAnyMethod layer) = { rules layer with anyMethod := true }
  allowHeaders_rules : ∀ layer headers,
    rules (api.allowHeaders layer headers) = { rules layer with anyHeader := headers == [⟨"*"⟩] }
  allowAnyHeader_rules : ∀ layer,
    rules (api.allowAnyHeader layer) = { rules layer with anyHeader := true }
  exposeHeaders_rules : ∀ layer headers,
    rules (api.exposeHeaders layer headers) =
      { rules layer with exposesAnyHeader := headers == [⟨"*"⟩] }
  maxAge_rules : ∀ layer age, rules (api.maxAge layer age) = rules layer
  allowCredentials_rules : ∀ layer allowed,
    rules (api.allowCredentials layer allowed) = { rules layer with credentials := allowed }

/-- The last of the origins that is a valid header value. -/
def lastOrigin (api : CorsApi Layer HeaderValue) (origins : List String) : Option String :=
  (origins.filter fun origin => (api.headerValue origin).isSome).getLast?

/-- What the configuration tells the layer. -/
def configuredRules (api : CorsApi Layer HeaderValue) (cors : HttpCorsConfig) : CorsRules where
  credentials := hasCredentials cors
  anyOrigin :=
    match cors.allowedOrigins with
    | some origins => lastOrigin api origins == some "*"
    | none => !hasCredentials cors
  anyMethod :=
    match cors.allowedMethods with
    | some methods => methods == [⟨"*"⟩]
    | none => !hasCredentials cors
  anyHeader :=
    match cors.allowedHeaders with
    | some headers => headers == [⟨"*"⟩]
    | none => !hasCredentials cors
  exposesAnyHeader :=
    match cors.exposedHeaders with
    | some headers => headers == [⟨"*"⟩]
    | none => false

/-- The configuration makes `setup_cors` add a layer that `tower-http` refuses. -/
def refusesCors (api : CorsApi Layer HeaderValue) (config : Config) : Bool :=
  config.isMiddlewareEnabled .cors &&
    config.http.cors.any fun cors => (configuredRules api cors).combinesWildcard

section Rules

variable {api : CorsApi Layer HeaderValue} {rules : Layer → CorsRules}
  (documented : api.DocumentedRules rules) (cors : HttpCorsConfig) (layer : Layer)

include documented

theorem rules_foldl_addOrigin (origins : List String) :
    rules (origins.foldl (addOrigin api) layer) = { rules layer with
      anyOrigin := ((lastOrigin api origins).map fun origin => origin == "*").getD
        (rules layer).anyOrigin } := by
  induction origins using List.reverseRecOn with
  | nil => rfl
  | append_singleton earlier last ih =>
      simp only [List.foldl_append, List.foldl_cons, List.foldl_nil, addOrigin]
      cases parsed : api.headerValue last with
      | none => simpa [lastOrigin, parsed] using ih
      | some value =>
          rw [documented.allowOrigin_rules _ last value parsed, ih]
          simp [lastOrigin, parsed]

theorem rules_withOrigins (unset : (rules layer).anyOrigin = false) :
    rules (withOrigins api cors layer) =
      { rules layer with anyOrigin := (configuredRules api cors).anyOrigin } := by
  unfold withOrigins configuredRules
  cases cors.allowedOrigins with
  | none =>
      cases hasCredentials cors with
      | true => simp [← unset]
      | false => simp [documented.allowAnyOrigin_rules]
  | some origins =>
      simp only [rules_foldl_addOrigin documented layer origins, unset]
      cases lastOrigin api origins with
      | none => rfl
      | some origin => rfl

theorem rules_withMethods (unset : (rules layer).anyMethod = false) :
    rules (withMethods api cors layer) =
      { rules layer with anyMethod := (configuredRules api cors).anyMethod } := by
  unfold withMethods configuredRules
  cases cors.allowedMethods with
  | none =>
      cases hasCredentials cors with
      | true => simp [← unset]
      | false => simp [documented.allowAnyMethod_rules]
  | some methods => exact documented.allowMethods_rules layer methods

theorem rules_withHeaders (unset : (rules layer).anyHeader = false) :
    rules (withHeaders api cors layer) =
      { rules layer with anyHeader := (configuredRules api cors).anyHeader } := by
  unfold withHeaders configuredRules
  cases cors.allowedHeaders with
  | none =>
      cases hasCredentials cors with
      | true => simp [← unset]
      | false => simp [documented.allowAnyHeader_rules]
  | some headers => exact documented.allowHeaders_rules layer headers

theorem rules_withExposedHeaders (unset : (rules layer).exposesAnyHeader = false) :
    rules (withExposedHeaders api cors layer) =
      { rules layer with exposesAnyHeader := (configuredRules api cors).exposesAnyHeader } := by
  unfold withExposedHeaders configuredRules
  cases cors.exposedHeaders with
  | none => simp [← unset]
  | some headers => exact documented.exposeHeaders_rules layer headers

theorem rules_withMaxAge : rules (withMaxAge api cors layer) = rules layer := by
  unfold withMaxAge
  split
  · apply documented.maxAge_rules
  · rfl

theorem rules_withCredentials (unset : (rules layer).credentials = false) :
    rules (withCredentials api cors layer) =
      { rules layer with credentials := (configuredRules api cors).credentials } := by
  unfold withCredentials configuredRules
  cases hasCredentials cors with
  | true => exact documented.allowCredentials_rules layer true
  | false =>
      simp only [Bool.false_eq_true, if_false]
      rw [← unset]

/-- The layer has been told what the configuration says. -/
theorem rules_corsLayer : rules (corsLayer api cors) = configuredRules api cors := by
  have origins := rules_withOrigins documented cors api.new (by rw [documented.new_rules])
  have methods := rules_withMethods documented cors _ (by rw [origins, documented.new_rules])
  have headers := rules_withHeaders documented cors _
    (by rw [methods, origins, documented.new_rules])
  have exposed := rules_withExposedHeaders documented cors _
    (by rw [headers, methods, origins, documented.new_rules])
  have aged := rules_withMaxAge documented cors
    (withExposedHeaders api cors (withHeaders api cors (withMethods api cors
      (withOrigins api cors api.new))))
  have credentials := rules_withCredentials documented cors _
    (by rw [aged, exposed, headers, methods, origins, documented.new_rules])
  rw [corsLayer, credentials, aged, exposed, headers, methods, origins]

omit cors layer

/-- `setup_cors` adds a layer that `tower-http` refuses exactly for these configurations; without
a section none does. -/
theorem combinesWildcard_setupCors (config : Config) :
    (setupCors api config).any (fun layer => (rules layer).combinesWildcard) =
      refusesCors api config := by
  unfold setupCors refusesCors
  cases config.isMiddlewareEnabled .cors with
  | false => rfl
  | true =>
      cases config.http.cors with
      | some cors => simp [rules_corsLayer documented]
      | none =>
          cases config.isProduction with
          | true => simp [documented.new_rules, CorsRules.combinesWildcard]
          | false => simp [documented.veryPermissive_rules]

end Rules

/-- A builder that keeps the rules and nothing else, with texts as header values. -/
def rulesBuilder : CorsApi CorsRules String where
  headerValue := fun text =>
    if text.toList.all (fun character => 32 ≤ character.toNat ∧ character.toNat < 127) then
      some text
    else none
  new := {}
  veryPermissive := { credentials := true }
  allowOrigin := fun rules origin => { rules with anyOrigin := origin == "*" }
  allowAnyOrigin := fun rules => { rules with anyOrigin := true }
  allowMethods := fun rules methods => { rules with anyMethod := methods == [⟨"*"⟩] }
  allowAnyMethod := fun rules => { rules with anyMethod := true }
  allowHeaders := fun rules headers => { rules with anyHeader := headers == [⟨"*"⟩] }
  allowAnyHeader := fun rules => { rules with anyHeader := true }
  exposeHeaders := fun rules headers => { rules with exposesAnyHeader := headers == [⟨"*"⟩] }
  maxAge := fun rules _ => rules
  allowCredentials := fun rules allowed => { rules with credentials := allowed }
  allowOriginHeader := fun rules _ => if rules.anyOrigin then some "*" else none

theorem rulesBuilder_documented : rulesBuilder.DocumentedRules id := by
  constructor
  case allowOrigin_rules =>
    intro rules text value parsed
    have same : text = value := by
      simp only [rulesBuilder, Option.ite_none_right_eq_some, Option.some.injEq] at parsed
      exact parsed.2
    rw [same]
    rfl
  all_goals intros; rfl

end AxumConf.Fluent
