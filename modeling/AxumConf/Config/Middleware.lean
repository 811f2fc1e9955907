import AxumConf.Config.Error

/-! # Which middleware the configuration enables -/

namespace AxumConf

inductive HttpMiddleware where
  | oidc
  | basicAuth
  | proxyOidc
  | requestDeduplication
  | rateLimiting
  | concurrencyLimit
  | maxPayloadSize
  | compression
  | pathNormalization
  | sensitiveHeaders
  | requestId
  | apiVersioning
  | cors
  | securityHeaders
  | logging
  | metrics
  | liveness
  | readiness
  | timeout
  | catchPanic
  | session
  | openTelemetry
  deriving DecidableEq, Repr

inductive HttpMiddlewareConfig where
  | includeOnly (list : List HttpMiddleware)
  | exclude (list : List HttpMiddleware)
  deriving DecidableEq, Repr

namespace HttpMiddlewareConfig

def isEnabled (config : HttpMiddlewareConfig) (middleware : HttpMiddleware) : Bool :=
  match config with
  | includeOnly list => list.contains middleware
  | exclude list => !list.contains middleware

def validate (config : HttpMiddlewareConfig) : Checked := do
  rejectIf (config.isEnabled .requestDeduplication && !config.isEnabled .requestId)
    (.invalidInput
      ("RequestDeduplication requires RequestId. Remove 'request-id' from Exclude list or add " ++
       "both to Include list."))
  rejectIf (config.isEnabled .oidc && !config.isEnabled .session)
    (.invalidInput
      ("Oidc requires Session middleware. Remove 'session' from Exclude list or add both to " ++
       "Include list."))

end HttpMiddlewareConfig

end AxumConf
