import AxumConf.Auth.BasicUsers
import AxumConf.Auth.ClearedSession
import AxumConf.Auth.IdentityMapping
import AxumConf.Auth.Issuer
import AxumConf.Auth.KeyFamilies
import AxumConf.Auth.ProxyIdentity
import AxumConf.Auth.RedirectSkips
import AxumConf.Auth.ReturnUrl
import AxumConf.Auth.SessionClosing
import AxumConf.Auth.TokenExpiry
import AxumConf.CircuitBreaker.Counters
import AxumConf.CircuitBreaker.Recovery
import AxumConf.Config.EnvironmentValues
import AxumConf.Config.MiddlewareTable
import AxumConf.Config.Scanner
import AxumConf.Dedup.AtMostOnce
import AxumConf.Dedup.OrderQueue
import AxumConf.Dedup.Overshoot
import AxumConf.Fluent.DuplicateRequests
import AxumConf.Fluent.EarnedIdentity
import AxumConf.Fluent.LoginRefinement
import AxumConf.Fluent.MetricsProcess
import AxumConf.Fluent.PanicRecovery
import AxumConf.Fluent.Readiness
import AxumConf.Fluent.Shutdown
import AxumConf.Fluent.StoreRefinement
import AxumConf.Fluent.UserSpan
import AxumConf.Fluent.VersionHeader
import AxumConf.Resilience
