import AxumConf.Http

/-!
# Redirecting browsers to the login

`browser_redirect_middleware` sends an unauthenticated browser to the login route and stores where
it wanted to go.
-/

namespace AxumConf.Auth

open Tower

/-- A path with one leading slash, so that browsers stay on the origin. -/
def isSafeLocalPath (path : String) : Bool :=
  Text.startsWith path "/" && !Text.startsWith path "//" && !Text.startsWith path "/\\"

structure BrowserRedirectConfig where
  loginRoute : String
  skipPaths : List String
  deriving DecidableEq, Repr

def sessionReturnUrl : String := "oidc_return_url"

section Redirect

variable (external : External) (config : BrowserRedirectConfig) (head : RequestHead)

def isSkipped : Bool :=
  config.skipPaths.any fun skip => Text.startsWith head.path skip

def isBrowser : Bool :=
  (external.headerText head.headers "accept").any fun accept => Text.contains accept "text/html"

def originalUrl : String :=
  (head.pathAndQuery.filter isSafeLocalPath).getD "/"

/-- `Redirect::temporary` -/
def redirectTemporary (route : String) : Response where
  status := 307
  headers := fun name => if name = "location" then some (HeaderValue.ofText route) else none

def browserRedirectMiddleware (request : Request) : Except Answer Request :=
  if request.identity.isSome then .ok request
  else if isSkipped config request.head then .ok request
  else if (request.head.headers "authorization").isSome then .ok request
  else if !isBrowser external request.head then .ok request
  else
    let returnUrl := Json.string (originalUrl request.head)
    .error
      { response := redirectTemporary config.loginRoute
        session := request.session.map fun session => session.insert sessionReturnUrl returnUrl }

def browserRedirect : Middleware where
  inbound := browserRedirectMiddleware external config
  keepsHead := by
    intro request passed passes
    simp only [browserRedirectMiddleware] at passes
    repeat' split at passes
    all_goals
      cases passes
      try rfl

/-- A browser without credentials of its own asks for a path that is not skipped. -/
def RedirectsBrowser : Prop :=
  isSkipped config head = false ∧ head.headers "authorization" = none ∧
    isBrowser external head = true

end Redirect

variable {external : External} {config : BrowserRedirectConfig}

theorem browserRedirect_settles :
    Settles Request.Identified [(browserRedirect external config).layer] fun request =>
      RedirectsBrowser external config request.head := by
  intro post identified request
  simp only [Middleware.ensures_layer, browserRedirect, browserRedirectMiddleware,
    RedirectsBrowser]
  by_cases known : request.identity.isSome = true
  · simp [known, identified request known]
  · cases isSkipped config request.head <;> cases request.head.headers "authorization" <;>
      cases isBrowser external request.head <;> simp [known]

/-- Paths that continue a skipped path are never redirected. -/
theorem not_redirectsBrowser_of_skipped {head : RequestHead} {skip rest : String}
    (skipped : skip ∈ config.skipPaths) (continues : head.path = skip ++ rest) :
    ¬RedirectsBrowser external config head := by
  rintro ⟨notSkipped, _⟩
  have covered : isSkipped config head = true := by
    apply List.any_eq_true.mpr
    exact ⟨skip, skipped, by rw [continues]; exact Text.startsWith_append skip rest⟩
  simp [covered] at notSkipped

end AxumConf.Auth
