import AxumConf.Auth.BrowserRedirect

/-!
# The paths a browser is not redirected from

Skip routes are compared as text. A path below a skip route passes, and so does one that goes on
in the middle of a segment.
-/

namespace AxumConf.Auth

/-- The path is the one of the route with a slash and more. -/
def LiesBeneath (route path : String) : Prop :=
  ∃ parent rest, (route = parent ∨ route = parent ++ "/") ∧ path = parent ++ "/" ++ rest

def Covers (route path : String) : Prop :=
  path = route ∨ LiesBeneath route path

/-- The path goes on after the route without a slash between them. -/
def SplitsSegment (route path : String) : Prop :=
  ∃ rest, path = route ++ rest ∧ rest ≠ "" ∧ Text.startsWith rest "/" = false ∧
    Text.endsWith route '/' = false

theorem LiesBeneath.startsWith {route path : String} (beneath : LiesBeneath route path) :
    Text.startsWith path route = true := by
  rcases beneath with ⟨parent, rest, rfl | rfl, rfl⟩
  · apply Text.startsWith_iff.mpr
    exact ⟨"/" ++ rest, by simp [String.append_assoc]⟩
  · exact Text.startsWith_append (parent ++ "/") rest

theorem Covers.startsWith {route path : String} (covers : Covers route path) :
    Text.startsWith path route = true := by
  rcases covers with rfl | beneath
  · apply Text.startsWith_iff.mpr
    exact ⟨"", by simp⟩
  · exact beneath.startsWith

theorem SplitsSegment.startsWith {route path : String} (splits : SplitsSegment route path) :
    Text.startsWith path route = true := by
  rcases splits with ⟨rest, rfl, _⟩
  exact Text.startsWith_append route rest

/-- A path that starts with a route lies at the route, below it, or in a longer segment. -/
theorem startsWith_iff_covers_or_splits {route path : String} :
    Text.startsWith path route = true ↔ Covers route path ∨ SplitsSegment route path := by
  constructor
  · intro starts
    rcases Text.startsWith_iff.mp starts with ⟨rest, rfl⟩
    by_cases same : rest = ""
    · subst same
      exact .inl (.inl (by simp))
    cases slashed : Text.startsWith rest "/" with
    | true =>
        rcases Text.startsWith_iff.mp slashed with ⟨below, rfl⟩
        exact .inl (.inr ⟨route, below, .inl rfl, by simp [String.append_assoc]⟩)
    | false =>
        cases ends : Text.endsWith route '/' with
        | true =>
            rcases Text.endsWith_iff.mp ends with ⟨parent, rfl⟩
            exact .inl (.inr ⟨parent, rest, .inr rfl, rfl⟩)
        | false => exact .inr ⟨rest, rfl, same, slashed, ends⟩
  · rintro (covers | splits)
    · exact covers.startsWith
    · exact splits.startsWith

theorem SplitsSegment.not_covers {route path : String} (splits : SplitsSegment route path) :
    ¬Covers route path := by
  rcases splits with ⟨rest, rfl, nonempty, unslashed, apart⟩
  rintro (same | ⟨parent, below, rfl | rfl, path⟩)
  · apply nonempty
    simpa using same
  · rw [String.append_assoc, String.append_right_inj] at path
    rw [path, Text.startsWith_append] at unslashed
    cases unslashed
  · have ends : Text.endsWith (parent ++ "/") '/' = true := Text.endsWith_iff.mpr ⟨parent, rfl⟩
    rw [ends] at apart
    cases apart

theorem isSkipped_iff {config : BrowserRedirectConfig} {head : RequestHead} :
    isSkipped config head = true ↔
      (∃ skip ∈ config.skipPaths, Covers skip head.path) ∨
        ∃ skip ∈ config.skipPaths, SplitsSegment skip head.path := by
  simp only [isSkipped, List.any_eq_true, startsWith_iff_covers_or_splits]
  constructor
  · rintro ⟨skip, isSkip, covers | splits⟩
    · exact .inl ⟨skip, isSkip, covers⟩
    · exact .inr ⟨skip, isSkip, splits⟩
  · rintro (⟨skip, isSkip, covers⟩ | ⟨skip, isSkip, splits⟩)
    · exact ⟨skip, isSkip, .inl covers⟩
    · exact ⟨skip, isSkip, .inr splits⟩

/-- A browser that nobody identified and that sends no credentials. -/
structure AnonymousBrowser (external : External) (request : Request) : Prop where
  anonymous : request.identity = none
  noAuthorization : request.head.headers "authorization" = none
  acceptsHtml : isBrowser external request.head = true

section Passing

variable {external : External} {config : BrowserRedirectConfig} {request : Request}

/-- Only the skip routes decide whether an anonymous browser passes. -/
theorem passes_iff_isSkipped (browser : AnonymousBrowser external request) :
    browserRedirectMiddleware external config request = .ok request ↔
      isSkipped config request.head = true := by
  rcases browser with ⟨anonymous, noAuthorization, acceptsHtml⟩
  simp only [browserRedirectMiddleware, anonymous, noAuthorization, acceptsHtml]
  cases isSkipped config request.head <;> simp

end Passing

/-- Skip routes exempt what lies at or below them, unless they break a segment of the path. -/
theorem passes_iff_covered_iff (external : External) (config : BrowserRedirectConfig)
    (request : Request) (browser : AnonymousBrowser external request) :
    (browserRedirectMiddleware external config request = .ok request ↔
      ∃ skip ∈ config.skipPaths, Covers skip request.head.path) ↔
    ((∃ skip ∈ config.skipPaths, SplitsSegment skip request.head.path) →
      ∃ skip ∈ config.skipPaths, Covers skip request.head.path) := by
  rw [passes_iff_isSkipped browser, isSkipped_iff]
  constructor
  · intro exempts splits
    exact exempts.mp (.inr splits)
  · intro covered
    constructor
    · rintro (covers | splits)
      · exact covers
      · exact covered splits
    · exact .inl

section Livestream

def probeSkips : BrowserRedirectConfig where
  loginRoute := "/auth/login"
  skipPaths := ["/auth/", "/live", "/ready", "/metrics"]

def browserRequest (path : String) : Request where
  head :=
    { path := path
      pathAndQuery := some path
      headers := fun name => if name = "accept" then some (HeaderValue.ofText "text/html") else none
      peerIp := none }

theorem browserRequest_anonymous (path : String) :
    AnonymousBrowser External.visible (browserRequest path) := by
  refine ⟨rfl, by simp [browserRequest], ?_⟩
  simp only [isBrowser, browserRequest, External.headerText, if_true]
  decide

theorem passes_iff_covered_live :
    (browserRedirectMiddleware External.visible probeSkips (browserRequest "/live") =
        .ok (browserRequest "/live") ↔
      ∃ skip ∈ probeSkips.skipPaths, Covers skip (browserRequest "/live").head.path) ↔
    ((∃ skip ∈ probeSkips.skipPaths, SplitsSegment skip (browserRequest "/live").head.path) →
      ∃ skip ∈ probeSkips.skipPaths, Covers skip (browserRequest "/live").head.path) :=
  passes_iff_covered_iff External.visible probeSkips (browserRequest "/live")
    (browserRequest_anonymous "/live")

/-- A page whose name begins like the liveness route is shown without a login. -/
theorem livestream_passes :
    AnonymousBrowser External.visible (browserRequest "/livestream") ∧
      browserRedirectMiddleware External.visible probeSkips (browserRequest "/livestream") =
        .ok (browserRequest "/livestream") ∧
      ¬∃ skip ∈ probeSkips.skipPaths, Covers skip "/livestream" := by
  have splits : SplitsSegment "/live" "/livestream" := ⟨"stream", by decide, by decide, rfl, rfl⟩
  have browser := browserRequest_anonymous "/livestream"
  refine ⟨browser, (passes_iff_isSkipped browser).mpr (by decide), ?_⟩
  rintro ⟨skip, isSkip, covers⟩
  have starts := covers.startsWith
  simp only [probeSkips, List.mem_cons, List.not_mem_nil, or_false] at isSkip
  rcases isSkip with rfl | rfl | rfl | rfl
  · cases starts
  · exact splits.not_covers covers
  · cases starts
  · cases starts

end Livestream

end AxumConf.Auth
