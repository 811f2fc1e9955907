import AxumConf.Auth.ConcurrentRefresh
import AxumConf.ErrorResponse
import AxumConf.Lib.Components

/-!
# Sessions that stay cleared

A logout deletes the record of the session while other requests hold copies of it.  A request that
has changed its copy saves it at its end, whatever has become of the record, unless its response is
a server error.  So a record that was deleted comes back exactly when a request that is under way
goes on to save; requests that come later find no session and save nothing under its id.
-/

namespace AxumConf.Auth

/-- What the layers and the handler behind `session_to_identity` do with the session. -/
inductive SessionUse where
  | keeps
  | writes (session : Session)
  | flushes

structure SessionReply where
  use : SessionUse
  status : ℕ

/-- A request: whether `session_to_identity` looks at its session, and what is behind. -/
structure Visit where
  inspected : Bool
  reply : ℕ → Session → SessionReply

/-- Where a visit stands, with its copy of the session. -/
inductive VisitStage where
  | waiting
  | loaded (session : Session)
  | answered (session : Session) (answer : Option RefreshedTokens)
  | handling (session : Session) (changed : Bool)
  | saving (session : Session)
  | flushing
  | done

structure SessionTraffic where
  /-- What the store holds under the session's id. -/
  record : Option Session
  stages : ℕ → VisitStage := fun _ => .waiting
  redeemed : List String := []

def SessionTraffic.moves (state : SessionTraffic) (request : ℕ) (stage : VisitStage) :
    SessionTraffic :=
  { state with stages := Function.update state.stages request stage }

/-- `StatusCode::is_server_error` -/
def isServerError (status : ℕ) : Bool :=
  500 ≤ status && status < 600

/-- What the session manager does at the end of a request. -/
def SessionReply.settles (reply : SessionReply) (session : Session) (changed : Bool) :
    VisitStage :=
  match reply.use with
  | .flushes => .flushing
  | .writes after => if isServerError reply.status then .done else .saving after
  | .keeps => if changed && !isServerError reply.status then .saving session else .done

/-- The request leaves `session_to_identity`. -/
def leavesLayer (session : Session) : RequestState → VisitStage
  | .written fresh => .handling fresh true
  | .flushing => .flushing
  | _ => .handling session false

section Steps

variable (external : External) (idTokenKeys : JwksProvider) (provider : RefreshProvider)
  (visits : ℕ → Visit)

def SessionTraffic.loads (state : SessionTraffic) (request : ℕ) : SessionTraffic :=
  match state.record with
  | none => state.moves request .done
  | some session =>
      if (visits request).inspected then state.moves request (.loaded session)
      else state.moves request (.handling session false)

def SessionTraffic.asks (state : SessionTraffic) (request : ℕ) (session : Session)
    (token : String) : SessionTraffic :=
  match provider.answer state.redeemed token with
  | some tokens =>
      { state.moves request (.answered session (some tokens)) with
        redeemed := token :: state.redeemed }
  | none => state.moves request (.answered session none)

def SessionTraffic.checks (state : SessionTraffic) (turn : Turn) (session : Session) :
    SessionTraffic :=
  match checkSession (atTime external turn.now) session with
  | .passes => state.moves turn.request (leavesLayer session .done)
  | .inspects =>
      state.moves turn.request
        (leavesLayer session (inspected external idTokenKeys session .done))
  | .refreshes token => state.asks provider turn.request session token
  | .clears => state.moves turn.request (leavesLayer session .flushing)

/-- One session that any number of visits use, each in its own time. -/
def sessionTraffic : Machine SessionTraffic Turn where
  step state turn :=
    match state.stages turn.request with
    | .waiting => some (state.loads visits turn.request)
    | .loaded session => some (state.checks external idTokenKeys provider turn session)
    | .answered session answer =>
        some (state.moves turn.request
          (leavesLayer session (afterAnswer external idTokenKeys session answer)))
    | .handling session changed =>
        some (state.moves turn.request
          (((visits turn.request).reply turn.now session).settles session changed))
    | .saving session => some { state.moves turn.request .done with record := some session }
    | .flushing => some { state.moves turn.request .done with record := none }
    | .done => none

/-- The visit saves a copy that its handler gets like this, at some time. -/
def Visit.Saves (visit : Visit) (session : Session) (changed : Bool) : Prop :=
  ∃ now after, (visit.reply now session).settles session changed = .saving after

/-- The visit saves a copy of which the layer has made this. -/
def Visit.SavesAfter (visit : Visit) (session : Session) (outcome : RequestState) : Prop :=
  ∃ left changed, leavesLayer session outcome = .handling left changed ∧ visit.Saves left changed

/-- The visit has a copy and can save one: what the layer makes of it is what it makes of it in a
request that runs alone. -/
def MaySave (redeemed : List String) (visit : Visit) : VisitStage → Prop
  | .loaded session =>
      ∃ now, visit.SavesAfter session
        (runsAlone (atTime external now) idTokenKeys provider redeemed session)
  | .answered session answer =>
      visit.SavesAfter session (afterAnswer external idTokenKeys session answer)
  | .handling session changed => visit.Saves session changed
  | .saving _ => True
  | .waiting | .flushing | .done => False

end Steps

section Saving

variable {external : External} {idTokenKeys : JwksProvider} {provider : RefreshProvider}
  {visits : ℕ → Visit} {visit : Visit} {session : Session} {state next : SessionTraffic}
  {redeemed later : List String}

theorem stages_moves (state : SessionTraffic) (request other : ℕ) (stage : VisitStage) :
    (state.moves request stage).stages other =
      if other = request then stage else state.stages other :=
  Function.update_apply state.stages request stage other

theorem not_savesAfter_flushing : ¬visit.SavesAfter session .flushing := by
  rintro ⟨left, changed, leaves, -⟩
  cases leaves

theorem maySave_leavesLayer {outcome : RequestState} :
    MaySave external idTokenKeys provider redeemed visit (leavesLayer session outcome) ↔
      visit.SavesAfter session outcome := by
  constructor
  · intro may
    cases leaves : leavesLayer session outcome with
    | handling left changed =>
        rw [leaves] at may
        exact ⟨left, changed, leaves, may⟩
    | _ => cases outcome <;> simp_all [leavesLayer, MaySave]
  · rintro ⟨left, changed, leaves, saves⟩
    rw [leaves]
    exact saves

theorem settles_saves_or_ends (reply : SessionReply) (session : Session) (changed : Bool) :
    (∃ after, reply.settles session changed = .saving after) ∨
      reply.settles session changed = .flushing ∨ reply.settles session changed = .done := by
  unfold SessionReply.settles
  cases reply.use with
  | flushes => exact .inr (.inl rfl)
  | writes after =>
      cases isServerError reply.status with
      | true => exact .inr (.inr rfl)
      | false => exact .inl ⟨after, rfl⟩
  | keeps =>
      cases changed && !isServerError reply.status with
      | true => exact .inl ⟨session, rfl⟩
      | false => exact .inr (.inr rfl)

/-- The more tokens are redeemed the fewer visits save. -/
theorem MaySave.of_redeemed {stage : VisitStage} (subset : redeemed ⊆ later)
    (may : MaySave external idTokenKeys provider later visit stage) :
    MaySave external idTokenKeys provider redeemed visit stage := by
  cases stage with
  | loaded session =>
      rcases may with ⟨now, saves⟩
      refine ⟨now, ?_⟩
      unfold runsAlone at saves ⊢
      cases checked : checkSession (atTime external now) session with
      | refreshes token =>
          simp only [checked, RefreshProvider.answer] at saves ⊢
          by_cases isLater : later.contains token = true
          · simp only [isLater, if_true] at saves
            exact absurd saves not_savesAfter_flushing
          · have notLater : token ∉ later := by simpa using isLater
            have notNow : token ∉ redeemed := fun member => notLater (subset member)
            simpa [notLater, notNow] using saves
      | passes => simpa [checked] using saves
      | inspects => simpa [checked] using saves
      | clears => simpa [checked] using saves
  | _ => exact may

/-- A step is one of the visit's own, redeems tokens or none, and changes the record only by saving
or flushing. -/
structure StepsTo (state : SessionTraffic) (request : ℕ) (next : SessionTraffic) : Prop where
  others : ∀ other, other ≠ request → next.stages other = state.stages other
  redeemed : state.redeemed ⊆ next.redeemed
  record : next.record = state.record ∨ next.record = none ∨
    ∃ session, state.stages request = .saving session

theorem stepsTo_moves (request : ℕ) (stage : VisitStage) :
    StepsTo state request (state.moves request stage) where
  others other different := by rw [stages_moves, if_neg different]
  redeemed := List.Subset.refl _
  record := .inl rfl

theorem stepsTo_asks (request : ℕ) (session : Session) (token : String) :
    StepsTo state request (state.asks provider request session token) := by
  have moves := @stepsTo_moves state request
  unfold SessionTraffic.asks
  cases provider.answer state.redeemed token with
  | none => exact moves (.answered session none)
  | some tokens =>
      have moved := moves (.answered session (some tokens))
      exact ⟨moved.others, List.subset_cons_self _ _, moved.record⟩

theorem stages_asks (request : ℕ) (session : Session) (token : String) :
    (state.asks provider request session token).stages request =
      .answered session (provider.answer state.redeemed token) := by
  unfold SessionTraffic.asks
  cases answers : provider.answer state.redeemed token with
  | none => rw [stages_moves, if_pos rfl]
  | some tokens => exact (stages_moves state request request _).trans (if_pos rfl)

theorem stepsTo_of_step {turn : Turn}
    (stepped : (sessionTraffic external idTokenKeys provider visits).step state turn =
      some next) : StepsTo state turn.request next := by
  have moves := @stepsTo_moves state turn.request
  simp only [sessionTraffic] at stepped
  cases stands : state.stages turn.request with
  | waiting =>
      simp only [stands, Option.some.injEq] at stepped
      rw [← stepped, SessionTraffic.loads]
      split
      · exact moves _
      · split
        · exact moves _
        · exact moves _
  | loaded session =>
      simp only [stands, Option.some.injEq] at stepped
      rw [← stepped, SessionTraffic.checks]
      split
      · exact moves _
      · exact moves _
      · exact stepsTo_asks _ _ _
      · exact moves _
  | answered session answer =>
      simp only [stands, Option.some.injEq] at stepped
      rw [← stepped]
      exact moves _
  | handling session changed =>
      simp only [stands, Option.some.injEq] at stepped
      rw [← stepped]
      exact moves _
  | saving session =>
      simp only [stands, Option.some.injEq] at stepped
      rw [← stepped]
      have moved := moves .done
      exact ⟨moved.others, moved.redeemed, .inr (.inr ⟨session, stands⟩)⟩
  | flushing =>
      simp only [stands, Option.some.injEq] at stepped
      rw [← stepped]
      have moved := moves .done
      exact ⟨moved.others, moved.redeemed, .inr (.inl rfl)⟩
  | done =>
      simp only [stands] at stepped
      cases stepped

/-- Without a record no visit comes to save that could not before. -/
theorem maySave_of_step {turn : Turn} (deleted : state.record = none)
    (stepped : (sessionTraffic external idTokenKeys provider visits).step state turn = some next)
    (may : MaySave external idTokenKeys provider next.redeemed (visits turn.request)
      (next.stages turn.request)) :
    MaySave external idTokenKeys provider state.redeemed (visits turn.request)
      (state.stages turn.request) := by
  simp only [sessionTraffic] at stepped
  cases stands : state.stages turn.request with
  | waiting =>
      simp only [stands, Option.some.injEq, SessionTraffic.loads, deleted] at stepped
      rw [← stepped, stages_moves, if_pos rfl] at may
      exact may
  | loaded session =>
      simp only [stands, Option.some.injEq, SessionTraffic.checks] at stepped
      refine ⟨turn.now, ?_⟩
      unfold runsAlone
      cases checked : checkSession (atTime external turn.now) session with
      | passes =>
          rw [← stepped, checked, stages_moves, if_pos rfl] at may
          exact maySave_leavesLayer.mp may
      | inspects =>
          rw [← stepped, checked, stages_moves, if_pos rfl] at may
          exact maySave_leavesLayer.mp may
      | refreshes token =>
          rw [← stepped, checked, stages_asks] at may
          exact may
      | clears =>
          rw [← stepped, checked, stages_moves, if_pos rfl] at may
          exact maySave_leavesLayer.mp may
  | answered session answer =>
      simp only [stands, Option.some.injEq] at stepped
      rw [← stepped, stages_moves, if_pos rfl] at may
      exact maySave_leavesLayer.mp may
  | handling session changed =>
      simp only [stands, Option.some.injEq] at stepped
      rw [← stepped, stages_moves, if_pos rfl] at may
      rcases settles_saves_or_ends ((visits turn.request).reply turn.now session) session changed
        with ⟨after, settles⟩ | settles | settles
      · exact ⟨turn.now, after, settles⟩
      · rw [settles] at may
        exact may.elim
      · rw [settles] at may
        exact may.elim
  | saving session => trivial
  | flushing =>
      simp only [stands, Option.some.injEq] at stepped
      rw [← stepped, stages_moves, if_pos rfl] at may
      exact may
  | done =>
      simp only [stands] at stepped
      cases stepped

/-- While there is no record and nobody can save a copy, it stays so. -/
theorem deleted_step {turn : Turn} (deleted : state.record = none)
    (nobody : ∀ request, ¬MaySave external idTokenKeys provider state.redeemed (visits request)
      (state.stages request))
    (stepped : (sessionTraffic external idTokenKeys provider visits).step state turn =
      some next) :
    next.record = none ∧ ∀ request, ¬MaySave external idTokenKeys provider next.redeemed
      (visits request) (next.stages request) := by
  have steps := stepsTo_of_step stepped
  constructor
  · rcases steps.record with same | gone | ⟨session, saving⟩
    · rw [same, deleted]
    · exact gone
    · apply (nobody turn.request _).elim
      rw [saving]
      trivial
  · intro request may
    by_cases own : request = turn.request
    · subst own
      exact nobody turn.request (maySave_of_step deleted stepped may)
    · rw [steps.others request own] at may
      exact nobody request (may.of_redeemed steps.redeemed)

end Saving

section ComingBack

variable {external : External} {idTokenKeys : JwksProvider} {provider : RefreshProvider}
  {visits : ℕ → Visit} {state next : SessionTraffic} {session : Session} {request : ℕ}

/-- Some run leads to a state in which there is a record. -/
def ComesBack (external : External) (idTokenKeys : JwksProvider) (provider : RefreshProvider)
    (visits : ℕ → Visit) (state : SessionTraffic) : Prop :=
  ∃ turns finish, (sessionTraffic external idTokenKeys provider visits).run state turns =
    some finish ∧ ¬finish.record = none

theorem comesBack_of_step {turn : Turn}
    (stepped : (sessionTraffic external idTokenKeys provider visits).step state turn = some next)
    (back : ComesBack external idTokenKeys provider visits next) :
    ComesBack external idTokenKeys provider visits state := by
  rcases back with ⟨turns, finish, ran, found⟩
  refine ⟨turn :: turns, finish, ?_, found⟩
  rw [Machine.run_cons, stepped, Option.bind_some]
  exact ran

theorem comesBack_of_saving (saving : state.stages request = .saving session) :
    ComesBack external idTokenKeys provider visits state := by
  have stepped : (sessionTraffic external idTokenKeys provider visits).step state ⟨request, 0⟩ =
      some { state.moves request .done with record := some session } := by
    simp only [sessionTraffic, saving]
  exact comesBack_of_step stepped ⟨[], _, rfl, by simp⟩

theorem comesBack_of_handling {changed : Bool}
    (handling : state.stages request = .handling session changed)
    (saves : (visits request).Saves session changed) :
    ComesBack external idTokenKeys provider visits state := by
  rcases saves with ⟨now, after, settles⟩
  have stepped : (sessionTraffic external idTokenKeys provider visits).step state
      ⟨request, now⟩ = some (state.moves request (.saving after)) := by
    simp only [sessionTraffic, handling, settles]
  apply comesBack_of_step stepped
  exact comesBack_of_saving ((stages_moves _ _ _ _).trans (if_pos rfl))

/-- A step takes the visit out of the layer with an outcome after which it saves. -/
theorem comesBack_of_leaves {turn : Turn} {outcome : RequestState}
    (stepped : (sessionTraffic external idTokenKeys provider visits).step state turn =
      some (state.moves turn.request (leavesLayer session outcome)))
    (saves : (visits turn.request).SavesAfter session outcome) :
    ComesBack external idTokenKeys provider visits state := by
  rcases saves with ⟨left, changed, leaves, savesLeft⟩
  rw [leaves] at stepped
  apply comesBack_of_step stepped
  exact comesBack_of_handling ((stages_moves _ _ _ _).trans (if_pos rfl)) savesLeft

theorem comesBack_of_answered {answer : Option RefreshedTokens}
    (answered : state.stages request = .answered session answer)
    (saves : (visits request).SavesAfter session
      (afterAnswer external idTokenKeys session answer)) :
    ComesBack external idTokenKeys provider visits state := by
  have stepped : (sessionTraffic external idTokenKeys provider visits).step state ⟨request, 0⟩ =
      some (state.moves request
        (leavesLayer session (afterAnswer external idTokenKeys session answer))) := by
    simp only [sessionTraffic, answered]
  exact comesBack_of_leaves stepped saves

theorem comesBack_of_loaded {now : ℕ} (loaded : state.stages request = .loaded session)
    (saves : (visits request).SavesAfter session
      (runsAlone (atTime external now) idTokenKeys provider state.redeemed session)) :
    ComesBack external idTokenKeys provider visits state := by
  have stepped : (sessionTraffic external idTokenKeys provider visits).step state
      ⟨request, now⟩ =
      some (state.checks external idTokenKeys provider ⟨request, now⟩ session) := by
    simp only [sessionTraffic, loaded]
  unfold SessionTraffic.checks at stepped
  unfold runsAlone at saves
  cases checked : checkSession (atTime external now) session with
  | passes =>
      simp only [checked] at stepped saves
      exact comesBack_of_leaves stepped saves
  | inspects =>
      simp only [checked] at stepped saves
      exact comesBack_of_leaves stepped saves
  | refreshes token =>
      simp only [checked] at stepped saves
      exact comesBack_of_step stepped (comesBack_of_answered (stages_asks _ _ _) saves)
  | clears =>
      simp only [checked] at saves
      exact absurd saves not_savesAfter_flushing

theorem comesBack_of_maySave
    (may : MaySave external idTokenKeys provider state.redeemed (visits request)
      (state.stages request)) : ComesBack external idTokenKeys provider visits state := by
  cases stands : state.stages request with
  | loaded session =>
      rw [stands] at may
      rcases may with ⟨now, saves⟩
      exact comesBack_of_loaded stands saves
  | answered session answer =>
      rw [stands] at may
      exact comesBack_of_answered stands may
  | handling session changed =>
      rw [stands] at may
      exact comesBack_of_handling stands may
  | saving session => exact comesBack_of_saving stands
  | waiting =>
      rw [stands] at may
      cases may
  | flushing =>
      rw [stands] at may
      cases may
  | done =>
      rw [stands] at may
      cases may

end ComingBack

section Routes

/-- A request to an inner route, whose handler leaves the session alone; `session_to_identity` skips
a request with an identity. -/
def pageVisit (identified : Bool) (status : ℕ) : Visit where
  inspected := !identified
  reply := fun _ _ => { use := .keeps, status }

def loginVisit (client : CodeFlowClient) (secrets : FlowSecrets) : Visit where
  inspected := false
  reply := fun _ session =>
    let (response, after) := loginHandler client secrets session
    { use := .writes after, status := response.status }

def callbackVisit (client : CodeFlowClient) (params : CallbackParams) : Visit where
  inspected := false
  reply := fun now session =>
    match callbackHandler client now params session with
    | (.ok response, after) => { use := .writes after, status := response.status }
    | (.error problem, _) => { use := .keeps, status := problem.statusCode }

def logoutVisit (client : CodeFlowClient) : Visit where
  inspected := false
  reply := fun _ session =>
    { use := .flushes, status := (logoutHandler client session).1.status }

variable {client : CodeFlowClient} {session : Session} {changed : Bool}

theorem not_saves_logoutVisit : ¬(logoutVisit client).Saves session changed := by
  rintro ⟨now, after, settles⟩
  cases settles

theorem saves_loginVisit (secrets : FlowSecrets) :
    (loginVisit client secrets).Saves session changed :=
  ⟨0, (loginHandler client secrets session).2, rfl⟩

/-- An accepted callback saves, and one that is refused leaves its copy as it got it. -/
theorem saves_callbackVisit_iff {params : CallbackParams} :
    (callbackVisit client params).Saves session false ↔
      ∃ result, callbackTokens client params session = .ok result := by
  unfold Visit.Saves callbackVisit callbackHandler
  cases checked : callbackTokens client params session with
  | error problem =>
      constructor
      · rintro ⟨now, after, settles⟩
        simp [SessionReply.settles, checked] at settles
      · rintro ⟨result, accepted⟩
        cases accepted
  | ok result =>
      refine iff_of_true ⟨0, ?_⟩ ⟨result, rfl⟩
      simp [checked, SessionReply.settles, redirectTemporary, isServerError]

theorem saves_pageVisit_iff {identified : Bool} {status : ℕ} :
    (pageVisit identified status).Saves session changed ↔
      changed = true ∧ isServerError status = false := by
  unfold Visit.Saves pageVisit SessionReply.settles
  constructor
  · rintro ⟨now, after, settles⟩
    by_cases saves : (changed && !isServerError status) = true
    · simpa using saves
    · simp only [saves, Bool.false_eq_true, if_false] at settles
      cases settles
  · rintro ⟨isChanged, fine⟩
    exact ⟨0, session, by simp [isChanged, fine]⟩

end Routes

/-- After a logout, or another visit that clears the session, the session stays without a record in
every run, whatever requests come and in whatever order they go on, exactly when no visit that is
under way can save a copy it took before. -/
theorem stays_cleared_iff (external : External) (idTokenKeys : JwksProvider)
    (provider : RefreshProvider) (visits : ℕ → Visit) {state next : SessionTraffic} {turn : Turn}
    (clears : state.stages turn.request = .flushing)
    (stepped : (sessionTraffic external idTokenKeys provider visits).step state turn =
      some next) :
    (∀ turns finish, (sessionTraffic external idTokenKeys provider visits).run next turns =
        some finish → finish.record = none) ↔
      ∀ request, ¬MaySave external idTokenKeys provider next.redeemed (visits request)
        (next.stages request) := by
  have deleted : next.record = none := by
    simp only [sessionTraffic, clears, Option.some.injEq] at stepped
    rw [← stepped]
  apply @Machine.holds_for_good_iff SessionTraffic Turn ℕ
    (sessionTraffic external idTokenKeys provider visits) (fun state => state.record = none)
    (fun request state => MaySave external idTokenKeys provider state.redeemed (visits request)
      (state.stages request)) ?_ ?_ next deleted
  · intro state event next isDeleted nobody stepped
    exact deleted_step isDeleted nobody stepped
  · intro state request may
    exact comesBack_of_maySave may

/-- One request logs out, all others are pages. -/
def logoutBesidePages : ℕ → Visit
  | 0 => logoutVisit twoUserClient
  | _ => pageVisit false 200

/-- The logout is about to delete the record, and a page has been granted fresh tokens. -/
def overtakenLogout : SessionTraffic where
  record := some expiredSession
  stages := fun
    | 0 => .flushing
    | 1 => .answered expiredSession (some (rotatingProvider.grants "refresh"))
    | _ => .waiting
  redeemed := ["refresh"]

/-- The page then saves the session again. -/
theorem stays_cleared_iff_overtaken :
    ∃ next, (sessionTraffic keylessExternal noKeys rotatingProvider logoutBesidePages).step
        overtakenLogout { request := 0, now := 1750000000 } = some next ∧
      ¬∀ turns finish, (sessionTraffic keylessExternal noKeys rotatingProvider
        logoutBesidePages).run next turns = some finish → finish.record = none := by
  refine ⟨_, rfl, ?_⟩
  intro forGood
  have nobody := (@stays_cleared_iff keylessExternal noKeys rotatingProvider logoutBesidePages
    overtakenLogout _ { request := 0, now := 1750000000 } rfl rfl).mp forGood
  apply nobody 1
  exact ⟨_, true, rfl, saves_pageVisit_iff.mpr ⟨rfl, rfl⟩⟩

end AxumConf.Auth
