import AxumConf.CircuitBreaker.Episode

/-!
# Recovery of an idle breaker

Whether time and successful calls alone can close the circuit again. Every
admission of a half-open episode takes a slot for good, so what an idle breaker
can still collect is its recorded successes and one success for each slot left.
When that is below the success threshold, no continuation closes it.
-/

namespace AxumConf.CircuitBreaker

/-- Time passing, or a step of a guarded call that is admitted and succeeds. -/
def Event.succeeds : Event → Bool
  | .tick _ => true
  | .enter _ => true
  | .reject => false
  | .complete _ outcome => outcome = .success
  | .record _ => true
  | .drop _ => false

/-- Time and guarded calls that all succeed can bring the breaker to `closed`. -/
def Recovers (config : CircuitBreakerTargetConfig) (s : System) : Prop :=
  ∃ events finish, (∀ event ∈ events, event.succeeds = true) ∧
    (guardedCalls config).run s events = some finish ∧
    finish.breaker.state = .closed ∧ finish.calls.size = 0

/-- What a half-open breaker has recorded and can still record. -/
def reachableSuccesses (config : CircuitBreakerTargetConfig) (s : System) : Nat :=
  s.breaker.successCount.toNat + s.calls.size +
    (config.halfOpenMaxCalls.toNat - s.breaker.halfOpenCalls.toNat)

/-- No successful continuation closes the circuit. -/
structure Stuck (config : CircuitBreakerTargetConfig) (s : System) : Prop where
  outcomes : ∀ id call, s.calls.lookup id = some call →
    call.outcome = none ∨ call.outcome = some .success
  short : match s.breaker.state with
    | .closed => False
    | .opened => s.calls.size = 0 ∧
        config.halfOpenMaxCalls.toNat < config.successThreshold.toNat
    | .halfOpen => reachableSuccesses config s < config.successThreshold.toNat

def successfulCall (id : Nat) : List Event :=
  [.enter id, .complete id .success, .record id]

section Negative

variable {config : CircuitBreakerTargetConfig} {s : System}

theorem Stuck.of_opened (opened : s.breaker.state = .opened) (idle : s.calls.size = 0)
    (tooFew : config.halfOpenMaxCalls.toNat < config.successThreshold.toNat) :
    Stuck config s where
  outcomes := by
    intro id call found
    rw [AList.lookup_of_size_eq_zero idle] at found
    cases found
  short := by
    rw [opened]
    exact ⟨idle, tooFew⟩

theorem Stuck.of_halfOpen (halfOpen : s.breaker.state = .halfOpen)
    (outcomes : ∀ id call, s.calls.lookup id = some call →
      call.outcome = none ∨ call.outcome = some .success)
    (tooFew : reachableSuccesses config s < config.successThreshold.toNat) :
    Stuck config s where
  outcomes := outcomes
  short := by
    rw [halfOpen]
    exact tooFew

theorem Stuck.tooFew (stuck : Stuck config s) (halfOpen : s.breaker.state = .halfOpen) :
    reachableSuccesses config s < config.successThreshold.toNat := by
  have short := stuck.short
  rwa [halfOpen] at short

theorem Stuck.not_closed (stuck : Stuck config s) : s.breaker.state ≠ .closed := by
  intro closed
  have short := stuck.short
  rwa [closed] at short

theorem Stuck.enter (stuck : Stuck config s) (positive : 1 ≤ config.halfOpenMaxCalls.toNat)
    {id : Nat} (fresh : s.calls.lookup id = none) (allowed : s.allows config = true) :
    Stuck config (s.enter config id) := by
  have outcomes : ∀ other call, (s.enter config id).calls.lookup other = some call →
      call.outcome = none ∨ call.outcome = some .success := by
    intro other call found
    rcases AList.lookup_insert_cases found with ⟨-, rfl⟩ | ⟨-, old⟩
    · exact .inl rfl
    · exact stuck.outcomes other call old
  have oneMore (call : Call) : (s.calls.insert id call).size = s.calls.size + 1 :=
    AList.size_insert_of_lookup_none fresh call
  cases state : s.breaker.state with
  | closed => exact absurd state stuck.not_closed
  | opened =>
      have short := stuck.short
      simp only [state] at short
      have entered := System.enter_of_opened state allowed id
      refine .of_halfOpen (by rw [entered]) outcomes ?_
      simp only [reachableSuccesses, entered, oneMore, UInt32.toNat_zero, UInt32.toNat_one]
      omega
  | halfOpen =>
      have free : s.breaker.halfOpenCalls.toNat < config.halfOpenMaxCalls.toNat := by
        simpa [System.allows_of_halfOpen state, UInt32.lt_iff_toNat_lt] using allowed
      have charged := UInt32.toNat_add_one_of_lt_toNat free
      have short := stuck.tooFew state
      have entered : s.enter config id = _ := System.enter_of_halfOpen state id
      refine .of_halfOpen (by rw [entered]; exact state) outcomes ?_
      simp only [reachableSuccesses, entered, oneMore, charged] at short ⊢
      omega

theorem Stuck.complete (stuck : Stuck config s) {id : Nat} {call : Call}
    (found : s.calls.lookup id = some call) :
    Stuck config (s.complete id call .success) where
  outcomes := by
    intro other held lookedUp
    rcases AList.lookup_insert_cases lookedUp with ⟨-, rfl⟩ | ⟨-, old⟩
    · exact .inr rfl
    · exact stuck.outcomes other held old
  short := by
    have sameSize (changed : Call) : (s.calls.insert id changed).size = s.calls.size := by
      rw [AList.size_insert, AList.size_erase found]
    simpa only [reachableSuccesses, System.complete, sameSize] using stuck.short

theorem Stuck.record (stuck : Stuck config s) {id : Nat} {call : Call}
    (found : s.calls.lookup id = some call) : Stuck config (s.record config id call .success) := by
  have oneLess := AList.size_erase found
  have outcomes : ∀ other held, (s.calls.erase id).lookup other = some held →
      held.outcome = none ∨ held.outcome = some .success := by
    intro other held lookedUp
    exact stuck.outcomes other held (AList.lookup_of_lookup_erase lookedUp).2
  cases state : s.breaker.state with
  | closed => exact absurd state stuck.not_closed
  | opened =>
      -- An open breaker that is stuck has no call in flight.
      have short := stuck.short
      simp only [state] at short
      omega
  | halfOpen =>
      have short := stuck.tooFew state
      simp only [reachableSuccesses] at short
      have counted := @toNat_succ_of_below s.breaker.successCount config.successThreshold _ rfl
        (by omega)
      have below : ¬config.successThreshold ≤ s.breaker.successCount + 1 := by
        rw [UInt32.le_iff_toNat_le, counted]
        omega
      have applied := Inner.recordSuccess_of_halfOpen_below state below
      refine .of_halfOpen ?_ outcomes ?_
      · simp [System.record, Outcome.op, TimedOp.apply, applied, state]
      · simp only [reachableSuccesses, System.record, Outcome.op, TimedOp.apply, applied, counted]
        omega

theorem Stuck.step {next : System} {event : Event} (stuck : Stuck config s)
    (positive : 1 ≤ config.halfOpenMaxCalls.toNat) (succeeds : event.succeeds = true)
    (stepped : (guardedCalls config).step s event = some next) : Stuck config next := by
  cases stepped_of_step stepped with
  | tick span => exact ⟨stuck.outcomes, stuck.short⟩
  | enter id fresh allowed => exact stuck.enter positive fresh allowed
  | reject rejected => cases succeeds
  | complete id call outcome found waiting possible =>
      have success : outcome = .success := by simpa [Event.succeeds] using succeeds
      rw [success]
      exact stuck.complete found
  | record id call outcome found ended =>
      rcases stuck.outcomes id call found with waiting | success
      · rw [waiting] at ended
        cases ended
      · rw [success] at ended
        cases ended
        exact stuck.record found
  | drop id call found waiting => cases succeeds

theorem Stuck.not_recovers (stuck : Stuck config s)
    (positive : 1 ≤ config.halfOpenMaxCalls.toNat) : ¬Recovers config s := by
  rintro ⟨events, finish, succeed, ran, closed, -⟩
  have finishStuck := Machine.invariant_events (Stuck config)
    (fun _ _ _ stuck succeeds stepped => stuck.step positive succeeds stepped) stuck succeed ran
  exact finishStuck.not_closed closed

end Negative

section Positive

variable {config : CircuitBreakerTargetConfig} {s : System}

theorem Recovers.of_closed (closed : s.breaker.state = .closed) (idle : s.calls.size = 0) :
    Recovers config s :=
  ⟨[], s, by simp, rfl, closed, idle⟩

theorem Recovers.of_run {middle : System} {front : List Event}
    (succeed : ∀ event ∈ front, event.succeeds = true)
    (ran : (guardedCalls config).run s front = some middle) (recovers : Recovers config middle) :
    Recovers config s := by
  rcases recovers with ⟨back, finish, succeedBack, ranBack, closed, idle⟩
  refine ⟨front ++ back, finish, ?_, ?_, closed, idle⟩
  · intro event member
    rcases List.mem_append.mp member with early | late
    · exact succeed event early
    · exact succeedBack event late
  · rw [Machine.run_append_of_run ran, ranBack]

theorem run_successfulCall (idle : s.calls.size = 0) (allowed : s.allows config = true) :
    ∃ next, (guardedCalls config).run s (successfulCall 0) = some next ∧ next.calls.size = 0 ∧
      next.breaker = (s.breaker.shouldAllow config s.now).2.recordSuccess config := by
  have fresh := AList.lookup_of_size_eq_zero idle 0
  let call : Call := ⟨s.now, none, s.admittingEpisode⟩
  let admitted := s.enter config 0
  let completed := admitted.complete 0 call .success
  let next := completed.record config 0 { call with outcome := some .success } .success
  have admits : (guardedCalls config).step s (.enter 0) = some admitted := by
    simp [guardedCalls, stepEvent, fresh, allowed, admitted]
  have lookedUp : admitted.calls.lookup 0 = some call := AList.lookup_insert _
  have completes : (guardedCalls config).step admitted (.complete 0 .success) =
      some completed := by
    simp [guardedCalls, stepEvent, lookedUp, call, completed, Outcome.possible]
  have ended : completed.calls.lookup 0 = some { call with outcome := some .success } :=
    AList.lookup_insert _
  have records : (guardedCalls config).step completed (.record 0) = some next := by
    simp [guardedCalls, stepEvent, ended, next]
  refine ⟨next, ?_, ?_, rfl⟩
  · simp only [successfulCall, Machine.run_cons, admits, Option.bind_some, completes, records,
      Machine.run_nil]
  · have oneAdmitted := AList.size_insert_of_lookup_none fresh call
    have oneCompleted : completed.calls.size = admitted.calls.size := by
      have held := AList.size_erase lookedUp
      simp only [completed, System.complete, AList.size_insert]
      omega
    have oneLess := AList.size_erase ended
    simp only [next, System.record]
    simp only [admitted, System.enter] at oneCompleted
    simp only [call] at oneAdmitted
    omega

theorem successfulCall_succeeds (id : Nat) :
    ∀ event ∈ successfulCall id, event.succeeds = true := by
  simp [successfulCall, Event.succeeds]

/-- With enough slots left for the successes still needed, successful calls close the circuit. -/
theorem recovers_of_halfOpen {left : Nat} (halfOpen : s.breaker.state = .halfOpen)
    (idle : s.calls.size = 0) (below : s.breaker.successCount.toNat < config.successThreshold.toNat)
    (needed : config.successThreshold.toNat ≤ s.breaker.successCount.toNat + left)
    (slots : left ≤ config.halfOpenMaxCalls.toNat - s.breaker.halfOpenCalls.toNat) :
    Recovers config s := by
  induction left generalizing s with
  | zero => omega
  | succ left ih =>
      have answer : s.breaker.shouldAllow config s.now = _ := Inner.shouldAllow_of_halfOpen halfOpen
      have free : s.breaker.halfOpenCalls.toNat < config.halfOpenMaxCalls.toNat := by omega
      have allowed : s.allows config = true := by
        simpa [System.allows, answer, UInt32.lt_iff_toNat_lt] using free
      rcases run_successfulCall idle allowed with ⟨next, ran, idleNext, recorded⟩
      refine .of_run (successfulCall_succeeds 0) ran ?_
      let probing : Inner := { s.breaker with halfOpenCalls := s.breaker.halfOpenCalls + 1 }
      have state : probing.state = .halfOpen := halfOpen
      have charged : probing.halfOpenCalls.toNat = s.breaker.halfOpenCalls.toNat + 1 :=
        UInt32.toNat_add_one_of_lt_toNat free
      have counted : (probing.successCount + 1).toNat = s.breaker.successCount.toNat + 1 :=
        UInt32.toNat_add_one_of_lt_toNat below
      have recorded : next.breaker = probing.recordSuccess config := by rw [recorded, answer]
      by_cases reached : config.successThreshold ≤ probing.successCount + 1
      · rw [Inner.recordSuccess_of_halfOpen_reached state reached] at recorded
        exact .of_closed (by rw [recorded]) idleNext
      · rw [Inner.recordSuccess_of_halfOpen_below state reached] at recorded
        rw [UInt32.le_iff_toNat_le, counted] at reached
        refine ih ?_ idleNext ?_ ?_ ?_
        · rw [recorded]
          exact state
        · simp only [recorded, counted]
          omega
        · simp only [recorded, counted]
          omega
        · simp only [recorded, charged]
          omega

/-- Once the reset timeout has passed, an open breaker starts an episode with all its slots. -/
theorem recovers_of_opened {openedAt : Nat} (opened : s.breaker.state = .opened)
    (openedSince : s.breaker.lastFailureTime = some openedAt) (idle : s.calls.size = 0)
    (positive : 1 ≤ config.halfOpenMaxCalls.toNat)
    (enough : config.successThreshold.toNat ≤ config.halfOpenMaxCalls.toNat) :
    Recovers config s := by
  let later : System := { s with now := s.now + (openedAt + config.resetTimeout) }
  have waited : later.breaker.resetElapsed config later.now = true := by
    have enough : config.resetTimeout ≤ s.now + (openedAt + config.resetTimeout) - openedAt := by
      omega
    simp only [later, Inner.resetElapsed, openedSince]
    exact decide_eq_true enough
  have ranTick : (guardedCalls config).run s [.tick (openedAt + config.resetTimeout)] =
      some later := rfl
  refine .of_run (by simp [Event.succeeds]) ranTick ?_
  have answer := Inner.shouldAllow_of_opened_elapsed (g := later.breaker) opened waited
  have allowed : later.allows config = true := by simp only [System.allows, answer]
  rcases run_successfulCall (s := later) idle allowed with ⟨next, ran, idleNext, recorded⟩
  refine .of_run (successfulCall_succeeds 0) ran ?_
  let probing : Inner :=
    { s.breaker with state := .halfOpen, successCount := 0, halfOpenCalls := 1 }
  have state : probing.state = .halfOpen := rfl
  have recorded : next.breaker = probing.recordSuccess config := by rw [recorded, answer]
  by_cases reached : config.successThreshold ≤ 0 + 1
  · rw [Inner.recordSuccess_of_halfOpen_reached state reached] at recorded
    exact .of_closed (by rw [recorded]) idleNext
  · rw [Inner.recordSuccess_of_halfOpen_below state reached] at recorded
    have one : (probing.successCount + 1).toNat = 1 := rfl
    have notReached : 1 < config.successThreshold.toNat := by
      simpa [UInt32.le_iff_toNat_le] using reached
    refine @recovers_of_halfOpen config next (config.halfOpenMaxCalls.toNat - 1) ?_ idleNext
      ?_ ?_ ?_
    · rw [recorded]
    · simp only [recorded, one]
      exact notReached
    · simp only [recorded, one]
      omega
    · have charged : probing.halfOpenCalls.toNat = 1 := rfl
      simp only [recorded, charged]
      exact le_refl _

end Positive

section Reachable

variable {config : CircuitBreakerTargetConfig} {s : System}

theorem lastFailureTime_of_opened (reachable : (guardedCalls config).Reachable .init s)
    (opened : s.breaker.state = .opened) :
    ∃ openedAt, s.breaker.lastFailureTime = some openedAt := by
  rcases exists_history reachable with ⟨history, clock, -, breakerEq⟩
  have follows := follows_phaseOf config clock
  rw [← breakerEq] at follows
  cases phase : phaseOf config history with
  | closed since =>
      rw [phase] at follows
      rw [follows.1] at opened
      cases opened
  | opened openedAt =>
      rw [phase] at follows
      exact ⟨openedAt, follows.2⟩
  | halfOpen since =>
      rw [phase] at follows
      rw [follows.1] at opened
      cases opened

/-- Exactly which idle breakers can be brought back to `closed` by time and successful calls. -/
theorem recovers_iff (reachable : (guardedCalls config).Reachable .init s)
    (idle : s.calls.size = 0) (successful : 1 ≤ config.successThreshold.toNat)
    (positive : 1 ≤ config.halfOpenMaxCalls.toNat) :
    Recovers config s ↔
      match s.breaker.state with
      | .closed => True
      | .opened => config.successThreshold.toNat ≤ config.halfOpenMaxCalls.toNat
      | .halfOpen => config.successThreshold.toNat ≤ s.breaker.successCount.toNat +
          (config.halfOpenMaxCalls.toNat - s.breaker.halfOpenCalls.toNat) := by
  cases state : s.breaker.state with
  | closed => exact ⟨fun _ => trivial, fun _ => .of_closed state idle⟩
  | opened =>
      constructor
      · intro recovers
        by_contra tooFew
        exact (Stuck.of_opened state idle (by omega)).not_recovers positive recovers
      · intro enough
        rcases lastFailureTime_of_opened reachable state with ⟨openedAt, openedSince⟩
        exact recovers_of_opened state openedSince idle positive enough
  | halfOpen =>
      have below := ((episodeInvariant_of_reachable reachable).counts state).below
      constructor
      · intro recovers
        by_contra tooFew
        have stuck : Stuck config s := by
          refine .of_halfOpen state ?_ ?_
          · intro id call found
            rw [AList.lookup_of_size_eq_zero idle] at found
            cases found
          · simp only [reachableSuccesses, idle]
            omega
        exact stuck.not_recovers positive recovers
      · intro enough
        exact recovers_of_halfOpen state idle (by omega) enough (le_refl _)

theorem recovers_iff_idle_opened :
    (Recovers .default (((guardedCalls .default).run .init awaitingProbes).get (by decide)) ↔
      3 ≤ 3) :=
  recovers_iff (.of_run (by decide)) (by decide) (by decide) (by decide)

/-- Two probes have succeeded, the third was dropped, and no slot is left. -/
def spentEpisode : List Event :=
  awaitingProbes ++ [.enter 5, .enter 6, .enter 7, .drop 5, .complete 6 .success, .record 6,
    .complete 7 .success, .record 7]

/-- The breaker with the default configuration can get stuck half-open. -/
theorem not_always_recovers :
    ¬∀ (config : CircuitBreakerTargetConfig) (s : System),
      1 ≤ config.failureThreshold.toNat → 1 ≤ config.successThreshold.toNat →
        1 ≤ config.halfOpenMaxCalls.toNat → (guardedCalls config).Reachable .init s →
          s.calls.size = 0 → Recovers config s := by
  intro always
  have recovers := always .default
    (((guardedCalls .default).run .init spentEpisode).get (by decide))
    (by decide) (by decide) (by decide) (.of_run (by decide)) (by decide)
  have stuck : Stuck .default
      (((guardedCalls .default).run .init spentEpisode).get (by decide)) := by
    refine .of_halfOpen (by decide) ?_ (by decide)
    intro id call found
    rw [AList.lookup_of_size_eq_zero (by decide)] at found
    cases found
  exact stuck.not_recovers (by decide) recovers

end Reachable

end AxumConf.CircuitBreaker
