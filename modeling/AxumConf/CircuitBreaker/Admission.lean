import AxumConf.CircuitBreaker.Episode

/-!
# How many probes an episode admits

The first part bounds the admissions of one half-open episode over every order
of operations on a breaker, with no assumption on who makes them. The second
part compares the admission rule with a limit on concurrent probes, which is how
the configuration describes `half_open_max_calls`: the rule counts admissions
and never gives a slot back, so the two differ once a probe has ended in an
episode whose budget is spent. The third part is about the successes that close
the circuit.
-/

namespace AxumConf.CircuitBreaker

def asked (ops : List TimedOp) : Nat :=
  ops.countP fun timed => timed.op = .shouldAllow

/-- Times `should_allow` answers `true` in a sequence of operations. -/
def admissions (config : CircuitBreakerTargetConfig) : Inner → List TimedOp → Nat
  | _, [] => 0
  | g, timed :: rest =>
      (if timed.op = .shouldAllow ∧ (g.shouldAllow config timed.now).1 = true then 1 else 0) +
        admissions config (timed.apply config g) rest

section Budget

variable {config : CircuitBreakerTargetConfig} {g : Inner}

theorem halfOpenCalls_apply {timed : TimedOp} (notAsked : timed.op ≠ .shouldAllow)
    (before : g.state = .halfOpen) (after : (timed.apply config g).state = .halfOpen) :
    (timed.apply config g).halfOpenCalls = g.halfOpenCalls := by
  rcases timed with ⟨now, op⟩
  cases op with
  | shouldAllow => exact absurd rfl notAsked
  | recordSuccess =>
      have recorded := @halfOpen_of_record config now g .success after
      rcases recorded.2 with ⟨_, _, applied⟩ | ⟨impossible, _⟩
      · simp only [Outcome.op] at applied
        rw [applied]
      · cases impossible
  | recordNeutral =>
      have unchanged : g.recordNeutral = g := Inner.recordNeutral_of_not_closed (by simp [before])
      simp only [TimedOp.apply, unchanged]
  | recordFailure => exact (Inner.recordFailure_not_halfOpen after).elim

/-- While the breaker stays half-open, the slot counter counts the calls of `should_allow`. -/
theorem halfOpenCalls_runFrom {ops : List TimedOp} {earlier : Nat}
    (during : ∀ front, front <+: ops → (runFrom config g front).state = .halfOpen)
    (slots : g.halfOpenCalls = UInt32.ofNat earlier) :
    (runFrom config g ops).halfOpenCalls = UInt32.ofNat (earlier + asked ops) ∧
      admissions config g ops + countBelow (2 ^ 32) config.halfOpenMaxCalls.toNat earlier =
        countBelow (2 ^ 32) config.halfOpenMaxCalls.toNat (earlier + asked ops) := by
  induction ops generalizing g earlier with
  | nil => exact ⟨slots, Nat.zero_add _⟩
  | cons timed rest ih =>
      have before : g.state = .halfOpen := during [] List.nil_prefix
      have after : (timed.apply config g).state = .halfOpen := during [timed] (by simp)
      have duringRest : ∀ front, front <+: rest →
          (runFrom config (timed.apply config g) front).state = .halfOpen := by
        intro front isPrefix
        exact during (timed :: front) (List.cons_prefix_cons.mpr ⟨rfl, isPrefix⟩)
      by_cases isAsked : timed.op = .shouldAllow
      · have answer : g.shouldAllow config timed.now = _ := Inner.shouldAllow_of_halfOpen before
        have applied : timed.apply config g = { g with halfOpenCalls := g.halfOpenCalls + 1 } := by
          simp only [TimedOp.apply, isAsked, answer]
        have oneMore : earlier + 1 + asked rest = earlier + asked (timed :: rest) := by
          simp only [asked, List.countP_cons, isAsked, decide_true, if_true]
          omega
        have charged : (timed.apply config g).halfOpenCalls = UInt32.ofNat (earlier + 1) := by
          simp [applied, slots]
        have free : g.halfOpenCalls < config.halfOpenMaxCalls ↔
            earlier % 2 ^ 32 < config.halfOpenMaxCalls.toNat := by
          rw [slots, UInt32.lt_iff_toNat_lt, UInt32.toNat_ofNat']
        rcases ih duringRest charged with ⟨counted, admitted⟩
        rw [oneMore] at counted admitted
        refine ⟨counted, ?_⟩
        rw [← admitted, countBelow_asked_succ]
        simp only [admissions, isAsked, answer, true_and, decide_eq_true_eq, free]
        omega
      · have sameCalls := (halfOpenCalls_apply isAsked before after).trans slots
        have askedRest : asked (timed :: rest) = asked rest := by simp [asked, isAsked]
        rw [askedRest]
        simpa [admissions, isAsked] using ih duringRest sameCalls

theorem opening_of_halfOpen {timed : TimedOp} (before : g.state = .opened)
    (after : (timed.apply config g).state = .halfOpen) :
    timed.op = .shouldAllow ∧
      g.shouldAllow config timed.now =
        (true, { g with state := .halfOpen, successCount := 0, halfOpenCalls := 1 }) := by
  by_cases probes : timed.Probes config g
  · exact ⟨probes.1, probes.shouldAllow before⟩
  · rw [apply_of_not_probes before probes, before] at after
    cases after

/-- What an episode asks and what it admits, the operation that begins it included. -/
theorem admissions_opening {opening : TimedOp} {episode : List TimedOp}
    (before : g.state = .opened)
    (during : ∀ front, front <+: episode →
      (runFrom config g (opening :: front)).state = .halfOpen) :
    (runFrom config g (opening :: episode)).halfOpenCalls =
        UInt32.ofNat (asked (opening :: episode)) ∧
      admissions config g (opening :: episode) +
          countBelow (2 ^ 32) config.halfOpenMaxCalls.toNat 1 =
        1 + countBelow (2 ^ 32) config.halfOpenMaxCalls.toNat (asked (opening :: episode)) := by
  rcases opening_of_halfOpen before (during [] List.nil_prefix) with ⟨isAsked, answer⟩
  have one : (opening.apply config g).halfOpenCalls = UInt32.ofNat 1 := by
    simp [TimedOp.apply, isAsked, answer]
  have oneMore : 1 + asked episode = asked (opening :: episode) := by
    simp only [asked, List.countP_cons, isAsked, decide_true, if_true]
    omega
  rcases halfOpenCalls_runFrom during one with ⟨counted, admitted⟩
  rw [oneMore] at counted admitted
  refine ⟨counted, ?_⟩
  rw [← admitted]
  simp only [admissions, isAsked, answer, true_and, if_true]
  omega

theorem admissions_opening_le {opening : TimedOp} {episode : List TimedOp}
    (before : g.state = .opened)
    (during : ∀ front, front <+: episode →
      (runFrom config g (opening :: front)).state = .halfOpen)
    (fewer : asked (opening :: episode) < 2 ^ 32) :
    admissions config g (opening :: episode) ≤ max 1 config.halfOpenMaxCalls.toNat := by
  have admitted := (admissions_opening before during).2
  simp only [countBelow, Nat.div_eq_of_lt fewer, Nat.mod_eq_of_lt fewer] at admitted
  omega

/-- From the operation that makes the breaker half-open to the next transition,
`should_allow` answers `true` at most `max 1 half_open_max_calls` times. -/
theorem episode_admissions_le (config : CircuitBreakerTargetConfig) (history : List TimedOp)
    (opening : TimedOp) (episode : List TimedOp)
    (before : (run config history).state = .opened)
    (during : ∀ front, front <+: episode →
      (run config (history ++ opening :: front)).state = .halfOpen)
    (fewer : asked (opening :: episode) < 2 ^ 32) :
    admissions config (run config history) (opening :: episode) ≤
      max 1 config.halfOpenMaxCalls.toNat := by
  refine admissions_opening_le before ?_ fewer
  intro front isPrefix
  have after := during front isPrefix
  rwa [run, runFrom_append] at after

/-- The opening call, three further calls and a late success of an older one. -/
theorem episode_admissions_le_default :
    admissions .default (run .default (List.replicate 5 ⟨0, .recordFailure⟩))
        [⟨30 * 10 ^ 9, .shouldAllow⟩, ⟨30 * 10 ^ 9, .shouldAllow⟩, ⟨31 * 10 ^ 9, .recordSuccess⟩,
          ⟨31 * 10 ^ 9, .shouldAllow⟩, ⟨32 * 10 ^ 9, .shouldAllow⟩] ≤ 3 :=
  episode_admissions_le .default (List.replicate 5 ⟨0, .recordFailure⟩)
    ⟨30 * 10 ^ 9, .shouldAllow⟩ _ (by decide)
    (fun front isPrefix => by
      have during : ∀ front ∈ List.inits [⟨30 * 10 ^ 9, .shouldAllow⟩,
          ⟨31 * 10 ^ 9, .recordSuccess⟩, ⟨31 * 10 ^ 9, .shouldAllow⟩,
          ⟨32 * 10 ^ 9, .shouldAllow⟩],
          (run .default (List.replicate 5 ⟨0, .recordFailure⟩ ++
            ⟨30 * 10 ^ 9, .shouldAllow⟩ :: front)).state = .halfOpen := by decide
      exact during front ((List.mem_inits _ _).mpr isPrefix))
    (by decide)

end Budget

section Interleavings

variable {config : CircuitBreakerTargetConfig} {s next : System} {event : Event}

/-- Slots taken in the rounds that the slot counter, a `u32`, has completed in the episode. -/
def System.earlierSlots (config : CircuitBreakerTargetConfig) (s : System) : Nat :=
  s.episode.asked / 2 ^ 32 * config.halfOpenMaxCalls.toNat

/-- A half-open breaker answers like a limit on the probes in flight exactly when the ended probes
make up for the slots of earlier rounds: for enough of them while slots are left, and for no more
once none is left. In the first round this says that slots are left or no probe has ended. -/
theorem allows_iff_inFlight (reachable : (guardedCalls config).Reachable .init s)
    (state : s.breaker.state = .halfOpen) :
    (s.allows config = true ↔ s.probesInFlight < probeBudget config) ↔
      if s.episode.asked % 2 ^ 32 < config.halfOpenMaxCalls.toNat then
        s.earlierSlots config + s.episode.asked % 2 ^ 32 <
          config.halfOpenMaxCalls.toNat + s.episode.ended
      else
        s.episode.ended ≤ s.earlierSlots config := by
  have counts := (episodeInvariant_of_reachable reachable).counts state
  have admitted := counts.admitted
  have inFlight := counts.inFlight
  have asked := counts.asked_pos
  have allowsIff : s.allows config = true ↔
      s.episode.asked % 2 ^ 32 < config.halfOpenMaxCalls.toNat := by
    rw [← counts.slot_free_iff, System.allows_of_halfOpen state, decide_eq_true_iff]
  rw [allowsIff]
  rcases Nat.eq_zero_or_pos config.halfOpenMaxCalls.toNat with noSlots | positive
  · simp only [countBelow, noSlots, Nat.mul_zero, Nat.min_zero] at admitted
    simp only [probeBudget, System.earlierSlots, noSlots, Nat.mul_zero]
    split <;> omega
  · have begun := @countBelow_pos (2 ^ 32) _ _ positive asked
    simp only [countBelow] at admitted begun
    simp only [probeBudget, System.earlierSlots]
    split <;> omega

/-- Three probes are admitted and one is dropped before it records anything. -/
def droppedProbe : List Event :=
  awaitingProbes ++ [.enter 5, .enter 6, .enter 7, .drop 5]

theorem allows_iff_inFlight_two_probes :
    let s := ((guardedCalls .default).run .init (awaitingProbes ++ [.enter 5, .enter 6])).get
      (by decide)
    (s.allows .default = true ↔ s.probesInFlight < probeBudget .default) ↔
      if s.episode.asked % 2 ^ 32 < 3 then
        s.earlierSlots .default + s.episode.asked % 2 ^ 32 < 3 + s.episode.ended
      else
        s.episode.ended ≤ s.earlierSlots .default :=
  allows_iff_inFlight (.of_run (by decide)) (by decide)

/-- Two of three probes are in flight, and the next call is turned away. -/
theorem not_allows_iff_inFlight :
    ¬∀ (config : CircuitBreakerTargetConfig) (s : System),
      (guardedCalls config).Reachable .init s → s.breaker.state = .halfOpen →
        (s.allows config = true ↔ s.probesInFlight < probeBudget config) := by
  intro limit
  have dropped := limit .default
    (((guardedCalls .default).run .init droppedProbe).get (by decide))
    (.of_run (by decide)) (by decide)
  have belowBudget : (((guardedCalls .default).run .init droppedProbe).get
      (by decide)).probesInFlight < probeBudget .default := by decide
  have turnedAway : (((guardedCalls .default).run .init droppedProbe).get
      (by decide)).allows .default = false := by decide
  rw [dropped.mpr belowBudget] at turnedAway
  cases turnedAway

theorem closing_event (before : s.breaker.state = .halfOpen)
    (stepped : (guardedCalls config).step s event = some next)
    (after : next.breaker.state = .closed) :
    ∃ id call, event = .record id ∧ s.calls.lookup id = some call ∧
      call.outcome = some .success ∧ next = s.record config id call .success ∧
      config.successThreshold ≤ s.breaker.successCount + 1 := by
  cases stepped_of_step stepped with
  | tick span => simp [before] at after
  | enter id fresh allowed => simp [System.enter_of_halfOpen before, before] at after
  | reject rejected => simp [System.reject_of_halfOpen before, before] at after
  | complete id call outcome found waiting possible => simp [System.complete, before] at after
  | record id call outcome found ended =>
      cases outcome with
      | success =>
          refine ⟨id, call, rfl, found, ended, rfl, ?_⟩
          by_contra below
          simp [System.record, Outcome.op, TimedOp.apply,
            Inner.recordSuccess_of_halfOpen_below before below, before] at after
      | failure =>
          simp [System.record, Outcome.op, TimedOp.apply,
            Inner.recordFailure_of_halfOpen before, Inner.transitionToOpen] at after
      | neutral =>
          simp [System.record, Outcome.op, TimedOp.apply, Inner.recordNeutral, before] at after
      | timeout =>
          simp [System.record, Outcome.op, TimedOp.apply,
            Inner.recordFailure_of_halfOpen before, Inner.transitionToOpen] at after
  | drop id call found waiting => simp [System.drop, before] at after

/-- A half-open breaker closes only at the success that is the `max 1 success_threshold`-th
one recorded in the episode. Successes of calls admitted earlier count, and each of them was
in flight when the episode began. -/
theorem closing_successes (reachable : (guardedCalls config).Reachable .init s)
    (before : s.breaker.state = .halfOpen)
    (stepped : (guardedCalls config).step s event = some next)
    (after : next.breaker.state = .closed) :
    (∃ id call, event = .record id ∧ s.calls.lookup id = some call ∧
        call.outcome = some .success) ∧
      next.episode.probeSuccesses + next.episode.lateSuccesses =
        max 1 config.successThreshold.toNat ∧
      next.episode.lateSuccesses ≤ next.episode.inFlightBefore := by
  have counts := (episodeInvariant_of_reachable reachable).counts before
  rcases closing_event before stepped after with ⟨id, call, rfl, found, ended, rfl, reached⟩
  refine ⟨⟨id, call, rfl, found, ended⟩, ?_, ?_⟩
  · have counted := s.successes_ending call
    have total := (threshold_le_succ_iff rfl counts.below).mp reached
    have successes := counts.successes
    simp only [ended, if_true] at counted
    simp only [System.record]
    omega
  · have late := counts.late_ending found
    simp only [System.record]
    omega

/-- Three calls are admitted by a closed breaker and succeed after five others opened it and one
probe was admitted. -/
def lateSuccesses : List Event :=
  [.enter 5, .enter 6, .enter 7] ++ awaitingProbes ++ [.enter 8, .complete 5 .success, .record 5,
    .complete 6 .success, .record 6, .complete 7 .success]

theorem closing_successes_late :
    (∃ id call, Event.record 7 = .record id ∧
        (((guardedCalls .default).run .init lateSuccesses).get (by decide)).calls.lookup id =
          some call ∧ call.outcome = some .success) ∧
      (((guardedCalls .default).run .init (lateSuccesses ++ [.record 7])).get
          (by decide)).episode.probeSuccesses +
        (((guardedCalls .default).run .init (lateSuccesses ++ [.record 7])).get
          (by decide)).episode.lateSuccesses = 3 ∧
      (((guardedCalls .default).run .init (lateSuccesses ++ [.record 7])).get
          (by decide)).episode.lateSuccesses ≤
        (((guardedCalls .default).run .init (lateSuccesses ++ [.record 7])).get
          (by decide)).episode.inFlightBefore :=
  closing_successes (.of_run (by decide)) (by decide) (by rfl) (by decide)

/-- The circuit closes although no probe of the episode has succeeded. -/
theorem not_only_probes_close :
    ¬∀ (config : CircuitBreakerTargetConfig) (s next : System) (event : Event),
      (guardedCalls config).Reachable .init s → s.breaker.state = .halfOpen →
        (guardedCalls config).step s event = some next → next.breaker.state = .closed →
          max 1 config.successThreshold.toNat ≤ next.episode.probeSuccesses := by
  intro probesOnly
  have late := probesOnly .default
    (((guardedCalls .default).run .init lateSuccesses).get (by decide))
    (((guardedCalls .default).run .init (lateSuccesses ++ [.record 7])).get (by decide))
    (.record 7) (.of_run (by decide)) (by decide) (by rfl) (by decide)
  have none : (((guardedCalls .default).run .init (lateSuccesses ++ [.record 7])).get
      (by decide)).episode.probeSuccesses = 0 := by decide
  rw [none] at late
  exact absurd late (by decide)

end Interleavings

end AxumConf.CircuitBreaker
