import AxumConf.CircuitBreaker.Guarded

/-!
# Half-open episodes

An episode begins when `should_allow` moves an open breaker to half-open and
lasts until the breaker leaves that state. The invariant of this file links the
counters of the source to what happened in the episode: the slot counter is the
number of times `should_allow` was asked, rejected calls included, and the
success counter is the number of successes recorded, whoever recorded them.
-/

namespace AxumConf.CircuitBreaker

/-- The most probes one episode admits. -/
def probeBudget (config : CircuitBreakerTargetConfig) : Nat :=
  max 1 config.halfOpenMaxCalls.toNat

def System.othersInFlight (s : System) : Nat :=
  s.calls.count fun id call => !System.isProbe s.episode.number id call

/-- The counters of a half-open breaker against the events of its episode. -/
structure HalfOpenCounts (config : CircuitBreakerTargetConfig) (s : System) : Prop where
  asked_pos : 1 ≤ s.episode.asked
  slots : s.breaker.halfOpenCalls = UInt32.ofNat s.episode.asked
  admitted : s.episode.admitted =
    max 1 (countBelow (2 ^ 32) config.halfOpenMaxCalls.toNat s.episode.asked)
  inFlight : s.probesInFlight + s.episode.ended = s.episode.admitted
  successes : s.breaker.successCount.toNat = s.episode.probeSuccesses + s.episode.lateSuccesses
  below : s.breaker.successCount.toNat < max 1 config.successThreshold.toNat
  late : s.episode.lateSuccesses + s.othersInFlight ≤ s.episode.inFlightBefore

/-- What holds of the bookkeeping in every reachable state. -/
structure EpisodeInvariant (config : CircuitBreakerTargetConfig) (s : System) : Prop where
  tags : ∀ id call, s.calls.lookup id = some call → ∀ number, call.episode = some number →
    number ≤ s.episode.number
  counts : s.breaker.state = .halfOpen → HalfOpenCounts config s

theorem halfOpen_of_record {config : CircuitBreakerTargetConfig} {now : Nat} {g : Inner}
    {outcome : Outcome}
    (after : ((TimedOp.mk now outcome.op).apply config g).state = .halfOpen) :
    g.state = .halfOpen ∧
      ((outcome = .success ∧ ¬config.successThreshold ≤ g.successCount + 1 ∧
          (TimedOp.mk now outcome.op).apply config g =
            { g with successCount := g.successCount + 1 }) ∨
        (outcome = .neutral ∧ (TimedOp.mk now outcome.op).apply config g = g)) := by
  cases outcome with
  | success =>
      have before := Inner.halfOpen_of_recordSuccess after
      by_cases reached : config.successThreshold ≤ g.successCount + 1
      · simp only [Outcome.op, TimedOp.apply,
          Inner.recordSuccess_of_halfOpen_reached before reached, reduceCtorEq] at after
      · exact ⟨before, .inl ⟨rfl, reached, Inner.recordSuccess_of_halfOpen_below before reached⟩⟩
  | failure => exact (Inner.recordFailure_not_halfOpen after).elim
  | neutral =>
      have before := Inner.halfOpen_of_recordNeutral after
      exact ⟨before, .inr ⟨rfl, Inner.recordNeutral_of_not_closed (by simp [before])⟩⟩
  | timeout => exact (Inner.recordFailure_not_halfOpen after).elim

namespace System

theorem inFlight_erase {s : System} {id : Nat} {call : Call}
    (found : s.calls.lookup id = some call) (number : Nat) :
    (call.episode = some number →
      (s.calls.erase id).count (isProbe number) + 1 = s.calls.count (isProbe number) ∧
        (s.calls.erase id).count (fun id call => !isProbe number id call) =
          s.calls.count fun id call => !isProbe number id call) ∧
    (call.episode ≠ some number →
      (s.calls.erase id).count (isProbe number) = s.calls.count (isProbe number) ∧
        (s.calls.erase id).count (fun id call => !isProbe number id call) + 1 =
          s.calls.count fun id call => !isProbe number id call) := by
  have probes := AList.count_erase found (isProbe number)
  have others := AList.count_erase found fun id call => !isProbe number id call
  constructor
  · intro tagged
    have yes : isProbe number id call = true := by simp [isProbe, tagged]
    simp only [yes, Bool.not_true, Bool.false_eq_true, if_true, if_false] at probes others
    omega
  · intro untagged
    have no : isProbe number id call = false := by simp [isProbe, untagged]
    simp only [no, Bool.not_false, Bool.false_eq_true, if_true, if_false] at probes others
    omega

end System

section Preservation

variable {config : CircuitBreakerTargetConfig} {s : System}

theorem EpisodeInvariant.init (config : CircuitBreakerTargetConfig) :
    EpisodeInvariant config .init where
  tags := by
    intro id call found
    simp [System.init] at found
  counts := by
    intro state
    simp [System.init, Inner.new] at state

theorem HalfOpenCounts.slot_free_iff (counts : HalfOpenCounts config s) :
    s.breaker.halfOpenCalls < config.halfOpenMaxCalls ↔
      s.episode.asked % 2 ^ 32 < config.halfOpenMaxCalls.toNat := by
  rw [counts.slots, UInt32.lt_iff_toNat_lt, UInt32.toNat_ofNat']

/-- One more call of `should_allow` is admitted while the slot counter is below its bound. -/
theorem countBelow_asked_succ (config : CircuitBreakerTargetConfig) (asked : Nat) :
    countBelow (2 ^ 32) config.halfOpenMaxCalls.toNat (asked + 1) =
      countBelow (2 ^ 32) config.halfOpenMaxCalls.toNat asked +
        if asked % 2 ^ 32 < config.halfOpenMaxCalls.toNat then 1 else 0 :=
  countBelow_succ config.halfOpenMaxCalls.toNat_lt.le (by decide) asked

theorem EpisodeInvariant.count_next (invariant : EpisodeInvariant config s) :
    s.calls.count (System.isProbe (s.episode.number + 1)) = 0 ∧
      s.calls.count (fun id call => !System.isProbe (s.episode.number + 1) id call) =
        s.calls.size := by
  have untagged : ∀ entry ∈ s.calls.entries,
      System.isProbe (s.episode.number + 1) entry.1 entry.2 = false := by
    intro entry member
    have bounded := invariant.tags entry.1 entry.2 (AList.mem_lookup_iff.mpr member)
      (s.episode.number + 1)
    simp only [System.isProbe, decide_eq_false_iff_not]
    intro tagged
    have := bounded tagged
    omega
  constructor
  · rw [AList.count, List.countP_eq_zero]
    intro entry member
    simp [untagged entry member]
  · rw [AList.count, AList.size, List.countP_eq_length]
    intro entry member
    simp [untagged entry member]

theorem EpisodeInvariant.enter_tags (invariant : EpisodeInvariant config s) (id : Nat) :
    ∀ other call, (s.enter config id).calls.lookup other = some call → ∀ number,
      call.episode = some number → number ≤ (s.enter config id).episode.number := by
  have grows : s.episode.number ≤ (s.enter config id).episode.number := by
    simp only [System.enter, System.episodeAdmitting]
    split
    · exact le_refl _
    · exact Nat.le_succ _
    · exact le_refl _
  intro other call found number tagged
  rcases AList.lookup_insert_cases found with ⟨-, rfl⟩ | ⟨-, old⟩
  · simp only [System.admittingEpisode] at tagged
    simp only [System.enter, System.episodeAdmitting]
    cases state : s.breaker.state <;> simp_all
  · exact (invariant.tags other call old number tagged).trans grows

/-- The call that makes the breaker half-open is the first probe of its episode. -/
theorem EpisodeInvariant.counts_opening (invariant : EpisodeInvariant config s) {id : Nat}
    (state : s.breaker.state = .opened) (fresh : s.calls.lookup id = none)
    (allowed : s.allows config = true) : HalfOpenCounts config (s.enter config id) := by
  rcases invariant.count_next with ⟨noProbe, allOthers⟩
  have tagged : System.isProbe (s.episode.number + 1) id
      ⟨s.now, none, some (s.episode.number + 1)⟩ = true := by simp [System.isProbe]
  rw [System.enter_of_opened state allowed]
  constructor
  case asked_pos => exact le_refl 1
  case slots => rfl
  case admitted =>
    have one := countBelow_asked_succ config 0
    simp only [countBelow, Nat.zero_div, Nat.zero_mod, Nat.zero_mul, Nat.zero_add] at one ⊢
    split at one <;> omega
  case inFlight =>
    simp [System.probesInFlight, AList.count_insert_of_lookup_none fresh, noProbe, tagged]
  case successes => rfl
  case below =>
    simp only [UInt32.toNat_zero]
    omega
  case late =>
    simp [System.othersInFlight, AList.count_insert_of_lookup_none fresh, allOthers, tagged]

/-- While slots are left, a further call becomes a probe of the episode. -/
theorem HalfOpenCounts.admitting (counts : HalfOpenCounts config s) {id : Nat}
    (state : s.breaker.state = .halfOpen) (fresh : s.calls.lookup id = none)
    (allowed : s.allows config = true) : HalfOpenCounts config (s.enter config id) := by
  have free : s.breaker.halfOpenCalls < config.halfOpenMaxCalls := by
    simpa [System.allows_of_halfOpen state] using allowed
  have tagged : System.isProbe s.episode.number id
      ⟨s.now, none, some s.episode.number⟩ = true := by simp [System.isProbe]
  rw [System.enter_of_halfOpen state]
  constructor
  case asked_pos => exact Nat.le_add_left 1 _
  case slots => simp [counts.slots]
  case admitted =>
    have admitted := counts.admitted
    have below := counts.slot_free_iff.mp free
    have begun := @countBelow_pos (2 ^ 32) _ _ (Nat.zero_lt_of_lt below) counts.asked_pos
    simp only [countBelow_asked_succ, below, if_true]
    omega
  case inFlight =>
    have inFlight := counts.inFlight
    simp only [System.probesInFlight, AList.count_insert_of_lookup_none fresh, tagged,
      if_true] at inFlight ⊢
    omega
  case successes => exact counts.successes
  case below => exact counts.below
  case late =>
    simpa [System.othersInFlight, AList.count_insert_of_lookup_none fresh, tagged]
      using counts.late

/-- Once the slots are spent, a call is charged and not admitted. -/
theorem HalfOpenCounts.rejecting (counts : HalfOpenCounts config s)
    (state : s.breaker.state = .halfOpen) (rejected : s.allows config = false) :
    HalfOpenCounts config (s.reject config) := by
  have full : ¬s.breaker.halfOpenCalls < config.halfOpenMaxCalls := by
    simpa [System.allows_of_halfOpen state] using rejected
  rw [System.reject_of_halfOpen state]
  constructor
  case asked_pos => exact Nat.le_add_left 1 _
  case slots => simp [counts.slots]
  case admitted =>
    have spent := mt counts.slot_free_iff.mpr full
    simpa only [countBelow_asked_succ, spent, if_false, Nat.add_zero] using counts.admitted
  case inFlight => exact counts.inFlight
  case successes => exact counts.successes
  case below => exact counts.below
  case late => exact counts.late

theorem EpisodeInvariant.enter (invariant : EpisodeInvariant config s) {id : Nat}
    (fresh : s.calls.lookup id = none) (allowed : s.allows config = true) :
    EpisodeInvariant config (s.enter config id) where
  tags := invariant.enter_tags id
  counts := by
    intro after
    cases state : s.breaker.state with
    | closed => simp [System.enter_of_closed state, state] at after
    | opened => exact invariant.counts_opening state fresh allowed
    | halfOpen => exact (invariant.counts state).admitting state fresh allowed

theorem EpisodeInvariant.reject (invariant : EpisodeInvariant config s)
    (rejected : s.allows config = false) : EpisodeInvariant config (s.reject config) := by
  cases state : s.breaker.state with
  | closed => simp [System.allows_of_closed state] at rejected
  | opened =>
      rw [System.reject_of_opened state rejected]
      exact invariant
  | halfOpen =>
      refine ⟨?_, fun _ => (invariant.counts state).rejecting state rejected⟩
      rw [System.reject_of_halfOpen state]
      exact invariant.tags

theorem EpisodeInvariant.complete (invariant : EpisodeInvariant config s) {id : Nat} {call : Call}
    (found : s.calls.lookup id = some call) (outcome : Outcome) :
    EpisodeInvariant config (s.complete id call outcome) where
  tags := by
    intro other held lookedUp number tagged
    rcases AList.lookup_insert_cases lookedUp with ⟨rfl, rfl⟩ | ⟨-, old⟩
    · exact invariant.tags other call found number tagged
    · exact invariant.tags other held old number tagged
  counts := by
    intro state
    have counts := invariant.counts state
    have probes := AList.count_insert_of_same found
      { call with outcome := some outcome } (System.isProbe s.episode.number) rfl
    have others := AList.count_insert_of_same found
      { call with outcome := some outcome }
      (fun id call => !System.isProbe s.episode.number id call) rfl
    refine ⟨counts.asked_pos, counts.slots, counts.admitted, ?_, counts.successes, counts.below, ?_⟩
    · have inFlight := counts.inFlight
      simp only [System.probesInFlight, System.complete, probes] at inFlight ⊢
      exact inFlight
    · have late := counts.late
      simp only [System.othersInFlight, System.complete, others] at late ⊢
      exact late

theorem EpisodeInvariant.erase_tags (invariant : EpisodeInvariant config s) (id : Nat)
    (call : Call) : ∀ other held, (s.calls.erase id).lookup other = some held → ∀ number,
      held.episode = some number → number ≤ (s.episodeEnding call).number := by
  intro other held lookedUp number tagged
  have same : (s.episodeEnding call).number = s.episode.number := by
    simp only [System.episodeEnding]
    split <;> rfl
  rw [same]
  exact invariant.tags other held (AList.lookup_of_lookup_erase lookedUp).2 number tagged

theorem System.successes_ending (s : System) (call : Call) :
    (s.episodeEnding call).probeSuccesses + (s.episodeEnding call).lateSuccesses =
      s.episode.probeSuccesses + s.episode.lateSuccesses +
        if call.outcome = some .success then 1 else 0 := by
  simp only [System.episodeEnding]
  split <;> simp only <;> omega

theorem HalfOpenCounts.late_ending (counts : HalfOpenCounts config s) {id : Nat} {call : Call}
    (found : s.calls.lookup id = some call) :
    (s.episodeEnding call).lateSuccesses +
        (s.calls.erase id).count (fun id call => !System.isProbe s.episode.number id call) ≤
      (s.episodeEnding call).inFlightBefore := by
  have late := counts.late
  have erased := System.inFlight_erase found s.episode.number
  simp only [System.othersInFlight] at late
  by_cases tagged : call.episode = some s.episode.number
  · have others := (erased.1 tagged).2
    simp only [System.episodeEnding, tagged, if_true]
    omega
  · have others := (erased.2 tagged).2
    simp only [System.episodeEnding, tagged, if_false]
    split <;> omega

theorem HalfOpenCounts.ending (counts : HalfOpenCounts config s) {id : Nat} {call : Call}
    (found : s.calls.lookup id = some call) (breaker : Inner)
    (slots : breaker.halfOpenCalls = s.breaker.halfOpenCalls)
    (successes : breaker.successCount.toNat =
      s.breaker.successCount.toNat + if call.outcome = some .success then 1 else 0)
    (below : breaker.successCount.toNat < max 1 config.successThreshold.toNat) :
    HalfOpenCounts config ⟨s.now, breaker, s.calls.erase id, s.episodeEnding call⟩ := by
  have counted := counts.successes
  have ended := s.successes_ending call
  have late := counts.late_ending found
  have inFlight := counts.inFlight
  have erased := System.inFlight_erase found s.episode.number
  simp only [System.probesInFlight] at inFlight
  by_cases tagged : call.episode = some s.episode.number
  · have probes := (erased.1 tagged).1
    simp only [System.episodeEnding, tagged, if_true] at ended late ⊢
    refine ⟨counts.asked_pos, slots.trans counts.slots, counts.admitted, ?_, ?_, below, late⟩
    · simp only [System.probesInFlight]
      omega
    · simp only
      omega
  · have probes := (erased.2 tagged).1
    simp only [System.episodeEnding, tagged, if_false] at ended late ⊢
    refine ⟨counts.asked_pos, slots.trans counts.slots, counts.admitted, ?_, ?_, below, late⟩
    · simp only [System.probesInFlight]
      omega
    · simp only
      omega

theorem EpisodeInvariant.record (invariant : EpisodeInvariant config s) {id : Nat} {call : Call}
    {outcome : Outcome} (found : s.calls.lookup id = some call)
    (ended : call.outcome = some outcome) :
    EpisodeInvariant config (s.record config id call outcome) where
  tags := invariant.erase_tags id call
  counts := by
    intro after
    rcases halfOpen_of_record after with ⟨state, ⟨rfl, notReached, applied⟩ | ⟨rfl, applied⟩⟩
    · have counts := invariant.counts state
      have counted := toNat_succ_of_below rfl counts.below
      have reaches := threshold_le_succ_iff rfl counts.below
      rw [System.record, applied]
      refine counts.ending found _ rfl ?_ ?_
      · simp [ended, counted]
      · have := counts.below
        have := mt reaches.mpr notReached
        simp only [counted]
        omega
    · have counts := invariant.counts state
      rw [System.record, applied]
      exact counts.ending found _ rfl (by simp [ended]) counts.below

theorem EpisodeInvariant.drop (invariant : EpisodeInvariant config s) {id : Nat} {call : Call}
    (found : s.calls.lookup id = some call) (waiting : call.outcome = none) :
    EpisodeInvariant config (s.drop id call) where
  tags := invariant.erase_tags id call
  counts := by
    intro state
    have counts := invariant.counts state
    exact counts.ending found _ rfl (by simp [waiting]) counts.below

theorem EpisodeInvariant.step {next : System} {event : Event}
    (invariant : EpisodeInvariant config s)
    (stepped : (guardedCalls config).step s event = some next) : EpisodeInvariant config next := by
  cases stepped_of_step stepped with
  | tick span =>
      refine ⟨invariant.tags, ?_⟩
      intro state
      have counts := invariant.counts state
      exact ⟨counts.asked_pos, counts.slots, counts.admitted, counts.inFlight, counts.successes,
        counts.below, counts.late⟩
  | enter id fresh allowed => exact invariant.enter fresh allowed
  | reject rejected => exact invariant.reject rejected
  | complete id call outcome found waiting possible => exact invariant.complete found outcome
  | record id call outcome found ended => exact invariant.record found ended
  | drop id call found waiting => exact invariant.drop found waiting

theorem episodeInvariant_of_reachable
    (reachable : (guardedCalls config).Reachable .init s) : EpisodeInvariant config s :=
  reachable.invariant _ (fun _ _ _ invariant stepped => invariant.step stepped) (.init config)

end Preservation

end AxumConf.CircuitBreaker
