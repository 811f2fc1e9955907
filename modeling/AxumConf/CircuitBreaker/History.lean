import AxumConf.CircuitBreaker.State
import AxumConf.Lib.Counter

/-!
# The breaker as its history dictates it

What a circuit breaker is for is stated over the operations themselves, without
counters: a `Phase` keeps the operations made since the phase was entered, and
the next phase is decided by counting in that list. The state machine of the
source keeps three counters and a timestamp instead. This file shows that after
every sequence of operations under a monotone clock the two agree.

Lists of operations since a phase was entered are kept newest first.
-/

namespace AxumConf.CircuitBreaker

/-- Where the history stands. -/
inductive Phase where
  | closed (since : List TimedOp)
  | opened (openedAt : Nat)
  | halfOpen (since : List TimedOp)

/-- Consecutive failures up to now: successes and neutral outcomes end a streak. -/
def failureStreak : List TimedOp → Nat
  | [] => 0
  | latest :: earlier =>
      match latest.op with
      | .recordFailure => failureStreak earlier + 1
      | .recordSuccess => 0
      | .recordNeutral => 0
      | .shouldAllow => failureStreak earlier

def successes (since : List TimedOp) : Nat :=
  since.countP fun timed => timed.op = .recordSuccess

def Phase.next (config : CircuitBreakerTargetConfig) (phase : Phase) (timed : TimedOp) : Phase :=
  match phase with
  | .closed since =>
      if timed.op = .recordFailure ∧
          failureStreak (timed :: since) = max 1 config.failureThreshold.toNat then
        .opened timed.now
      else
        .closed (timed :: since)
  | .opened openedAt =>
      if timed.op = .shouldAllow ∧ openedAt + config.resetTimeout ≤ timed.now then
        .halfOpen []
      else
        .opened openedAt
  | .halfOpen since =>
      if timed.op = .recordFailure then
        .opened timed.now
      else if timed.op = .recordSuccess ∧
          successes (timed :: since) = max 1 config.successThreshold.toNat then
        .closed []
      else
        .halfOpen (timed :: since)

def phaseOf (config : CircuitBreakerTargetConfig) (history : List TimedOp) : Phase :=
  history.foldl (Phase.next config) (.closed [])

/-- The fields behind the lock agree with a phase, in the state and in the counter that
state reads. -/
def Follows (config : CircuitBreakerTargetConfig) (g : Inner) : Phase → Prop
  | .closed since =>
      g.state = .closed ∧ g.failureCount.toNat = failureStreak since ∧
        failureStreak since < max 1 config.failureThreshold.toNat
  | .opened openedAt => g.state = .opened ∧ g.lastFailureTime = some openedAt
  | .halfOpen since =>
      g.state = .halfOpen ∧ g.successCount.toNat = successes since ∧
        successes since < max 1 config.successThreshold.toNat

def Phase.state : Phase → CircuitState
  | .closed _ => .closed
  | .opened _ => .opened
  | .halfOpen _ => .halfOpen

theorem Follows.state_eq {config : CircuitBreakerTargetConfig} {g : Inner} {phase : Phase}
    (follows : Follows config g phase) : g.state = phase.state := by
  cases phase with
  | closed since => exact follows.1
  | opened openedAt => exact follows.1
  | halfOpen since => exact follows.1

def MonotoneClock (history : List TimedOp) : Prop :=
  history.Pairwise fun earlier later => earlier.now ≤ later.now

theorem phaseOf_concat (config : CircuitBreakerTargetConfig) (history : List TimedOp)
    (timed : TimedOp) :
    phaseOf config (history ++ [timed]) = (phaseOf config history).next config timed := by
  simp [phaseOf, List.foldl_append]

section Steps

variable {config : CircuitBreakerTargetConfig} {g : Inner}

theorem threshold_le_succ_iff {counter threshold : UInt32} {seen : Nat}
    (counted : counter.toNat = seen) (below : seen < max 1 threshold.toNat) :
    threshold ≤ counter + 1 ↔ seen + 1 = max 1 threshold.toNat := by
  have room := threshold.toNat_lt
  have incremented : (counter + 1).toNat = counter.toNat + 1 :=
    UInt32.toNat_add_one_of_lt (by omega)
  rw [UInt32.le_iff_toNat_le, incremented]
  omega

theorem toNat_succ_of_below {counter threshold : UInt32} {seen : Nat}
    (counted : counter.toNat = seen) (below : seen < max 1 threshold.toNat) :
    (counter + 1).toNat = seen + 1 := by
  have room := threshold.toNat_lt
  rw [UInt32.toNat_add_one_of_lt (by omega), counted]

theorem follows_of_closed {since : List TimedOp} (follows : Follows config g (.closed since))
    (timed : TimedOp) :
    Follows config (timed.apply config g) (Phase.next config (.closed since) timed) := by
  rcases follows with ⟨state, counted, below⟩
  have positive : 0 < max 1 config.failureThreshold.toNat := by omega
  rcases timed with ⟨now, op⟩
  cases op with
  | shouldAllow =>
      simp only [TimedOp.apply, Inner.shouldAllow_of_closed state, Phase.next, reduceCtorEq,
        false_and, if_false]
      exact ⟨state, counted, below⟩
  | recordSuccess =>
      simp only [TimedOp.apply, Inner.recordSuccess_of_closed state, Phase.next, reduceCtorEq,
        false_and, if_false]
      exact ⟨state, rfl, positive⟩
  | recordNeutral =>
      simp only [TimedOp.apply, Inner.recordNeutral_of_closed state, Phase.next, reduceCtorEq,
        false_and, if_false]
      exact ⟨state, rfl, positive⟩
  | recordFailure =>
      have reaches := threshold_le_succ_iff counted below
      simp only [TimedOp.apply, Phase.next, true_and, failureStreak]
      split
      · rename_i reached
        rw [Inner.recordFailure_of_closed_reached state (reaches.mpr reached)]
        exact ⟨rfl, rfl⟩
      · rename_i notReached
        rw [Inner.recordFailure_of_closed_below state (fun held => notReached (reaches.mp held))]
        refine ⟨state, toNat_succ_of_below counted below, ?_⟩
        simp only [failureStreak]
        omega

theorem follows_of_opened {openedAt : Nat} (follows : Follows config g (.opened openedAt))
    (timed : TimedOp) (ordered : openedAt ≤ timed.now) :
    Follows config (timed.apply config g) (Phase.next config (.opened openedAt) timed) := by
  rcases follows with ⟨state, openedSince⟩
  have probesIff : timed.Probes config g ↔
      timed.op = .shouldAllow ∧ openedAt + config.resetTimeout ≤ timed.now := by
    simp only [TimedOp.Probes, Inner.resetElapsed, openedSince, decide_eq_true_eq,
      le_elapsed_iff ordered]
  simp only [Phase.next]
  split
  · rename_i asked
    rw [(probesIff.mpr asked).apply state]
    exact ⟨rfl, rfl, by simp [successes]⟩
  · rename_i idle
    rw [apply_of_not_probes state (mt probesIff.mp idle)]
    exact ⟨state, openedSince⟩

theorem follows_of_halfOpen {since : List TimedOp} (follows : Follows config g (.halfOpen since))
    (timed : TimedOp) :
    Follows config (timed.apply config g) (Phase.next config (.halfOpen since) timed) := by
  rcases follows with ⟨state, counted, below⟩
  have notClosed : g.state ≠ .closed := by simp [state]
  rcases timed with ⟨now, op⟩
  cases op with
  | shouldAllow =>
      simp only [TimedOp.apply, Inner.shouldAllow_of_halfOpen state, Phase.next, reduceCtorEq,
        false_and, if_false]
      exact ⟨state, by simpa [successes] using counted, by simpa [successes] using below⟩
  | recordSuccess =>
      have reaches := threshold_le_succ_iff counted below
      have oneMore : successes (⟨now, .recordSuccess⟩ :: since) = successes since + 1 := by
        simp [successes]
      simp only [TimedOp.apply, Phase.next, reduceCtorEq, if_false, true_and, oneMore]
      split
      · rename_i reached
        rw [Inner.recordSuccess_of_halfOpen_reached state (reaches.mpr reached)]
        exact ⟨rfl, rfl, by simp [failureStreak]⟩
      · rename_i notReached
        rw [Inner.recordSuccess_of_halfOpen_below state (fun held => notReached (reaches.mp held))]
        refine ⟨state, ?_, ?_⟩
        · rw [oneMore]
          exact toNat_succ_of_below counted below
        · rw [oneMore]
          omega
  | recordNeutral =>
      simp only [TimedOp.apply, Inner.recordNeutral_of_not_closed notClosed, Phase.next,
        reduceCtorEq, false_and, if_false]
      exact ⟨state, by simpa [successes] using counted, by simpa [successes] using below⟩
  | recordFailure =>
      simp only [TimedOp.apply, Inner.recordFailure_of_halfOpen state, Phase.next, if_true]
      exact ⟨rfl, rfl⟩

end Steps

theorem Follows.next {config : CircuitBreakerTargetConfig} {g : Inner} {phase : Phase}
    (follows : Follows config g phase) (timed : TimedOp)
    (ordered : ∀ openedAt, phase = .opened openedAt → openedAt ≤ timed.now) :
    Follows config (timed.apply config g) (phase.next config timed) := by
  cases phase with
  | closed since => exact follows_of_closed follows timed
  | opened openedAt => exact follows_of_opened follows timed (ordered openedAt rfl)
  | halfOpen since => exact follows_of_halfOpen follows timed

theorem phaseOf_opened_mem {config : CircuitBreakerTargetConfig} {history : List TimedOp}
    {openedAt : Nat} (opened : phaseOf config history = .opened openedAt) :
    ∃ timed ∈ history, timed.now = openedAt := by
  induction history using List.reverseRecOn with
  | nil => simp [phaseOf] at opened
  | append_singleton earlier latest ih =>
      rw [phaseOf_concat] at opened
      cases before : phaseOf config earlier with
      | closed since =>
          simp only [before, Phase.next] at opened
          split at opened
          · exact ⟨latest, by simp, Phase.opened.inj opened⟩
          · cases opened
      | opened since =>
          simp only [before, Phase.next] at opened
          split at opened
          · cases opened
          · rcases ih (before.trans opened) with ⟨timed, member, reading⟩
            exact ⟨timed, by simp [member], reading⟩
      | halfOpen since =>
          simp only [before, Phase.next] at opened
          split at opened
          · exact ⟨latest, by simp, Phase.opened.inj opened⟩
          · split at opened <;> cases opened

/-- After every history under a monotone clock the fields agree with it. -/
theorem follows_phaseOf (config : CircuitBreakerTargetConfig) {history : List TimedOp}
    (clock : MonotoneClock history) :
    Follows config (run config history) (phaseOf config history) := by
  induction history using List.reverseRecOn with
  | nil => exact ⟨rfl, rfl, by simp [failureStreak]⟩
  | append_singleton earlier latest ih =>
      rw [run_concat, phaseOf_concat]
      rw [MonotoneClock, List.pairwise_append] at clock
      apply (ih clock.1).next
      intro openedAt opened
      rcases phaseOf_opened_mem opened with ⟨timed, member, reading⟩
      rw [← reading]
      exact clock.2.2 timed member latest (by simp)

/-- In every phase the state and the counter it reads are what the history dictates, and the
next operation makes exactly the transition that the history calls for. -/
theorem breaker_follows_history (config : CircuitBreakerTargetConfig) (history : List TimedOp)
    (timed : TimedOp) (clock : MonotoneClock (history ++ [timed])) :
    match phaseOf config history with
    | .closed since =>
        (run config history).state = .closed ∧
          (run config history).failureCount.toNat = failureStreak since ∧
          (run config (history ++ [timed])).state =
            if timed.op = .recordFailure ∧
                failureStreak (timed :: since) = max 1 config.failureThreshold.toNat then
              .opened
            else
              .closed
    | .opened openedAt =>
        (run config history).state = .opened ∧
          (run config (history ++ [timed])).state =
            if timed.op = .shouldAllow ∧ openedAt + config.resetTimeout ≤ timed.now then
              .halfOpen
            else
              .opened
    | .halfOpen since =>
        (run config history).state = .halfOpen ∧
          (run config history).successCount.toNat = successes since ∧
          (run config (history ++ [timed])).state =
            if timed.op = .recordFailure then
              .opened
            else if timed.op = .recordSuccess ∧
                successes (timed :: since) = max 1 config.successThreshold.toNat then
              .closed
            else
              .halfOpen := by
  have clockBefore : MonotoneClock history := (List.pairwise_append.mp clock).1
  have before := follows_phaseOf config clockBefore
  have after := (follows_phaseOf config clock).state_eq
  rw [phaseOf_concat] at after
  cases phase : phaseOf config history with
  | closed since =>
      rw [phase] at before after
      refine ⟨before.1, before.2.1, after.trans ?_⟩
      simp only [Phase.next]
      split <;> rfl
  | opened openedAt =>
      rw [phase] at before after
      refine ⟨before.1, after.trans ?_⟩
      simp only [Phase.next]
      split <;> rfl
  | halfOpen since =>
      rw [phase] at before after
      refine ⟨before.1, before.2.1, after.trans ?_⟩
      simp only [Phase.next]
      split
      · rfl
      · split <;> rfl

/-- Five failures in a row, then a call made 30 s after the opening. -/
theorem breaker_follows_history_probe :
    (run .default (List.replicate 5 ⟨0, .recordFailure⟩)).state = .opened ∧
      (run .default (List.replicate 5 ⟨0, .recordFailure⟩ ++
        [⟨30 * 10 ^ 9, .shouldAllow⟩])).state = .halfOpen :=
  breaker_follows_history .default (List.replicate 5 ⟨0, .recordFailure⟩)
    ⟨30 * 10 ^ 9, .shouldAllow⟩ (by simp [MonotoneClock])

end AxumConf.CircuitBreaker
