import AxumConf.CircuitBreaker.History
import AxumConf.Lib.Machine
import AxumConf.Lib.Table

/-!
# Interleaved guarded calls

`guarded_call_with` of `src/circuit_breaker/mod.rs` asks `should_allow`, awaits
the operation without holding the lock, and makes one record. Any number of
callers do this at once, and a caller may drop the future while it waits. The
machine below takes one such step at a time: a schedule is a list of events,
and every event names the call that moves.

The fields under `Episode`, and the `episode` of a call, are bookkeeping for
the statements. No step of the program reads them.
-/

namespace AxumConf.CircuitBreaker

/-- How the awaited operation ended, as far as the record depends on it: an `Err` is a
failure or neutral by the classifier, and a timeout is one whatever the classifier says. -/
inductive Outcome where
  | success
  | failure
  | neutral
  | timeout
  deriving DecidableEq, Repr

def Outcome.op : Outcome → Op
  | .success => .recordSuccess
  | .failure => .recordFailure
  | .neutral => .recordNeutral
  | .timeout => .recordFailure

/-- A call that was admitted and has not ended. -/
structure Call where
  /-- The reading at which the timeout, if any, starts. -/
  admittedAt : Nat
  /-- `none` while the operation is awaited. -/
  outcome : Option Outcome
  /-- The half-open episode that admitted the call, `none` for a closed breaker. -/
  episode : Option Nat
  deriving DecidableEq, Repr

/-- What happened since the breaker last became half-open. -/
structure Episode where
  number : Nat
  /-- Calls of `should_allow`, rejected ones included. -/
  asked : Nat
  admitted : Nat
  /-- Probes of this episode that have ended. -/
  ended : Nat
  probeSuccesses : Nat
  /-- Successes recorded by calls that were admitted before it. -/
  lateSuccesses : Nat
  /-- Calls that were in flight when it began. -/
  inFlightBefore : Nat
  deriving DecidableEq, Repr

structure System where
  now : Nat
  breaker : Inner
  calls : Table Nat Call
  episode : Episode

namespace System

def init : System where
  now := 0
  breaker := .new
  calls := ∅
  episode := ⟨0, 0, 0, 0, 0, 0, 0⟩

def isProbe (number : Nat) (_id : Nat) (call : Call) : Bool :=
  call.episode = some number

def probesInFlight (s : System) : Nat :=
  s.calls.count (isProbe s.episode.number)

def episodeAdmitting (s : System) : Episode :=
  match s.breaker.state with
  | .closed => s.episode
  | .opened => ⟨s.episode.number + 1, 1, 1, 0, 0, 0, s.calls.size⟩
  | .halfOpen =>
      { s.episode with asked := s.episode.asked + 1, admitted := s.episode.admitted + 1 }

def episodeRejecting (s : System) : Episode :=
  match s.breaker.state with
  | .closed => s.episode
  | .opened => s.episode
  | .halfOpen => { s.episode with asked := s.episode.asked + 1 }

def episodeEnding (s : System) (call : Call) : Episode :=
  if call.episode = some s.episode.number then
    { s.episode with
      ended := s.episode.ended + 1
      probeSuccesses :=
        s.episode.probeSuccesses + if call.outcome = some .success then 1 else 0 }
  else
    { s.episode with
      lateSuccesses :=
        s.episode.lateSuccesses + if call.outcome = some .success then 1 else 0 }

def admittingEpisode (s : System) : Option Nat :=
  match s.breaker.state with
  | .closed => none
  | .opened => some (s.episode.number + 1)
  | .halfOpen => some s.episode.number

variable (config : CircuitBreakerTargetConfig)

def allows (s : System) : Bool :=
  (s.breaker.shouldAllow config s.now).1

/-- `should_allow` answered `true`. -/
def enter (s : System) (id : Nat) : System where
  now := s.now
  breaker := (s.breaker.shouldAllow config s.now).2
  calls := s.calls.insert id ⟨s.now, none, s.admittingEpisode⟩
  episode := s.episodeAdmitting

/-- `should_allow` answered `false`; the caller gets `CircuitOpen`. -/
def reject (s : System) : System where
  now := s.now
  breaker := (s.breaker.shouldAllow config s.now).2
  calls := s.calls
  episode := s.episodeRejecting

/-- The awaited operation ended, or the timeout fired first. -/
def complete (s : System) (id : Nat) (call : Call) (outcome : Outcome) : System :=
  { s with calls := s.calls.insert id { call with outcome := some outcome } }

/-- The call makes its record and returns. -/
def record (s : System) (id : Nat) (call : Call) (outcome : Outcome) : System where
  now := s.now
  breaker := (TimedOp.mk s.now outcome.op).apply config s.breaker
  calls := s.calls.erase id
  episode := s.episodeEnding call

/-- The future of the call is dropped while it awaits the operation. -/
def drop (s : System) (id : Nat) (call : Call) : System :=
  { s with calls := s.calls.erase id, episode := s.episodeEnding call }

end System

inductive Event where
  | tick (span : Nat)
  | enter (id : Nat)
  | reject
  | complete (id : Nat) (outcome : Outcome)
  | record (id : Nat)
  | drop (id : Nat)
  deriving DecidableEq, Repr

/-- A timeout can end a call only when one is configured and has elapsed since admission. -/
def Outcome.possible (config : CircuitBreakerTargetConfig) (now : Nat) (call : Call) :
    Outcome → Bool
  | .timeout =>
      match config.callTimeout with
      | some span => decide (call.admittedAt + span ≤ now)
      | none => false
  | _ => true

/-- One step of the interleaving; `none` when the event cannot happen. -/
def stepEvent (config : CircuitBreakerTargetConfig) (s : System) : Event → Option System
  | .tick span => some { s with now := s.now + span }
  | .enter id =>
      match s.calls.lookup id with
      | none => if s.allows config then some (s.enter config id) else none
      | some _ => none
  | .reject => if s.allows config then none else some (s.reject config)
  | .complete id outcome =>
      match s.calls.lookup id with
      | some call =>
          if call.outcome = none ∧ outcome.possible config s.now call = true then
            some (s.complete id call outcome)
          else
            none
      | none => none
  | .record id =>
      match s.calls.lookup id with
      | some call => call.outcome.map fun outcome => s.record config id call outcome
      | none => none
  | .drop id =>
      match s.calls.lookup id with
      | some call => if call.outcome = none then some (s.drop id call) else none
      | none => none

def guardedCalls (config : CircuitBreakerTargetConfig) : Machine System Event where
  step := stepEvent config

def failedCall (id : Nat) : List Event :=
  [.enter id, .complete id .failure, .record id]

/-- Five failed calls open a breaker with the default configuration, and 30 s pass. -/
def awaitingProbes : List Event :=
  (List.range 5).flatMap failedCall ++ [.tick (30 * 10 ^ 9)]

/-- What each event requires and does. -/
inductive Stepped (config : CircuitBreakerTargetConfig) (s : System) : Event → System → Prop where
  | tick (span : Nat) : Stepped config s (.tick span) { s with now := s.now + span }
  | enter (id : Nat) (fresh : s.calls.lookup id = none) (allowed : s.allows config = true) :
      Stepped config s (.enter id) (s.enter config id)
  | reject (rejected : s.allows config = false) : Stepped config s .reject (s.reject config)
  | complete (id : Nat) (call : Call) (outcome : Outcome)
      (found : s.calls.lookup id = some call) (waiting : call.outcome = none)
      (possible : outcome.possible config s.now call = true) :
      Stepped config s (.complete id outcome) (s.complete id call outcome)
  | record (id : Nat) (call : Call) (outcome : Outcome)
      (found : s.calls.lookup id = some call) (ended : call.outcome = some outcome) :
      Stepped config s (.record id) (s.record config id call outcome)
  | drop (id : Nat) (call : Call) (found : s.calls.lookup id = some call)
      (waiting : call.outcome = none) : Stepped config s (.drop id) (s.drop id call)

theorem stepped_of_step {config : CircuitBreakerTargetConfig} {s next : System} {event : Event}
    (stepped : (guardedCalls config).step s event = some next) : Stepped config s event next := by
  simp only [guardedCalls] at stepped
  cases event with
  | tick span =>
      cases stepped
      exact .tick span
  | enter id =>
      simp only [stepEvent] at stepped
      split at stepped
      · rename_i fresh
        split at stepped
        · rename_i allowed
          cases stepped
          exact .enter id fresh allowed
        · cases stepped
      · cases stepped
  | reject =>
      simp only [stepEvent] at stepped
      split at stepped
      · cases stepped
      · rename_i rejected
        cases stepped
        exact .reject (Bool.eq_false_iff.mpr rejected)
  | complete id outcome =>
      simp only [stepEvent] at stepped
      split at stepped
      · rename_i call found
        split at stepped
        · rename_i ready
          cases stepped
          exact .complete id call outcome found ready.1 ready.2
        · cases stepped
      · cases stepped
  | record id =>
      simp only [stepEvent] at stepped
      split at stepped
      · rename_i call found
        rcases Option.map_eq_some_iff.mp stepped with ⟨outcome, ended, rfl⟩
        exact .record id call outcome found ended
      · cases stepped
  | drop id =>
      simp only [stepEvent] at stepped
      split at stepped
      · rename_i call found
        split at stepped
        · rename_i waiting
          cases stepped
          exact .drop id call found waiting
        · cases stepped
      · cases stepped

namespace System

variable {config : CircuitBreakerTargetConfig} {s : System}

theorem allows_of_closed (state : s.breaker.state = .closed) : s.allows config = true := by
  simp [allows, Inner.shouldAllow_of_closed state]

theorem allows_of_opened (state : s.breaker.state = .opened) :
    s.allows config = s.breaker.resetElapsed config s.now := by
  cases elapsed : s.breaker.resetElapsed config s.now with
  | true => simp [allows, Inner.shouldAllow_of_opened_elapsed state elapsed]
  | false => simp [allows, Inner.shouldAllow_of_opened_waiting state elapsed]

theorem allows_of_halfOpen (state : s.breaker.state = .halfOpen) :
    s.allows config = decide (s.breaker.halfOpenCalls < config.halfOpenMaxCalls) := by
  simp [allows, Inner.shouldAllow_of_halfOpen state]

theorem enter_of_closed (state : s.breaker.state = .closed) (id : Nat) :
    s.enter config id = { s with calls := s.calls.insert id ⟨s.now, none, none⟩ } := by
  simp [enter, Inner.shouldAllow_of_closed state, admittingEpisode, episodeAdmitting, state]

theorem enter_of_opened (state : s.breaker.state = .opened) (allowed : s.allows config = true)
    (id : Nat) :
    s.enter config id =
      { now := s.now
        breaker := { s.breaker with state := .halfOpen, successCount := 0, halfOpenCalls := 1 }
        calls := s.calls.insert id ⟨s.now, none, some (s.episode.number + 1)⟩
        episode := ⟨s.episode.number + 1, 1, 1, 0, 0, 0, s.calls.size⟩ } := by
  have elapsed := (allows_of_opened state).symm.trans allowed
  simp [enter, Inner.shouldAllow_of_opened_elapsed state elapsed, admittingEpisode,
    episodeAdmitting, state]

theorem enter_of_halfOpen (state : s.breaker.state = .halfOpen) (id : Nat) :
    s.enter config id =
      { now := s.now
        breaker := { s.breaker with halfOpenCalls := s.breaker.halfOpenCalls + 1 }
        calls := s.calls.insert id ⟨s.now, none, some s.episode.number⟩
        episode := { s.episode with
          asked := s.episode.asked + 1
          admitted := s.episode.admitted + 1 } } := by
  simp [enter, Inner.shouldAllow_of_halfOpen state, admittingEpisode, episodeAdmitting, state]

theorem reject_of_opened (state : s.breaker.state = .opened)
    (rejected : s.allows config = false) : s.reject config = s := by
  have waiting := (allows_of_opened state).symm.trans rejected
  simp [reject, Inner.shouldAllow_of_opened_waiting state waiting, episodeRejecting, state]

/-- A rejected call is charged to the episode like an admitted one. -/
theorem reject_of_halfOpen (state : s.breaker.state = .halfOpen) :
    s.reject config = { s with
      breaker := { s.breaker with halfOpenCalls := s.breaker.halfOpenCalls + 1 }
      episode := { s.episode with asked := s.episode.asked + 1 } } := by
  simp [reject, Inner.shouldAllow_of_halfOpen state, episodeRejecting, state]

end System

/-- The breaker of a reachable state is what some history under a monotone clock made of it. -/
theorem exists_history {config : CircuitBreakerTargetConfig} {s : System}
    (reachable : (guardedCalls config).Reachable .init s) :
    ∃ history, MonotoneClock history ∧ (∀ timed ∈ history, timed.now ≤ s.now) ∧
      s.breaker = run config history := by
  refine reachable.invariant (fun s => ∃ history, MonotoneClock history ∧
    (∀ timed ∈ history, timed.now ≤ s.now) ∧ s.breaker = run config history) ?_
    ⟨[], .nil, by simp, rfl⟩
  rintro s event next ⟨history, clock, past, breakerEq⟩ stepped
  have extend (op : Op) : MonotoneClock (history ++ [⟨s.now, op⟩]) ∧
      (∀ timed ∈ history ++ [⟨s.now, op⟩], timed.now ≤ s.now) ∧
      (TimedOp.mk s.now op).apply config s.breaker = run config (history ++ [⟨s.now, op⟩]) := by
    refine ⟨?_, ?_, by rw [run_concat, breakerEq]⟩
    · rw [MonotoneClock, List.pairwise_append]
      exact ⟨clock, List.pairwise_singleton _ _, by simpa using past⟩
    · intro timed member
      rcases List.mem_append.mp member with old | latest
      · exact past timed old
      · simp only [List.mem_singleton] at latest
        rw [latest]
  cases stepped_of_step stepped with
  | tick span =>
      exact ⟨history, clock, fun timed member => Nat.le_add_right_of_le (past timed member),
        breakerEq⟩
  | enter id fresh allowed => exact ⟨_, extend .shouldAllow⟩
  | reject rejected => exact ⟨_, extend .shouldAllow⟩
  | complete id call outcome found waiting possible => exact ⟨history, clock, past, breakerEq⟩
  | record id call outcome found ended => exact ⟨_, extend outcome.op⟩
  | drop id call found waiting => exact ⟨history, clock, past, breakerEq⟩

end AxumConf.CircuitBreaker
