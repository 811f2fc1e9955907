import Mathlib.Data.UInt
import AxumConf.Time

/-!
# The circuit breaker state machine

`src/circuit_breaker/state.rs`. Every operation of the source locks `inner`,
reads the clock at most once and runs to the end, so here an operation is a
function of the target's configuration, the clock reading and the fields behind
the lock. The counters are the source's `u32`, and `+= 1` wraps as it does in
the release profile.
-/

namespace AxumConf.CircuitBreaker

/-- `CircuitBreakerTargetConfig` of `src/config/http/circuit_breaker.rs`. -/
structure CircuitBreakerTargetConfig where
  failureThreshold : UInt32
  successThreshold : UInt32
  resetTimeout : Nat
  halfOpenMaxCalls : UInt32
  callTimeout : Option Nat
  deriving DecidableEq, Repr

/-- `impl Default for CircuitBreakerTargetConfig`; the reset timeout is 30 s. -/
def CircuitBreakerTargetConfig.default : CircuitBreakerTargetConfig where
  failureThreshold := 5
  successThreshold := 3
  resetTimeout := 30 * 10 ^ 9
  halfOpenMaxCalls := 3
  callTimeout := none

/-- `CircuitState`; the source's `Open` is spelled `opened`, since `open` is a keyword. -/
inductive CircuitState where
  | closed
  | opened
  | halfOpen
  deriving DecidableEq, Repr

/-- The fields behind the lock. -/
structure Inner where
  state : CircuitState
  failureCount : UInt32
  successCount : UInt32
  halfOpenCalls : UInt32
  lastFailureTime : Option Nat
  deriving DecidableEq, Repr

namespace Inner

def new : Inner where
  state := .closed
  failureCount := 0
  successCount := 0
  halfOpenCalls := 0
  lastFailureTime := none

def transitionToOpen (now : Nat) (_g : Inner) : Inner where
  state := .opened
  lastFailureTime := some now
  failureCount := 0
  successCount := 0
  halfOpenCalls := 0

def transitionToHalfOpen (g : Inner) : Inner :=
  { g with
    state := .halfOpen
    successCount := 0
    halfOpenCalls := 0 }

def transitionToClosed (g : Inner) : Inner :=
  { g with
    state := .closed
    failureCount := 0
    successCount := 0
    halfOpenCalls := 0 }

variable (config : CircuitBreakerTargetConfig) (now : Nat)

def resetElapsed (g : Inner) : Bool :=
  match g.lastFailureTime with
  | some time => decide (config.resetTimeout ≤ elapsed time now)
  | none => false

/-- `should_allow`: the answer, and the fields afterwards. -/
def shouldAllow (g : Inner) : Bool × Inner :=
  match g.state with
  | .closed => (true, g)
  | .opened =>
      if g.resetElapsed config now then
        let probing := g.transitionToHalfOpen
        (true, { probing with halfOpenCalls := probing.halfOpenCalls + 1 })
      else
        (false, g)
  | .halfOpen =>
      -- A rejected call is charged as well; the slot of an ended call is not given back.
      (decide (g.halfOpenCalls < config.halfOpenMaxCalls),
        { g with halfOpenCalls := g.halfOpenCalls + 1 })

def recordSuccess (g : Inner) : Inner :=
  match g.state with
  | .closed => { g with failureCount := 0 }
  | .halfOpen =>
      let counted := { g with successCount := g.successCount + 1 }
      if config.successThreshold ≤ counted.successCount then
        counted.transitionToClosed
      else
        counted
  | .opened => g

def recordNeutral (g : Inner) : Inner :=
  match g.state with
  | .closed => { g with failureCount := 0 }
  | .halfOpen => g
  | .opened => g

def recordFailure (g : Inner) : Inner :=
  match g.state with
  | .closed =>
      let counted := { g with failureCount := g.failureCount + 1 }
      if config.failureThreshold ≤ counted.failureCount then
        counted.transitionToOpen now
      else
        counted
  | .halfOpen => g.transitionToOpen now
  | .opened => g

section Operations

variable {config now} {g : Inner}

theorem shouldAllow_of_closed (state : g.state = .closed) :
    g.shouldAllow config now = (true, g) := by
  simp [shouldAllow, state]

theorem shouldAllow_of_opened_elapsed (state : g.state = .opened)
    (elapsed : g.resetElapsed config now = true) :
    g.shouldAllow config now =
      (true, { g with state := .halfOpen, successCount := 0, halfOpenCalls := 1 }) := by
  simp [shouldAllow, state, elapsed, transitionToHalfOpen]

theorem shouldAllow_of_opened_waiting (state : g.state = .opened)
    (waiting : g.resetElapsed config now = false) : g.shouldAllow config now = (false, g) := by
  simp [shouldAllow, state, waiting]

theorem shouldAllow_of_halfOpen (state : g.state = .halfOpen) :
    g.shouldAllow config now =
      (decide (g.halfOpenCalls < config.halfOpenMaxCalls),
        { g with halfOpenCalls := g.halfOpenCalls + 1 }) := by
  simp [shouldAllow, state]

theorem recordSuccess_of_closed (state : g.state = .closed) :
    g.recordSuccess config = { g with failureCount := 0 } := by
  simp [recordSuccess, state]

theorem recordSuccess_of_opened (state : g.state = .opened) : g.recordSuccess config = g := by
  simp [recordSuccess, state]

theorem recordSuccess_of_halfOpen_reached (state : g.state = .halfOpen)
    (reached : config.successThreshold ≤ g.successCount + 1) :
    g.recordSuccess config =
      { g with state := .closed, failureCount := 0, successCount := 0, halfOpenCalls := 0 } := by
  simp [recordSuccess, state, reached, transitionToClosed]

theorem recordSuccess_of_halfOpen_below (state : g.state = .halfOpen)
    (below : ¬config.successThreshold ≤ g.successCount + 1) :
    g.recordSuccess config = { g with successCount := g.successCount + 1 } := by
  simp [recordSuccess, state, below]

theorem recordNeutral_of_closed (state : g.state = .closed) :
    g.recordNeutral = { g with failureCount := 0 } := by
  simp [recordNeutral, state]

theorem recordNeutral_of_not_closed (state : g.state ≠ .closed) : g.recordNeutral = g := by
  cases held : g.state <;> simp_all [recordNeutral]

theorem recordFailure_of_closed_reached (state : g.state = .closed)
    (reached : config.failureThreshold ≤ g.failureCount + 1) :
    g.recordFailure config now = g.transitionToOpen now := by
  simp [recordFailure, state, reached, transitionToOpen]

theorem recordFailure_of_closed_below (state : g.state = .closed)
    (below : ¬config.failureThreshold ≤ g.failureCount + 1) :
    g.recordFailure config now = { g with failureCount := g.failureCount + 1 } := by
  simp [recordFailure, state, below]

theorem recordFailure_of_halfOpen (state : g.state = .halfOpen) :
    g.recordFailure config now = g.transitionToOpen now := by
  simp [recordFailure, state]

theorem recordFailure_of_opened (state : g.state = .opened) :
    g.recordFailure config now = g := by
  simp [recordFailure, state]

theorem halfOpen_of_recordSuccess (after : (g.recordSuccess config).state = .halfOpen) :
    g.state = .halfOpen := by
  cases before : g.state with
  | closed => simp [recordSuccess_of_closed before, before] at after
  | opened => simp [recordSuccess_of_opened before, before] at after
  | halfOpen => rfl

theorem halfOpen_of_recordNeutral (after : g.recordNeutral.state = .halfOpen) :
    g.state = .halfOpen := by
  cases before : g.state with
  | closed => simp [recordNeutral_of_closed before, before] at after
  | opened => simp [recordNeutral, before] at after
  | halfOpen => rfl

theorem recordFailure_not_halfOpen : (g.recordFailure config now).state ≠ .halfOpen := by
  cases before : g.state with
  | closed =>
      by_cases reached : config.failureThreshold ≤ g.failureCount + 1
      · simp [recordFailure_of_closed_reached before reached, transitionToOpen]
      · simp [recordFailure_of_closed_below before reached, before]
  | opened => simp [recordFailure_of_opened before, before]
  | halfOpen => simp [recordFailure_of_halfOpen before, transitionToOpen]

end Operations

end Inner

inductive Op where
  | shouldAllow
  | recordSuccess
  | recordNeutral
  | recordFailure
  deriving DecidableEq, Repr

structure TimedOp where
  now : Nat
  op : Op
  deriving DecidableEq, Repr

def TimedOp.apply (config : CircuitBreakerTargetConfig) (g : Inner) (timed : TimedOp) : Inner :=
  match timed.op with
  | .shouldAllow => (g.shouldAllow config timed.now).2
  | .recordSuccess => g.recordSuccess config
  | .recordNeutral => g.recordNeutral
  | .recordFailure => g.recordFailure config timed.now

/-- The operation asks an open breaker for a call once the reset timeout is over. -/
def TimedOp.Probes (config : CircuitBreakerTargetConfig) (g : Inner) (timed : TimedOp) : Prop :=
  timed.op = .shouldAllow ∧ g.resetElapsed config timed.now = true

section Opened

variable {config : CircuitBreakerTargetConfig} {g : Inner} {timed : TimedOp}

theorem TimedOp.Probes.shouldAllow (probes : timed.Probes config g) (state : g.state = .opened) :
    g.shouldAllow config timed.now =
      (true, { g with state := .halfOpen, successCount := 0, halfOpenCalls := 1 }) :=
  Inner.shouldAllow_of_opened_elapsed state probes.2

theorem TimedOp.Probes.apply (probes : timed.Probes config g) (state : g.state = .opened) :
    timed.apply config g =
      { g with state := .halfOpen, successCount := 0, halfOpenCalls := 1 } := by
  simp only [TimedOp.apply, probes.1, probes.shouldAllow state]

/-- Every other operation leaves an open breaker as it is. -/
theorem apply_of_not_probes (state : g.state = .opened) (idle : ¬timed.Probes config g) :
    timed.apply config g = g := by
  rcases timed with ⟨now, op⟩
  cases op with
  | shouldAllow =>
      have waiting : g.resetElapsed config now = false := by
        rw [Bool.eq_false_iff]
        exact fun elapsed => idle ⟨rfl, elapsed⟩
      simp only [TimedOp.apply, Inner.shouldAllow_of_opened_waiting state waiting]
  | recordSuccess => exact Inner.recordSuccess_of_opened state
  | recordNeutral => exact Inner.recordNeutral_of_not_closed (by simp [state])
  | recordFailure => exact Inner.recordFailure_of_opened state

end Opened

/-- The fields after a sequence of operations, in the order in which they took the lock. -/
def runFrom (config : CircuitBreakerTargetConfig) (g : Inner) (ops : List TimedOp) : Inner :=
  ops.foldl (TimedOp.apply config) g

def run (config : CircuitBreakerTargetConfig) (ops : List TimedOp) : Inner :=
  runFrom config .new ops

@[simp]
theorem runFrom_nil (config : CircuitBreakerTargetConfig) (g : Inner) :
    runFrom config g [] = g :=
  rfl

@[simp]
theorem runFrom_cons (config : CircuitBreakerTargetConfig) (g : Inner) (timed : TimedOp)
    (rest : List TimedOp) :
    runFrom config g (timed :: rest) = runFrom config (timed.apply config g) rest :=
  rfl

theorem runFrom_append (config : CircuitBreakerTargetConfig) (g : Inner)
    (front back : List TimedOp) :
    runFrom config g (front ++ back) = runFrom config (runFrom config g front) back :=
  List.foldl_append

theorem run_concat (config : CircuitBreakerTargetConfig) (ops : List TimedOp) (timed : TimedOp) :
    run config (ops ++ [timed]) = timed.apply config (run config ops) := by
  simp [run, runFrom_append]

end AxumConf.CircuitBreaker
