import AxumConf.CircuitBreaker.State
import AxumConf.Lib.Fold

/-!
# The read-only queries

`current_state`, `is_open`, `is_fast_failing` and the two counter getters of
`src/circuit_breaker/state.rs`. The readiness probe of `src/fluent/features.rs`
asks `is_fast_failing` instead of `should_allow`, so that a probe neither moves
the state machine nor takes a slot. Operations and queries together are the
accesses to a breaker.
-/

namespace AxumConf.CircuitBreaker

namespace Inner

def currentState (g : Inner) : CircuitState :=
  g.state

def isOpen (g : Inner) : Bool :=
  match g.state with
  | .opened => true
  | .closed => false
  | .halfOpen => false

def isFastFailing (config : CircuitBreakerTargetConfig) (now : Nat) (g : Inner) : Bool :=
  match g.state with
  | .opened =>
      match g.lastFailureTime with
      | some time => decide (elapsed time now < config.resetTimeout)
      | none => false
  | .closed => false
  | .halfOpen => false

end Inner

inductive Query where
  | currentState
  | isOpen
  | isFastFailing
  | failureCount
  | successCount
  deriving DecidableEq, Repr

inductive Access where
  | operation (op : Op)
  | query (query : Query)
  deriving DecidableEq, Repr

structure TimedAccess where
  now : Nat
  access : Access
  deriving DecidableEq, Repr

inductive Reply where
  | unit
  | bool (answer : Bool)
  | state (state : CircuitState)
  | count (count : UInt32)
  deriving DecidableEq, Repr

def Query.reply (config : CircuitBreakerTargetConfig) (now : Nat) (g : Inner) : Query → Reply
  | .currentState => .state g.currentState
  | .isOpen => .bool g.isOpen
  | .isFastFailing => .bool (g.isFastFailing config now)
  | .failureCount => .count g.failureCount
  | .successCount => .count g.successCount

def Op.reply (config : CircuitBreakerTargetConfig) (now : Nat) (g : Inner) : Op → Reply
  | .shouldAllow => .bool (g.shouldAllow config now).1
  | .recordSuccess => .unit
  | .recordNeutral => .unit
  | .recordFailure => .unit

namespace TimedAccess

def reply (config : CircuitBreakerTargetConfig) (g : Inner) (timed : TimedAccess) : Reply :=
  match timed.access with
  | .operation op => op.reply config timed.now g
  | .query query => query.reply config timed.now g

def apply (config : CircuitBreakerTargetConfig) (g : Inner) (timed : TimedAccess) : Inner :=
  match timed.access with
  | .operation op => (TimedOp.mk timed.now op).apply config g
  | .query _ => g

def IsQuery (timed : TimedAccess) : Prop :=
  ∃ query, timed.access = .query query

end TimedAccess

/-- The fields after a sequence of accesses, in the order in which they took the lock. -/
def access (config : CircuitBreakerTargetConfig) (history : List TimedAccess) : Inner :=
  history.foldl (TimedAccess.apply config) .new

/-- The access that made the breaker open, which it has been ever since. -/
def OpenedBy (config : CircuitBreakerTargetConfig) (history : List TimedAccess)
    (opening : TimedAccess) : Prop :=
  ∃ before since, history = before ++ opening :: since ∧
    EnteredBy (TimedAccess.apply config) .new (fun g => g.state = .opened) before opening since

section Window

variable {config : CircuitBreakerTargetConfig} {g : Inner}

theorem apply_of_isQuery {timed : TimedAccess} (isQuery : timed.IsQuery) :
    timed.apply config g = g := by
  rcases isQuery with ⟨query, isQuery⟩
  simp only [TimedAccess.apply, isQuery]

/-- An operation opens a breaker at its own clock reading. -/
theorem lastFailureTime_of_opening {timed : TimedOp} (before : g.state ≠ .opened)
    (after : (timed.apply config g).state = .opened) :
    (timed.apply config g).lastFailureTime = some timed.now := by
  rcases timed with ⟨now, op⟩
  cases state : g.state with
  | opened => exact absurd state before
  | closed =>
      cases op with
      | shouldAllow => simp [TimedOp.apply, Inner.shouldAllow_of_closed state, state] at after
      | recordSuccess => simp [TimedOp.apply, Inner.recordSuccess_of_closed state, state] at after
      | recordNeutral => simp [TimedOp.apply, Inner.recordNeutral_of_closed state, state] at after
      | recordFailure =>
          by_cases reached : config.failureThreshold ≤ g.failureCount + 1
          · simp [TimedOp.apply, Inner.recordFailure_of_closed_reached state reached,
              Inner.transitionToOpen]
          · simp [TimedOp.apply, Inner.recordFailure_of_closed_below state reached,
              state] at after
  | halfOpen =>
      cases op with
      | shouldAllow => simp [TimedOp.apply, Inner.shouldAllow_of_halfOpen state, state] at after
      | recordSuccess =>
          by_cases reached : config.successThreshold ≤ g.successCount + 1
          · simp [TimedOp.apply, Inner.recordSuccess_of_halfOpen_reached state reached] at after
          · simp [TimedOp.apply, Inner.recordSuccess_of_halfOpen_below state reached,
              state] at after
      | recordNeutral =>
          have notClosed : g.state ≠ .closed := by simp [state]
          simp [TimedOp.apply, Inner.recordNeutral_of_not_closed notClosed, state] at after
      | recordFailure =>
          simp [TimedOp.apply, Inner.recordFailure_of_halfOpen state, Inner.transitionToOpen]

/-- No operation moves the window of a breaker that it leaves open. -/
theorem lastFailureTime_of_opened_apply {timed : TimedOp} (before : g.state = .opened)
    (after : (timed.apply config g).state = .opened) :
    (timed.apply config g).lastFailureTime = g.lastFailureTime := by
  by_cases probes : timed.Probes config g
  · rw [probes.apply before] at after
    cases after
  · rw [apply_of_not_probes before probes]

theorem OpenedBy.lastFailureTime {history : List TimedAccess} {opening : TimedAccess}
    (openedBy : OpenedBy config history opening) :
    (access config history).lastFailureTime = some opening.now := by
  rcases openedBy with ⟨before, since, rfl, entered⟩
  refine entered.invariant (fun g => g.lastFailureTime = some opening.now) ?_ ?_
  · intro g notBefore after
    rcases opening with ⟨now, operation | query⟩
    · exact lastFailureTime_of_opening notBefore after
    · exact absurd after notBefore
  · intro g timed heldBefore after window
    rcases timed with ⟨now, operation | query⟩
    · exact (lastFailureTime_of_opened_apply heldBefore after).trans window
    · exact window

theorem OpenedBy.state {history : List TimedAccess} {opening : TimedAccess}
    (openedBy : OpenedBy config history opening) : (access config history).state = .opened := by
  rcases openedBy with ⟨before, since, rfl, entered⟩
  exact entered.now

theorem exists_openedBy {history : List TimedAccess}
    (opened : (access config history).state = .opened) :
    ∃ opening, OpenedBy config history opening := by
  rcases exists_enteredBy (fun g : Inner => g.state = .opened) (by simp [Inner.new]) opened with
    ⟨before, opening, since, split, entered⟩
  exact ⟨opening, before, since, split, entered⟩

theorem resetElapsed_iff {openedAt : Nat} (window : g.lastFailureTime = some openedAt)
    (now : Nat) :
    g.resetElapsed config now = true ↔ config.resetTimeout ≤ elapsed openedAt now := by
  simp only [Inner.resetElapsed, window, decide_eq_true_eq]

theorem shouldAllow_of_opened (state : g.state = .opened) (now : Nat) :
    (g.shouldAllow config now).1 = g.resetElapsed config now := by
  cases waited : g.resetElapsed config now with
  | true => rw [Inner.shouldAllow_of_opened_elapsed state waited]
  | false => rw [Inner.shouldAllow_of_opened_waiting state waited]

theorem isFastFailing_of_opened {openedAt : Nat} (state : g.state = .opened)
    (window : g.lastFailureTime = some openedAt) (now : Nat) :
    g.isFastFailing config now = !(g.shouldAllow config now).1 := by
  rw [shouldAllow_of_opened state]
  simp only [Inner.isFastFailing, Inner.resetElapsed, state, window]
  rw [← decide_not, decide_eq_decide]
  exact Nat.not_le.symm

theorem isFastFailing_of_not_opened (state : g.state ≠ .opened) (now : Nat) :
    g.isFastFailing config now = false := by
  cases held : g.state with
  | opened => exact absurd held state
  | closed => simp only [Inner.isFastFailing, held]
  | halfOpen => simp only [Inner.isFastFailing, held]

end Window

/-- After every sequence of accesses an open breaker admits from one reset timeout after the
access that opened it, it is fast-failing exactly until then, and queries made in between are
answered without changing an answer of another access. -/
theorem open_window (config : CircuitBreakerTargetConfig) (history : List TimedAccess) :
    ((access config history).state = .opened ↔ ∃ opening, OpenedBy config history opening) ∧
      (∀ opening, OpenedBy config history opening →
        (access config history).lastFailureTime = some opening.now ∧
          ∀ now, ((access config history).shouldAllow config now).1 = true ↔
            config.resetTimeout ≤ elapsed opening.now now) ∧
      (∀ now, (access config history).isFastFailing config now = true ↔
        (access config history).state = .opened ∧
          ((access config history).shouldAllow config now).1 = false) ∧
      ∀ observed, Inserted TimedAccess.IsQuery history observed →
        Inserted (fun pair => pair.1.IsQuery)
          (answered (TimedAccess.apply config) (TimedAccess.reply config) .new history)
          (answered (TimedAccess.apply config) (TimedAccess.reply config) .new observed) := by
  refine ⟨⟨exists_openedBy, fun ⟨_, openedBy⟩ => openedBy.state⟩, ?_, ?_, ?_⟩
  · intro opening openedBy
    refine ⟨openedBy.lastFailureTime, ?_⟩
    intro now
    rw [shouldAllow_of_opened openedBy.state]
    exact resetElapsed_iff openedBy.lastFailureTime now
  · intro now
    by_cases state : (access config history).state = .opened
    · rcases exists_openedBy state with ⟨opening, openedBy⟩
      simp [isFastFailing_of_opened state openedBy.lastFailureTime, state]
    · simp [isFastFailing_of_not_opened state, state]
  · intro observed inserted
    refine inserted.answered_of_idle _ ?_ _
    intro g timed isQuery
    exact apply_of_isQuery isQuery

/-- A failure of an earlier call and two queries arrive between the opening and the end of the
window, which no access has moved. -/
example :
    let late := [⟨0, .operation .recordFailure⟩, ⟨20, .operation .recordFailure⟩,
      ⟨25, .query .isOpen⟩, ⟨29, .query .isFastFailing⟩, ⟨30, .operation .shouldAllow⟩]
    (answered (TimedAccess.apply ⟨1, 1, 30, 1, none⟩) (TimedAccess.reply ⟨1, 1, 30, 1, none⟩)
      .new late).map Prod.snd = [.unit, .unit, .bool true, .bool true, .bool true] := by
  decide

end AxumConf.CircuitBreaker
