import AxumConf.Lib.Machine
import Mathlib.Data.List.Infix
import Mathlib.Logic.Function.Basic

/-!
# Graceful shutdown

The parties of a shutdown: the task of `shutdown_signal_with_notifications`, the connections that
drain once that task has returned, and the `select!` of `start` between the end of the drain and the
grace period.  The task that `axum` spawns for the signal emits two phases, and the grace period
begins with the first of them, so that it can be over before the second one is emitted.
-/

namespace AxumConf.Fluent

inductive ShutdownPhase where
  | initiated
  | gracePeriodStarted (timeout : ℕ)
  | gracePeriodEnded
  deriving DecidableEq, Repr

/-- What happens to the token, on the channel, and to the connections. -/
inductive ShutdownEffect where
  | cancelled
  | sent (phase : ShutdownPhase)
  | drained
  deriving DecidableEq, Repr

/-- Effects in the order in which they happen, with their instants. -/
abbrev ShutdownLog := List (ℕ × ShutdownEffect)

def ShutdownEffect.phase? : ShutdownEffect → Option ShutdownPhase
  | sent phase => some phase
  | _ => none

namespace ShutdownLog

def phases (log : ShutdownLog) : List ShutdownPhase := log.filterMap fun entry => entry.2.phase?

/-- `is_shutdown_initiated` -/
def IsCancelled (log : ShutdownLog) : Prop := ∃ instant, (instant, .cancelled) ∈ log

def Drained (log : ShutdownLog) : Prop := ∃ entry ∈ log, entry.2 = .drained

instance (log : ShutdownLog) : Decidable log.Drained :=
  inferInstanceAs (Decidable (∃ entry ∈ log, _))

end ShutdownLog

/-- The capacity of the default notifier. -/
def channelCapacity : ℕ := 16

/-- A receiver that subscribed before anything was sent. -/
structure Receiver where
  next : ℕ := 0
  seen : List ShutdownPhase := []
  deriving DecidableEq, Repr

/-- `recv` on the channel: nothing while it waits, a phase, or the error that it has lagged. -/
def Receiver.recv (receiver : Receiver) (sent : List ShutdownPhase) :
    Option (Receiver × Option ShutdownPhase) :=
  if receiver.next + channelCapacity < sent.length then
    some ({ receiver with next := sent.length - channelCapacity }, none)
  else
    (sent[receiver.next]?).map fun phase =>
      ({ next := receiver.next + 1, seen := receiver.seen ++ [phase] }, some phase)

/-- How far the signal's task has come. -/
inductive SignalTask where
  | waiting
  | initiated
  | returned
  deriving DecidableEq, Repr

/-- How far the grace branch of `start` has come, and whether `start` is done. -/
inductive StartTask where
  | receiving (receiver : Receiver)
  | sleeping (deadline : ℕ)
  | returned
  | finished
  deriving DecidableEq, Repr

structure Shutdown (Subscriber : Type) where
  now : ℕ := 0
  log : ShutdownLog := []
  signalTask : SignalTask := .waiting
  startTask : StartTask := .receiving {}
  subscribers : Subscriber → Receiver := fun _ => {}

inductive ShutdownEvent (Subscriber : Type) where
  | elapse (duration : ℕ)
  | signal
  | drain
  | receive
  | served
  | timedOut
  | observe (subscriber : Subscriber)
  deriving DecidableEq, Repr

namespace Shutdown

variable {Subscriber : Type}

def record (state : Shutdown Subscriber) (effect : ShutdownEffect) : Shutdown Subscriber :=
  { state with log := state.log ++ [(state.now, effect)] }

/-- Cancels the token first where the phase is `Initiated`. -/
def emit (state : Shutdown Subscriber) (phase : ShutdownPhase) : Shutdown Subscriber :=
  if phase = .initiated then (state.record .cancelled).record (.sent phase)
  else state.record (.sent phase)

/-- The next step of `shutdown_signal_with_notifications`. -/
def shutdownSignalWithNotifications (timeout : ℕ) (state : Shutdown Subscriber) :
    Option (Shutdown Subscriber) :=
  match state.signalTask with
  | .waiting => some { state.emit .initiated with signalTask := .initiated }
  | .initiated => some { state.emit (.gracePeriodStarted timeout) with signalTask := .returned }
  | .returned => none

/-- The connections are told to shut down when the signal's task returns. -/
def drain (state : Shutdown Subscriber) : Option (Shutdown Subscriber) :=
  if state.signalTask = .returned ∧ ¬state.log.Drained then some (state.record .drained) else none

/-- One turn of the loop that waits for `Initiated`. -/
def awaitInitiated (timeout : ℕ) (state : Shutdown Subscriber) : Option (Shutdown Subscriber) :=
  match state.startTask with
  | .receiving receiver =>
      (receiver.recv state.log.phases).map fun
        | (_, some .initiated) => { state with startTask := .sleeping (state.now + timeout) }
        | (receiver, some _) => { state with startTask := .receiving receiver }
        | (_, none) => { state with startTask := .returned }
  | _ => none

/-- The grace branch of `select!` is ready. -/
def graceOver (state : Shutdown Subscriber) : Bool :=
  match state.startTask with
  | .sleeping deadline => deadline ≤ state.now
  | .returned => true
  | _ => false

/-- `select!` takes the branch of the drained server. -/
def served (state : Shutdown Subscriber) : Option (Shutdown Subscriber) :=
  if state.log.Drained ∧ state.startTask ≠ .finished then
    some { state with startTask := .finished }
  else none

/-- `select!` takes the branch of the grace period, also where both are ready. -/
def timedOut (state : Shutdown Subscriber) : Option (Shutdown Subscriber) :=
  if state.graceOver then some { state.emit .gracePeriodEnded with startTask := .finished }
  else none

def observe [DecidableEq Subscriber] (state : Shutdown Subscriber) (subscriber : Subscriber) :
    Option (Shutdown Subscriber) :=
  ((state.subscribers subscriber).recv state.log.phases).map fun received =>
    { state with subscribers := Function.update state.subscribers subscriber received.1 }

end Shutdown

/-- The tasks take their steps in any order, and time passes in between. -/
def shutdown (Subscriber : Type) [DecidableEq Subscriber] (timeout : ℕ) :
    Machine (Shutdown Subscriber) (ShutdownEvent Subscriber) where
  step state
    | .elapse duration => some { state with now := state.now + duration }
    | .signal => state.shutdownSignalWithNotifications timeout
    | .drain => state.drain
    | .receive => state.awaitInitiated timeout
    | .served => state.served
    | .timedOut => state.timedOut
    | .observe subscriber => state.observe subscriber

/-- The phases in the order of their documentation. -/
def shutdownPhases (timeout : ℕ) : List ShutdownPhase :=
  [.initiated, .gracePeriodStarted timeout, .gracePeriodEnded]

variable {Subscriber : Type}

/-- The last phase comes after a grace period that began with `Initiated` and in which the
connections did not drain. -/
def EndedInTime (timeout : ℕ) (log : ShutdownLog) : Prop :=
  ∀ instant, (instant, .sent .gracePeriodEnded) ∈ log →
    ∃ initiated, (initiated, .sent .initiated) ∈ log ∧ initiated + timeout ≤ instant ∧
      ∀ drained, (drained, .drained) ∈ log → initiated + timeout ≤ drained

/-- The token is cancelled exactly when `Initiated` is sent, and before it. -/
structure TokenFollows (log : ShutdownLog) : Prop where
  cancelled_iff : log.IsCancelled ↔ .initiated ∈ log.phases
  cancelledFirst : ∀ past : ShutdownLog, past <+: log → .initiated ∈ past.phases →
    past.IsCancelled

structure NotifiesInOrder (timeout : ℕ) (state : Shutdown Subscriber) : Prop where
  inOrder : ∀ subscriber, (state.subscribers subscriber).seen <+: shutdownPhases timeout
  once : ∀ subscriber, (state.subscribers subscriber).seen.Nodup
  ended : EndedInTime timeout state.log
  token : TokenFollows state.log

/-- `start` takes the grace branch only when the signal's task has returned and the connections did
not drain in time. -/
def GraceInTurn (timeout : ℕ) (state : Shutdown Subscriber) (event : ShutdownEvent Subscriber) :
    Prop :=
  event = .timedOut → state.signalTask = .returned ∧
    ∀ first ∈ state.log, ∀ last ∈ state.log, first.2 = .sent .initiated → last.2 = .drained →
      first.1 + timeout ≤ last.1

instance [DecidableEq Subscriber] (timeout : ℕ) (state : Shutdown Subscriber) :
    DecidablePred (GraceInTurn timeout state) :=
  fun event => inferInstanceAs (Decidable (event = .timedOut → _))

/-- The phases that are sent when the tasks have come so far. -/
inductive PhasesSent (timeout : ℕ) : SignalTask → StartTask → List ShutdownPhase → Prop where
  | waiting {startTask : StartTask} : PhasesSent timeout .waiting startTask []
  | initiated {startTask : StartTask} : PhasesSent timeout .initiated startTask [.initiated]
  | started {startTask : StartTask} :
      PhasesSent timeout .returned startTask [.initiated, .gracePeriodStarted timeout]
  | ended : PhasesSent timeout .returned .finished (shutdownPhases timeout)

/-- What the steps keep: beside the properties of the log, where every task and receiver stands. -/
structure Consistent (timeout : ℕ) (state : Shutdown Subscriber) : Prop where
  past : ∀ entry ∈ state.log, entry.1 ≤ state.now
  sent : PhasesSent timeout state.signalTask state.startTask state.log.phases
  notReturned : state.startTask ≠ .returned
  asleep : ∀ deadline, state.startTask = .sleeping deadline →
    ∃ initiated, (initiated, .sent .initiated) ∈ state.log ∧ initiated + timeout ≤ deadline
  upTo : ∀ subscriber, (state.subscribers subscriber).seen <+: state.log.phases ∧
    (state.subscribers subscriber).next = (state.subscribers subscriber).seen.length
  ended : EndedInTime timeout state.log
  token : TokenFollows state.log

section Logs

variable {timeout instant : ℕ} {log : ShutdownLog} {effect : ShutdownEffect}

theorem mem_phases_iff {phase : ShutdownPhase} :
    phase ∈ log.phases ↔ ∃ instant, (instant, .sent phase) ∈ log := by
  simp only [ShutdownLog.phases, List.mem_filterMap, Prod.exists]
  constructor
  · rintro ⟨instant, effect, member, isPhase⟩
    cases effect with
    | sent other =>
        cases isPhase
        exact ⟨instant, member⟩
    | cancelled => cases isPhase
    | drained => cases isPhase
  · rintro ⟨instant, member⟩
    exact ⟨instant, .sent phase, member, rfl⟩

theorem phases_append :
    ShutdownLog.phases (log ++ [(instant, effect)]) = log.phases ++ effect.phase?.toList := by
  simp only [ShutdownLog.phases, List.filterMap_append]
  cases effect <;> rfl

theorem isCancelled_append :
    ShutdownLog.IsCancelled (log ++ [(instant, effect)]) ↔
      log.IsCancelled ∨ effect = .cancelled := by
  simp only [ShutdownLog.IsCancelled, List.mem_append, List.mem_singleton, Prod.mk.injEq]
  constructor
  · rintro ⟨other, member | ⟨-, isCancel⟩⟩
    · exact .inl ⟨other, member⟩
    · exact .inr isCancel.symm
  · rintro (⟨other, member⟩ | rfl)
    · exact ⟨other, .inl member⟩
    · exact ⟨instant, .inr ⟨rfl, rfl⟩⟩

theorem TokenFollows.append (follows : TokenFollows log) (notCancelled : effect ≠ .cancelled)
    (notInitiated : effect ≠ .sent .initiated) : TokenFollows (log ++ [(instant, effect)]) := by
  have initiated_iff : ShutdownPhase.initiated ∈
      ShutdownLog.phases (log ++ [(instant, effect)]) ↔ .initiated ∈ log.phases := by
    rw [phases_append]
    cases effect with
    | sent phase =>
        have different : ShutdownPhase.initiated ≠ phase := by
          rintro rfl
          exact notInitiated rfl
        simp [ShutdownEffect.phase?, different]
    | cancelled => simp [ShutdownEffect.phase?]
    | drained => simp [ShutdownEffect.phase?]
  have cancelled_iff : ShutdownLog.IsCancelled (log ++ [(instant, effect)]) ↔
      ShutdownPhase.initiated ∈ ShutdownLog.phases (log ++ [(instant, effect)]) := by
    rw [initiated_iff, isCancelled_append, follows.cancelled_iff]
    simp [notCancelled]
  refine ⟨cancelled_iff, ?_⟩
  intro past isPrefix isSent
  rcases List.prefix_concat_iff.mp isPrefix with rfl | earlier
  · exact cancelled_iff.mpr isSent
  · exact follows.cancelledFirst past earlier isSent

/-- The effects of `emit` for `Initiated`. -/
theorem TokenFollows.initiate (follows : TokenFollows log) :
    TokenFollows ((log ++ [(instant, .cancelled)]) ++ [(instant, .sent .initiated)]) := by
  have cancelled : ShutdownLog.IsCancelled (log ++ [(instant, .cancelled)]) :=
    isCancelled_append.mpr (.inr rfl)
  have sent : ShutdownLog.IsCancelled
      ((log ++ [(instant, .cancelled)]) ++ [(instant, .sent .initiated)]) :=
    isCancelled_append.mpr (.inl cancelled)
  constructor
  · refine ⟨fun _ => ?_, fun _ => sent⟩
    rw [phases_append]
    simp [ShutdownEffect.phase?]
  · intro past isPrefix isSent
    rcases List.prefix_concat_iff.mp isPrefix with rfl | isPrefix
    · exact sent
    · rcases List.prefix_concat_iff.mp isPrefix with rfl | earlier
      · exact cancelled
      · exact follows.cancelledFirst past earlier isSent

theorem endedInTime_of_not_mem (notEnded : .gracePeriodEnded ∉ log.phases) :
    EndedInTime timeout log := by
  intro instant member
  exact absurd (mem_phases_iff.mpr ⟨instant, member⟩) notEnded

theorem past_append {now : ℕ} (past : ∀ entry ∈ log, entry.1 ≤ now) :
    ∀ entry ∈ log ++ [(now, effect)], entry.1 ≤ now := by
  intro entry member
  rcases List.mem_append.mp member with earlier | isNow
  · exact past entry earlier
  · rw [List.mem_singleton.mp isNow]

/-- Connections that drain after the last phase have not drained in the grace period. -/
theorem EndedInTime.drained {now : ℕ} (inTime : EndedInTime timeout log)
    (past : ∀ entry ∈ log, entry.1 ≤ now) : EndedInTime timeout (log ++ [(now, .drained)]) := by
  intro instant member
  have earlier : (instant, .sent .gracePeriodEnded) ∈ log := by simpa using member
  rcases inTime instant earlier with ⟨initiated, isInitiated, elapsed, undrained⟩
  refine ⟨initiated, List.mem_append_left _ isInitiated, elapsed, ?_⟩
  intro drained isDrained
  rcases List.mem_append.mp isDrained with before | isNow
  · exact undrained drained before
  · simp only [List.mem_singleton, Prod.mk.injEq, and_true] at isNow
    have bound := past _ earlier
    omega

end Logs

section Tasks

variable {timeout : ℕ} {signalTask : SignalTask} {startTask : StartTask}
  {phases : List ShutdownPhase}

theorem PhasesSent.change (sent : PhasesSent timeout signalTask startTask phases)
    (running : startTask ≠ .finished) (other : StartTask) :
    PhasesSent timeout signalTask other phases := by
  cases sent with
  | waiting => exact .waiting
  | initiated => exact .initiated
  | started => exact .started
  | ended => exact absurd rfl running

theorem PhasesSent.finish (sent : PhasesSent timeout signalTask startTask phases) :
    PhasesSent timeout signalTask .finished phases := by
  cases sent with
  | waiting => exact .waiting
  | initiated => exact .initiated
  | started => exact .started
  | ended => exact .ended

theorem PhasesSent.isPrefix (sent : PhasesSent timeout signalTask startTask phases) :
    phases <+: shutdownPhases timeout := by
  cases sent with
  | waiting => exact List.nil_prefix
  | initiated => exact ⟨[.gracePeriodStarted timeout, .gracePeriodEnded], rfl⟩
  | started => exact ⟨[.gracePeriodEnded], rfl⟩
  | ended => exact List.prefix_rfl

theorem PhasesSent.of_waiting (sent : PhasesSent timeout .waiting startTask phases) :
    phases = [] := by
  cases sent
  rfl

theorem PhasesSent.of_initiated (sent : PhasesSent timeout .initiated startTask phases) :
    phases = [.initiated] := by
  cases sent
  rfl

theorem PhasesSent.of_returned (sent : PhasesSent timeout .returned startTask phases)
    (running : startTask ≠ .finished) : phases = [.initiated, .gracePeriodStarted timeout] := by
  cases sent with
  | started => rfl
  | ended => exact absurd rfl running

/-- No receiver lags behind the phases of a shutdown. -/
theorem PhasesSent.length_le (sent : PhasesSent timeout signalTask startTask phases) :
    phases.length ≤ channelCapacity := by
  have bound := sent.isPrefix.length_le
  have isThree : (shutdownPhases timeout).length = 3 := rfl
  rw [isThree] at bound
  unfold channelCapacity
  omega

theorem recv_eq_some {receiver after : Receiver} {received : Option ShutdownPhase}
    (short : phases.length ≤ channelCapacity)
    (receives : receiver.recv phases = some (after, received)) :
    ∃ phase, received = some phase ∧ phases[receiver.next]? = some phase ∧
      after = { next := receiver.next + 1, seen := receiver.seen ++ [phase] } := by
  have notLagged : ¬receiver.next + channelCapacity < phases.length := by omega
  rw [Receiver.recv, if_neg notLagged] at receives
  rcases Option.map_eq_some_iff.mp receives with ⟨phase, isNext, same⟩
  cases same
  exact ⟨phase, rfl, isNext, rfl⟩

end Tasks

section Steps

variable {timeout : ℕ} {state next : Shutdown Subscriber}

theorem Consistent.elapse (consistent : Consistent timeout state) (duration : ℕ) :
    Consistent timeout { state with now := state.now + duration } where
  past entry member := Nat.le_add_right_of_le (consistent.past entry member)
  sent := consistent.sent
  notReturned := consistent.notReturned
  asleep := consistent.asleep
  upTo := consistent.upTo
  ended := consistent.ended
  token := consistent.token

/-- Steps of `start` that record nothing. -/
theorem Consistent.moves (consistent : Consistent timeout state) {startTask : StartTask}
    (sent : PhasesSent timeout state.signalTask startTask state.log.phases)
    (notReturned : startTask ≠ .returned)
    (asleep : ∀ deadline, startTask = .sleeping deadline →
      ∃ initiated, (initiated, .sent .initiated) ∈ state.log ∧ initiated + timeout ≤ deadline) :
    Consistent timeout { state with startTask } where
  past := consistent.past
  sent := sent
  notReturned := notReturned
  asleep := asleep
  upTo := consistent.upTo
  ended := consistent.ended
  token := consistent.token

/-- Steps that record one effect, other than those of `emit` for `Initiated`. -/
theorem Consistent.records (consistent : Consistent timeout state) {effect : ShutdownEffect}
    {signalTask : SignalTask} {startTask : StartTask} (notCancelled : effect ≠ .cancelled)
    (notInitiated : effect ≠ .sent .initiated)
    (sent : PhasesSent timeout signalTask startTask (state.log.phases ++ effect.phase?.toList))
    (notReturned : startTask ≠ .returned)
    (asleep : ∀ deadline, startTask = .sleeping deadline → state.startTask = .sleeping deadline)
    (ended : EndedInTime timeout (state.log ++ [(state.now, effect)])) :
    Consistent timeout { state.record effect with signalTask, startTask } where
  past := past_append consistent.past
  sent := by
    rw [← phases_append] at sent
    exact sent
  notReturned := notReturned
  asleep deadline sleeps := by
    rcases consistent.asleep deadline (asleep deadline sleeps) with ⟨initiated, member, elapses⟩
    exact ⟨initiated, List.mem_append_left _ member, elapses⟩
  upTo subscriber := by
    rcases consistent.upTo subscriber with ⟨isPrefix, isLength⟩
    refine ⟨isPrefix.trans ?_, isLength⟩
    exact ⟨_, phases_append.symm⟩
  ended := ended
  token := consistent.token.append notCancelled notInitiated

theorem Consistent.initiates (consistent : Consistent timeout state)
    (waiting : state.signalTask = .waiting) :
    Consistent timeout { state.emit .initiated with signalTask := .initiated } := by
  have nothing : state.log.phases = [] := by
    have sent := consistent.sent
    rw [waiting] at sent
    exact sent.of_waiting
  have sent : ShutdownLog.phases ((state.log ++ [(state.now, .cancelled)]) ++
      [(state.now, .sent .initiated)]) = [.initiated] := by
    rw [phases_append, phases_append, nothing]
    rfl
  refine ⟨past_append (past_append consistent.past), ?_, consistent.notReturned, ?_, ?_, ?_,
    consistent.token.initiate⟩
  · exact sent ▸ PhasesSent.initiated
  · intro deadline sleeps
    rcases consistent.asleep deadline sleeps with ⟨initiated, member, elapses⟩
    refine ⟨initiated, ?_, elapses⟩
    exact List.mem_append_left _ (List.mem_append_left _ member)
  · intro subscriber
    rcases consistent.upTo subscriber with ⟨isPrefix, isLength⟩
    refine ⟨isPrefix.trans ?_, isLength⟩
    rw [nothing]
    exact List.nil_prefix
  · apply endedInTime_of_not_mem
    rw [Shutdown.emit, if_pos rfl]
    simp only [Shutdown.record]
    rw [sent]
    simp

theorem Consistent.signals (consistent : Consistent timeout state)
    (stepped : state.shutdownSignalWithNotifications timeout = some next) :
    Consistent timeout next := by
  unfold Shutdown.shutdownSignalWithNotifications at stepped
  split at stepped
  · rename_i waiting
    cases stepped
    exact consistent.initiates waiting
  · rename_i initiated
    cases stepped
    have sent := consistent.sent
    rw [initiated] at sent
    have phases := sent.of_initiated
    apply consistent.records (by simp) (by simp) _ consistent.notReturned (fun _ sleeps => sleeps)
    · apply endedInTime_of_not_mem
      rw [phases_append, phases]
      simp [ShutdownEffect.phase?]
    · rw [phases]
      exact .started
  · cases stepped

theorem Consistent.drains (consistent : Consistent timeout state)
    (stepped : state.drain = some next) : Consistent timeout next := by
  unfold Shutdown.drain at stepped
  split at stepped
  · cases stepped
    apply consistent.records (by simp) (by simp) _ consistent.notReturned (fun _ sleeps => sleeps)
    · exact consistent.ended.drained consistent.past
    · simp only [ShutdownEffect.phase?, Option.toList_none, List.append_nil]
      exact consistent.sent
  · cases stepped

theorem Consistent.receives (consistent : Consistent timeout state)
    (stepped : state.awaitInitiated timeout = some next) : Consistent timeout next := by
  unfold Shutdown.awaitInitiated at stepped
  split at stepped
  · rename_i receiver receiving
    have running : state.startTask ≠ .finished := by simp [receiving]
    rcases Option.map_eq_some_iff.mp stepped with ⟨⟨after, received⟩, receives, same⟩
    rcases recv_eq_some consistent.sent.length_le receives with ⟨phase, rfl, isNext, rfl⟩
    have isSent := mem_phases_iff.mp (List.mem_of_getElem? isNext)
    cases phase with
    | initiated =>
        cases same
        refine consistent.moves (consistent.sent.change running _) (by simp) ?_
        intro deadline sleeps
        cases sleeps
        rcases isSent with ⟨initiated, member⟩
        have bound := consistent.past _ member
        refine ⟨initiated, member, ?_⟩
        simp only at bound
        omega
    | gracePeriodStarted _ =>
        cases same
        exact consistent.moves (consistent.sent.change running _) (by simp) (by simp)
    | gracePeriodEnded =>
        cases same
        exact consistent.moves (consistent.sent.change running _) (by simp) (by simp)
  · cases stepped

theorem Consistent.serves (consistent : Consistent timeout state)
    (stepped : state.served = some next) : Consistent timeout next := by
  unfold Shutdown.served at stepped
  split at stepped
  · cases stepped
    exact consistent.moves consistent.sent.finish (by simp) (by simp)
  · cases stepped

/-- The grace branch is ready after the grace period only. -/
theorem Consistent.elapsed (consistent : Consistent timeout state)
    (isOver : state.graceOver = true) :
    state.startTask ≠ .finished ∧
      ∃ initiated, (initiated, .sent .initiated) ∈ state.log ∧ initiated + timeout ≤ state.now := by
  unfold Shutdown.graceOver at isOver
  split at isOver
  · rename_i deadline sleeps
    rcases consistent.asleep deadline sleeps with ⟨initiated, member, elapses⟩
    refine ⟨by simp [sleeps], initiated, member, ?_⟩
    exact Nat.le_trans elapses (decide_eq_true_eq.mp isOver)
  · rename_i returned
    exact absurd returned consistent.notReturned
  · cases isOver

theorem Consistent.timesOut (consistent : Consistent timeout state)
    (inTurn : GraceInTurn timeout state .timedOut) (stepped : state.timedOut = some next) :
    Consistent timeout next := by
  unfold Shutdown.timedOut at stepped
  split at stepped
  · rename_i isOver
    cases stepped
    rcases inTurn rfl with ⟨returned, undrained⟩
    rcases consistent.elapsed isOver with ⟨running, initiated, isInitiated, elapses⟩
    have sent := consistent.sent
    rw [returned] at sent
    have phases := sent.of_returned running
    apply consistent.records (by simp) (by simp) _ (by simp) (by simp)
    · intro instant member
      refine ⟨initiated, List.mem_append_left _ isInitiated, ?_, ?_⟩
      · rcases List.mem_append.mp member with earlier | isNow
        · have isEnded := mem_phases_iff.mpr ⟨instant, earlier⟩
          rw [phases] at isEnded
          simp at isEnded
        · simp only [List.mem_singleton, Prod.mk.injEq, and_true] at isNow
          rw [isNow]
          exact elapses
      · intro drained isDrained
        have earlier : (drained, .drained) ∈ state.log := by simpa using isDrained
        exact undrained _ isInitiated _ earlier rfl rfl
    · change PhasesSent timeout state.signalTask .finished _
      rw [phases, returned]
      exact .ended
  · cases stepped

theorem Consistent.observes [DecidableEq Subscriber] (consistent : Consistent timeout state)
    {subscriber : Subscriber} (stepped : state.observe subscriber = some next) :
    Consistent timeout next := by
  rcases Option.map_eq_some_iff.mp stepped with ⟨⟨after, received⟩, receives, rfl⟩
  rcases recv_eq_some consistent.sent.length_le receives with ⟨phase, -, isNext, rfl⟩
  refine ⟨consistent.past, consistent.sent, consistent.notReturned, consistent.asleep, ?_,
    consistent.ended, consistent.token⟩
  intro other
  by_cases isReceiver : other = subscriber
  · subst isReceiver
    rcases consistent.upTo other with ⟨isPrefix, isLength⟩
    rw [isLength] at isNext
    rcases List.getElem?_eq_some_iff.mp isNext with ⟨bound, isPhase⟩
    have longer := List.concat_get_prefix isPrefix bound
    rw [List.get_eq_getElem, isPhase] at longer
    simp only [Function.update_self, List.length_append, List.length_singleton, isLength, and_true]
    exact longer
  · simp only [Function.update_of_ne isReceiver]
    exact consistent.upTo other

end Steps

theorem consistent_start (timeout : ℕ) : Consistent timeout ({} : Shutdown Subscriber) where
  past := by simp
  sent := .waiting
  notReturned := by simp
  asleep := by simp
  upTo _ := ⟨List.nil_prefix, rfl⟩
  ended := endedInTime_of_not_mem (by simp [ShutdownLog.phases])
  token := by
    refine ⟨by simp [ShutdownLog.IsCancelled, ShutdownLog.phases], ?_⟩
    intro past isPrefix isSent
    rw [List.prefix_nil.mp isPrefix] at isSent
    simp [ShutdownLog.phases] at isSent

variable [DecidableEq Subscriber]

theorem Consistent.step {timeout : ℕ} {state next : Shutdown Subscriber}
    {event : ShutdownEvent Subscriber} (consistent : Consistent timeout state)
    (inTurn : GraceInTurn timeout state event)
    (stepped : (shutdown Subscriber timeout).step state event = some next) :
    Consistent timeout next := by
  cases event with
  | elapse duration =>
      cases stepped
      exact consistent.elapse duration
  | signal => exact consistent.signals stepped
  | drain => exact consistent.drains stepped
  | receive => exact consistent.receives stepped
  | served => exact consistent.serves stepped
  | timedOut => exact consistent.timesOut inTurn stepped
  | observe subscriber => exact consistent.observes stepped

/-- In every schedule in which the grace branch is taken in its turn, the subscribers are notified
in order. -/
theorem shutdown_notifiesInOrder {timeout : ℕ} {events : List (ShutdownEvent Subscriber)}
    {state : Shutdown Subscriber}
    (along : (shutdown Subscriber timeout).Along (GraceInTurn timeout) {} events)
    (ran : (shutdown Subscriber timeout).run {} events = some state) :
    NotifiesInOrder timeout state := by
  have consistent := Machine.invariant_along (Consistent timeout)
    (fun _ _ _ consistent inTurn stepped => consistent.step inTurn stepped)
    (consistent_start timeout) along ran
  have inOrder : ∀ subscriber,
      (state.subscribers subscriber).seen <+: shutdownPhases timeout :=
    fun subscriber => (consistent.upTo subscriber).1.trans consistent.sent.isPrefix
  refine ⟨inOrder, ?_, consistent.ended, consistent.token⟩
  intro subscriber
  apply (inOrder subscriber).sublist.nodup
  simp [shutdownPhases]

/-- The grace period runs out before the connections drain. -/
def fullShutdown : List (ShutdownEvent Unit) :=
  [.signal, .receive, .observe (), .signal, .elapse 30, .timedOut, .observe (), .observe ()]

theorem fullShutdown_notifiesInOrder :
    ∃ state, (shutdown Unit 30).run {} fullShutdown = some state ∧ NotifiesInOrder 30 state ∧
      (state.subscribers ()).seen = shutdownPhases 30 :=
  ⟨_, rfl, @shutdown_notifiesInOrder Unit _ 30 fullShutdown _ (by decide) rfl, rfl⟩

/-- A grace period of no length ends before the signal's task takes its second step. -/
def hastyShutdown : List (ShutdownEvent Unit) :=
  [.signal, .receive, .timedOut, .signal, .observe (), .observe (), .observe ()]

/-- `start` is polled only after both branches of its `select!` have become ready. -/
def latePoll : List (ShutdownEvent Unit) :=
  [.signal, .receive, .signal, .elapse 5, .drain, .elapse 25, .timedOut]

theorem shutdown_outOfOrder :
    (∃ state, (shutdown Unit 0).run {} hastyShutdown = some state ∧ ¬NotifiesInOrder 0 state) ∧
      ∃ state, (shutdown Unit 30).run {} latePoll = some state ∧ ¬NotifiesInOrder 30 state := by
  refine ⟨⟨_, rfl, ?_⟩, _, rfl, ?_⟩
  · intro notifies
    have inOrder := notifies.inOrder ()
    revert inOrder
    decide
  · intro notifies
    rcases notifies.ended 30 (by decide) with ⟨initiated, isInitiated, -, undrained⟩
    have early := undrained 5 (by decide)
    omega

end AxumConf.Fluent
