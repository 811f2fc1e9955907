import AxumConf.CircuitBreaker.Guarded
import AxumConf.ErrorResponse

/-!
# The books of a guarded call

`guarded_call_with` of `src/circuit_breaker/mod.rs` as one caller sees it, from the question to the
breaker to the result. Other calls may use the breaker while the operation is awaited, so what they
do in between is part of the setting of a call.
-/

namespace AxumConf.CircuitBreaker

/-- What the operation comes to after how long, if it ends. -/
structure Operation (T E : Type) where
  result : Option (Except E T)
  span : Nat

/-- The clock when the breaker is asked and when the record is made, and what other calls do to the
breaker in between. -/
structure Setting where
  askedAt : Nat
  others : List TimedOp
  recordsAt : Nat

/-- The breaker after the call, the records that the call made, and whether it ran the operation. -/
structure Books where
  breaker : Inner
  records : List Op
  ran : Bool
  deriving DecidableEq, Repr

/-- `tokio::time::timeout`, which looks at the operation before it looks at the clock. -/
def timeout {T E : Type} (limit : Nat) (operation : Operation T E) : Option (Except E T) :=
  if operation.span ≤ limit then operation.result else none

def Books.record (config : CircuitBreakerTargetConfig) (setting : Setting) (books : Books)
    (op : Op) : Books :=
  { books with
    breaker := (TimedOp.mk setting.recordsAt op).apply config books.breaker
    records := books.records ++ [op] }

section Calls

variable {T E : Type} (config : CircuitBreakerTargetConfig) (target : String)
  (isFailure : E → Bool) (setting : Setting) (operation : Operation T E) (g : Inner)

/-- The books while the operation runs, at the time of its record. -/
def waiting : Books where
  breaker := runFrom config (g.shouldAllow config setting.askedAt).2 setting.others
  records := []
  ran := true

def recordError (books : Books) (error : E) : Books :=
  if isFailure error then books.record config setting .recordFailure
  else books.record config setting .recordNeutral

/-- The books and the result; `none` when an operation without a time limit never ends. -/
def guardedCallWith : Option (Books × Except (CircuitBreakerError E) T) :=
  if (g.shouldAllow config setting.askedAt).1 then
    let books := waiting config setting g
    match config.callTimeout with
    | some limit =>
        match timeout limit operation with
        | some (.ok value) => some (books.record config setting .recordSuccess, .ok value)
        | some (.error error) =>
            some (recordError config isFailure setting books error, .error (.callFailed error))
        | none => some (books.record config setting .recordFailure, .error (.timeout limit))
    | none =>
        match operation.result with
        | some (.ok value) => some (books.record config setting .recordSuccess, .ok value)
        | some (.error error) =>
            some (recordError config isFailure setting books error, .error (.callFailed error))
        | none => none
  else
    some
      ({ breaker := (g.shouldAllow config setting.askedAt).2, records := [], ran := false },
        .error (.circuitOpen target))

/-- Every error counts as a failure. -/
def guardedCall : Option (Books × Except (CircuitBreakerError E) T) :=
  guardedCallWith config target (fun _ => true) setting operation g

/-- The books and the result of an operation that completes. -/
def completed (books : Books) : Except E T → Books × Except (CircuitBreakerError E) T
  | .ok value => (books.record config setting .recordSuccess, .ok value)
  | .error error =>
      (recordError config isFailure setting books error, .error (.callFailed error))

/-- The operation ends, and within the time limit if there is one. -/
def Completes (result : Except E T) : Prop :=
  operation.result = some result ∧
    ∀ limit, config.callTimeout = some limit → operation.span ≤ limit

/-- The record and the result that are due for what the operation comes to. -/
inductive Due : Op → Except (CircuitBreakerError E) T → Prop where
  | success (value : T) (completes : Completes config operation (.ok value)) :
      Due .recordSuccess (.ok value)
  | failure (error : E) (completes : Completes config operation (.error error))
      (counts : isFailure error = true) : Due .recordFailure (.error (.callFailed error))
  | neutral (error : E) (completes : Completes config operation (.error error))
      (ignored : isFailure error = false) : Due .recordNeutral (.error (.callFailed error))
  | timeout (limit : Nat) (limited : config.callTimeout = some limit)
      (unfinished : ∀ result, ¬Completes config operation result) :
      Due .recordFailure (.error (.timeout limit))

end Calls

/-- The errors of `sqlx` by their variants. -/
inductive SqlxError where
  | io
  | tls
  | protocol
  | poolTimedOut
  | poolClosed
  | workerCrashed
  | rowNotFound
  | database (message : String)
  | other (message : String)
  deriving DecidableEq, Repr

/-- The database did not answer; all other errors are answers of a healthy one. -/
def sqlxIsDegradation : SqlxError → Bool
  | .io | .tls | .protocol | .poolTimedOut | .poolClosed | .workerCrashed => true
  | _ => false

/-- `GuardedPool::query` -/
def query {T : Type} (config : CircuitBreakerTargetConfig) (target : String) (setting : Setting)
    (operation : Operation T SqlxError) (g : Inner) :
    Option (Books × Except (CircuitBreakerError SqlxError) T) :=
  guardedCallWith config target sqlxIsDegradation setting operation g

section Books

variable {T E : Type} {config : CircuitBreakerTargetConfig} {target : String}
  {isFailure : E → Bool} {setting : Setting} {operation : Operation T E} {g : Inner}

theorem guardedCallWith_of_rejected
    (rejected : (g.shouldAllow config setting.askedAt).1 = false) :
    guardedCallWith config target isFailure setting operation g =
      some
        ({ breaker := (g.shouldAllow config setting.askedAt).2, records := [], ran := false },
          .error (.circuitOpen target)) := by
  simp [guardedCallWith, rejected]

theorem timeout_eq_some_iff {limit : Nat} (limited : config.callTimeout = some limit)
    {result : Except E T} :
    timeout limit operation = some result ↔ Completes config operation result := by
  unfold timeout Completes
  rw [limited]
  by_cases within : operation.span ≤ limit <;> simp [within]

theorem completes_iff_of_unlimited (unlimited : config.callTimeout = none)
    {result : Except E T} :
    Completes config operation result ↔ operation.result = some result := by
  simp [Completes, unlimited]

theorem Completes.unique {first second : Except E T} (one : Completes config operation first)
    (other : Completes config operation second) : first = second :=
  Option.some.inj (one.1.symm.trans other.1)

/-- What an admitted call does when its operation completes. -/
theorem guardedCallWith_of_completes
    (admitted : (g.shouldAllow config setting.askedAt).1 = true) {result : Except E T}
    (completes : Completes config operation result) :
    guardedCallWith config target isFailure setting operation g =
      some (completed config isFailure setting (waiting config setting g) result) := by
  unfold guardedCallWith
  rw [if_pos admitted]
  cases limited : config.callTimeout with
  | some limit =>
      have ends := (timeout_eq_some_iff limited).mpr completes
      simp only [ends]
      cases result <;> rfl
  | none =>
      simp only [completes.1]
      cases result <;> rfl

theorem guardedCallWith_of_timeout
    (admitted : (g.shouldAllow config setting.askedAt).1 = true) {limit : Nat}
    (limited : config.callTimeout = some limit)
    (unfinished : ∀ result, ¬Completes config operation result) :
    guardedCallWith config target isFailure setting operation g =
      some ((waiting config setting g).record config setting .recordFailure,
        .error (.timeout limit)) := by
  have elapsed : timeout limit operation = none := by
    apply Option.eq_none_iff_forall_ne_some.mpr
    intro result ends
    exact unfinished result ((timeout_eq_some_iff limited).mp ends)
  simp [guardedCallWith, admitted, limited, elapsed]

theorem guardedCallWith_of_endless
    (admitted : (g.shouldAllow config setting.askedAt).1 = true)
    (unlimited : config.callTimeout = none) (endless : operation.result = none) :
    guardedCallWith config target isFailure setting operation g = none := by
  simp [guardedCallWith, admitted, unlimited, endless]

/-- The breaker, the records and the run of the operation after a record of an admitted call. -/
theorem record_waiting (op : Op) :
    (waiting config setting g).record config setting op =
      { breaker := (TimedOp.mk setting.recordsAt op).apply config
          (runFrom config (g.shouldAllow config setting.askedAt).2 setting.others)
        records := [op]
        ran := true } :=
  rfl

theorem guardedCallWith_of_due (admitted : (g.shouldAllow config setting.askedAt).1 = true)
    {op : Op} {result : Except (CircuitBreakerError E) T}
    (due : Due config isFailure operation op result) :
    guardedCallWith config target isFailure setting operation g =
      some ((waiting config setting g).record config setting op, result) := by
  cases due with
  | success value completes => exact guardedCallWith_of_completes admitted completes
  | failure error completes counts =>
      rw [guardedCallWith_of_completes admitted completes]
      simp [completed, recordError, counts]
  | neutral error completes ignored =>
      rw [guardedCallWith_of_completes admitted completes]
      simp [completed, recordError, ignored]
  | timeout limit limited unfinished =>
      exact guardedCallWith_of_timeout admitted limited unfinished

/-- An admitted call that returns has a record due. -/
theorem exists_due (admitted : (g.shouldAllow config setting.askedAt).1 = true)
    (returns : (guardedCallWith config target isFailure setting operation g).isSome = true) :
    ∃ op result, Due config isFailure operation op result := by
  by_cases unfinished : ∀ result, ¬Completes config operation result
  · cases limited : config.callTimeout with
    | some limit => exact ⟨_, _, .timeout limit limited unfinished⟩
    | none =>
        have endless : operation.result = none := by
          apply Option.eq_none_iff_forall_ne_some.mpr
          intro result ends
          exact unfinished result ((completes_iff_of_unlimited limited).mpr ends)
        rw [guardedCallWith_of_endless admitted limited endless] at returns
        cases returns
  · simp only [not_forall, not_not] at unfinished
    rcases unfinished with ⟨result, completes⟩
    cases result with
    | ok value => exact ⟨_, _, .success value completes⟩
    | error error =>
        cases counts : isFailure error with
        | true => exact ⟨_, _, .failure error completes counts⟩
        | false => exact ⟨_, _, .neutral error completes counts⟩

theorem guardedCallWith_eq_some_iff (admitted : (g.shouldAllow config setting.askedAt).1 = true)
    {books : Books} {result : Except (CircuitBreakerError E) T} :
    guardedCallWith config target isFailure setting operation g = some (books, result) ↔
      ∃ op, Due config isFailure operation op result ∧
        books = (waiting config setting g).record config setting op := by
  constructor
  · intro returned
    rcases @exists_due _ _ config target isFailure setting operation g admitted
      (by rw [returned]; rfl) with ⟨op, dueResult, due⟩
    rw [guardedCallWith_of_due admitted due, Option.some.injEq, Prod.mk.injEq] at returned
    rcases returned with ⟨isBooks, rfl⟩
    exact ⟨op, due, isBooks.symm⟩
  · rintro ⟨op, due, rfl⟩
    exact guardedCallWith_of_due admitted due

/-- A query records a failure only where the database is degraded or does not answer in time. -/
theorem degraded_of_query {operation : Operation T SqlxError}
    (admitted : (g.shouldAllow config setting.askedAt).1 = true) {books : Books}
    {result : Except (CircuitBreakerError SqlxError) T}
    (returned : query config target setting operation g = some (books, result))
    (failed : books.records = [.recordFailure]) :
    (∃ limit, result = .error (.timeout limit)) ∨
      ∃ error, result = .error (.callFailed error) ∧ sqlxIsDegradation error = true := by
  rcases (guardedCallWith_eq_some_iff admitted).mp returned with ⟨op, due, rfl⟩
  rw [record_waiting, List.cons.injEq] at failed
  rcases failed with ⟨rfl, -⟩
  cases due with
  | failure error completes counts => exact .inr ⟨error, rfl, counts⟩
  | timeout limit limited unfinished => exact .inl ⟨limit, rfl⟩

/-- Without a classifier no error is neutral. -/
theorem not_neutral_of_guardedCall
    (admitted : (g.shouldAllow config setting.askedAt).1 = true) {books : Books}
    {result : Except (CircuitBreakerError E) T}
    (returned : guardedCall config target setting operation g = some (books, result)) :
    .recordNeutral ∉ books.records := by
  rcases (guardedCallWith_eq_some_iff admitted).mp returned with ⟨op, due, rfl⟩
  rw [record_waiting, List.mem_singleton]
  rintro rfl
  cases due with
  | neutral error completes ignored => cases ignored

/-- A time limit that does not elapse changes neither the books nor the result. -/
theorem guardedCallWith_timed_eq_untimed {limit : Nat} {result : Except E T}
    (ends : operation.result = some result) (within : operation.span ≤ limit) :
    guardedCallWith { config with callTimeout := some limit } target isFailure setting operation g =
      guardedCallWith { config with callTimeout := none } target isFailure setting operation
        g := by
  -- Neither the question nor a record depends on the limit.
  have asked : ∀ callTimeout, g.shouldAllow { config with callTimeout } setting.askedAt =
      g.shouldAllow config setting.askedAt := fun _ => rfl
  cases admitted : (g.shouldAllow config setting.askedAt).1 with
  | false =>
      have rejected : ∀ callTimeout,
          (g.shouldAllow { config with callTimeout } setting.askedAt).1 = false := by
        intro callTimeout
        rw [asked, admitted]
      rw [guardedCallWith_of_rejected (rejected _), guardedCallWith_of_rejected (rejected _)]
      rfl
  | true =>
      have allowed : ∀ callTimeout,
          (g.shouldAllow { config with callTimeout } setting.askedAt).1 = true := by
        intro callTimeout
        rw [asked, admitted]
      have timed : Completes { config with callTimeout := some limit } operation result := by
        refine ⟨ends, ?_⟩
        intro other isLimit
        cases isLimit
        exact within
      have untimed : Completes { config with callTimeout := none } operation result :=
        ⟨ends, by simp⟩
      rw [guardedCallWith_of_completes (allowed _) timed,
        guardedCallWith_of_completes (allowed _) untimed]
      cases result <;> rfl

/-- A rejected call leaves the breaker as `should_allow` did and runs nothing; an admitted one makes
exactly the record that is due for its operation; and a limit that does not elapse changes
nothing. -/
theorem guardedCallWith_keepsBooks (config : CircuitBreakerTargetConfig) (target : String)
    (isFailure : E → Bool) (setting : Setting) (operation : Operation T E) (g : Inner) :
    ((g.shouldAllow config setting.askedAt).1 = false →
      guardedCallWith config target isFailure setting operation g =
        some
          ({ breaker := (g.shouldAllow config setting.askedAt).2, records := [], ran := false },
            .error (.circuitOpen target))) ∧
      ((g.shouldAllow config setting.askedAt).1 = true → ∀ books result,
        guardedCallWith config target isFailure setting operation g = some (books, result) ↔
          ∃ op, Due config isFailure operation op result ∧
            books.ran = true ∧ books.records = [op] ∧
            books.breaker = (TimedOp.mk setting.recordsAt op).apply config
              (runFrom config (g.shouldAllow config setting.askedAt).2 setting.others)) ∧
      ∀ limit result, operation.result = some result → operation.span ≤ limit →
        guardedCallWith { config with callTimeout := some limit } target isFailure setting
            operation g =
          guardedCallWith { config with callTimeout := none } target isFailure setting
            operation g := by
  refine ⟨guardedCallWith_of_rejected, ?_, ?_⟩
  · intro admitted books result
    rw [guardedCallWith_eq_some_iff admitted]
    constructor
    · rintro ⟨op, due, rfl⟩
      exact ⟨op, due, rfl, rfl, rfl⟩
    · rintro ⟨op, due, ran, records, breaker⟩
      refine ⟨op, due, ?_⟩
      cases books
      rw [record_waiting, Books.mk.injEq]
      exact ⟨breaker, records, ran⟩
  · intro limit result ends within
    exact guardedCallWith_timed_eq_untimed ends within

/-- How long the call waits for its operation. -/
def waitedFor (config : CircuitBreakerTargetConfig) (operation : Operation T E) : Nat :=
  match config.callTimeout with
  | some limit => if (timeout limit operation).isSome then operation.span else limit
  | none => operation.span

/-- The record that is due is one that an interleaved call can make by then. -/
theorem exists_outcome {op : Op} {result : Except (CircuitBreakerError E) T}
    (due : Due config isFailure operation op result) {call : Call} :
    ∃ outcome : Outcome, outcome.op = op ∧
      outcome.possible config (call.admittedAt + waitedFor config operation) call = true := by
  cases due with
  | success value completes => exact ⟨.success, rfl, rfl⟩
  | failure error completes counts => exact ⟨.failure, rfl, rfl⟩
  | neutral error completes ignored => exact ⟨.neutral, rfl, rfl⟩
  | timeout limit limited unfinished =>
      refine ⟨.timeout, rfl, ?_⟩
      have elapsed : timeout limit operation = none := by
        apply Option.eq_none_iff_forall_ne_some.mpr
        intro result ends
        exact unfinished result ((timeout_eq_some_iff limited).mp ends)
      simp [Outcome.possible, waitedFor, limited, elapsed]

/-- A call that nothing disturbs leaves the breaker as some run of the interleaved calls does. -/
theorem exists_run_of_guardedCallWith {s : System} {id : Nat} (fresh : s.calls.lookup id = none)
    {books : Books} {result : Except (CircuitBreakerError E) T}
    (returned : guardedCallWith config target isFailure
      { askedAt := s.now, others := [], recordsAt := s.now + waitedFor config operation }
      operation s.breaker = some (books, result)) :
    ∃ events finish, (guardedCalls config).run s events = some finish ∧
      finish.breaker = books.breaker := by
  cases admitted : (s.breaker.shouldAllow config s.now).1 with
  | false =>
      rw [guardedCallWith_of_rejected admitted, Option.some.injEq, Prod.mk.injEq] at returned
      rw [← returned.1]
      refine ⟨[.reject], s.reject config, ?_, rfl⟩
      simp [guardedCalls, stepEvent, System.allows, admitted]
  | true =>
      rcases (guardedCallWith_eq_some_iff admitted).mp returned with ⟨op, due, rfl⟩
      have called : ∃ call : Call, call = ⟨s.now, none, s.admittingEpisode⟩ := ⟨_, rfl⟩
      rcases called with ⟨call, isCall⟩
      rcases @exists_outcome _ _ _ _ _ _ _ due call with ⟨outcome, rfl, possible⟩
      have ended : outcome.possible config (s.now + waitedFor config operation) call = true := by
        rw [isCall] at possible ⊢
        exact possible
      refine ⟨[.enter id, .tick (waitedFor config operation), .complete id outcome, .record id],
        ({ s.enter config id with
            now := s.now + waitedFor config operation }.complete id call outcome).record config id
          { call with outcome := some outcome } outcome, ?_, rfl⟩
      subst isCall
      simp [guardedCalls, stepEvent, fresh, System.allows, admitted, System.enter,
        System.complete, ended]

end Books

end AxumConf.CircuitBreaker
