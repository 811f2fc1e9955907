import AxumConf.CircuitBreaker.ClientTargets
import AxumConf.CircuitBreaker.GuardedCall
import AxumConf.Http

/-!
# The readiness probe

The handler that `setup_readiness` registers: the application's own check comes first, then the
breaker of the database, then the database itself.
-/

namespace AxumConf.Fluent

open CircuitBreaker

inductive Readiness where
  | ready
  | notReady (message : String)
  deriving DecidableEq, Repr

def Readiness.isReady : Readiness → Bool
  | ready => true
  | notReady _ => false

def databaseTarget : String := "database"

/-- The response, whether `SELECT 1` was sent, and the clients of the registry afterwards. -/
structure ReadinessAnswer where
  response : Response
  queried : Bool
  clients : Clients

def serviceUnavailable (body : String) : Response where
  status := 503
  body := body

/-- `breaker.is_fast_failing()` of the breaker that `get_or_default` yields. -/
def databaseFailsFast (s : Clients) : Bool :=
  let entry := s.registry.getOrDefault databaseTarget
  entry.2.heap[entry.1]?.any fun breaker => breaker.inner.isFastFailing breaker.config s.now

section Handler

variable (check : Option Readiness) (selectOne : Except SqlxError Unit) (s : Clients)

/-- The part of the handler behind the application's check. -/
def databaseReadiness : ReadinessAnswer :=
  if databaseFailsFast s then
    { response := serviceUnavailable "Database circuit open\n"
      queried := false
      clients := s.probe databaseTarget }
  else
    match selectOne with
    | .error _ =>
        { response := serviceUnavailable "Database unavailable\n"
          queried := true
          clients := s.probe databaseTarget }
    | .ok () =>
        { response := { status := 200, body := "OK\n" }
          queried := true
          clients := s.probe databaseTarget }

/-- The handler, where the application's check, if there is one, comes to `check`. -/
def readiness : ReadinessAnswer :=
  match check with
  | some (.notReady message) =>
      { response := serviceUnavailable (message ++ "\n"), queried := false, clients := s }
  | some .ready => databaseReadiness selectOne s
  | none => databaseReadiness selectOne s

end Handler

/-- The circuit of the database is open, and a query that were guarded now would be rejected. -/
def DatabaseBlocked (s : Clients) : Prop :=
  (s.view databaseTarget).breaker.inner.state = .opened ∧
    (s.view databaseTarget).allows = false

/-- The application's check, if there is one, does not object. -/
def AppReady (check : Option Readiness) : Prop :=
  ∀ readiness, check = some readiness → readiness.isReady = true

section Probes

variable {check : Option Readiness} {selectOne : Except SqlxError Unit} {s : Clients}

theorem databaseFailsFast_eq (wired : Wired s) :
    databaseFailsFast s = (s.view databaseTarget).breaker.inner.isFastFailing
      (s.view databaseTarget).breaker.config s.now := by
  rcases wired.isolated with ⟨configs, history, isolated⟩
  have held := (isolated.getOrDefault databaseTarget).heap_eq
    (get_getOrDefault databaseTarget s.registry)
  rw [isolated.breakerOf_getOrDefault] at held
  simp only [databaseFailsFast, held, Option.any_some]
  rfl

/-- The probe and a guarded query judge an open circuit alike. -/
theorem databaseFailsFast_iff (wired : Wired s) :
    databaseFailsFast s = true ↔ DatabaseBlocked s := by
  rw [databaseFailsFast_eq wired]
  unfold DatabaseBlocked TargetView.allows
  rcases wired.isolated with ⟨configs, history, isolated⟩
  have reached : (s.view databaseTarget).breaker =
      alone (configs databaseTarget) (history databaseTarget) := isolated.breakerOf databaseTarget
  have sameNow : (s.view databaseTarget).now = s.now := rfl
  rw [reached, sameNow]
  simp only [alone]
  by_cases opened : (access (configs databaseTarget) (history databaseTarget)).state = .opened
  · rcases exists_openedBy opened with ⟨opening, openedBy⟩
    rw [isFastFailing_of_opened opened openedBy.lastFailureTime]
    simp [opened]
  · rw [isFastFailing_of_not_opened opened]
    simp [opened]

theorem readiness_of_appReady (appReady : AppReady check) :
    readiness check selectOne s = databaseReadiness selectOne s := by
  rcases check with _ | _ | message
  · rfl
  · rfl
  · cases appReady _ rfl

theorem exists_message_of_not_appReady (notReady : ¬AppReady check) :
    ∃ message, check = some (.notReady message) := by
  rcases check with _ | _ | message
  · exact absurd (by simp [AppReady]) notReady
  · exact absurd (by simp [AppReady, Readiness.isReady]) notReady
  · exact ⟨message, rfl⟩

theorem view_databaseReadiness (wired : Wired s) (target : String) :
    (databaseReadiness selectOne s).clients.view target = s.view target := by
  unfold databaseReadiness
  split
  · exact wired.view_probe databaseTarget target
  · split
    · exact wired.view_probe databaseTarget target
    · exact wired.view_probe databaseTarget target

end Probes

/-- Whatever the clients of the registry have done, the probe sends a query exactly when the
application does not object and the circuit of the database is not blocked; it answers 200 exactly
when that query succeeds, and 503 otherwise; and no client of any target sees a difference. -/
theorem readiness_answers (config : CircuitBreakerConfig) {events : List ClientEvent} {s : Clients}
    (ran : clients.run (.init config) events = some s) (check : Option Readiness)
    (selectOne : Except SqlxError Unit) :
    let answer := readiness check selectOne s
    (answer.queried = true ↔ AppReady check ∧ ¬DatabaseBlocked s) ∧
      (answer.response.status = 200 ↔
        AppReady check ∧ ¬DatabaseBlocked s ∧ selectOne = .ok ()) ∧
      (answer.response.status ≠ 200 → answer.response.status = 503) ∧
      ∀ target, answer.clients.view target = s.view target := by
  have wired : Wired s :=
    Machine.invariant_run Wired (fun _ _ _ wired stepped => wired.step stepped) (.init config) ran
  simp only
  by_cases appReady : AppReady check
  · rw [readiness_of_appReady appReady, ← databaseFailsFast_iff wired]
    refine ⟨?_, ?_, ?_, view_databaseReadiness wired⟩
    · unfold databaseReadiness
      cases failsFast : databaseFailsFast s with
      | true => simp
      | false => rcases selectOne with error | ⟨⟩ <;> simp [appReady]
    · unfold databaseReadiness
      cases failsFast : databaseFailsFast s with
      | true => simp [serviceUnavailable]
      | false => rcases selectOne with error | ⟨⟩ <;> simp [appReady, serviceUnavailable]
    · unfold databaseReadiness
      cases failsFast : databaseFailsFast s with
      | true => simp [serviceUnavailable]
      | false => rcases selectOne with error | ⟨⟩ <;> simp [serviceUnavailable]
  · rcases exists_message_of_not_appReady appReady with ⟨message, rfl⟩
    simp [readiness, serviceUnavailable, appReady]

/-- A failed query has just opened the circuit. -/
theorem readiness_answers_failedQuery :
    let s := (clients.run (.init twoTargetsConfig) failedQuery).get (by decide)
    let answer := readiness (some .ready) (.ok ()) s
    (answer.queried = true ↔ AppReady (some .ready) ∧ ¬DatabaseBlocked s) ∧
      (answer.response.status = 200 ↔
        AppReady (some .ready) ∧ ¬DatabaseBlocked s ∧
          Except.ok () = (.ok () : Except SqlxError Unit)) ∧
      (answer.response.status ≠ 200 → answer.response.status = 503) ∧
      ∀ target, answer.clients.view target = s.view target :=
  readiness_answers twoTargetsConfig (Option.some_get (by decide)).symm (some .ready) (.ok ())

end AxumConf.Fluent
