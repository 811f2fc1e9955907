import AxumConf.Config.Error
import Mathlib.Order.Nat
import Mathlib.Order.Lattice

/-!
# Retrying transient failures

The loop of `retry_transient` with the arithmetic of its backoff. An operation that leaves the range
of its type panics. The fraction that the clock gives for the jitter enters as a parameter, and so
does the stream of what the operation returns.
-/

namespace AxumConf

/-- `is_transient` -/
def Error.isTransient (error : Error) : Bool :=
  match error.kind with
  | .io | .database | .circuitBreakerFailed => true
  | _ => false

namespace Resilience

/-- `Duration::MAX` in nanoseconds. -/
def maxNanos : ℕ := (2 ^ 64 - 1) * 10 ^ 9 + 999999999

/-- `std::time::Duration`, in nanoseconds. -/
abbrev Duration := { nanos : ℕ // nanos ≤ maxNanos }

def Duration.saturatingMul (duration : Duration) (factor : ℕ) : Duration :=
  ⟨min (duration.val * factor) maxNanos, min_le_right _ _⟩

structure RetryPolicy where
  maxAttempts : UInt32
  baseDelay : Duration
  maxDelay : Duration

/-- `1u32 << exponent` -/
def shiftOne (exponent : ℕ) : Option ℕ :=
  if exponent < 32 then some (2 ^ exponent) else none

/-- `attempt + 1` -/
def nextAttempt (attempt : UInt32) : Option UInt32 :=
  if attempt.toNat + 1 < 2 ^ 32 then some (attempt + 1) else none

inductive RetryEvent where
  | called
  | slept (delay : Duration)
  deriving DecidableEq

inductive RetryOutcome (Value : Type) where
  | returned (result : Except Error Value)
  | panicked
  | running

namespace RetryPolicy

variable (policy : RetryPolicy)

def exponent (attempt : UInt32) : ℕ := min (attempt.toNat - 1) 31

def cap (attempt : UInt32) : Option Duration :=
  (shiftOne (exponent attempt)).map fun factor =>
    min (policy.baseDelay.saturatingMul factor) policy.maxDelay

/-- The cap of the attempt, taken times the fraction that the clock gives then. -/
def backoff (jitter : UInt32 → Duration → Duration) (attempt : UInt32) : Option Duration :=
  (policy.cap attempt).map (jitter attempt)

variable {Value : Type} (jitter : UInt32 → Duration → Duration)
  (outcomes : ℕ → Except Error Value)

/-- The loop before the given attempt, where so many calls have been made. -/
def retryLoop : ℕ → UInt32 → ℕ → List RetryEvent × RetryOutcome Value
  | 0, _, _ => ([], .running)
  | fuel + 1, attempt, calls =>
      match outcomes (calls + 1) with
      | .ok value => ([.called], .returned (.ok value))
      | .error error =>
          if policy.maxAttempts ≤ attempt || !error.isTransient then
            ([.called], .returned (.error error))
          else
            match policy.backoff jitter attempt with
            | none => ([.called], .panicked)
            | some delay =>
                match nextAttempt attempt with
                | none => ([.called, .slept delay], .panicked)
                | some next =>
                    let (events, outcome) := retryLoop fuel next (calls + 1)
                    (.called :: .slept delay :: events, outcome)

/-- What happens within so many rounds of the loop, where `outcomes` are the results of the first
call, the second one and so on. -/
def retryTransient (fuel : ℕ) : List RetryEvent × RetryOutcome Value :=
  policy.retryLoop jitter outcomes fuel 1 0

end RetryPolicy

section Backoff

variable {policy : RetryPolicy} {attempt later : UInt32}

theorem saturatingMul_mono (duration : Duration) {factor more : ℕ} (le : factor ≤ more) :
    duration.saturatingMul factor ≤ duration.saturatingMul more := by
  have product : duration.val * factor ≤ duration.val * more := Nat.mul_le_mul_left _ le
  exact Subtype.mk_le_mk.mpr (min_le_min_right maxNanos product)

/-- The shift never leaves its range. -/
theorem cap_eq (policy : RetryPolicy) (attempt : UInt32) :
    policy.cap attempt =
      some (min (policy.baseDelay.saturatingMul (2 ^ RetryPolicy.exponent attempt))
        policy.maxDelay) := by
  have inRange : RetryPolicy.exponent attempt < 32 := by
    unfold RetryPolicy.exponent
    omega
  rw [RetryPolicy.cap, shiftOne, if_pos inRange, Option.map_some]

theorem exponent_mono (le : attempt ≤ later) :
    RetryPolicy.exponent attempt ≤ RetryPolicy.exponent later := by
  have toNat : attempt.toNat ≤ later.toNat := UInt32.le_iff_toNat_le.mp le
  unfold RetryPolicy.exponent
  omega

theorem cap_mono {cap laterCap : Duration} (le : attempt ≤ later)
    (isCap : policy.cap attempt = some cap) (isLater : policy.cap later = some laterCap) :
    cap ≤ laterCap := by
  rw [cap_eq, Option.some.injEq] at isCap isLater
  rw [← isCap, ← isLater]
  apply min_le_min_right
  apply saturatingMul_mono
  exact Nat.pow_le_pow_right (by omega) (exponent_mono le)

theorem cap_le_maxDelay {cap : Duration} (isCap : policy.cap attempt = some cap) :
    cap ≤ policy.maxDelay := by
  rw [cap_eq, Option.some.injEq] at isCap
  rw [← isCap]
  exact min_le_right _ _

end Backoff

section Loop

variable {Value : Type} {policy : RetryPolicy} {jitter : UInt32 → Duration → Duration}
  {outcomes : ℕ → Except Error Value}

/-- The operation succeeded or failed in a way that another call does not help with. -/
def Settled : Except Error Value → Prop
  | .ok _ => True
  | .error error => error.isTransient = false

/-- Nothing is left to try after this call: it settled, or it is the last that is allowed. -/
def Final (policy : RetryPolicy) (outcomes : ℕ → Except Error Value) (call : ℕ) : Prop :=
  Settled (outcomes call) ∨ call = max 1 policy.maxAttempts.toNat

def FirstFinal (policy : RetryPolicy) (outcomes : ℕ → Except Error Value) (call : ℕ) : Prop :=
  1 ≤ call ∧ Final policy outcomes call ∧
    ∀ earlier, 1 ≤ earlier → earlier < call → ¬Final policy outcomes earlier

/-- Calls with one sleep between each two of them. -/
def callsAround : List Duration → List RetryEvent
  | [] => [.called]
  | delay :: delays => .called :: .slept delay :: callsAround delays

/-- The delays are the backoffs of consecutive attempts. -/
inductive Backoffs (policy : RetryPolicy) (jitter : UInt32 → Duration → Duration) :
    UInt32 → List Duration → Prop
  | done {attempt : UInt32} : Backoffs policy jitter attempt []
  | slept {attempt : UInt32} {delay : Duration} {delays : List Duration}
      (isBackoff : policy.backoff jitter attempt = some delay)
      (later : Backoffs policy jitter (attempt + 1) delays) :
      Backoffs policy jitter attempt (delay :: delays)

theorem exists_firstFinal (policy : RetryPolicy) (outcomes : ℕ → Except Error Value) :
    ∃ call, FirstFinal policy outcomes call := by
  classical
  have some : ∃ call, 1 ≤ call ∧ Final policy outcomes call :=
    ⟨max 1 policy.maxAttempts.toNat, le_max_left _ _, .inr rfl⟩
  refine ⟨Nat.find some, (Nat.find_spec some).1, (Nat.find_spec some).2, ?_⟩
  intro earlier positive before final
  exact Nat.find_min some before ⟨positive, final⟩

theorem FirstFinal.le {call : ℕ} (first : FirstFinal policy outcomes call) :
    call ≤ max 1 policy.maxAttempts.toNat := by
  rcases first with ⟨-, -, none⟩
  by_contra beyond
  exact none _ (le_max_left _ _) (Nat.lt_of_not_le beyond) (.inr rfl)

theorem retryLoop_of_final {fuel calls : ℕ} {attempt : UInt32} (number : attempt.toNat = calls + 1)
    (final : Final policy outcomes (calls + 1)) :
    policy.retryLoop jitter outcomes (fuel + 1) attempt calls =
      ([.called], .returned (outcomes (calls + 1))) := by
  rw [RetryPolicy.retryLoop]
  cases result : outcomes (calls + 1) with
  | ok value => rfl
  | error error =>
      have stops : (policy.maxAttempts ≤ attempt || !error.isTransient) = true := by
        rw [Bool.or_eq_true, decide_eq_true_eq, UInt32.le_iff_toNat_le, number]
        rcases final with settled | last
        · rw [result] at settled
          exact .inr (by simp [show error.isTransient = false from settled])
        · exact .inl (by omega)
      simp only [stops, if_true]

/-- A round that is not the last sleeps once and goes on with the next attempt. -/
theorem retryLoop_of_not_final {calls : ℕ} {attempt : UInt32} (number : attempt.toNat = calls + 1)
    (le : calls + 1 ≤ max 1 policy.maxAttempts.toNat)
    (continues : ¬Final policy outcomes (calls + 1)) :
    (attempt + 1).toNat = calls + 2 ∧ ∃ delay, policy.backoff jitter attempt = some delay ∧
      ∀ fuel, policy.retryLoop jitter outcomes (fuel + 1) attempt calls =
        (.called :: .slept delay ::
            (policy.retryLoop jitter outcomes fuel (attempt + 1) (calls + 1)).1,
          (policy.retryLoop jitter outcomes fuel (attempt + 1) (calls + 1)).2) := by
  rcases not_or.mp continues with ⟨unsettled, notLast⟩
  have allowed : calls + 1 < policy.maxAttempts.toNat := by omega
  have inRange : attempt.toNat + 1 < 2 ^ 32 := by
    have bound := policy.maxAttempts.toNat_lt
    omega
  cases result : outcomes (calls + 1) with
  | ok value =>
      rw [result] at unsettled
      exact absurd trivial unsettled
  | error error =>
      rw [result] at unsettled
      have transient : error.isTransient = true := by simpa [Settled] using unsettled
      have goes : (policy.maxAttempts ≤ attempt || !error.isTransient) = false := by
        rw [transient, Bool.not_true, Bool.or_false, decide_eq_false_iff_not,
          UInt32.le_iff_toNat_le, number]
        omega
      refine ⟨?_, jitter attempt (min
        (policy.baseDelay.saturatingMul (2 ^ RetryPolicy.exponent attempt)) policy.maxDelay),
        ?_, ?_⟩
      · have sum := UInt32.toNat_add attempt 1
        rw [UInt32.toNat_one, Nat.mod_eq_of_lt inRange, number] at sum
        exact sum
      · rw [RetryPolicy.backoff, cap_eq, Option.map_some]
      · intro fuel
        simp only [RetryPolicy.retryLoop, result, goes, RetryPolicy.backoff, cap_eq,
          Option.map_some, nextAttempt, if_pos inRange]
        rfl

/-- The loop from a call on, by induction on the calls that are left. -/
theorem retryLoop_returns {last : ℕ} (first : FirstFinal policy outcomes last) {left calls : ℕ}
    {attempt : UInt32} (number : attempt.toNat = calls + 1) (remaining : calls + 1 + left = last) :
    ∃ delays, delays.length = left ∧ Backoffs policy jitter attempt delays ∧ ∀ fuel, left < fuel →
      policy.retryLoop jitter outcomes fuel attempt calls =
        (callsAround delays, .returned (outcomes last)) := by
  induction left generalizing calls attempt with
  | zero =>
      subst remaining
      refine ⟨[], rfl, .done, ?_⟩
      intro fuel enough
      cases fuel with
      | zero => omega
      | succ fuel => exact retryLoop_of_final number first.2.1
  | succ left ih =>
      have before : calls + 1 < last := by omega
      have continues := first.2.2 (calls + 1) (by omega) before
      have le : calls + 1 ≤ max 1 policy.maxAttempts.toNat := le_trans (by omega) first.le
      rcases @retryLoop_of_not_final Value policy jitter outcomes calls attempt number le continues
        with ⟨nextNumber, delay, isBackoff, step⟩
      rcases ih nextNumber (by omega) with ⟨delays, length, later, returns⟩
      refine ⟨delay :: delays, by simp [length], .slept isBackoff later, ?_⟩
      intro fuel enough
      cases fuel with
      | zero => omega
      | succ fuel =>
          rw [step fuel, returns fuel (by omega)]
          rfl

end Loop

/-- The loop calls up to the first final call, sleeps between its calls alone and returns what the
last one gave; the caps of its sleeps grow up to the longest delay and never leave their range. -/
theorem retryTransient_returns {Value : Type} (policy : RetryPolicy)
    (jitter : UInt32 → Duration → Duration) (outcomes : ℕ → Except Error Value) :
    (∃ last, FirstFinal policy outcomes last ∧ ∃ delays,
      delays.length = last - 1 ∧ Backoffs policy jitter 1 delays ∧ ∀ fuel, last ≤ fuel →
        policy.retryTransient jitter outcomes fuel =
          (callsAround delays, .returned (outcomes last))) ∧
    (∀ attempt, ∃ cap, policy.cap attempt = some cap ∧ cap ≤ policy.maxDelay) ∧
    ∀ attempt later cap laterCap, attempt ≤ later → policy.cap attempt = some cap →
      policy.cap later = some laterCap → cap ≤ laterCap := by
  refine ⟨?_, ?_, ?_⟩
  · rcases exists_firstFinal policy outcomes with ⟨last, first⟩
    have positive := first.1
    rcases @retryLoop_returns Value policy jitter outcomes last first (last - 1) 0 1 rfl (by omega)
      with ⟨delays, length, backoffs, returns⟩
    refine ⟨last, first, delays, length, backoffs, ?_⟩
    intro fuel enough
    exact returns fuel (by omega)
  · intro attempt
    exact ⟨_, cap_eq policy attempt, cap_le_maxDelay (cap_eq policy attempt)⟩
  · intro attempt later cap laterCap le isCap isLater
    exact cap_mono le isCap isLater

end Resilience

end AxumConf
