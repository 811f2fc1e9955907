import AxumConf.CircuitBreaker.Admission
import AxumConf.Lib.Fold

/-!
# The width of the counters

The three counters of a breaker are `u32`. Two of them are compared with their
threshold at every increment, which resets them in time. The slot counter of a
half-open breaker is incremented by every call of `should_allow`, whether it is
admitted or rejected, and nothing resets it while the breaker stays half-open.
It wraps, and a wrapped slot counter hands out the slots a second time.
-/

namespace AxumConf.CircuitBreaker

/-- The operation adds one to a counter that holds its last value. -/
def Overflows (g : Inner) (op : Op) : Prop :=
  match g.state, op with
  | .closed, .recordFailure => g.failureCount.toNat + 1 = 2 ^ 32
  | .halfOpen, .recordSuccess => g.successCount.toNat + 1 = 2 ^ 32
  | .halfOpen, .shouldAllow => g.halfOpenCalls.toNat + 1 = 2 ^ 32
  | _, _ => False

/-- The breaker is half-open since the operation that begins the episode. -/
def HalfOpenSince (config : CircuitBreakerTargetConfig) (before : List TimedOp) (opening : TimedOp)
    (episode : List TimedOp) : Prop :=
  EnteredBy (TimedOp.apply config) .new (fun g => g.state = .halfOpen) before opening episode

def NoOverflow (config : CircuitBreakerTargetConfig) (history : List TimedOp) : Prop :=
  ∀ front timed, front ++ [timed] <+: history → ¬Overflows (run config front) timed.op

/-- No half-open episode of the run admits more than its budget. -/
def AdmissionsBounded (config : CircuitBreakerTargetConfig) (history : List TimedOp) : Prop :=
  ∀ before opening episode, before ++ opening :: episode <+: history →
    HalfOpenSince config before opening episode →
    admissions config (run config before) (opening :: episode) ≤ probeBudget config

/-- No half-open episode of the run asks `should_allow` as often as a `u32` has values. -/
def ShortEpisodes (config : CircuitBreakerTargetConfig) (history : List TimedOp) : Prop :=
  ∀ before opening episode, before ++ opening :: episode <+: history →
    HalfOpenSince config before opening episode → asked (opening :: episode) < 2 ^ 32

/-- A counter that is compared with a threshold at every increment stays below it. -/
structure CountersBelow (config : CircuitBreakerTargetConfig) (g : Inner) : Prop where
  failures : g.state = .closed → g.failureCount.toNat < max 1 config.failureThreshold.toNat
  successes : g.state = .halfOpen → g.successCount.toNat < max 1 config.successThreshold.toNat

section Steps

variable {config : CircuitBreakerTargetConfig} {g : Inner}

theorem CountersBelow.of_opened (state : g.state = .opened) : CountersBelow config g :=
  ⟨by simp [state], by simp [state]⟩

theorem CountersBelow.of_reset (failures : g.failureCount = 0) (successes : g.successCount = 0) :
    CountersBelow config g := by
  constructor
  · intro _
    simp [failures]
  · intro _
    simp [successes]

theorem CountersBelow.apply_closed (below : CountersBelow config g) (state : g.state = .closed)
    (timed : TimedOp) : CountersBelow config (timed.apply config g) := by
  have failures := below.failures state
  rcases timed with ⟨now, op⟩
  cases op with
  | shouldAllow =>
      simp only [TimedOp.apply, Inner.shouldAllow_of_closed state]
      exact below
  | recordSuccess =>
      simp only [TimedOp.apply, Inner.recordSuccess_of_closed state]
      exact ⟨by simp, by simp [state]⟩
  | recordNeutral =>
      simp only [TimedOp.apply, Inner.recordNeutral_of_closed state]
      exact ⟨by simp, by simp [state]⟩
  | recordFailure =>
      simp only [TimedOp.apply]
      by_cases reached : config.failureThreshold ≤ g.failureCount + 1
      · rw [Inner.recordFailure_of_closed_reached state reached]
        exact .of_opened rfl
      · rw [Inner.recordFailure_of_closed_below state reached]
        refine ⟨?_, by simp [state]⟩
        have notReached := mt (threshold_le_succ_iff rfl failures).mpr reached
        intro _
        rw [toNat_succ_of_below rfl failures]
        omega

theorem CountersBelow.apply_opened (state : g.state = .opened) (timed : TimedOp) :
    CountersBelow config (timed.apply config g) := by
  by_cases probes : timed.Probes config g
  · rw [probes.apply state]
    exact ⟨by simp, by simp⟩
  · rw [apply_of_not_probes state probes]
    exact .of_opened state

theorem CountersBelow.apply_halfOpen (below : CountersBelow config g)
    (state : g.state = .halfOpen) (timed : TimedOp) :
    CountersBelow config (timed.apply config g) := by
  have successes := below.successes state
  rcases timed with ⟨now, op⟩
  cases op with
  | shouldAllow =>
      simp only [TimedOp.apply, Inner.shouldAllow_of_halfOpen state]
      exact ⟨by simp [state], fun _ => successes⟩
  | recordSuccess =>
      simp only [TimedOp.apply]
      by_cases reached : config.successThreshold ≤ g.successCount + 1
      · rw [Inner.recordSuccess_of_halfOpen_reached state reached]
        exact .of_reset rfl rfl
      · rw [Inner.recordSuccess_of_halfOpen_below state reached]
        refine ⟨by simp [state], ?_⟩
        have notReached := mt (threshold_le_succ_iff rfl successes).mpr reached
        intro _
        rw [toNat_succ_of_below rfl successes]
        omega
  | recordNeutral =>
      have notClosed : g.state ≠ .closed := by simp [state]
      simp only [TimedOp.apply, Inner.recordNeutral_of_not_closed notClosed]
      exact below
  | recordFailure =>
      simp only [TimedOp.apply, Inner.recordFailure_of_halfOpen state]
      exact .of_opened rfl

theorem CountersBelow.apply (below : CountersBelow config g) (timed : TimedOp) :
    CountersBelow config (timed.apply config g) := by
  cases state : g.state with
  | closed => exact below.apply_closed state timed
  | opened => exact .apply_opened state timed
  | halfOpen => exact below.apply_halfOpen state timed

/-- A closed breaker becomes half-open by way of an open one. -/
theorem opened_of_halfOpen_apply {timed : TimedOp} (before : g.state ≠ .halfOpen)
    (after : (timed.apply config g).state = .halfOpen) : g.state = .opened := by
  rcases timed with ⟨now, op⟩
  cases op with
  | shouldAllow =>
      cases state : g.state with
      | closed => simp [TimedOp.apply, Inner.shouldAllow_of_closed state, state] at after
      | opened => rfl
      | halfOpen => exact absurd state before
  | recordSuccess => exact absurd (Inner.halfOpen_of_recordSuccess after) before
  | recordNeutral => exact absurd (Inner.halfOpen_of_recordNeutral after) before
  | recordFailure => exact (Inner.recordFailure_not_halfOpen after).elim

end Steps

theorem countersBelow_run (config : CircuitBreakerTargetConfig) (history : List TimedOp) :
    CountersBelow config (run config history) := by
  induction history using List.reverseRecOn with
  | nil => exact .of_reset rfl rfl
  | append_singleton earlier latest ih =>
      rw [run_concat]
      exact ih.apply latest

section Episodes

variable {config : CircuitBreakerTargetConfig} {before episode : List TimedOp} {opening : TimedOp}

theorem run_append (config : CircuitBreakerTargetConfig) (front back : List TimedOp) :
    run config (front ++ back) = runFrom config (run config front) back :=
  runFrom_append config .new front back

theorem HalfOpenSince.opened (since : HalfOpenSince config before opening episode) :
    (run config before).state = .opened := by
  have after := since.2 [] List.nil_prefix
  rw [List.foldl_append] at after
  exact opened_of_halfOpen_apply since.1 after

theorem HalfOpenSince.during (since : HalfOpenSince config before opening episode) :
    ∀ front, front <+: episode →
      (runFrom config (run config before) (opening :: front)).state = .halfOpen := by
  intro front isPrefix
  rw [← run_append]
  exact since.2 front isPrefix

theorem HalfOpenSince.halfOpenCalls (since : HalfOpenSince config before opening episode) :
    (run config (before ++ opening :: episode)).halfOpenCalls =
      UInt32.ofNat (asked (opening :: episode)) := by
  rw [run_append]
  exact (admissions_opening since.opened since.during).1

theorem HalfOpenSince.of_concat {latest : TimedOp}
    (since : HalfOpenSince config before opening (episode ++ [latest])) :
    HalfOpenSince config before opening episode :=
  ⟨since.1, fun front isPrefix => since.2 front (isPrefix.trans (List.prefix_append _ _))⟩

theorem HalfOpenSince.concat {latest : TimedOp}
    (since : HalfOpenSince config before opening episode)
    (after : (run config (before ++ opening :: (episode ++ [latest]))).state = .halfOpen) :
    HalfOpenSince config before opening (episode ++ [latest]) := by
  refine ⟨since.1, ?_⟩
  intro front isPrefix
  rcases List.prefix_concat_iff.mp isPrefix with rfl | isPrefixEpisode
  · exact after
  · exact since.2 front isPrefixEpisode

theorem exists_halfOpenSince {history : List TimedOp}
    (halfOpen : (run config history).state = .halfOpen) :
    ∃ before opening episode, history = before ++ opening :: episode ∧
      HalfOpenSince config before opening episode :=
  exists_enteredBy (fun g : Inner => g.state = .halfOpen) (by simp [Inner.new]) halfOpen

theorem asked_concat (opening latest : TimedOp) (episode : List TimedOp) :
    asked (opening :: (episode ++ [latest])) =
      asked (opening :: episode) + if latest.op = .shouldAllow then 1 else 0 := by
  rw [← List.cons_append]
  simp only [asked, List.countP_append, List.countP_singleton, decide_eq_true_eq]

/-- In a short episode the slot counter is the number of calls made in it. -/
theorem HalfOpenSince.toNat_halfOpenCalls (since : HalfOpenSince config before opening episode)
    (short : asked (opening :: episode) < 2 ^ 32) :
    (run config (before ++ opening :: episode)).halfOpenCalls.toNat =
      asked (opening :: episode) := by
  rw [since.halfOpenCalls, UInt32.toNat_ofNat']
  exact Nat.mod_eq_of_lt short

theorem shortEpisodes_of_noOverflow {history : List TimedOp}
    (noOverflow : NoOverflow config history) : ShortEpisodes config history := by
  intro before opening episode isPrefix since
  induction episode using List.reverseRecOn with
  | nil =>
      have one : asked [opening] ≤ 1 := List.countP_le_length
      omega
  | append_singleton earlier latest ih =>
      have split : before ++ opening :: (earlier ++ [latest]) =
          before ++ opening :: earlier ++ [latest] := by simp
      rw [split] at isPrefix
      have sinceEarlier := since.of_concat
      have short := ih ((List.prefix_append _ _).trans isPrefix) sinceEarlier
      rw [asked_concat]
      split
      · rename_i isAsked
        have fits := noOverflow _ latest isPrefix
        have state : (run config (before ++ opening :: earlier)).state = .halfOpen :=
          sinceEarlier.now
        simp only [Overflows, state, isAsked, sinceEarlier.toNat_halfOpenCalls short] at fits
        omega
      · exact short

theorem noOverflow_of_shortEpisodes {history : List TimedOp}
    (short : ShortEpisodes config history) : NoOverflow config history := by
  intro front timed isPrefix overflows
  have below := countersBelow_run config front
  have failures := config.failureThreshold.toNat_lt
  have successes := config.successThreshold.toNat_lt
  rcases timed with ⟨now, op⟩
  simp only [Overflows] at overflows
  split at overflows
  · rename_i state
    have := below.failures state
    omega
  · rename_i state
    have := below.successes state
    omega
  · rename_i state
    rcases exists_halfOpenSince state with ⟨before, opening, episode, rfl, since⟩
    have after : (run config (before ++ opening :: (episode ++ [⟨now, .shouldAllow⟩]))).state =
        .halfOpen := by
      have split : before ++ opening :: (episode ++ [⟨now, .shouldAllow⟩]) =
          before ++ opening :: episode ++ [⟨now, .shouldAllow⟩] := by simp
      rw [split, run_concat]
      simp [TimedOp.apply, Inner.shouldAllow_of_halfOpen state, state]
    have oneMore := short before opening (episode ++ [⟨now, .shouldAllow⟩])
      (by simpa using isPrefix) (since.concat after)
    rw [asked_concat, if_pos rfl] at oneMore
    rw [since.toNat_halfOpenCalls (by omega)] at overflows
    omega
  · exact overflows

theorem admissionsBounded_of_shortEpisodes {history : List TimedOp}
    (short : ShortEpisodes config history) : AdmissionsBounded config history := by
  intro before opening episode isPrefix since
  exact admissions_opening_le since.opened since.during
    (short before opening episode isPrefix since)

end Episodes

/-- In a run no counter overflows, and no half-open episode admits more than its budget, exactly
when fewer than `2 ^ 32` calls of `should_allow` are made in each of its episodes. -/
theorem counters_fit_iff (config : CircuitBreakerTargetConfig) (history : List TimedOp) :
    NoOverflow config history ∧ AdmissionsBounded config history ↔
      ShortEpisodes config history := by
  constructor
  · intro fits
    exact shortEpisodes_of_noOverflow fits.1
  · intro short
    exact ⟨noOverflow_of_shortEpisodes short, admissionsBounded_of_shortEpisodes short⟩

theorem halfOpen_of_asks {config : CircuitBreakerTargetConfig} {g : Inner} {ops : List TimedOp}
    (state : g.state = .halfOpen) (asks : ∀ timed ∈ ops, timed.op = .shouldAllow) :
    (runFrom config g ops).state = .halfOpen := by
  induction ops generalizing g with
  | nil => exact state
  | cons timed rest ih =>
      have isAsked := asks timed List.mem_cons_self
      rw [runFrom_cons]
      refine ih ?_ fun other member => asks other (List.mem_cons_of_mem _ member)
      simp only [TimedOp.apply, isAsked, Inner.shouldAllow_of_halfOpen state]
      exact state

/-- Five failures open a breaker with the default configuration, and the first call after 30 s is
followed by more calls that are admitted or rejected and never recorded. -/
def unrecordedProbes (calls : Nat) : List TimedOp :=
  List.replicate 5 ⟨0, .recordFailure⟩ ++ ⟨30 * 10 ^ 9, .shouldAllow⟩ ::
    List.replicate calls ⟨30 * 10 ^ 9, .shouldAllow⟩

theorem halfOpenSince_unrecorded (calls : Nat) :
    HalfOpenSince .default (List.replicate 5 ⟨0, .recordFailure⟩) ⟨30 * 10 ^ 9, .shouldAllow⟩
      (List.replicate calls ⟨30 * 10 ^ 9, .shouldAllow⟩) := by
  refine ⟨by decide, ?_⟩
  intro front isPrefix
  have asks : ∀ timed ∈ front, timed.op = .shouldAllow := by
    intro timed member
    rw [List.eq_of_mem_replicate (isPrefix.subset member)]
  have probing : (runFrom .default (run .default (List.replicate 5 ⟨0, .recordFailure⟩))
      [⟨30 * 10 ^ 9, .shouldAllow⟩]).state = .halfOpen := by decide
  have after := @halfOpen_of_asks .default _ _ probing asks
  rwa [← runFrom_append, ← run_append] at after

theorem asked_replicate (calls now : Nat) :
    asked (⟨now, .shouldAllow⟩ :: List.replicate calls ⟨now, .shouldAllow⟩) = calls + 1 := by
  simp [asked, List.countP_replicate]

theorem not_noOverflow_unrecorded {calls : Nat} (many : 2 ^ 32 ≤ calls + 1) :
    ¬NoOverflow .default (unrecordedProbes calls) := by
  intro noOverflow
  have short := shortEpisodes_of_noOverflow noOverflow _ _ _ List.prefix_rfl
    (halfOpenSince_unrecorded calls)
  rw [asked_replicate] at short
  omega

/-- The limit is three; a wrapped slot counter admits a fourth probe. -/
theorem not_admissionsBounded_unrecorded {calls : Nat} (many : 2 ^ 32 ≤ calls) :
    ¬AdmissionsBounded .default (unrecordedProbes calls) := by
  intro bounded
  have since := halfOpenSince_unrecorded calls
  have atMost := bounded _ _ _ List.prefix_rfl since
  have admitted := (admissions_opening since.opened since.during).2
  have limit : CircuitBreakerTargetConfig.default.halfOpenMaxCalls.toNat = 3 := rfl
  simp only [asked_replicate, countBelow, probeBudget, limit] at atMost admitted
  omega

/-- The slot counter wraps in an episode of `2 ^ 32 + 1` calls, the last of which is admitted. -/
theorem not_counters_fit :
    ¬NoOverflow .default (unrecordedProbes (2 ^ 32)) ∧
      ¬AdmissionsBounded .default (unrecordedProbes (2 ^ 32)) :=
  ⟨not_noOverflow_unrecorded (Nat.le_succ _), not_admissionsBounded_unrecorded le_rfl⟩

end AxumConf.CircuitBreaker
