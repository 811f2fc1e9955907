import AxumConf.CircuitBreaker.Clients

/-!
# What the clients of one target do to its breaker

As long as they only guard calls and probe, they do what the machine of guarded calls does, so what
holds of every run of one breaker holds of every target of a registry.  Probes leave no trace.
-/

namespace AxumConf.CircuitBreaker

section OneBreaker

/-- When the call was admitted, and what became of its operation. -/
def Progress.inFlight : Progress → Option (Nat × Option Outcome)
  | .found => none
  | .waiting admittedAt => some (admittedAt, none)
  | .ended admittedAt outcome => some (admittedAt, some outcome)

/-- The breaker that the clients of a target see, and their admitted calls, are those of a machine
of guarded calls. -/
structure SeesSystem (config : CircuitBreakerTargetConfig) (v : TargetView) (s : System) :
    Prop where
  now : s.now = v.now
  config : v.breaker.config = config
  breaker : s.breaker = v.breaker.inner
  calls : ∀ id, (s.calls.lookup id).map (fun call => (call.admittedAt, call.outcome)) =
    (v.calls id).bind Progress.inFlight

def OnlyGuarded (event : TargetEvent) : Prop :=
  ∀ op, event ≠ .call (.operate op)

variable {config : CircuitBreakerTargetConfig} {v : TargetView} {s : System} {id : Nat}

theorem SeesSystem.init (config : CircuitBreakerTargetConfig) :
    SeesSystem config (.init config) .init where
  now := rfl
  config := rfl
  breaker := rfl
  calls := by simp [System.init, TargetView.init]

theorem SeesSystem.allows (sees : SeesSystem config v s) : s.allows config = v.allows := by
  simp only [System.allows, TargetView.allows, sees.now, sees.config, sees.breaker]

theorem SeesSystem.lookup_eq_none (sees : SeesSystem config v s)
    (idle : (v.calls id).bind Progress.inFlight = none) : s.calls.lookup id = none := by
  have same := sees.calls id
  rw [idle] at same
  exact Option.map_eq_none_iff.mp same

theorem SeesSystem.exists_call (sees : SeesSystem config v s) {progress : Progress}
    {admittedAt : Nat} {outcome : Option Outcome} (found : v.calls id = some progress)
    (flies : progress.inFlight = some (admittedAt, outcome)) :
    ∃ call, s.calls.lookup id = some call ∧ call.admittedAt = admittedAt ∧
      call.outcome = outcome := by
  have same := sees.calls id
  rw [found, Option.bind_some, flies] at same
  rcases Option.map_eq_some_iff.mp same with ⟨call, lookedUp, fields⟩
  exact ⟨call, lookedUp, (Prod.mk.inj fields).1, (Prod.mk.inj fields).2⟩

theorem calls_insert {calls : Table Nat Call} {seen : Nat → Option Progress}
    (same : ∀ id, (calls.lookup id).map (fun call => (call.admittedAt, call.outcome)) =
      (seen id).bind Progress.inFlight) (id : Nat) {call : Call} {progress : Progress}
    (flies : progress.inFlight = some (call.admittedAt, call.outcome)) (other : Nat) :
    ((calls.insert id call).lookup other).map (fun call => (call.admittedAt, call.outcome)) =
      (Function.update seen id (some progress) other).bind Progress.inFlight := by
  by_cases here : other = id
  · subst here
    rw [AList.lookup_insert, Function.update_self, Option.map_some, Option.bind_some, flies]
  · rw [AList.lookup_insert_ne here, Function.update_of_ne here]
    exact same other

theorem calls_erase {calls : Table Nat Call} {seen : Nat → Option Progress}
    (same : ∀ id, (calls.lookup id).map (fun call => (call.admittedAt, call.outcome)) =
      (seen id).bind Progress.inFlight) (id other : Nat) :
    ((calls.erase id).lookup other).map (fun call => (call.admittedAt, call.outcome)) =
      (Function.update seen id none other).bind Progress.inFlight := by
  by_cases here : other = id
  · subst here
    rw [AList.lookup_erase, Function.update_self, Option.map_none, Option.bind_none]
  · rw [AList.lookup_erase_ne here, Function.update_of_ne here]
    exact same other

/-- A call without a breaker's admission is none for the machine of guarded calls. -/
theorem calls_idle {calls : Table Nat Call} {seen : Nat → Option Progress}
    (same : ∀ id, (calls.lookup id).map (fun call => (call.admittedAt, call.outcome)) =
      (seen id).bind Progress.inFlight) {id : Nat} {progress : Option Progress}
    (idle : (seen id).bind Progress.inFlight = none)
    (stays : progress.bind Progress.inFlight = none) (other : Nat) :
    (calls.lookup other).map (fun call => (call.admittedAt, call.outcome)) =
      (Function.update seen id progress other).bind Progress.inFlight := by
  by_cases here : other = id
  · subst here
    rw [Function.update_self, stays, same, idle]
  · rw [Function.update_of_ne here]
    exact same other

theorem SeesSystem.ask (sees : SeesSystem config v s) (found : v.calls id = some .found) :
    ∃ labels after, (guardedCalls config).run s labels = some after ∧
      SeesSystem config
        ((v.operate .shouldAllow).setCall id (if v.allows then some (.waiting v.now) else none))
        after := by
  have idle : (v.calls id).bind Progress.inFlight = none := by rw [found]; rfl
  have fresh := sees.lookup_eq_none idle
  have asked : (s.breaker.shouldAllow config s.now).2 = (v.operate .shouldAllow).breaker.inner := by
    rw [sees.breaker, sees.now, ← sees.config]
    rfl
  cases admitted : v.allows with
  | true =>
      have allowed := sees.allows.trans admitted
      refine ⟨[.enter id], s.enter config id, ?_, sees.now, sees.config, asked, ?_⟩
      · simp [guardedCalls, stepEvent, fresh, allowed]
      · apply calls_insert sees.calls id
        rw [← sees.now]
        rfl
  | false =>
      have rejected := sees.allows.trans admitted
      refine ⟨[.reject], s.reject config, ?_, sees.now, sees.config, asked, ?_⟩
      · simp [guardedCalls, stepEvent, rejected]
      · exact calls_idle sees.calls idle rfl

theorem SeesSystem.complete (sees : SeesSystem config v s) {admittedAt : Nat} {outcome : Outcome}
    (found : v.calls id = some (.waiting admittedAt))
    (possible : outcome.possibleSince v.breaker.config v.now admittedAt = true) :
    ∃ labels after, (guardedCalls config).run s labels = some after ∧
      SeesSystem config (v.setCall id (some (.ended admittedAt outcome))) after := by
  rcases sees.exists_call found rfl with ⟨call, lookedUp, sameTime, waits⟩
  have ends : outcome.possible config s.now call = true := by
    rw [← possible, Outcome.possibleSince, sees.config, sees.now, ← sameTime]
    cases outcome <;> rfl
  refine ⟨[.complete id outcome], s.complete id call outcome, ?_, sees.now, sees.config,
    sees.breaker, ?_⟩
  · simp [guardedCalls, stepEvent, lookedUp, waits, ends]
  · apply calls_insert sees.calls id
    rw [← sameTime]
    rfl

theorem SeesSystem.record (sees : SeesSystem config v s) {admittedAt : Nat} {outcome : Outcome}
    (found : v.calls id = some (.ended admittedAt outcome)) :
    ∃ labels after, (guardedCalls config).run s labels = some after ∧
      SeesSystem config ((v.operate outcome.op).setCall id none) after := by
  rcases sees.exists_call found rfl with ⟨call, lookedUp, -, ended⟩
  refine ⟨[.record id], s.record config id call outcome, ?_, sees.now, sees.config, ?_, ?_⟩
  · simp [guardedCalls, stepEvent, lookedUp, ended]
  · simp only [System.record, sees.now, sees.breaker, ← sees.config]
    rfl
  · exact calls_erase sees.calls id

theorem SeesSystem.drop (sees : SeesSystem config v s) {admittedAt : Nat}
    (found : v.calls id = some (.waiting admittedAt)) :
    ∃ labels after, (guardedCalls config).run s labels = some after ∧
      SeesSystem config (v.setCall id none) after := by
  rcases sees.exists_call found rfl with ⟨call, lookedUp, -, waits⟩
  refine ⟨[.drop id], s.drop id call, ?_, sees.now, sees.config, sees.breaker, ?_⟩
  · simp [guardedCalls, stepEvent, lookedUp, waits]
  · exact calls_erase sees.calls id

/-- The clients of a target, as long as they only guard calls and probe, refine the machine of
guarded calls on one breaker. -/
theorem targetCalls_refine (config : CircuitBreakerTargetConfig) :
    Machine.Refines targetCalls (guardedCalls config) (SeesSystem config) OnlyGuarded := by
  intro v s event next sees guarded stepped
  simp only [targetCalls] at stepped
  rcases event with span | event
  · cases stepped
    refine ⟨[.tick span], { s with now := s.now + span }, rfl, ?_, sees.config, sees.breaker,
      sees.calls⟩
    simp only [sees.now]
  cases event with
  | find id =>
      simp only [TargetView.step] at stepped
      split at stepped
      · rename_i fresh
        cases stepped
        have idle : (v.calls id).bind Progress.inFlight = none := by rw [fresh]; rfl
        exact ⟨[], s, rfl, sees.now, sees.config, sees.breaker, calls_idle sees.calls idle rfl⟩
      · cases stepped
  | ask id =>
      simp only [TargetView.step] at stepped
      split at stepped
      · rename_i found
        cases stepped
        exact sees.ask found
      · cases stepped
  | complete id outcome =>
      simp only [TargetView.step] at stepped
      split at stepped
      · rename_i admittedAt found
        split at stepped
        · rename_i possible
          cases stepped
          exact sees.complete found possible
        · cases stepped
      · cases stepped
  | record id =>
      simp only [TargetView.step] at stepped
      split at stepped
      · rename_i admittedAt outcome found
        cases stepped
        exact sees.record found
      · cases stepped
  | drop id =>
      simp only [TargetView.step] at stepped
      split at stepped
      · rename_i admittedAt found
        cases stepped
        exact sees.drop found
      · cases stepped
  | probe =>
      cases stepped
      exact ⟨[], s, rfl, sees⟩
  | operate op => exact absurd rfl (guarded op)

end OneBreaker

/-- The event operates no breaker by hand. -/
def ClientEvent.GuardsOnly : ClientEvent → Prop
  | .tick _ => True
  | .on _ event => ∀ op, event ≠ .operate op

theorem onlyGuarded_of_share {target : String} {events : List ClientEvent}
    (guarded : ∀ event ∈ events, event.GuardsOnly) :
    ∀ part ∈ events.filterMap (shareOf target), OnlyGuarded part := by
  intro part member op
  rcases List.mem_filterMap.mp member with ⟨event, listed, share⟩
  cases event with
  | tick span =>
      cases share
      simp
  | on other event =>
      simp only [shareOf, Option.ite_none_right_eq_some, Option.some.injEq] at share
      rcases share with ⟨-, rfl⟩
      intro same
      cases same
      exact guarded _ listed op rfl

/-- In every schedule of guarded calls and probes on any targets, the breaker of each target and its
admitted calls are those of a reachable state of the machine of guarded calls on that target's
configuration. -/
theorem exists_reachable_system (config : CircuitBreakerConfig) {events : List ClientEvent}
    {finish : Clients} (guarded : ∀ event ∈ events, event.GuardsOnly)
    (ran : clients.run (.init config) events = some finish) (target : String) :
    ∃ s, (guardedCalls (config.configOf target)).Reachable .init s ∧
      SeesSystem (config.configOf target) (finish.view target) s := by
  have seen := clients_split.run_component (.init config) ran target
  rw [view_init] at seen
  exact (targetCalls_refine (config.configOf target)).run (.init _) (onlyGuarded_of_share guarded)
    seen

/-- A query that fails while a request to another target is under way. -/
def failedQuery : List ClientEvent :=
  [.on "database" (.find 0), .on "api" (.find 0), .on "database" (.ask 0), .on "api" (.ask 0),
    .tick 5, .on "database" (.complete 0 .failure), .on "database" (.record 0),
    .on "database" .probe]

theorem exists_reachable_system_failedQuery :
    ∃ s, (guardedCalls (twoTargetsConfig.configOf "database")).Reachable .init s ∧
      SeesSystem (twoTargetsConfig.configOf "database")
        (((clients.run (.init twoTargetsConfig) failedQuery).get (by decide)).view "database") s :=
  exists_reachable_system twoTargetsConfig (by simp [failedQuery, ClientEvent.GuardsOnly])
    (Option.some_get (by decide)).symm "database"

section Probes

def ClientEvent.isProbe : ClientEvent → Bool
  | .on _ .probe => true
  | _ => false

end Probes

end AxumConf.CircuitBreaker
