import AxumConf.CircuitBreaker.Episode
import AxumConf.CircuitBreaker.Registry
import AxumConf.Lib.Components

/-!
# The clients of a registry

`GuardedHttpClient::request` of `src/circuit_breaker/http_client.rs` and `GuardedPool::query` of
`src/circuit_breaker/database.rs` ask the registry for the breaker of their target and guard the
operation with it, and the readiness probe of `src/fluent/features.rs` asks for a breaker and only
looks at it.  All of them, and whoever takes a breaker out of the registry to operate it by hand,
share the registry and its heap of breakers.  What the clients of one target see is a machine of its
own, and the shared one is nothing but these machines side by side.
-/

namespace AxumConf.CircuitBreaker

/-- How far a guarded call has come. -/
inductive Progress where
  | found
  | waiting (admittedAt : Nat)
  | ended (admittedAt : Nat) (outcome : Outcome)
  deriving DecidableEq, Repr

structure ClientCall where
  handle : Nat
  progress : Progress
  deriving DecidableEq, Repr

/-- The clock, the registry with its breakers, and the calls by their target and number. -/
structure Clients where
  now : Nat
  registry : RegistrySystem
  calls : Table (String × Nat) ClientCall

inductive CallEvent where
  /-- The breaker is looked up, or created. -/
  | find (id : Nat)
  | ask (id : Nat)
  | complete (id : Nat) (outcome : Outcome)
  | record (id : Nat)
  /-- The future of the call is dropped while it awaits its operation. -/
  | drop (id : Nat)
  | probe
  /-- An operation on the breaker that `circuit_breaker` hands out. -/
  | operate (op : Op)
  deriving DecidableEq, Repr

inductive ClientEvent where
  | tick (span : Nat)
  | on (target : String) (event : CallEvent)
  deriving DecidableEq, Repr

/-- The outcome can end a call that was admitted at this time. -/
def Outcome.possibleSince (config : CircuitBreakerTargetConfig) (now admittedAt : Nat)
    (outcome : Outcome) : Bool :=
  outcome.possible config now ⟨admittedAt, none, none⟩

namespace Clients

def init (config : CircuitBreakerConfig) : Clients where
  now := 0
  registry := .new config
  calls := ∅

variable (target : String) (s : Clients)

/-- `get_or_default`, for the call of this number. -/
def find (id : Nat) : Clients :=
  { s with
    registry := (s.registry.getOrDefault target).2
    calls := s.calls.insert (target, id) ⟨(s.registry.getOrDefault target).1, .found⟩ }

/-- `should_allow`; a rejected call returns `CircuitOpen`. -/
def ask (id handle : Nat) (breaker : CircuitBreakerState) : Clients :=
  { s with
    registry := s.registry.update handle ⟨s.now, .operation .shouldAllow⟩
    calls :=
      if (breaker.inner.shouldAllow breaker.config s.now).1 then
        s.calls.insert (target, id) ⟨handle, .waiting s.now⟩
      else s.calls.erase (target, id) }

def complete (id handle admittedAt : Nat) (outcome : Outcome) : Clients :=
  { s with calls := s.calls.insert (target, id) ⟨handle, .ended admittedAt outcome⟩ }

def record (id handle : Nat) (outcome : Outcome) : Clients :=
  { s with
    registry := s.registry.update handle ⟨s.now, .operation outcome.op⟩
    calls := s.calls.erase (target, id) }

def drop (id : Nat) : Clients :=
  { s with calls := s.calls.erase (target, id) }

/-- The readiness probe asks the breaker `is_fast_failing`, which changes nothing. -/
def probe : Clients :=
  { s with registry := (s.registry.getOrDefault target).2 }

def operate (op : Op) : Clients :=
  { s with
    registry := (s.registry.getOrDefault target).2.update (s.registry.getOrDefault target).1
      ⟨s.now, .operation op⟩ }

end Clients

def stepCall (target : String) (s : Clients) : CallEvent → Option Clients
  | .find id =>
      match s.calls.lookup (target, id) with
      | none => some (s.find target id)
      | some _ => none
  | .ask id =>
      match s.calls.lookup (target, id) with
      | some ⟨handle, .found⟩ =>
          s.registry.heap[handle]?.map fun breaker => s.ask target id handle breaker
      | _ => none
  | .complete id outcome =>
      match s.calls.lookup (target, id) with
      | some ⟨handle, .waiting admittedAt⟩ =>
          s.registry.heap[handle]?.bind fun breaker =>
            if outcome.possibleSince breaker.config s.now admittedAt then
              some (s.complete target id handle admittedAt outcome)
            else none
      | _ => none
  | .record id =>
      match s.calls.lookup (target, id) with
      | some ⟨handle, .ended _ outcome⟩ => some (s.record target id handle outcome)
      | _ => none
  | .drop id =>
      match s.calls.lookup (target, id) with
      | some ⟨_, .waiting _⟩ => some (s.drop target id)
      | _ => none
  | .probe => some (s.probe target)
  | .operate op => some (s.operate target op)

def stepClients (s : Clients) : ClientEvent → Option Clients
  | .tick span => some { s with now := s.now + span }
  | .on target event => stepCall target s event

def clients : Machine Clients ClientEvent where
  step := stepClients

section Target

/-- What the clients of one target see. -/
structure TargetView where
  now : Nat
  breaker : CircuitBreakerState
  calls : Nat → Option Progress

def TargetView.init (config : CircuitBreakerTargetConfig) : TargetView where
  now := 0
  breaker := .new config
  calls := fun _ => none

inductive TargetEvent where
  | tick (span : Nat)
  | call (event : CallEvent)
  deriving DecidableEq, Repr

namespace TargetView

variable (v : TargetView)

def setCall (id : Nat) (progress : Option Progress) : TargetView :=
  { v with calls := Function.update v.calls id progress }

def operate (op : Op) : TargetView :=
  { v with breaker := v.breaker.apply ⟨v.now, .operation op⟩ }

def allows : Bool :=
  (v.breaker.inner.shouldAllow v.breaker.config v.now).1

/-- The guarded calls on one breaker that nobody else uses. -/
def step : TargetEvent → Option TargetView
  | .tick span => some { v with now := v.now + span }
  | .call (.find id) => if v.calls id = none then some (v.setCall id (some .found)) else none
  | .call (.ask id) =>
      if v.calls id = some .found then
        some ((v.operate .shouldAllow).setCall id
          (if v.allows then some (.waiting v.now) else none))
      else none
  | .call (.complete id outcome) =>
      match v.calls id with
      | some (.waiting admittedAt) =>
          if outcome.possibleSince v.breaker.config v.now admittedAt then
            some (v.setCall id (some (.ended admittedAt outcome)))
          else none
      | _ => none
  | .call (.record id) =>
      match v.calls id with
      | some (.ended _ outcome) => some ((v.operate outcome.op).setCall id none)
      | _ => none
  | .call (.drop id) =>
      match v.calls id with
      | some (.waiting _) => some (v.setCall id none)
      | _ => none
  | .call .probe => some v
  | .call (.operate op) => some (v.operate op)

end TargetView

def targetCalls : Machine TargetView TargetEvent where
  step := TargetView.step

/-- The breaker of the target, or the one that it would get. -/
def RegistrySystem.breakerOf (target : String) (s : RegistrySystem) : CircuitBreakerState :=
  ((s.get target).bind fun handle => s.heap[handle]?).getD (.new s.registry.defaultConfig)

def Clients.view (target : String) (s : Clients) : TargetView where
  now := s.now
  breaker := s.registry.breakerOf target
  calls := fun id => (s.calls.lookup (target, id)).map ClientCall.progress

/-- What an event is to the clients of a target. -/
def shareOf (target : String) : ClientEvent → Option TargetEvent
  | .tick span => some (.tick span)
  | .on other event => if other = target then some (.call event) else none

end Target

/-- Targets have breakers of their own, and every call has that of its target. -/
structure Wired (s : Clients) : Prop where
  isolated : ∃ configs history, Isolated configs history s.registry
  holds : ∀ target id call, s.calls.lookup (target, id) = some call →
    s.registry.get target = some call.handle

section Registry

variable {configs : String → CircuitBreakerTargetConfig} {history : String → List TimedAccess}
  {s : RegistrySystem} {target other : String} {handle : Nat}

theorem Isolated.breakerOf (isolated : Isolated configs history s) (target : String) :
    s.breakerOf target = alone (configs target) (history target) := by
  unfold RegistrySystem.breakerOf
  cases found : s.get target with
  | some handle => rw [Option.bind_some, isolated.breakers target handle found, Option.getD_some]
  | none =>
      rcases isolated.absent target found with ⟨untouched, isDefault⟩
      rw [untouched, isDefault]
      rfl

theorem Isolated.getOrDefault (isolated : Isolated configs history s) (target : String) :
    Isolated configs history (s.getOrDefault target).2 := by
  unfold RegistrySystem.getOrDefault
  cases found : s.get target with
  | some handle => exact isolated
  | none => exact isolated.insertDefault found

theorem get_getOrDefault (target : String) (s : RegistrySystem) :
    (s.getOrDefault target).2.get target = some (s.getOrDefault target).1 := by
  unfold RegistrySystem.getOrDefault
  cases found : s.get target with
  | some handle => exact found
  | none =>
      simp only
      rw [get_insert, if_pos rfl]

theorem get_getOrDefault_of_some (found : s.get other = some handle) (target : String) :
    (s.getOrDefault target).2.get other = some handle := by
  unfold RegistrySystem.getOrDefault
  cases missing : s.get target with
  | some _ => exact found
  | none => exact get_insert_of_some missing found s.registry.defaultConfig

theorem Isolated.breakerOf_getOrDefault (isolated : Isolated configs history s)
    (target other : String) :
    (s.getOrDefault target).2.breakerOf other = s.breakerOf other := by
  rw [(isolated.getOrDefault target).breakerOf, isolated.breakerOf]

theorem Isolated.heap_eq (isolated : Isolated configs history s)
    (found : s.get target = some handle) : s.heap[handle]? = some (s.breakerOf target) := by
  rw [isolated.breakerOf]
  exact isolated.breakers target handle found

theorem Isolated.breakerOf_update (isolated : Isolated configs history s)
    (found : s.get target = some handle) (timed : TimedAccess) (other : String) :
    (s.update handle timed).breakerOf other =
      if target = other then (s.breakerOf other).apply timed else s.breakerOf other := by
  rw [(isolated.update found timed).breakerOf, isolated.breakerOf]
  split
  · exact alone_concat (configs other) (history other) timed
  · rw [List.append_nil]

end Registry

section Views

variable {s : Clients} {target : String} {id handle : Nat} {call : ClientCall}

theorem Wired.init (config : CircuitBreakerConfig) : Wired (.init config) where
  isolated := ⟨config.configOf, fun _ => [], .new config⟩
  holds := by simp [Clients.init]

theorem Wired.heap_eq (wired : Wired s) (found : s.calls.lookup (target, id) = some call) :
    s.registry.heap[call.handle]? = some (s.view target).breaker := by
  rcases wired.isolated with ⟨configs, history, isolated⟩
  exact isolated.heap_eq (wired.holds target id call found)

theorem view_calls (s : Clients) (target : String) (id : Nat) :
    (s.view target).calls id = (s.calls.lookup (target, id)).map ClientCall.progress :=
  rfl

theorem progress_insert (calls : Table (String × Nat) ClientCall) (target other : String)
    (id : Nat) (call : ClientCall) :
    (fun number => ((calls.insert (target, id) call).lookup (other, number)).map
        ClientCall.progress) =
      if target = other then
        Function.update (fun number => (calls.lookup (other, number)).map ClientCall.progress) id
          (some call.progress)
      else fun number => (calls.lookup (other, number)).map ClientCall.progress := by
  funext number
  split
  · rename_i same
    subst same
    by_cases here : number = id
    · subst here
      rw [AList.lookup_insert, Function.update_self, Option.map_some]
    · have elsewhere : (target, number) ≠ (target, id) := by simp [here]
      rw [AList.lookup_insert_ne elsewhere, Function.update_of_ne here]
  · rename_i distinct
    have elsewhere : (other, number) ≠ (target, id) := by
      intro same
      exact distinct (Prod.mk.inj same).1.symm
    rw [AList.lookup_insert_ne elsewhere]

theorem progress_erase (calls : Table (String × Nat) ClientCall) (target other : String)
    (id : Nat) :
    (fun number => ((calls.erase (target, id)).lookup (other, number)).map
        ClientCall.progress) =
      if target = other then
        Function.update (fun number => (calls.lookup (other, number)).map ClientCall.progress) id
          none
      else fun number => (calls.lookup (other, number)).map ClientCall.progress := by
  funext number
  split
  · rename_i same
    subst same
    by_cases here : number = id
    · subst here
      rw [AList.lookup_erase, Function.update_self, Option.map_none]
    · have elsewhere : (target, number) ≠ (target, id) := by simp [here]
      rw [AList.lookup_erase_ne elsewhere, Function.update_of_ne here]
  · rename_i distinct
    have elsewhere : (other, number) ≠ (target, id) := by
      intro same
      exact distinct (Prod.mk.inj same).1.symm
    rw [AList.lookup_erase_ne elsewhere]

theorem Wired.view_find (wired : Wired s) (target other : String) (id : Nat) :
    (s.find target id).view other =
      if target = other then (s.view other).setCall id (some .found) else s.view other := by
  rcases wired.isolated with ⟨configs, history, isolated⟩
  simp only [Clients.view, Clients.find, progress_insert, isolated.breakerOf_getOrDefault]
  split <;> rfl

theorem Wired.view_probe (wired : Wired s) (target other : String) :
    (s.probe target).view other = s.view other := by
  rcases wired.isolated with ⟨configs, history, isolated⟩
  simp only [Clients.view, Clients.probe, isolated.breakerOf_getOrDefault]

theorem Wired.view_operate (wired : Wired s) (target other : String) (op : Op) :
    (s.operate target op).view other =
      if target = other then (s.view other).operate op else s.view other := by
  rcases wired.isolated with ⟨configs, history, isolated⟩
  have found := get_getOrDefault target s.registry
  simp only [Clients.view, Clients.operate,
    (isolated.getOrDefault target).breakerOf_update found, isolated.breakerOf_getOrDefault]
  split <;> rfl

theorem Wired.view_ask (wired : Wired s)
    (found : s.calls.lookup (target, id) = some ⟨handle, .found⟩) (other : String) :
    (s.ask target id handle (s.view target).breaker).view other =
      if target = other then
        ((s.view other).operate .shouldAllow).setCall id
          (if (s.view other).allows then some (.waiting s.now) else none)
      else s.view other := by
  rcases wired.isolated with ⟨configs, history, isolated⟩
  have leads := wired.holds target id _ found
  by_cases same : target = other
  · subst same
    rw [if_pos rfl]
    have answered : (s.view target).allows = ((s.view target).breaker.inner.shouldAllow
        (s.view target).breaker.config s.now).1 := rfl
    simp only [answered, Clients.ask]
    split <;>
      simp only [Clients.view, isolated.breakerOf_update leads, progress_insert, progress_erase,
        if_true] <;> rfl
  · rw [if_neg same]
    simp only [Clients.ask]
    split <;>
      simp only [Clients.view, isolated.breakerOf_update leads, progress_insert, progress_erase,
        if_neg same]

theorem Clients.view_complete (s : Clients) (target other : String) (id handle admittedAt : Nat)
    (outcome : Outcome) :
    (s.complete target id handle admittedAt outcome).view other =
      if target = other then (s.view other).setCall id (some (.ended admittedAt outcome))
      else s.view other := by
  simp only [Clients.view, Clients.complete, progress_insert]
  split <;> rfl

theorem Wired.view_record (wired : Wired s)
    (found : s.calls.lookup (target, id) = some call) (outcome : Outcome) (other : String) :
    (s.record target id call.handle outcome).view other =
      if target = other then ((s.view other).operate outcome.op).setCall id none
      else s.view other := by
  rcases wired.isolated with ⟨configs, history, isolated⟩
  simp only [Clients.view, Clients.record, progress_erase,
    isolated.breakerOf_update (wired.holds target id call found)]
  split <;> rfl

theorem Clients.view_drop (s : Clients) (target other : String) (id : Nat) :
    (s.drop target id).view other =
      if target = other then (s.view other).setCall id none else s.view other := by
  simp only [Clients.view, Clients.drop, progress_erase]
  split <;> rfl

end Views

section Steps

variable {s next : Clients} {target other : String} {handle : Nat}
  {event : CallEvent}

/-- What each event on a target requires and does. -/
inductive CallStepped (target : String) (s : Clients) : CallEvent → Clients → Prop where
  | find (id : Nat) (fresh : s.calls.lookup (target, id) = none) :
      CallStepped target s (.find id) (s.find target id)
  | ask (id handle : Nat) (found : s.calls.lookup (target, id) = some ⟨handle, .found⟩) :
      CallStepped target s (.ask id) (s.ask target id handle (s.view target).breaker)
  | complete (id handle admittedAt : Nat) (outcome : Outcome)
      (found : s.calls.lookup (target, id) = some ⟨handle, .waiting admittedAt⟩)
      (possible : outcome.possibleSince (s.view target).breaker.config s.now admittedAt = true) :
      CallStepped target s (.complete id outcome)
        (s.complete target id handle admittedAt outcome)
  | record (id handle admittedAt : Nat) (outcome : Outcome)
      (found : s.calls.lookup (target, id) = some ⟨handle, .ended admittedAt outcome⟩) :
      CallStepped target s (.record id) (s.record target id handle outcome)
  | drop (id handle admittedAt : Nat)
      (found : s.calls.lookup (target, id) = some ⟨handle, .waiting admittedAt⟩) :
      CallStepped target s (.drop id) (s.drop target id)
  | probe : CallStepped target s .probe (s.probe target)
  | operate (op : Op) : CallStepped target s (.operate op) (s.operate target op)

theorem Wired.callStepped (wired : Wired s) (stepped : stepCall target s event = some next) :
    CallStepped target s event next := by
  cases event with
  | find id =>
      simp only [stepCall] at stepped
      split at stepped
      · rename_i fresh
        cases stepped
        exact .find id fresh
      · cases stepped
  | ask id =>
      simp only [stepCall] at stepped
      split at stepped
      · rename_i handle found
        rw [wired.heap_eq found] at stepped
        cases stepped
        exact .ask id handle found
      · cases stepped
  | complete id outcome =>
      simp only [stepCall] at stepped
      split at stepped
      · rename_i handle admittedAt found
        rw [wired.heap_eq found, Option.bind_some] at stepped
        split at stepped
        · rename_i possible
          cases stepped
          exact .complete id handle admittedAt outcome found possible
        · cases stepped
      · cases stepped
  | record id =>
      simp only [stepCall] at stepped
      split at stepped
      · rename_i handle admittedAt outcome found
        cases stepped
        exact .record id handle admittedAt outcome found
      · cases stepped
  | drop id =>
      simp only [stepCall] at stepped
      split at stepped
      · rename_i handle admittedAt found
        cases stepped
        exact .drop id handle admittedAt found
      · cases stepped
  | probe =>
      cases stepped
      exact .probe
  | operate op =>
      cases stepped
      exact .operate op

theorem Wired.getOrDefault (wired : Wired s) (target : String) :
    Wired { s with registry := (s.registry.getOrDefault target).2 } where
  isolated := by
    rcases wired.isolated with ⟨configs, history, isolated⟩
    exact ⟨configs, history, isolated.getOrDefault target⟩
  holds := fun other id call found =>
    get_getOrDefault_of_some (wired.holds other id call found) target

theorem Wired.update (wired : Wired s) (found : s.registry.get target = some handle)
    (timed : TimedAccess) : Wired { s with registry := s.registry.update handle timed } where
  isolated := by
    rcases wired.isolated with ⟨configs, history, isolated⟩
    exact ⟨configs, _, isolated.update found timed⟩
  holds := wired.holds

theorem Wired.insert (wired : Wired s) (found : s.registry.get target = some handle) (id : Nat)
    (progress : Progress) :
    Wired { s with calls := s.calls.insert (target, id) ⟨handle, progress⟩ } where
  isolated := wired.isolated
  holds := by
    intro other number call lookedUp
    rcases AList.lookup_insert_cases lookedUp with ⟨same, rfl⟩ | ⟨-, before⟩
    · cases same
      exact found
    · exact wired.holds other number call before

theorem Wired.erase (wired : Wired s) (target : String) (id : Nat) :
    Wired { s with calls := s.calls.erase (target, id) } where
  isolated := wired.isolated
  holds := by
    intro other number call lookedUp
    have before := (AList.lookup_of_lookup_erase lookedUp).2
    exact wired.holds other number call before

theorem Wired.callKept (wired : Wired s) (stepped : CallStepped target s event next) :
    Wired next := by
  cases stepped with
  | find id fresh =>
      exact (wired.getOrDefault target).insert (get_getOrDefault target s.registry) id .found
  | ask id handle found =>
      have leads := wired.holds target id _ found
      simp only [Clients.ask]
      split
      · exact (wired.update leads _).insert leads id _
      · exact (wired.update leads _).erase target id
  | complete id handle admittedAt outcome found possible =>
      exact wired.insert (wired.holds target id _ found) id _
  | record id handle admittedAt outcome found =>
      exact (wired.update (wired.holds target id _ found) _).erase target id
  | drop id handle admittedAt found => exact wired.erase target id
  | probe => exact wired.getOrDefault target
  | operate op =>
      exact (wired.getOrDefault target).update (get_getOrDefault target s.registry) _

theorem Wired.step (wired : Wired s) {event : ClientEvent}
    (stepped : clients.step s event = some next) : Wired next := by
  cases event with
  | tick span =>
      cases stepped
      exact ⟨wired.isolated, wired.holds⟩
  | on target event => exact wired.callKept (wired.callStepped stepped)

/-- An event on a target is a step of what its clients see. -/
theorem Wired.view_own (wired : Wired s) (stepped : CallStepped target s event next) :
    (s.view target).step (.call event) = some (next.view target) := by
  cases stepped with
  | find id fresh =>
      have seen : (s.view target).calls id = none := by rw [view_calls, fresh, Option.map_none]
      simp only [TargetView.step, seen, if_true, wired.view_find]
  | ask id handle found =>
      have seen : (s.view target).calls id = some .found := by
        rw [view_calls, found, Option.map_some]
      simp only [TargetView.step, seen, if_true, wired.view_ask found]
      rfl
  | complete id handle admittedAt outcome found possible =>
      have seen : (s.view target).calls id = some (.waiting admittedAt) := by
        rw [view_calls, found, Option.map_some]
      have sameNow : (s.view target).now = s.now := rfl
      simp only [TargetView.step, seen, sameNow, possible, if_true, Clients.view_complete]
  | record id handle admittedAt outcome found =>
      have seen : (s.view target).calls id = some (.ended admittedAt outcome) := by
        rw [view_calls, found, Option.map_some]
      simp only [TargetView.step, seen, wired.view_record found, if_true]
  | drop id handle admittedAt found =>
      have seen : (s.view target).calls id = some (.waiting admittedAt) := by
        rw [view_calls, found, Option.map_some]
      simp only [TargetView.step, seen, Clients.view_drop, if_true]
  | probe => simp only [TargetView.step, wired.view_probe]
  | operate op => simp only [TargetView.step, wired.view_operate, if_true]

/-- The clients of other targets do not notice it. -/
theorem Wired.view_other (wired : Wired s) (stepped : CallStepped target s event next)
    (distinct : target ≠ other) : next.view other = s.view other := by
  cases stepped with
  | find id fresh => rw [wired.view_find, if_neg distinct]
  | ask id handle found => rw [wired.view_ask found, if_neg distinct]
  | complete id handle admittedAt outcome found possible =>
      rw [Clients.view_complete, if_neg distinct]
  | record id handle admittedAt outcome found =>
      rw [wired.view_record found, if_neg distinct]
  | drop id handle admittedAt found => rw [Clients.view_drop, if_neg distinct]
  | probe => exact wired.view_probe target other
  | operate op => rw [wired.view_operate, if_neg distinct]

theorem Wired.isSome_stepCall (wired : Wired s)
    (enabled : ((s.view target).step (.call event)).isSome = true) :
    (stepCall target s event).isSome = true := by
  cases event with
  | find id =>
      simp only [TargetView.step, view_calls] at enabled
      cases found : s.calls.lookup (target, id) with
      | none => simp [stepCall, found]
      | some call => simp [found] at enabled
  | ask id =>
      simp only [TargetView.step, view_calls] at enabled
      cases found : s.calls.lookup (target, id) with
      | none => simp [found] at enabled
      | some call =>
          rcases call with ⟨handle, progress⟩
          cases progress with
          | found => simp [stepCall, found, wired.heap_eq found]
          | waiting admittedAt => simp [found] at enabled
          | ended admittedAt outcome => simp [found] at enabled
  | complete id outcome =>
      simp only [TargetView.step, view_calls] at enabled
      cases found : s.calls.lookup (target, id) with
      | none => simp [found] at enabled
      | some call =>
          rcases call with ⟨handle, progress⟩
          cases progress with
          | found => simp [found] at enabled
          | waiting admittedAt =>
              simp only [found, Option.map_some] at enabled
              simp only [stepCall, found, wired.heap_eq found, Option.bind_some]
              split at enabled
              · rename_i possible
                have sameNow : (s.view target).now = s.now := rfl
                rw [sameNow] at possible
                rw [if_pos possible]
                rfl
              · cases enabled
          | ended admittedAt outcome => simp [found] at enabled
  | record id =>
      simp only [TargetView.step, view_calls] at enabled
      cases found : s.calls.lookup (target, id) with
      | none => simp [found] at enabled
      | some call =>
          rcases call with ⟨handle, progress⟩
          cases progress with
          | found => simp [found] at enabled
          | waiting admittedAt => simp [found] at enabled
          | ended admittedAt outcome => simp [stepCall, found]
  | drop id =>
      simp only [TargetView.step, view_calls] at enabled
      cases found : s.calls.lookup (target, id) with
      | none => simp [found] at enabled
      | some call =>
          rcases call with ⟨handle, progress⟩
          cases progress with
          | found => simp [found] at enabled
          | waiting admittedAt => simp [stepCall, found]
          | ended admittedAt outcome => simp [found] at enabled
  | probe => rfl
  | operate op => rfl

end Steps

/-- The clients of a registry are the clients of its targets side by side. -/
theorem clients_split : clients.Splits (fun _ => targetCalls) shareOf Clients.view Wired where
  kept := fun s event next wired stepped => wired.step stepped
  own := by
    intro s event next target part wired share stepped
    cases event with
    | tick span =>
        cases share
        cases stepped
        rfl
    | on other event =>
        simp only [shareOf, Option.ite_none_right_eq_some, Option.some.injEq] at share
        rcases share with ⟨rfl, rfl⟩
        exact wired.view_own (wired.callStepped stepped)
  other := by
    intro s event next target wired share stepped
    cases event with
    | tick span => cases share
    | on other event =>
        have distinct : other ≠ target := by
          rintro rfl
          simp [shareOf] at share
        exact wired.view_other (wired.callStepped stepped) distinct
  enabled := by
    intro s event wired enabled
    cases event with
    | tick span => rfl
    | on target event =>
        apply wired.isSome_stepCall
        exact enabled target (.call event) (if_pos rfl)

theorem view_init (config : CircuitBreakerConfig) (target : String) :
    (Clients.init config).view target = .init (config.configOf target) := by
  have fresh := (Isolated.new config).breakerOf target
  simp only [Clients.view, Clients.init, fresh, AList.lookup_empty]
  rfl

/-- A schedule of the clients runs exactly when its share on every target is one of a breaker that
nobody else uses.  The clients of a target see that breaker, and schedules with the same share on a
target, whatever happens on others, show them the same. -/
theorem clients_run_iff_targets (config : CircuitBreakerConfig) (events : List ClientEvent) :
    ((clients.run (.init config) events).isSome = true ↔
        ∀ target, (targetCalls.run (.init (config.configOf target))
          (events.filterMap (shareOf target))).isSome = true) ∧
      ∀ finish, clients.run (.init config) events = some finish →
        ∀ target,
          targetCalls.run (.init (config.configOf target)) (events.filterMap (shareOf target)) =
            some (finish.view target) ∧
          ∀ others other, clients.run (.init config) others = some other →
            others.filterMap (shareOf target) = events.filterMap (shareOf target) →
            other.view target = finish.view target := by
  have initial := Wired.init config
  refine ⟨?_, ?_⟩
  · simp only [← view_init]
    exact clients_split.isSome_run_iff initial events
  · intro finish ran target
    rw [← view_init]
    refine ⟨clients_split.run_component initial ran target, ?_⟩
    intro others other ranOther same
    exact clients_split.view_eq_of_share_eq initial ranOther ran same

end AxumConf.CircuitBreaker
