import AxumConf.CircuitBreaker.Queries
import AxumConf.Lib.Machine
import AxumConf.Lib.Table

/-!
# The registry of breakers

`src/circuit_breaker/registry.rs`. The registry maps target names to shared
breakers. A shared breaker is an address in a heap, so that it can be seen
whether two handles are the same breaker. Looking a name up and creating the
entry of a missing one are atomic operations of the map, and every access to a
breaker holds its lock, so a concurrent run is a sequence of these events.
-/

namespace AxumConf.CircuitBreaker

/-- `CircuitBreakerConfig` of `src/config/http/circuit_breaker.rs`. -/
structure CircuitBreakerConfig where
  targets : Table String CircuitBreakerTargetConfig

structure CircuitBreakerState where
  config : CircuitBreakerTargetConfig
  inner : Inner
  deriving DecidableEq, Repr

namespace CircuitBreakerState

def new (config : CircuitBreakerTargetConfig) : CircuitBreakerState where
  config := config
  inner := .new

def apply (timed : TimedAccess) (breaker : CircuitBreakerState) : CircuitBreakerState :=
  { breaker with inner := timed.apply breaker.config breaker.inner }

end CircuitBreakerState

structure CircuitBreakerRegistry where
  breakers : Table String Nat
  defaultConfig : CircuitBreakerTargetConfig

/-- The registry, the breakers that were created, and the handles that callers were given, each
with the name it was asked for. -/
structure RegistrySystem where
  registry : CircuitBreakerRegistry
  heap : List CircuitBreakerState
  held : List (String × Nat)

namespace RegistrySystem

def insert (name : String) (config : CircuitBreakerTargetConfig) (s : RegistrySystem) :
    RegistrySystem :=
  { s with
    registry := { s.registry with breakers := s.registry.breakers.insert name s.heap.length }
    heap := s.heap ++ [.new config] }

def empty : RegistrySystem where
  registry := { breakers := ∅, defaultConfig := .default }
  heap := []
  held := []

/-- `CircuitBreakerRegistry::new`: a breaker for every configured target. -/
def new (config : CircuitBreakerConfig) : RegistrySystem :=
  config.targets.entries.foldl (fun s target => s.insert target.1 target.2) empty

def get (target : String) (s : RegistrySystem) : Option Nat :=
  s.registry.breakers.lookup target

def getOrDefault (target : String) (s : RegistrySystem) : Nat × RegistrySystem :=
  match s.get target with
  | some handle => (handle, s)
  | none => (s.heap.length, s.insert target s.registry.defaultConfig)

def hold (target : String) (handle : Nat) (s : RegistrySystem) : RegistrySystem :=
  { s with held := s.held ++ [(target, handle)] }

def update (handle : Nat) (timed : TimedAccess) (s : RegistrySystem) : RegistrySystem :=
  { s with heap := s.heap.modify handle (CircuitBreakerState.apply timed) }

end RegistrySystem

/-- What callers do; an access names the handle it goes through by its place in `held`. -/
inductive RegistryEvent where
  | get (target : String)
  | getOrDefault (target : String)
  | access (slot : Nat) (timed : TimedAccess)
  deriving DecidableEq, Repr

def stepRegistry (s : RegistrySystem) : RegistryEvent → Option RegistrySystem
  | .get target =>
      match s.get target with
      | some handle => some (s.hold target handle)
      | none => some s
  | .getOrDefault target =>
      let entry := s.getOrDefault target
      some (entry.2.hold target entry.1)
  | .access slot timed => s.held[slot]?.map fun entry => s.update entry.2 timed

def registryCalls : Machine RegistrySystem RegistryEvent where
  step := stepRegistry

/-- The access an event makes to a target, through a handle that was given for its name. -/
def RegistrySystem.accessOn (target : String) (s : RegistrySystem) :
    RegistryEvent → List TimedAccess
  | .get _ => []
  | .getOrDefault _ => []
  | .access slot timed =>
      match s.held[slot]? with
      | some entry => if entry.1 = target then [timed] else []
      | none => []

/-- The accesses of a run that were made to one target, in order. -/
def accessesOn (target : String) : RegistrySystem → List RegistryEvent → List TimedAccess
  | _, [] => []
  | s, event :: rest =>
      s.accessOn target event ++
        match stepRegistry s event with
        | some next => accessesOn target next rest
        | none => []

def CircuitBreakerConfig.configOf (config : CircuitBreakerConfig) (target : String) :
    CircuitBreakerTargetConfig :=
  (config.targets.lookup target).getD .default

/-- One breaker on which only these accesses were made. -/
def alone (config : CircuitBreakerTargetConfig) (history : List TimedAccess) :
    CircuitBreakerState where
  config := config
  inner := access config history

/-- Every target has its own breaker, which has seen the accesses to that target. -/
structure Isolated (configs : String → CircuitBreakerTargetConfig)
    (history : String → List TimedAccess) (s : RegistrySystem) : Prop where
  breakers : ∀ target handle, s.get target = some handle →
    s.heap[handle]? = some (alone (configs target) (history target))
  distinct : ∀ target other handle, s.get target = some handle → s.get other = some handle →
    target = other
  held : ∀ target handle, (target, handle) ∈ s.held → s.get target = some handle
  absent : ∀ target, s.get target = none →
    history target = [] ∧ configs target = s.registry.defaultConfig

section Steps

variable {configs : String → CircuitBreakerTargetConfig} {history : String → List TimedAccess}
  {s : RegistrySystem}

theorem alone_concat (config : CircuitBreakerTargetConfig) (earlier : List TimedAccess)
    (timed : TimedAccess) :
    alone config (earlier ++ [timed]) = (alone config earlier).apply timed := by
  simp [alone, access, CircuitBreakerState.apply, List.foldl_append]

theorem get_insert (name other : String) (config : CircuitBreakerTargetConfig)
    (s : RegistrySystem) :
    (s.insert name config).get other =
      if other = name then some s.heap.length else s.get other := by
  simp only [RegistrySystem.get, RegistrySystem.insert]
  split
  · rename_i same
    rw [same, AList.lookup_insert]
  · rename_i distinct
    rw [AList.lookup_insert_ne distinct]

theorem get_insert_of_some {name target : String} {handle : Nat} (missing : s.get name = none)
    (found : s.get target = some handle) (config : CircuitBreakerTargetConfig) :
    (s.insert name config).get target = some handle := by
  rw [get_insert, if_neg]
  · exact found
  · rintro rfl
    rw [missing] at found
    cases found

theorem Isolated.empty : Isolated (fun _ => .default) (fun _ => []) .empty where
  breakers := by simp [RegistrySystem.get, RegistrySystem.empty]
  distinct := by simp [RegistrySystem.get, RegistrySystem.empty]
  held := by simp [RegistrySystem.empty]
  absent := fun _ _ => ⟨rfl, rfl⟩

theorem Isolated.handle_lt (isolated : Isolated configs history s) {target : String}
    {handle : Nat} (found : s.get target = some handle) : handle < s.heap.length :=
  (List.getElem?_eq_some_iff.mp (isolated.breakers target handle found)).1

theorem Isolated.hold (isolated : Isolated configs history s) {target : String} {handle : Nat}
    (found : s.get target = some handle) : Isolated configs history (s.hold target handle) where
  breakers := isolated.breakers
  distinct := isolated.distinct
  held := by
    intro other given member
    rcases List.mem_append.mp member with old | latest
    · exact isolated.held other given old
    · cases List.mem_singleton.mp latest
      exact found
  absent := isolated.absent

/-- Creating the breaker of a missing target does not move any other. -/
theorem Isolated.insert (isolated : Isolated configs history s) {target : String}
    (missing : s.get target = none) (config : CircuitBreakerTargetConfig) :
    Isolated (fun other => if other = target then config else configs other) history
      (s.insert target config) where
  breakers := by
    intro other handle found
    rw [get_insert] at found
    split at found
    · rename_i same
      cases found
      have untouched := (isolated.absent target missing).1
      simp [RegistrySystem.insert, same, alone, untouched, access, CircuitBreakerState.new]
    · rename_i distinct
      have inside := isolated.handle_lt found
      simp only [RegistrySystem.insert, List.getElem?_append_left inside, if_neg distinct]
      exact isolated.breakers other handle found
  distinct := by
    intro first second handle foundFirst foundSecond
    rw [get_insert] at foundFirst foundSecond
    split at foundFirst <;> split at foundSecond
    · rename_i sameFirst sameSecond
      rw [sameFirst, sameSecond]
    · cases foundFirst
      exact absurd (isolated.handle_lt foundSecond) (lt_irrefl _)
    · cases foundSecond
      exact absurd (isolated.handle_lt foundFirst) (lt_irrefl _)
    · exact isolated.distinct first second handle foundFirst foundSecond
  held := fun other handle member =>
    get_insert_of_some missing (isolated.held other handle member) config
  absent := by
    intro other found
    rw [get_insert] at found
    split at found
    · cases found
    · rename_i distinct
      rw [if_neg distinct]
      exact isolated.absent other found

theorem Isolated.insertDefault (isolated : Isolated configs history s) {target : String}
    (missing : s.get target = none) :
    Isolated configs history (s.insert target s.registry.defaultConfig) := by
  have inserted := isolated.insert missing s.registry.defaultConfig
  have same : (fun other => if other = target then s.registry.defaultConfig else configs other) =
      configs := by
    funext other
    split
    · rename_i same
      rw [same, (isolated.absent target missing).2]
    · rfl
  rwa [same] at inserted

/-- An access through a handle reaches the breaker of its target and no other. -/
theorem Isolated.update (isolated : Isolated configs history s) {target : String} {handle : Nat}
    (found : s.get target = some handle) (timed : TimedAccess) :
    Isolated configs (fun other => history other ++ if target = other then [timed] else [])
      (s.update handle timed) where
  breakers := by
    intro other given foundOther
    have stored := isolated.breakers other given foundOther
    simp only [RegistrySystem.update]
    split
    · rename_i same
      subst same
      cases found.symm.trans foundOther
      rw [List.getElem?_modify_eq, stored, alone_concat]
      rfl
    · rename_i distinct
      have differ : handle ≠ given := by
        rintro rfl
        exact distinct (isolated.distinct _ _ _ found foundOther)
      rw [List.getElem?_modify_ne _ _ differ, stored, List.append_nil]
  distinct := isolated.distinct
  held := isolated.held
  absent := by
    intro other missing
    have differ : target ≠ other := by
      rintro rfl
      cases found.symm.trans missing
    rw [if_neg differ, List.append_nil]
    exact isolated.absent other missing

theorem isolated_foldl_insert {targets : List (Sigma fun _ : String => CircuitBreakerTargetConfig)}
    (nodup : targets.NodupKeys) (isolated : Isolated configs history s)
    (missing : ∀ target ∈ targets, s.get target.1 = none) :
    Isolated (fun target => (targets.dlookup target).getD (configs target)) history
      (targets.foldl (fun s target => s.insert target.1 target.2) s) := by
  induction targets generalizing configs s with
  | nil => exact isolated
  | cons first rest ih =>
      rcases first with ⟨name, config⟩
      rcases List.nodupKeys_cons.mp nodup with ⟨fresh, nodupRest⟩
      have inserted := @Isolated.insert _ _ _ isolated name (missing _ List.mem_cons_self) config
      have missingRest : ∀ target ∈ rest, (s.insert name config).get target.1 = none := by
        intro target member
        have listed : target.1 ∈ rest.keys := List.mem_keys_of_mem member
        have differ : target.1 ≠ name := by
          rintro rfl
          exact fresh listed
        rw [get_insert, if_neg differ]
        exact missing target (List.mem_cons_of_mem _ member)
      have created := ih nodupRest inserted missingRest
      have same : (fun target => (rest.dlookup target).getD
            (if target = name then config else configs target)) =
          fun target => ((⟨name, config⟩ :: rest : List (Sigma _)).dlookup target).getD
            (configs target) := by
        funext target
        by_cases same : target = name
        · subst same
          simp [List.dlookup_eq_none.mpr fresh]
        · rw [List.dlookup_cons_ne _ _ same, if_neg same]
      rwa [same] at created

theorem Isolated.new (config : CircuitBreakerConfig) :
    Isolated config.configOf (fun _ => []) (.new config) :=
  isolated_foldl_insert config.targets.nodupKeys .empty fun _ _ => rfl

theorem Isolated.step (isolated : Isolated configs history s) {next : RegistrySystem}
    {event : RegistryEvent} (stepped : stepRegistry s event = some next) :
    Isolated configs (fun target => history target ++ s.accessOn target event) next := by
  cases event with
  | get target =>
      simp only [RegistrySystem.accessOn, List.append_nil]
      simp only [stepRegistry] at stepped
      split at stepped
      · rename_i handle found
        cases stepped
        exact isolated.hold found
      · cases stepped
        exact isolated
  | getOrDefault target =>
      simp only [RegistrySystem.accessOn, List.append_nil]
      simp only [stepRegistry, RegistrySystem.getOrDefault] at stepped
      split at stepped
      · rename_i handle found
        cases stepped
        exact isolated.hold found
      · rename_i missing
        cases stepped
        refine (isolated.insertDefault missing).hold ?_
        rw [get_insert, if_pos rfl]
  | access slot timed =>
      rcases Option.map_eq_some_iff.mp stepped with ⟨⟨target, handle⟩, given, rfl⟩
      simp only [RegistrySystem.accessOn, given]
      exact isolated.update (isolated.held target handle (List.mem_of_getElem? given)) timed

theorem get_of_step {next : RegistrySystem} {event : RegistryEvent} {target : String}
    {handle : Nat} (found : s.get target = some handle)
    (stepped : stepRegistry s event = some next) : next.get target = some handle := by
  cases event with
  | get other =>
      simp only [stepRegistry] at stepped
      split at stepped
      · cases stepped
        exact found
      · cases stepped
        exact found
  | getOrDefault other =>
      simp only [stepRegistry, RegistrySystem.getOrDefault] at stepped
      split at stepped
      · cases stepped
        exact found
      · rename_i missing
        cases stepped
        exact get_insert_of_some missing found s.registry.defaultConfig
  | access slot timed =>
      rcases Option.map_eq_some_iff.mp stepped with ⟨entry, _, rfl⟩
      exact found

theorem Isolated.run (isolated : Isolated configs history s) {events : List RegistryEvent}
    {finish : RegistrySystem} (ran : registryCalls.run s events = some finish) :
    Isolated configs (fun target => history target ++ accessesOn target s events) finish := by
  induction events generalizing history s with
  | nil =>
      cases ran
      simpa only [accessesOn, List.append_nil] using isolated
  | cons event rest ih =>
      rcases Option.bind_eq_some_iff.mp ran with ⟨next, stepped, ranRest⟩
      have isolatedRest := ih (isolated.step stepped) ranRest
      have stepped : stepRegistry s event = some next := stepped
      simpa only [accessesOn, stepped, List.append_assoc] using isolatedRest

end Steps

/-- In every run the breaker of a target is the one it had from its first access on, every handle
given for the target leads to it, and it stands where a breaker with the configuration of the
target stands after the accesses to that target alone. -/
theorem registry_isolates (config : CircuitBreakerConfig) (front back : List RegistryEvent)
    (middle finish : RegistrySystem)
    (ranFront : registryCalls.run (.new config) front = some middle)
    (ranBack : registryCalls.run middle back = some finish) (target : String) :
    (∀ handle, middle.get target = some handle → finish.get target = some handle) ∧
      (∀ handle, (target, handle) ∈ finish.held → finish.get target = some handle) ∧
      (∀ handle, finish.get target = some handle →
        finish.heap[handle]? = some (alone (config.configOf target)
          (accessesOn target (.new config) (front ++ back)))) ∧
      (finish.get target = none → accessesOn target (.new config) (front ++ back) = []) := by
  have ran : registryCalls.run (.new config) (front ++ back) = some finish := by
    rw [Machine.run_append_of_run ranFront, ranBack]
  have isolated := (Isolated.new config).run ran
  refine ⟨?_, isolated.held target, isolated.breakers target, ?_⟩
  · intro handle found
    exact Machine.invariant_run (fun s => s.get target = some handle)
      (fun _ _ _ found stepped => get_of_step found stepped) found ranBack
  · intro missing
    exact (isolated.absent target missing).1

/-- A configured target that opens at its first failure, and one that is created on demand and
shared by two handles. -/
def twoTargets : List RegistryEvent :=
  [.getOrDefault "api", .get "database", .getOrDefault "api", .get "other"]

def twoTargetsConfig : CircuitBreakerConfig where
  targets := AList.insert "database" { CircuitBreakerTargetConfig.default with
    failureThreshold := 1 } ∅

theorem registry_isolates_two_targets :
    let calls : List RegistryEvent := [.access 0 ⟨0, .operation .recordFailure⟩,
      .access 1 ⟨1, .operation .recordFailure⟩, .access 2 ⟨2, .operation .recordFailure⟩]
    let middle := (registryCalls.run (.new twoTargetsConfig) twoTargets).get (by decide)
    let finish := (registryCalls.run middle calls).get (by decide)
    (∀ handle, middle.get "api" = some handle → finish.get "api" = some handle) ∧
      (∀ handle, ("api", handle) ∈ finish.held → finish.get "api" = some handle) ∧
      (∀ handle, finish.get "api" = some handle →
        finish.heap[handle]? = some (alone .default [⟨0, .operation .recordFailure⟩,
          ⟨2, .operation .recordFailure⟩])) ∧
      (finish.get "api" = none → [TimedAccess.mk 0 (.operation .recordFailure),
        ⟨2, .operation .recordFailure⟩] = []) :=
  registry_isolates twoTargetsConfig twoTargets _ _ _ (Option.some_get (by decide)).symm
    (Option.some_get (by decide)).symm "api"

end AxumConf.CircuitBreaker
