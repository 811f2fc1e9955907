import Mathlib.Data.List.Basic

/-!
# Machines whose events may be disabled

A `Machine` is a deterministic transition function that answers `none` for an
event that cannot happen in the given state. A concurrent program becomes a
machine by letting the event name which party takes its next atomic step; the
quantification over event lists is then the quantification over schedules.

`run` executes a whole schedule, `Along` says that a condition on the state
before a step and on its event holds at every step of it, and the invariant
rules carry a fact about one step to every run.
-/

namespace AxumConf

universe u v

structure Machine (State : Type u) (Event : Type v) where
  step : State → Event → Option State

namespace Machine

variable {State : Type u} {Event : Type v} (machine : Machine State Event)

/-- Execute a schedule, stopping at the first disabled event. -/
def run : State → List Event → Option State
  | state, [] => some state
  | state, event :: rest => (machine.step state event).bind fun next => run next rest

def Reachable (start finish : State) : Prop :=
  ∃ events, machine.run start events = some finish

/-- A condition on the state before a step and on its event, at every step. -/
def Along (Holds : State → Event → Prop) : State → List Event → Prop
  | _, [] => True
  | state, event :: rest =>
      Holds state event ∧ ∀ next ∈ machine.step state event, Along Holds next rest

instance decidableAlong (Holds : State → Event → Prop) [∀ state, DecidablePred (Holds state)] :
    ∀ start events, Decidable (machine.Along Holds start events)
  | _, [] => isTrue trivial
  | state, event :: rest =>
      have : DecidablePred fun next => machine.Along Holds next rest :=
        fun next => decidableAlong Holds next rest
      inferInstanceAs
        (Decidable (Holds state event ∧ ∀ next ∈ machine.step state event, _))

variable {machine}

@[simp]
theorem run_nil (state : State) : machine.run state [] = some state :=
  rfl

@[simp]
theorem run_cons (state : State) (event : Event) (rest : List Event) :
    machine.run state (event :: rest) =
      (machine.step state event).bind fun next => machine.run next rest :=
  rfl

theorem run_append (state : State) (front back : List Event) :
    machine.run state (front ++ back) =
      (machine.run state front).bind fun middle => machine.run middle back := by
  induction front generalizing state with
  | nil => rfl
  | cons event rest ih =>
      simp only [List.cons_append, run_cons, Option.bind_assoc]
      congr 1
      funext next
      exact ih next

theorem run_append_of_run {state middle : State} {front : List Event}
    (ran : machine.run state front = some middle) (back : List Event) :
    machine.run state (front ++ back) = machine.run middle back := by
  rw [run_append, ran, Option.bind_some]

/-- Where a schedule that runs leads is reachable. -/
theorem Reachable.of_run {start : State} {events : List Event}
    (runs : (machine.run start events).isSome = true) :
    machine.Reachable start ((machine.run start events).get runs) :=
  ⟨events, (Option.some_get runs).symm⟩

/-- What holds at the end of a run, and of a state before a step whenever it holds after it,
holds after every step of the run. -/
theorem along_of_reflected (Holds : State → Prop)
    (reflected : ∀ state event next, machine.step state event = some next →
      Holds next → Holds state)
    {start finish : State} {events : List Event} (ran : machine.run start events = some finish)
    (final : Holds finish) :
    Holds start ∧ machine.Along
      (fun state event => ∀ next, machine.step state event = some next → Holds next)
      start events := by
  induction events generalizing start with
  | nil =>
      cases ran
      exact ⟨final, trivial⟩
  | cons event rest ih =>
      rcases Option.bind_eq_some_iff.mp ran with ⟨next, stepped, ranRest⟩
      rcases ih ranRest with ⟨holdsNext, alongRest⟩
      refine ⟨reflected start event next stepped holdsNext, ?_, ?_⟩
      · intro other steppedOther
        rw [stepped] at steppedOther
        cases steppedOther
        exact holdsNext
      · intro other steppedOther
        rw [stepped] at steppedOther
        cases steppedOther
        exact alongRest

/-- What every step preserves along a schedule that meets a condition, the run preserves. -/
theorem invariant_along (Invariant : State → Prop) {Holds : State → Event → Prop}
    (preserved : ∀ state event next, Invariant state → Holds state event →
      machine.step state event = some next → Invariant next)
    {start finish : State} {events : List Event} (initial : Invariant start)
    (along : machine.Along Holds start events) (ran : machine.run start events = some finish) :
    Invariant finish := by
  induction events generalizing start with
  | nil =>
      cases ran
      exact initial
  | cons event rest ih =>
      rcases Option.bind_eq_some_iff.mp ran with ⟨next, stepped, ranRest⟩
      exact ih (preserved start event next initial along.1 stepped) (along.2 next stepped) ranRest

/-- Given what every step preserves, an invariant that a step keeps exactly under a condition stays
true along a schedule exactly where the condition holds along it. -/
theorem along_invariant_iff_of_background (Background Invariant : State → Prop)
    {Holds : State → Event → Prop}
    (background_kept : ∀ state event next, Background state →
      machine.step state event = some next → Background next)
    (kept_iff : ∀ state event, Background state → Invariant state →
      ((∀ next, machine.step state event = some next → Invariant next) ↔ Holds state event))
    {start : State} (background : Background start) (initial : Invariant start)
    (events : List Event) :
    machine.Along
        (fun state event => ∀ next, machine.step state event = some next → Invariant next)
        start events ↔
      machine.Along Holds start events := by
  induction events generalizing start with
  | nil => rfl
  | cons event rest ih =>
      constructor
      · rintro ⟨keeps, along⟩
        refine ⟨(kept_iff start event background initial).mp keeps, ?_⟩
        intro next stepped
        have backgroundNext := background_kept start event next background stepped
        exact (ih backgroundNext (keeps next stepped)).mp (along next stepped)
      · rintro ⟨holds, along⟩
        have keeps := (kept_iff start event background initial).mpr holds
        refine ⟨keeps, ?_⟩
        intro next stepped
        have backgroundNext := background_kept start event next background stepped
        exact (ih backgroundNext (keeps next stepped)).mpr (along next stepped)

/-- An invariant that a step keeps exactly under a condition stays true along a schedule exactly
where the condition holds along it. -/
theorem along_invariant_iff (Invariant : State → Prop) {Holds : State → Event → Prop}
    (kept_iff : ∀ state event, Invariant state →
      ((∀ next, machine.step state event = some next → Invariant next) ↔ Holds state event))
    {start : State} (initial : Invariant start) (events : List Event) :
    machine.Along
        (fun state event => ∀ next, machine.step state event = some next → Invariant next)
        start events ↔
      machine.Along Holds start events :=
  along_invariant_iff_of_background (fun _ => True) Invariant (fun _ _ _ _ _ => trivial)
    (fun state event _ => kept_iff state event) trivial initial events

theorem along_of_forall {Holds : State → Event → Prop} {events : List Event}
    (holds : ∀ event ∈ events, ∀ state, Holds state event) (start : State) :
    machine.Along Holds start events := by
  induction events generalizing start with
  | nil => trivial
  | cons event rest ih =>
      have holdsRest : ∀ event ∈ rest, ∀ state, Holds state event :=
        fun event member => holds event (List.mem_cons_of_mem _ member)
      exact ⟨holds event List.mem_cons_self start, fun next _ => ih holdsRest next⟩

/-- What every step with an allowed event preserves, a run of allowed events preserves. -/
theorem invariant_events (Invariant : State → Prop) {allowed : Event → Prop}
    (preserved : ∀ state event next, Invariant state → allowed event →
      machine.step state event = some next → Invariant next)
    {start finish : State} {events : List Event} (initial : Invariant start)
    (allAllowed : ∀ event ∈ events, allowed event)
    (ran : machine.run start events = some finish) : Invariant finish := by
  have along : machine.Along (fun _ event => allowed event) start events :=
    along_of_forall (fun event member _ => allAllowed event member) start
  exact invariant_along Invariant preserved initial along ran

/-- What every step preserves, every run preserves. -/
theorem invariant_run (Invariant : State → Prop)
    (preserved : ∀ state event next, Invariant state →
      machine.step state event = some next → Invariant next)
    {start finish : State} {events : List Event} (initial : Invariant start)
    (ran : machine.run start events = some finish) : Invariant finish :=
  invariant_along Invariant
    (fun state event next invariant _ stepped => preserved state event next invariant stepped)
    initial (along_of_forall (fun _ _ _ => trivial) start) ran

/-- What holds at the start and is preserved by every step holds of every reachable state. -/
theorem Reachable.invariant (Invariant : State → Prop)
    (preserved : ∀ state event next, Invariant state →
      machine.step state event = some next → Invariant next)
    {start finish : State} (initial : Invariant start)
    (reachable : machine.Reachable start finish) : Invariant finish := by
  rcases reachable with ⟨events, ran⟩
  exact invariant_run Invariant preserved initial ran

theorem Along.and {First Second : State → Event → Prop} {start : State} {events : List Event}
    (first : machine.Along First start events) (second : machine.Along Second start events) :
    machine.Along (fun state event => First state event ∧ Second state event) start events := by
  induction events generalizing start with
  | nil => trivial
  | cons event rest ih =>
      exact ⟨⟨first.1, second.1⟩, fun next stepped =>
        ih (first.2 next stepped) (second.2 next stepped)⟩

end Machine

end AxumConf
