import AxumConf.Lib.Machine

/-!
# Machines made of independent components

A machine splits into components when every event has a share in some of them, a step is what the
components with a share in its event do, and the other components stay as they are. A schedule then
runs exactly when the share of every component in it does, and what is seen of a component depends
on its own share alone.

A machine refines another one when every step of the first is some run of the second.

Where only armed parties can break a property, and no step arms one, it holds for good exactly when
no party is armed.
-/

namespace AxumConf.Machine

section Components

variable {State Event Key Local Share : Type*} {machine : Machine State Event}
  {component : Key → Machine Local Share} {share : Key → Event → Option Share}
  {view : Key → State → Local} {Invariant : State → Prop}

/-- `view` shows the components of a state, and `share` what an event is to a component. -/
structure Splits (machine : Machine State Event) (component : Key → Machine Local Share)
    (share : Key → Event → Option Share) (view : Key → State → Local)
    (Invariant : State → Prop) : Prop where
  kept : ∀ state event next, Invariant state → machine.step state event = some next →
    Invariant next
  own : ∀ state event next key part, Invariant state → share key event = some part →
    machine.step state event = some next →
    (component key).step (view key state) part = some (view key next)
  other : ∀ state event next key, Invariant state → share key event = none →
    machine.step state event = some next → view key next = view key state
  enabled : ∀ state event, Invariant state →
    (∀ key part, share key event = some part →
      ((component key).step (view key state) part).isSome = true) →
    (machine.step state event).isSome = true

theorem Splits.run_step (splits : Splits machine component share view Invariant)
    {state next : State} {event : Event} (invariant : Invariant state)
    (stepped : machine.step state event = some next) (key : Key) (rest : List Event) :
    (component key).run (view key state) ((event :: rest).filterMap (share key)) =
      (component key).run (view key next) (rest.filterMap (share key)) := by
  cases own : share key event with
  | none =>
      rw [List.filterMap_cons_none own, splits.other state event next key invariant own stepped]
  | some part =>
      rw [List.filterMap_cons_some own, run_cons,
        splits.own state event next key part invariant own stepped, Option.bind_some]

/-- The share of a component in a schedule that runs leads to what is seen of it at the end. -/
theorem Splits.run_component (splits : Splits machine component share view Invariant)
    {start finish : State} {events : List Event} (initial : Invariant start)
    (ran : machine.run start events = some finish) (key : Key) :
    (component key).run (view key start) (events.filterMap (share key)) =
      some (view key finish) := by
  induction events generalizing start with
  | nil =>
      cases ran
      rfl
  | cons event rest ih =>
      rcases Option.bind_eq_some_iff.mp ran with ⟨next, stepped, ranRest⟩
      rw [splits.run_step initial stepped]
      exact ih (splits.kept start event next initial stepped) ranRest

theorem Splits.isSome_run (splits : Splits machine component share view Invariant)
    {start : State} {events : List Event} (initial : Invariant start)
    (runs : ∀ key, ((component key).run (view key start)
      (events.filterMap (share key))).isSome = true) :
    (machine.run start events).isSome = true := by
  induction events generalizing start with
  | nil => rfl
  | cons event rest ih =>
      have enabled : (machine.step start event).isSome = true := by
        apply splits.enabled start event initial
        intro key part own
        have ran := runs key
        rw [List.filterMap_cons_some own, run_cons] at ran
        cases stepped : (component key).step (view key start) part with
        | none => simp [stepped] at ran
        | some after => rfl
      rcases Option.isSome_iff_exists.mp enabled with ⟨next, stepped⟩
      rw [run_cons, stepped, Option.bind_some]
      apply ih (splits.kept start event next initial stepped)
      intro key
      rw [← splits.run_step initial stepped]
      exact runs key

/-- A schedule runs exactly when the share of every component in it does. -/
theorem Splits.isSome_run_iff (splits : Splits machine component share view Invariant)
    {start : State} (initial : Invariant start) (events : List Event) :
    (machine.run start events).isSome = true ↔
      ∀ key, ((component key).run (view key start)
        (events.filterMap (share key))).isSome = true := by
  constructor
  · intro runs key
    rcases Option.isSome_iff_exists.mp runs with ⟨finish, ran⟩
    rw [splits.run_component initial ran key]
    rfl
  · exact splits.isSome_run initial

/-- What is seen of a component depends on its own share in the schedule alone. -/
theorem Splits.view_eq_of_share_eq (splits : Splits machine component share view Invariant)
    {start finish other : State} {events others : List Event} (initial : Invariant start)
    (ran : machine.run start events = some finish)
    (ranOther : machine.run start others = some other) {key : Key}
    (same : events.filterMap (share key) = others.filterMap (share key)) :
    view key finish = view key other := by
  have seen := splits.run_component initial ran key
  rw [same, splits.run_component initial ranOther key] at seen
  exact (Option.some.inj seen).symm

end Components

section Refinement

variable {Concrete Abstract Event Label : Type*} {concrete : Machine Concrete Event}
  {abstract : Machine Abstract Label} {Related : Concrete → Abstract → Prop}
  {allowed : Event → Prop}

/-- Every step of the first machine with an allowed event is some run of the second. -/
def Refines (concrete : Machine Concrete Event) (abstract : Machine Abstract Label)
    (Related : Concrete → Abstract → Prop) (allowed : Event → Prop) : Prop :=
  ∀ state image event next, Related state image → allowed event →
    concrete.step state event = some next →
    ∃ labels after, abstract.run image labels = some after ∧ Related next after

theorem Refines.run (refines : Refines concrete abstract Related allowed)
    {start finish : Concrete} {image : Abstract} {events : List Event}
    (related : Related start image) (allAllowed : ∀ event ∈ events, allowed event)
    (ran : concrete.run start events = some finish) :
    ∃ after, abstract.Reachable image after ∧ Related finish after := by
  induction events generalizing start image with
  | nil =>
      cases ran
      exact ⟨image, ⟨[], rfl⟩, related⟩
  | cons event rest ih =>
      rcases Option.bind_eq_some_iff.mp ran with ⟨next, stepped, ranRest⟩
      rcases refines start image event next related (allAllowed event List.mem_cons_self)
        stepped with ⟨labels, middle, ranFront, relatedNext⟩
      have allowedRest : ∀ event ∈ rest, allowed event :=
        fun event member => allAllowed event (List.mem_cons_of_mem _ member)
      rcases ih relatedNext allowedRest ranRest with ⟨after, ⟨back, ranBack⟩, relatedFinish⟩
      refine ⟨after, ⟨labels ++ back, ?_⟩, relatedFinish⟩
      rw [run_append_of_run ranFront, ranBack]

end Refinement

section Parties

variable {State Event Party : Type*} {machine : Machine State Event} {Holds : State → Prop}
  {Armed : Party → State → Prop}

/-- A property that unarmed parties keep and armed ones can break holds for good exactly when no
party is armed. -/
theorem holds_for_good_iff
    (kept : ∀ state event next, Holds state → (∀ party, ¬Armed party state) →
      machine.step state event = some next → Holds next ∧ ∀ party, ¬Armed party next)
    (breaks : ∀ state party, Armed party state →
      ∃ events finish, machine.run state events = some finish ∧ ¬Holds finish)
    {state : State} (holds : Holds state) :
    (∀ events finish, machine.run state events = some finish → Holds finish) ↔
      ∀ party, ¬Armed party state := by
  constructor
  · intro forGood party armed
    rcases breaks state party armed with ⟨events, finish, ran, broken⟩
    exact broken (forGood events finish ran)
  · intro unarmed events finish ran
    have invariant : Holds finish ∧ ∀ party, ¬Armed party finish :=
      invariant_run (fun state => Holds state ∧ ∀ party, ¬Armed party state)
        (fun state event next both stepped => kept state event next both.1 both.2 stepped)
        ⟨holds, unarmed⟩ ran
    exact invariant.1

end Parties

end AxumConf.Machine
