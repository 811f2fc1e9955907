import Mathlib.Data.List.Infix

/-!
# Histories of a sequential component

A component that handles one event after the other is a fold over the list of
its events. The first part of this file is about the event that last made a
property true, and about what stays so from then on. The second part is about
events that change nothing: they can be inserted anywhere in a history, and no
other event of it is answered differently.
-/

namespace AxumConf

universe u v w

section Entries

variable {State : Type u} {Event : Type v} (step : State → Event → State) (start : State)

/-- The property holds since the entry, and did not hold before it. -/
def EnteredBy (Holds : State → Prop) (before : List Event) (entry : Event)
    (since : List Event) : Prop :=
  ¬Holds (before.foldl step start) ∧
    ∀ front, front <+: since → Holds ((before ++ entry :: front).foldl step start)

variable {step start}

/-- What holds now and did not hold at the start was made true by some event. -/
theorem exists_enteredBy (Holds : State → Prop) (initial : ¬Holds start) {history : List Event}
    (holds : Holds (history.foldl step start)) :
    ∃ before entry since, history = before ++ entry :: since ∧
      EnteredBy step start Holds before entry since := by
  induction history using List.reverseRecOn with
  | nil => exact absurd holds initial
  | append_singleton earlier latest ih =>
      by_cases heldBefore : Holds (earlier.foldl step start)
      · rcases ih heldBefore with ⟨before, entry, since, rfl, notBefore, during⟩
        refine ⟨before, entry, since ++ [latest], by simp, notBefore, ?_⟩
        intro front isPrefix
        rcases List.prefix_concat_iff.mp isPrefix with rfl | isPrefixSince
        · simpa using holds
        · exact during front isPrefixSince
      · refine ⟨earlier, latest, [], rfl, heldBefore, ?_⟩
        intro front isPrefix
        rw [List.prefix_nil.mp isPrefix]
        exact holds

/-- What the entry establishes, and every event that keeps the property keeps, holds now. -/
theorem EnteredBy.invariant {Holds : State → Prop} {before since : List Event} {entry : Event}
    (entered : EnteredBy step start Holds before entry since) (Invariant : State → Prop)
    (established : ∀ state, ¬Holds state → Holds (step state entry) →
      Invariant (step state entry))
    (kept : ∀ state event, Holds state → Holds (step state event) → Invariant state →
      Invariant (step state event)) :
    Invariant ((before ++ entry :: since).foldl step start) := by
  rcases entered with ⟨notBefore, during⟩
  induction since using List.reverseRecOn with
  | nil =>
      have after := during [] List.nil_prefix
      simp only [List.foldl_append, List.foldl_cons, List.foldl_nil] at after ⊢
      exact established _ notBefore after
  | append_singleton earlier latest ih =>
      have duringEarlier := during earlier (List.prefix_append _ _)
      have after := during (earlier ++ [latest]) List.prefix_rfl
      have invariant := ih fun front isPrefix =>
        during front (isPrefix.trans (List.prefix_append _ _))
      simp only [List.foldl_append, List.foldl_cons, List.foldl_nil]
        at duringEarlier after invariant ⊢
      exact kept _ _ duringEarlier after invariant

theorem EnteredBy.now {Holds : State → Prop} {before since : List Event} {entry : Event}
    (entered : EnteredBy step start Holds before entry since) :
    Holds ((before ++ entry :: since).foldl step start) :=
  entered.2 since List.prefix_rfl

end Entries

section Insertions

variable {State : Type u} {Event : Type v} {Answer : Type w}

/-- The second list is the first one with further events inserted anywhere. -/
inductive Inserted (extra : Event → Prop) : List Event → List Event → Prop where
  | nil : Inserted extra [] []
  | keep (event : Event) {plain observed : List Event} (rest : Inserted extra plain observed) :
      Inserted extra (event :: plain) (event :: observed)
  | insert {event : Event} (isExtra : extra event) {plain observed : List Event}
      (rest : Inserted extra plain observed) : Inserted extra plain (event :: observed)

/-- Every event of a history with the answer it gets. -/
def answered (step : State → Event → State) (answer : State → Event → Answer) :
    State → List Event → List (Event × Answer)
  | _, [] => []
  | state, event :: rest =>
      (event, answer state event) :: answered step answer (step state event) rest

/-- Inserting events that change nothing inserts their answers and changes no other. -/
theorem Inserted.answered_of_idle {extra : Event → Prop} {step : State → Event → State}
    (answer : State → Event → Answer)
    (idle : ∀ state event, extra event → step state event = state)
    {plain observed : List Event} (inserted : Inserted extra plain observed) (state : State) :
    Inserted (fun pair => extra pair.1) (answered step answer state plain)
      (answered step answer state observed) := by
  induction inserted generalizing state with
  | nil => exact .nil
  | keep event rest ih => exact .keep _ (ih (step state event))
  | @insert event isExtra plain observed rest ih =>
      simp only [answered, idle state event isExtra]
      refine .insert ?_ (ih state)
      exact isExtra

end Insertions

end AxumConf
