import Mathlib.Data.List.Basic

/-!
# Computations that may fail or panic

An `Attempt` returns a value, returns an error or panics.  `Ensures` is the weakest condition under
which it does not panic and what it returns satisfies a predicate, one for values and one for
errors; the rules below compute it along a sequence of attempts.
-/

namespace AxumConf

universe u v w

inductive Attempt (Problem : Type u) (Value : Type v) where
  | done (value : Value)
  | failed (problem : Problem)
  | panicked

namespace Attempt

variable {Problem : Type u} {Value Result : Type v}

/-- The next attempt is only made with the value of the first. -/
def andThen (first : Attempt Problem Value) (next : Value → Attempt Problem Result) :
    Attempt Problem Result :=
  match first with
  | done value => next value
  | failed problem => failed problem
  | panicked => panicked

instance : Monad (Attempt Problem) where
  pure := done
  bind := andThen

/-- Rust's `expect` and `assert`. -/
def require (holds : Bool) : Attempt Problem PUnit :=
  if holds then done ⟨⟩ else panicked

/-- Rust's `?` on the result of a call. -/
def ofExcept (result : Except Problem Value) : Attempt Problem Value :=
  match result with
  | .ok value => done value
  | .error problem => failed problem

def Ensures (attempt : Attempt Problem Value) (onDone : Value → Prop) (onFailed : Problem → Prop) :
    Prop :=
  match attempt with
  | done value => onDone value
  | failed problem => onFailed problem
  | panicked => False

variable {attempt : Attempt Problem Value} {onDone : Value → Prop} {onFailed : Problem → Prop}

@[simp] theorem ensures_done {value : Value} :
    (done value : Attempt Problem Value).Ensures onDone onFailed ↔ onDone value :=
  Iff.rfl

@[simp] theorem ensures_pure {value : Value} :
    (pure value : Attempt Problem Value).Ensures onDone onFailed ↔ onDone value :=
  Iff.rfl

@[simp] theorem ensures_bind {next : Value → Attempt Problem Result} {onResult : Result → Prop} :
    (attempt >>= next).Ensures onResult onFailed ↔
      attempt.Ensures (fun value => (next value).Ensures onResult onFailed) onFailed := by
  cases attempt with
  | done value => rfl
  | failed problem => rfl
  | panicked => rfl

@[simp] theorem ensures_ite {holds : Bool} {value : Value} :
    (if holds then done value else panicked : Attempt Problem Value).Ensures onDone onFailed ↔
      holds = true ∧ onDone value := by
  cases holds with
  | true => simp
  | false => simp [Ensures]

@[simp] theorem ensures_require {holds : Bool} {onDone : PUnit → Prop} :
    (require holds : Attempt Problem PUnit).Ensures onDone onFailed ↔
      holds = true ∧ onDone ⟨⟩ :=
  ensures_ite

theorem ensures_ofExcept {result : Except Problem Value} :
    (ofExcept result).Ensures onDone onFailed ↔
      (∀ value, result = .ok value → onDone value) ∧
        ∀ problem, result = .error problem → onFailed problem := by
  cases result with
  | ok value => simp [ofExcept]
  | error problem => simp [ofExcept, Ensures]

theorem ensures_congr {onOther : Value → Prop} (same : ∀ value, onDone value ↔ onOther value) :
    attempt.Ensures onDone onFailed ↔ attempt.Ensures onOther onFailed := by
  cases attempt with
  | done value => exact same value
  | failed problem => exact Iff.rfl
  | panicked => exact Iff.rfl

theorem Ensures.mono {onOther : Value → Prop} {onOtherFailed : Problem → Prop}
    (ensures : attempt.Ensures onDone onFailed) (done : ∀ value, onDone value → onOther value)
    (failed : ∀ problem, onFailed problem → onOtherFailed problem) :
    attempt.Ensures onOther onOtherFailed := by
  cases attempt with
  | done value => exact done value ensures
  | failed problem => exact failed problem ensures
  | panicked => exact ensures

theorem ensures_true_iff :
    attempt.Ensures (fun _ => True) (fun _ => True) ↔ attempt ≠ panicked := by
  cases attempt with
  | done value => simp
  | failed problem => simp [Ensures]
  | panicked => simp [Ensures]

/-- An attempt that meets what only one value and no error meets is done with that value. -/
theorem eq_done_of_ensures {value : Value}
    (ensures : attempt.Ensures (fun returned => returned = value) fun _ => False) :
    attempt = done value := by
  cases attempt with
  | done returned => exact congrArg done ensures
  | failed problem => exact ensures.elim
  | panicked => exact ensures.elim

theorem eq_done_iff_ensures {value : Value} :
    attempt = done value ↔ attempt.Ensures (fun returned => returned = value) fun _ => False := by
  constructor
  · rintro rfl
    exact ensures_done.mpr rfl
  · exact eq_done_of_ensures

theorem bind_eq_done_iff {next : Value → Attempt Problem Result} {result : Result} :
    (attempt >>= next) = done result ↔
      ∃ value, attempt = done value ∧ next value = done result := by
  cases attempt with
  | done value => simp [bind, andThen]
  | failed problem => simp [bind, andThen]
  | panicked => simp [bind, andThen]

theorem ofExcept_eq_done_iff {result : Except Problem Value} {value : Value} :
    ofExcept result = done value ↔ result = .ok value := by
  cases result with
  | ok returned => simp [ofExcept]
  | error problem => simp [ofExcept]

/-- A condition on the state and the item at every turn of a loop. -/
def Each {State : Type v} {Item : Type w} (Holds : State → Item → Prop)
    (next : State → Item → State) : State → List Item → Prop
  | _, [] => True
  | state, item :: rest => Holds state item ∧ Each Holds next (next state item) rest

/-- A loop whose turns each need a condition and then return what a function computes. -/
theorem ensures_foldlM {State : Type v} {Item : Type w}
    {turn : State → Item → Attempt Problem State} {next : State → Item → State}
    {Holds : State → Item → Prop} {onState : State → Prop}
    (turn_iff : ∀ state item (onTurn : State → Prop),
      (turn state item).Ensures onTurn onFailed ↔ Holds state item ∧ onTurn (next state item))
    (items : List Item) (state : State) :
    (items.foldlM turn state).Ensures onState onFailed ↔
      Each Holds next state items ∧ onState (items.foldl next state) := by
  induction items generalizing state with
  | nil => simp [Each]
  | cons item rest ih =>
      simp only [List.foldlM_cons, ensures_bind, ih, Each, List.foldl_cons]
      rw [turn_iff]
      exact and_assoc.symm

end Attempt

end AxumConf
