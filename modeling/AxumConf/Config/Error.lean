import Mathlib.Data.String.Basic

/-! # Errors of the configuration checks -/

namespace AxumConf

inductive ErrorKind where
  | database
  | authentication
  | configuration
  | tls
  | io
  | invalidInput
  | circuitBreakerOpen
  | circuitBreakerFailed
  | internal
  deriving DecidableEq, Repr

structure Error where
  kind : ErrorKind
  message : String
  deriving DecidableEq, Repr

def Error.invalidInput (message : String) : Error := { kind := .invalidInput, message }

def Error.config (message : String) : Error := { kind := .configuration, message }

abbrev Checked := Except Error Unit

def rejectIf (bad : Bool) (error : Error) : Checked :=
  if bad then .error error else .ok ()

@[simp] theorem rejectIf_ok {bad : Bool} {error : Error} :
    rejectIf bad error = .ok () ↔ bad = false := by
  cases bad <;> simp [rejectIf]

theorem bind_eq_ok_iff {Value Result : Type} {first : Except Error Value}
    {next : Value → Except Error Result} {result : Result} :
    (first >>= next) = .ok result ↔ ∃ value, first = .ok value ∧ next value = .ok result := by
  cases first with
  | error problem => simp [bind, Except.bind]
  | ok value => simp [bind, Except.bind]

@[simp] theorem checked_bind_ok {first : Checked} {next : Unit → Checked} :
    (first >>= next) = .ok () ↔ first = .ok () ∧ next () = .ok () := by
  cases first with
  | error problem => simp [bind, Except.bind]
  | ok done => simp [bind, Except.bind]

theorem forM_ok {α : Type} {check : α → Checked} {items : List α} :
    items.forM check = .ok () ↔ ∀ item ∈ items, check item = .ok () := by
  induction items with
  | nil => simp [pure, Except.pure]
  | cons item rest ih =>
      have unfold_cons : (item :: rest).forM check = (check item >>= fun _ => rest.forM check) :=
        rfl
      simp only [unfold_cons, checked_bind_ok, ih, List.forall_mem_cons]

end AxumConf
