import AxumConf.Lib.Tower

/-!
# Layers around a service that may panic

A shell is a layer that may also make a response of a panic from within.  Shells are listed like
layers, the innermost first.  A panic gets out where no shell rescues it, and a mark that a shell
sets on responses is found on exactly those that came through it, as long as the shells outside
neither set it nor take it away.
-/

namespace AxumConf.Tower

variable {Request Response Panic : Type}

@[ext] structure Shell (Request Response Panic : Type) extends Layer Request Response where
  /-- The response to a panic from within, or none where the panic goes on. -/
  rescue : Panic → Option Response := fun _ => none

namespace Shell

def wrap (shell : Shell Request Response Panic) (service : Request → Except Panic Response) :
    Request → Except Panic Response :=
  fun request =>
    match shell.inbound request with
    | .error response => .ok response
    | .ok passed =>
        match service passed with
        | .ok response => .ok (shell.outbound passed response)
        | .error panic =>
            match shell.rescue panic with
            | some response => .ok response
            | none => .error panic

def layers (shells : List (Shell Request Response Panic)) : List (Layer Request Response) :=
  shells.map Shell.toLayer

end Shell

/-- The service with all shells around it, the first of the list innermost. -/
def enclose (shells : List (Shell Request Response Panic))
    (service : Request → Except Panic Response) : Request → Except Panic Response :=
  shells.foldl (fun inner shell => shell.wrap inner) service

section Enclosing

variable {shells inner outer : List (Shell Request Response Panic)}
  {shell : Shell Request Response Panic} {service : Request → Except Panic Response}
  {request : Request} {response : Response} {panic : Panic}

@[simp] theorem enclose_nil (service : Request → Except Panic Response) :
    enclose [] service = service :=
  rfl

@[simp] theorem enclose_cons (shell : Shell Request Response Panic)
    (outer : List (Shell Request Response Panic)) (service : Request → Except Panic Response) :
    enclose (shell :: outer) service = enclose outer (shell.wrap service) :=
  rfl

theorem enclose_append (inner outer : List (Shell Request Response Panic))
    (service : Request → Except Panic Response) :
    enclose (inner ++ outer) service = enclose outer (enclose inner service) :=
  List.foldl_append

theorem admitted_cons_eq_ok {layer : Layer Request Response}
    {layers : List (Layer Request Response)} {passed : Request} :
    admitted (layer :: layers) request = .ok passed ↔
      ∃ reached, admitted layers request = .ok reached ∧ layer.inbound reached = .ok passed := by
  simp only [admitted]
  cases admitted layers request with
  | error early => simp [bind, Except.bind]
  | ok reached => simp [bind, Except.bind]

theorem admitted_append_eq_ok {inner outer : List (Layer Request Response)} {passed : Request} :
    admitted (inner ++ outer) request = .ok passed ↔
      ∃ reached, admitted outer request = .ok reached ∧ admitted inner reached = .ok passed := by
  induction inner generalizing passed with
  | nil => simp [admitted]
  | cons layer rest ih =>
      simp only [List.cons_append, admitted_cons_eq_ok, ih]
      constructor
      · rintro ⟨middle, ⟨reached, outside, inside⟩, passes⟩
        exact ⟨reached, outside, middle, inside, passes⟩
      · rintro ⟨reached, outside, middle, inside, passes⟩
        exact ⟨middle, ⟨reached, outside, inside⟩, passes⟩

/-- Only what the service makes of the request that gets in matters. -/
theorem enclose_congr {other : Request → Except Panic Response}
    (same : ∀ passed, admitted (Shell.layers shells) request = .ok passed →
      service passed = other passed) :
    enclose shells service request = enclose shells other request := by
  induction shells generalizing service other with
  | nil => exact same request rfl
  | cons shell outer ih =>
      rw [enclose_cons, enclose_cons]
      apply ih
      intro reached lets
      unfold Shell.wrap
      cases entered : shell.inbound reached with
      | error response => rfl
      | ok passed =>
          have inside : admitted (Shell.layers (shell :: outer)) request = .ok passed :=
            admitted_cons_eq_ok.mpr ⟨reached, lets, entered⟩
          simp only [same passed inside]

/-- The layer of an optional part lets a request in as it does itself, or as it came. -/
theorem admitted_layerOf_eq_ok {α : Type} {part : Option α} {enabled : α → Bool}
    {layer : α → Layer Request Response} {passed : Request} :
    admitted (layerOf part enabled layer) request = .ok passed ↔
      (part.filter enabled = none ∧ request = passed) ∨
        ∃ config, part.filter enabled = some config ∧
          (layer config).inbound request = .ok passed := by
  cases part with
  | none => simp [layerOf, admitted]
  | some config =>
      cases isEnabled : enabled config with
      | false => simp [layerOf, admitted, isEnabled, Option.filter]
      | true => simp [layerOf, admitted, isEnabled, Option.filter, bind, Except.bind]

/-- What can become of a request at a shell. -/
inductive Shell.Wrapped (shell : Shell Request Response Panic)
    (service : Request → Except Panic Response) (request : Request) :
    Except Panic Response → Prop where
  | answered (response : Response) (answers : shell.inbound request = .error response) :
      Wrapped shell service request (.ok response)
  | served (passed : Request) (inside : Response) (passes : shell.inbound request = .ok passed)
      (served : service passed = .ok inside) :
      Wrapped shell service request (.ok (shell.outbound passed inside))
  | rescued (passed : Request) (panic : Panic) (made : Response)
      (passes : shell.inbound request = .ok passed) (panics : service passed = .error panic)
      (rescues : shell.rescue panic = some made) : Wrapped shell service request (.ok made)
  | panicked (passed : Request) (panic : Panic) (passes : shell.inbound request = .ok passed)
      (panics : service passed = .error panic) (loose : shell.rescue panic = none) :
      Wrapped shell service request (.error panic)

theorem Shell.wrapped (shell : Shell Request Response Panic)
    (service : Request → Except Panic Response) (request : Request) :
    shell.Wrapped service request (shell.wrap service request) := by
  unfold Shell.wrap
  cases entered : shell.inbound request with
  | error response => exact .answered response entered
  | ok passed =>
      cases returned : service passed with
      | ok inside =>
          simp only [returned]
          exact .served passed inside entered returned
      | error panic =>
          simp only [returned]
          cases rescues : shell.rescue panic with
          | some made => exact .rescued passed panic made entered returned rescues
          | none => exact .panicked passed panic entered returned rescues

theorem wrap_eq_error_iff :
    shell.wrap service request = .error panic ↔
      (∃ passed, shell.inbound request = .ok passed ∧ service passed = .error panic) ∧
        shell.rescue panic = none := by
  constructor
  · intro panics
    have wrapped := shell.wrapped service request
    rw [panics] at wrapped
    cases wrapped with
    | panicked passed _ passes panicsWithin loose => exact ⟨⟨passed, passes, panicsWithin⟩, loose⟩
  · rintro ⟨⟨passed, passes, panics⟩, loose⟩
    simp only [Shell.wrap, passes, panics, loose]

/-- A panic gets out exactly when the request reaches the service that panics and no shell rescues
it. -/
theorem enclose_eq_error_iff :
    enclose shells service request = .error panic ↔
      (∃ passed, admitted (Shell.layers shells) request = .ok passed ∧
        service passed = .error panic) ∧ ∀ shell ∈ shells, shell.rescue panic = none := by
  induction shells generalizing service with
  | nil => simp [Shell.layers, admitted]
  | cons shell outer ih =>
      rw [enclose_cons, ih]
      simp only [Shell.layers, List.map_cons, admitted_cons_eq_ok, wrap_eq_error_iff,
        List.forall_mem_cons]
      constructor
      · rintro ⟨⟨reached, admits, ⟨passed, passes, panics⟩, loose⟩, looseOuter⟩
        exact ⟨⟨passed, ⟨reached, admits, passes⟩, panics⟩, loose, looseOuter⟩
      · rintro ⟨⟨passed, ⟨reached, admits, passes⟩, panics⟩, loose, looseOuter⟩
        exact ⟨⟨reached, admits, ⟨passed, passes, panics⟩, loose⟩, looseOuter⟩

/-- The shell neither sets the mark nor takes it away, and its own responses are without it. -/
structure Shell.Neutral (mark : Response → Prop) (shell : Shell Request Response Panic) :
    Prop where
  outbound_iff : ∀ request passed response, shell.inbound request = .ok passed →
    (mark (shell.outbound passed response) ↔ mark response)
  answers : ∀ request response, shell.inbound request = .error response → ¬mark response
  rescues : ∀ panic response, shell.rescue panic = some response → ¬mark response

/-- Every response from within leaves the shell with the mark, and no other does. -/
structure Shell.Sets (mark : Response → Prop) (shell : Shell Request Response Panic) :
    Prop where
  outbound : ∀ request passed response, shell.inbound request = .ok passed →
    mark (shell.outbound passed response)
  answers : ∀ request response, shell.inbound request = .error response → ¬mark response
  rescues : ∀ panic response, shell.rescue panic = some response → ¬mark response

variable {mark : Response → Prop}

/-- The shell passes every request on, and panics with it. -/
structure Shell.Passing (shell : Shell Request Response Panic) : Prop where
  passes : ∀ request, ∃ passed, shell.inbound request = .ok passed
  loose : ∀ panic, shell.rescue panic = none

theorem Shell.Passing.neutral (passing : shell.Passing)
    (outbound_iff : ∀ request passed response, shell.inbound request = .ok passed →
      (mark (shell.outbound passed response) ↔ mark response)) : shell.Neutral mark where
  outbound_iff := outbound_iff
  answers := by
    intro request response answers
    rcases passing.passes request with ⟨passed, passes⟩
    rw [passes] at answers
    cases answers
  rescues := by
    intro panic response rescues
    rw [passing.loose] at rescues
    cases rescues

theorem Shell.Passing.sets (passing : shell.Passing)
    (outbound : ∀ request passed response, shell.inbound request = .ok passed →
      mark (shell.outbound passed response)) : shell.Sets mark where
  outbound := outbound
  answers := by
    intro request response answers
    rcases passing.passes request with ⟨passed, passes⟩
    rw [passes] at answers
    cases answers
  rescues := by
    intro panic response rescues
    rw [passing.loose] at rescues
    cases rescues

theorem Shell.Neutral.wrap_iff (neutral : shell.Neutral mark)
    (returned : shell.wrap service request = .ok response) :
    mark response ↔ ∃ passed inside, shell.inbound request = .ok passed ∧
      service passed = .ok inside ∧ mark inside := by
  have wrapped := shell.wrapped service request
  rw [returned] at wrapped
  cases wrapped with
  | answered _ answers => simp [answers, neutral.answers request response answers]
  | served passed inside passes served =>
      simp [passes, served, neutral.outbound_iff request passed inside passes]
  | rescued passed panic _ passes panics rescues =>
      simp [passes, panics, neutral.rescues panic response rescues]

theorem Shell.Sets.wrap_iff (sets : shell.Sets mark)
    (returned : shell.wrap service request = .ok response) :
    mark response ↔ ∃ passed inside, shell.inbound request = .ok passed ∧
      service passed = .ok inside := by
  have wrapped := shell.wrapped service request
  rw [returned] at wrapped
  cases wrapped with
  | answered _ answers => simp [answers, sets.answers request response answers]
  | served passed inside passes served =>
      simp [passes, served, sets.outbound request passed inside passes]
  | rescued passed panic _ passes panics rescues =>
      simp [passes, panics, sets.rescues panic response rescues]

/-- Neutral shells leave it to the service which responses are marked. -/
theorem mark_iff_of_neutral (neutral : ∀ shell ∈ outer, shell.Neutral mark)
    (returned : enclose outer service request = .ok response) :
    mark response ↔ ∃ passed inside, admitted (Shell.layers outer) request = .ok passed ∧
      service passed = .ok inside ∧ mark inside := by
  induction outer generalizing service with
  | nil =>
      rw [enclose_nil] at returned
      simp [Shell.layers, admitted, returned]
  | cons shell rest ih =>
      rcases List.forall_mem_cons.mp neutral with ⟨neutralShell, neutralRest⟩
      rw [ih neutralRest returned]
      simp only [Shell.layers, List.map_cons, admitted_cons_eq_ok]
      constructor
      · rintro ⟨reached, outside, admits, served, marked⟩
        rcases (neutralShell.wrap_iff served).mp marked with
          ⟨passed, inside, passes, servedInside, markedInside⟩
        exact ⟨passed, inside, ⟨reached, admits, passes⟩, servedInside, markedInside⟩
      · rintro ⟨passed, inside, ⟨reached, admits, passes⟩, servedInside, markedInside⟩
        have served : shell.wrap service reached = .ok (shell.outbound passed inside) := by
          simp only [Shell.wrap, passes, servedInside]
        refine ⟨reached, _, admits, served, ?_⟩
        exact (neutralShell.outbound_iff reached passed inside passes).mpr markedInside

/-- The marked responses are those that came through the shell that sets the mark. -/
theorem mark_iff_of_sets (sets : shell.Sets mark)
    (neutral : ∀ shell ∈ outer, shell.Neutral mark)
    (returned : enclose (inner ++ shell :: outer) service request = .ok response) :
    mark response ↔ ∃ passed inside,
      admitted (Shell.layers (shell :: outer)) request = .ok passed ∧
        enclose inner service passed = .ok inside := by
  rw [enclose_append, enclose_cons] at returned
  rw [mark_iff_of_neutral neutral returned]
  simp only [Shell.layers, List.map_cons, admitted_cons_eq_ok]
  constructor
  · rintro ⟨reached, outside, admits, served, marked⟩
    rcases (sets.wrap_iff served).mp marked with ⟨passed, inside, passes, servedInside⟩
    exact ⟨passed, inside, ⟨reached, admits, passes⟩, servedInside⟩
  · rintro ⟨passed, inside, ⟨reached, admits, passes⟩, servedInside⟩
    have served : shell.wrap (enclose inner service) reached =
        .ok (shell.outbound passed inside) := by
      simp only [Shell.wrap, passes, servedInside]
    exact ⟨reached, _, admits, served, sets.outbound reached passed inside passes⟩

end Enclosing

end AxumConf.Tower
