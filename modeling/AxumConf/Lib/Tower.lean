import Mathlib.Logic.Basic

/-!
# Layered services

A service answers requests; a layer stands before a service and, on the way in, answers a request
itself or passes one on, and on the way out may change the response.  Layers are listed in the
order in which they are added, so the last one is outermost and sees a request first.

`admitted` is the request that comes out of a stack on the inside, and `Ensures` the weakest
condition under which whatever comes out satisfies a predicate.
-/

namespace AxumConf.Tower

variable {Request Response : Type}

@[ext] structure Layer (Request Response : Type) where
  /-- Answers the request or passes one on. -/
  inbound : Request → Except Response Request
  /-- Changes the response to the request that the layer passed on. -/
  outbound : Request → Response → Response := fun _ response => response

def Layer.wrap (layer : Layer Request Response) (service : Request → Response) :
    Request → Response :=
  fun request =>
    match layer.inbound request with
    | .error response => response
    | .ok passed => layer.outbound passed (service passed)

/-- The service with all layers around it, the first of the list innermost. -/
def stack (layers : List (Layer Request Response)) (service : Request → Response) :
    Request → Response :=
  layers.foldl (fun inner layer => layer.wrap inner) service

/-- What reaches the service inside the layers, or the response of the layer that answered. -/
def admitted : List (Layer Request Response) → Request → Except Response Request
  | [], request => .ok request
  | layer :: outer, request => admitted outer request >>= layer.inbound

def Layer.Transparent (layer : Layer Request Response) : Prop :=
  ∀ request response, layer.outbound request response = response

/-- With transparent layers the service's response is the response of the stack. -/
theorem stack_eq_of_transparent {layers : List (Layer Request Response)}
    (transparent : ∀ layer ∈ layers, layer.Transparent) (service : Request → Response)
    (request : Request) :
    stack layers service request =
      match admitted layers request with
      | .error response => response
      | .ok passed => service passed := by
  induction layers generalizing service with
  | nil => rfl
  | cons layer outer ih =>
      have wrapped := ih (fun other member => transparent other (.tail _ member))
        (layer.wrap service)
      have unchanged := transparent layer (.head _)
      simp only [stack, List.foldl_cons] at wrapped ⊢
      refine wrapped.trans ?_
      simp only [admitted]
      cases admitted outer request with
      | error response => rfl
      | ok passed =>
          simp only [Layer.wrap, bind, Except.bind]
          cases layer.inbound passed with
          | error response => rfl
          | ok inner => exact unchanged inner _

def Layer.Ensures (layer : Layer Request Response) (post : Request → Prop) (request : Request) :
    Prop :=
  ∀ passed, layer.inbound request = .ok passed → post passed

/-- The layers answer the request or let one in that satisfies the predicate. -/
def Ensures (layers : List (Layer Request Response)) (post : Request → Prop) (request : Request) :
    Prop :=
  ∀ passed, admitted layers request = .ok passed → post passed

@[simp] theorem ensures_nil {post : Request → Prop} {request : Request} :
    Ensures ([] : List (Layer Request Response)) post request ↔ post request := by
  constructor
  · intro ensures
    exact ensures request rfl
  · intro holds passed same
    cases same
    exact holds

@[simp] theorem ensures_cons {layer : Layer Request Response}
    {outer : List (Layer Request Response)} {post : Request → Prop} {request : Request} :
    Ensures (layer :: outer) post request ↔ Ensures outer (layer.Ensures post) request := by
  unfold Ensures Layer.Ensures
  simp only [admitted]
  cases admitted outer request with
  | error response => simp [bind, Except.bind]
  | ok middle => simp [bind, Except.bind]

theorem ensures_append {inner outer : List (Layer Request Response)} {post : Request → Prop}
    {request : Request} :
    Ensures (inner ++ outer) post request ↔ Ensures outer (Ensures inner post) request := by
  induction inner generalizing request post with
  | nil =>
      have same : Ensures ([] : List (Layer Request Response)) post = post := by
        funext other
        exact propext ensures_nil
      rw [List.nil_append, same]
  | cons layer rest ih =>
      have same : Ensures (layer :: rest) post = Ensures rest (layer.Ensures post) := by
        funext other
        exact propext ensures_cons
      rw [List.cons_append, ensures_cons, ih, same]

/-- Every request of which `decides` holds is answered by the layers or reaches the goal in them;
any other comes out as it went in. -/
def Settles (goal : Request → Prop) (layers : List (Layer Request Response))
    (decides : Request → Prop) : Prop :=
  ∀ post : Request → Prop, (∀ request, goal request → post request) →
    ∀ request, Ensures layers post request ↔ decides request ∨ post request

/-- Outer layers decide first, inner ones decide about what those leave open. -/
theorem Settles.append {goal innerDecides outerDecides : Request → Prop}
    {inner outer : List (Layer Request Response)}
    (settlesInner : Settles goal inner innerDecides)
    (settlesOuter : Settles goal outer outerDecides) :
    Settles goal (inner ++ outer) fun request => outerDecides request ∨ innerDecides request := by
  intro post reached request
  have inside : Ensures inner post = fun passed => innerDecides passed ∨ post passed := by
    funext passed
    exact propext (settlesInner post reached passed)
  rw [ensures_append, inside, settlesOuter _ (fun passed holds => .inr (reached passed holds)),
    or_assoc]

/-- The layer of a part of a configuration that is present and enabled. -/
def layerOf {α Kind : Type} (part : Option α) (enabled : α → Bool) (layer : α → Kind) : List Kind :=
  match part with
  | some config => if enabled config then [layer config] else []
  | none => []

theorem map_layerOf {α Kind Other : Type} {part : Option α} {enabled : α → Bool}
    {layer : α → Kind} {convert : Kind → Other} :
    (layerOf part enabled layer).map convert =
      layerOf part enabled fun config => convert (layer config) := by
  cases part with
  | none => rfl
  | some config => cases isEnabled : enabled config <;> simp [layerOf, isEnabled]

theorem layerOf_ne_nil {α Kind : Type} {part : Option α} {enabled : α → Bool}
    {layer : α → Kind} : layerOf part enabled layer ≠ [] ↔ part.any enabled = true := by
  cases part with
  | none => simp [layerOf]
  | some config => cases isEnabled : enabled config <;> simp [layerOf, isEnabled]

theorem mem_layerOf {α Kind : Type} {part : Option α} {enabled : α → Bool} {layer : α → Kind}
    {kind : Kind} :
    kind ∈ layerOf part enabled layer ↔
      ∃ config, part.filter enabled = some config ∧ layer config = kind := by
  cases part with
  | none => simp [layerOf]
  | some config =>
      cases isEnabled : enabled config with
      | false => simp [layerOf, isEnabled]
      | true =>
          simp only [layerOf, isEnabled, if_true, List.mem_singleton, Option.filter_some,
            Option.some.injEq, exists_eq_left']
          exact eq_comm

theorem ensures_layerOf {α : Type} {part : Option α} {enabled : α → Bool}
    {layer : α → Layer Request Response} {decides : α → Request → Prop} {post : Request → Prop}
    (settles : ∀ config request,
      Ensures [layer config] post request ↔ decides config request ∨ post request)
    (request : Request) :
    Ensures (layerOf part enabled layer) post request ↔
      (∃ config, part = some config ∧ enabled config = true ∧ decides config request) ∨
        post request := by
  cases part with
  | none => simp [layerOf]
  | some config =>
      cases isEnabled : enabled config with
      | false => simp [layerOf, isEnabled]
      | true =>
          simp only [layerOf, isEnabled, if_true, Option.some.injEq, exists_eq_left', true_and]
          exact settles config request

theorem Settles.layerOf {α : Type} {goal : Request → Prop} {part : Option α} {enabled : α → Bool}
    {layer : α → Layer Request Response} {decides : α → Request → Prop}
    (settles : ∀ config, Settles goal [layer config] (decides config)) :
    Settles goal (layerOf part enabled layer) fun request =>
      ∃ config, part = some config ∧ enabled config = true ∧ decides config request := by
  intro post reached request
  exact ensures_layerOf (fun config other => settles config post reached other) request

theorem exists_of_admitted_error {layers : List (Layer Request Response)} {request : Request}
    {response : Response} (answers : admitted layers request = .error response) :
    ∃ layer ∈ layers, ∃ other, layer.inbound other = .error response := by
  induction layers with
  | nil => cases answers
  | cons layer outer ih =>
      simp only [admitted] at answers
      cases middle : admitted outer request with
      | error early =>
          simp only [middle, bind, Except.bind, Except.error.injEq] at answers
          subst answers
          obtain ⟨other, member, answered⟩ := ih middle
          exact ⟨other, .tail _ member, answered⟩
      | ok passed =>
          simp only [middle, bind, Except.bind] at answers
          exact ⟨layer, .head _, passed, answers⟩

theorem admitted_keeps {α : Type} {view : Request → α} {layers : List (Layer Request Response)}
    (keeps : ∀ layer ∈ layers, ∀ request passed,
      layer.inbound request = .ok passed → view passed = view request)
    {request passed : Request} (admits : admitted layers request = .ok passed) :
    view passed = view request := by
  induction layers generalizing passed with
  | nil =>
      cases admits
      rfl
  | cons layer outer ih =>
      simp only [admitted] at admits
      cases middle : admitted outer request with
      | error response => simp [middle, bind, Except.bind] at admits
      | ok inner =>
          simp only [middle, bind, Except.bind] at admits
          calc view passed = view inner := keeps layer (.head _) inner passed admits
            _ = view request :=
              ih (fun other member => keeps other (.tail _ member)) middle

theorem admitted_append {inner outer : List (Layer Request Response)} {request : Request} :
    admitted (inner ++ outer) request = admitted outer request >>= admitted inner := by
  induction inner with
  | nil =>
      cases outside : admitted outer request with
      | error response => simp [outside, bind, Except.bind]
      | ok reached => simp [admitted, outside, bind, Except.bind]
  | cons layer rest ih =>
      rw [List.cons_append, admitted, ih]
      cases admitted outer request with
      | error response => rfl
      | ok reached => rfl

/-- A request comes out on the inside where the layers outside of one of them bring a request that
this one passes on, and those inside of it let in what it passed on. -/
theorem admitted_around {layer : Layer Request Response}
    {inner outer : List (Layer Request Response)} {request passed : Request} :
    admitted (inner ++ layer :: outer) request = .ok passed ↔
      ∃ reached after, admitted outer request = .ok reached ∧ layer.inbound reached = .ok after ∧
        admitted inner after = .ok passed := by
  rw [admitted_append, admitted]
  cases outside : admitted outer request with
  | error response => simp [bind, Except.bind]
  | ok reached =>
      cases answers : layer.inbound reached with
      | error response => simp [bind, Except.bind, answers]
      | ok after => simp [bind, Except.bind, answers]

/-- A layer that passes good requests on as good ones and answers them with acceptable responses. -/
structure Layer.Upholds (layer : Layer Request Response) (Good : Request → Prop)
    (Acceptable : Response → Prop) : Prop where
  passes : ∀ request passed, Good request → layer.inbound request = .ok passed → Good passed
  answers : ∀ request response, Good request → layer.inbound request = .error response →
    Acceptable response

/-- What each layer upholds, the stack upholds. -/
theorem admitted_upholds {Good : Request → Prop} {Acceptable : Response → Prop}
    {layers : List (Layer Request Response)}
    (upholds : ∀ layer ∈ layers, layer.Upholds Good Acceptable) {request : Request}
    (good : Good request) :
    (∀ passed, admitted layers request = .ok passed → Good passed) ∧
      ∀ response, admitted layers request = .error response → Acceptable response := by
  induction layers with
  | nil =>
      constructor
      · rintro passed ⟨⟩
        exact good
      · rintro response ⟨⟩
  | cons layer outer ih =>
      rcases ih fun other member => upholds other (.tail _ member) with ⟨passes, answers⟩
      simp only [admitted]
      cases middle : admitted outer request with
      | error early =>
          constructor
          · rintro passed ⟨⟩
          · rintro response ⟨⟩
            exact answers early middle
      | ok inner =>
          have isGood : Good inner := passes inner middle
          have own := upholds layer (.head _)
          constructor
          · intro passed admits
            exact own.passes inner passed isGood admits
          · intro response answered
            exact own.answers inner response isGood answered

end AxumConf.Tower
