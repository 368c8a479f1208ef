import LateBinding.Factory
import Mathlib.Data.List.Forall2

/-!
Compiled plans against the plain reading of a descriptor. Each piece of a plan
does what the reading does at the same place of a call, for descriptors of every
shape, so the factories accept and reject the same descriptors for the same
reasons, and their invokers are the same functions. A client that has invokers
of one factory swapped for those of another cannot tell.
-/

namespace LateBinding

variable {σ ε : Type}

namespace Compiled

theorem run_ofType (type : ParamType) (position : Position) (datum : Datum σ ε) :
    (Conversion.ofType type).run position datum = Interpreted.marshal type position datum := by
  cases type with
  | value native declaredName =>
      cases datum with
      | null => rfl
      | value boxed =>
          by_cases same : boxed.native = native <;>
            simp [Conversion.ofType, ParamType.kind, ParamType.native, ParamType.name,
              Conversion.run, Interpreted.marshal, Datum.valueAs?, Datum.value?,
              Option.filter, same]
      | object ref => rfl
  | reference native nullable =>
      cases datum with
      | null => cases nullable <;> rfl
      | value boxed => cases nullable <;> rfl
      | object ref =>
          cases derives : ref.derivesFrom native <;>
            simp [Conversion.ofType, ParamType.kind, ParamType.native, ParamType.name,
              Conversion.run, Interpreted.marshal, Datum.downcast?, Datum.object?,
              Option.filter, derives, Datum.isNull]

-- The conversions of a plan, run over arguments that stand at positions from
-- `index` on.
theorem mapM_conversions (index : Nat) (types : List ParamType) (arguments : List (Datum σ ε)) :
    (((types.map Conversion.ofType).zip arguments).zipIdx index).mapM
        (fun entry => entry.1.1.run (.argument entry.2) entry.1.2) =
      Interpreted.marshalFrom index types arguments := by
  induction types generalizing index arguments with
  | nil => rfl
  | cons type types ih =>
      cases arguments with
      | nil => rfl
      | cons datum rest =>
          rw [List.map_cons, List.zip_cons_cons, List.zipIdx_cons, List.mapM_cons, ih,
            run_ofType, Interpreted.marshalFrom]
          cases Interpreted.marshal type (.argument index) datum with
          | error error => rfl
          | ok first => cases Interpreted.marshalFrom (index + 1) types rest <;> rfl

theorem run_ofTypes (types : List ParamType) (arguments : List (Datum σ ε)) :
    (ArgumentPlan.ofTypes types).run arguments = Interpreted.marshalAll types arguments := by
  have converted := mapM_conversions 0 types arguments
  by_cases count : types.length = arguments.length
  · simpa [ArgumentPlan.run, ArgumentPlan.ofTypes, Interpreted.marshalAll, count] using converted
  · simp [ArgumentPlan.run, ArgumentPlan.ofTypes, Interpreted.marshalAll, count]

-- A target fits a value class as a box of its type, and a reference class as an
-- object that derives from its type.
theorem fits_eq (c : RuntimeClass σ ε) (target : Datum σ ε) :
    Interpreted.fits c target =
      match c.kind with
      | .value => (target.valueAs? c.native).isSome
      | .reference => (target.downcast? c.native).isSome := by
  cases kind : c.kind with
  | value =>
      cases target with
      | null => rfl
      | value boxed => by_cases same : boxed.native = c.native <;>
          simp [Interpreted.fits, Datum.valueAs?, Datum.value?, Option.filter, kind, same]
      | object ref => simp [Interpreted.fits, Datum.valueAs?, Datum.value?, kind]
  | reference =>
      cases target with
      | null => rfl
      | value boxed => simp [Interpreted.fits, Datum.downcast?, Datum.object?, kind]
      | object ref => cases derives : ref.derivesFrom c.native <;>
          simp [Interpreted.fits, Datum.downcast?, Datum.object?, Option.filter, kind, derives]

theorem check_ofClass (c : RuntimeClass σ ε) (target : Datum σ ε) :
    (TargetPlan.ofClass c).check target = Interpreted.checkTarget c target := by
  rw [Interpreted.checkTarget, fits_eq, TargetPlan.ofClass]
  cases c.kind with
  | value => rfl
  | reference => rfl

theorem constructorPlan_run (c : Constructor σ ε) :
    ConstructorPlan.run ⟨c.declaring, .ofTypes c.params, c.body⟩ = Interpreted.construct c := by
  funext heap arguments
  have prepared := run_ofTypes c.params arguments
  unfold ConstructorPlan.run Interpreted.construct
  cases marshalled : Interpreted.marshalAll c.params arguments with
  | error error => rw [prepared, marshalled]
  | ok own => rw [prepared, marshalled]

theorem propertyPlan_run (p : Property σ ε) (setter : SetterBody σ ε) :
    PropertyPlan.run ⟨.ofClass p.declaring, .ofType p.type, setter⟩ =
      Interpreted.assign p setter := by
  funext heap target value
  simp only [PropertyPlan.run, PropertyPlan.prepare, Interpreted.assign, check_ofClass, run_ofType]
  cases Interpreted.checkTarget p.declaring target with
  | error error => rfl
  | ok _ => cases Interpreted.marshal p.type .value value <;> rfl

theorem find_routeOf {m : Method σ ε} {route : Route σ ε} (routed : m.checkRoute = .ok route)
    (target : Datum σ ε) :
    (MethodPlan.routeOf m route).find target = Interpreted.bodyFor m target := by
  unfold Method.checkRoute at routed
  split at routed
  · cases dispatch : m.dispatch with
    | direct =>
        cases body : m.body with
        | none => simp [dispatch, body] at routed
        | some own =>
            simp only [dispatch, body, Except.ok.injEq] at routed
            subst route
            simp [MethodPlan.routeOf, RoutePlan.find, Interpreted.bodyFor, dispatch, body]
    | «virtual» slot =>
        simp only [dispatch] at routed
        -- The two verdicts against a virtual method leave no route to compare.
        split at routed
        · cases routed
        · split at routed
          · cases routed
          · cases routed
            simp [MethodPlan.routeOf, RoutePlan.find, Interpreted.bodyFor, dispatch]
  · cases routed

theorem methodPlan_run {m : Method σ ε} {route : Route σ ε} (routed : m.checkRoute = .ok route) :
    MethodPlan.run ⟨.ofClass m.declaring, .ofTypes m.params, MethodPlan.routeOf m route⟩ =
      Interpreted.call m := by
  funext heap target arguments
  simp only [MethodPlan.run, MethodPlan.prepare, Interpreted.call, check_ofClass, run_ofTypes,
    find_routeOf routed]
  cases Interpreted.checkTarget m.declaring target with
  | error error => rfl
  | ok _ =>
      cases Interpreted.marshalAll m.params arguments with
      | error error => rfl
      | ok marshalled => cases Interpreted.bodyFor m target <;> rfl

end Compiled

namespace Factory

theorem answer_finish {α β : Type} (factory : Factory) (naming : Naming) (sort : String)
    (plan : Except SynthesisError α) (make : String → α → β) (report : String → Event) :
    (factory.finish naming sort plan make report).answer =
      plan.map (make (naming.next factory.options).1) := by
  cases plan <;> rfl

-- Whatever the strategy, the options and the names handed out before, a
-- constructor is accepted or rejected by its check, and its invoker reads the
-- descriptor.
theorem answer_constructorInvoker (factory : Factory) (naming : Naming) (c : Constructor σ ε) :
    (factory.constructorInvoker naming c).answer.map (·.invoke) =
      c.check.map fun _ => Interpreted.construct c := by
  unfold constructorInvoker
  cases factory.strategy with
  | compiled =>
      simp only [answer_finish, Compiled.ConstructorPlan.compile]
      cases c.check with
      | error error => rfl
      | ok _ => exact congrArg Except.ok (Compiled.constructorPlan_run c)
  | interpreted =>
      simp only [answer_finish]
      cases c.check <;> rfl

theorem answer_propertyInvoker (factory : Factory) (naming : Naming) (p : Property σ ε) :
    (factory.propertyInvoker naming p).answer.map (·.invoke) =
      p.checkSetter.map (Interpreted.assign p) := by
  unfold propertyInvoker
  cases factory.strategy with
  | compiled =>
      simp only [answer_finish, Compiled.PropertyPlan.compile]
      cases p.checkSetter with
      | error error => rfl
      | ok setter => exact congrArg Except.ok (Compiled.propertyPlan_run p setter)
  | interpreted =>
      simp only [answer_finish]
      cases p.checkSetter <;> rfl

theorem answer_methodInvoker (factory : Factory) (naming : Naming) (m : Method σ ε) :
    (factory.methodInvoker naming m).answer.map (·.invoke) =
      m.checkRoute.map fun _ => Interpreted.call m := by
  unfold methodInvoker
  cases factory.strategy with
  | compiled =>
      simp only [answer_finish, Compiled.MethodPlan.compile]
      cases routed : m.checkRoute with
      | error error => rfl
      | ok route => exact congrArg Except.ok (Compiled.methodPlan_run routed)
  | interpreted =>
      simp only [answer_finish]
      cases m.checkRoute <;> rfl

end Factory

/-! Clients. A client has invokers at hand and decides each of its moves from all
replies so far and from the objects, on which it may also work itself. -/

inductive Invocation (σ ε : Type) where
  | construct (invoker : Nat) (arguments : List (Datum σ ε))
  | assign (invoker : Nat) (target value : Datum σ ε)
  | call (invoker : Nat) (target : Datum σ ε) (arguments : List (Datum σ ε))

inductive Reply (σ ε : Type) where
  | constructed (outcome : Outcome σ ε (Datum σ ε))
  | completed (completion : Completion σ ε)

def Reply.heap : Reply σ ε → Heap σ
  | .constructed outcome => outcome.heap
  | .completed completion => completion.heap

/-- The next move, given the replies so far, the latest first: the objects as the
client leaves them, and an invocation. -/
abbrev Client (σ ε : Type) := List (Reply σ ε) → Heap σ → Option (Heap σ × Invocation σ ε)

structure Toolbox (σ ε : Type) where
  constructors : List (ConstructorInvoker σ ε)
  properties : List (PropertyInvoker σ ε)
  methods : List (MethodInvoker σ ε)

namespace Toolbox

def reply? (tools : Toolbox σ ε) (heap : Heap σ) : Invocation σ ε → Option (Reply σ ε)
  | .construct invoker arguments =>
      (tools.constructors[invoker]?).map fun tool => .constructed (tool.invoke heap arguments)
  | .assign invoker target value =>
      (tools.properties[invoker]?).map fun tool => .completed (tool.invoke heap target value)
  | .call invoker target arguments =>
      (tools.methods[invoker]?).map fun tool => .completed (tool.invoke heap target arguments)

def run (tools : Toolbox σ ε) (client : Client σ ε) :
    Nat → List (Reply σ ε) → Heap σ → List (Reply σ ε) × Heap σ
  | 0, replies, heap => (replies, heap)
  | steps + 1, replies, heap =>
      match client replies heap with
      | none => (replies, heap)
      | some (left, invocation) =>
          match tools.reply? left invocation with
          | none => (replies, left)
          | some reply => tools.run client steps (reply :: replies) reply.heap

end Toolbox

/-- Two invokers of which the one may stand for the other: they are the same, or
factories made both from one descriptor. -/
def Twins {δ ι : Type} (make : Factory → Naming → δ → Synthesis ι) (a b : ι) : Prop :=
  a = b ∨ ∃ descriptor f g naming other,
    (make f naming descriptor).answer = .ok a ∧ (make g other descriptor).answer = .ok b

/-- Some invokers of the one toolbox are swapped for their twins in the other. -/
structure Toolbox.Swapped (tools other : Toolbox σ ε) : Prop where
  constructors : List.Forall₂ (Twins Factory.constructorInvoker)
    tools.constructors other.constructors
  properties : List.Forall₂ (Twins Factory.propertyInvoker) tools.properties other.properties
  methods : List.Forall₂ (Twins Factory.methodInvoker) tools.methods other.methods

theorem Twins.same_act {δ ι β : Type} {make : Factory → Naming → δ → Synthesis ι} {act : ι → β}
    (agree : ∀ f g naming other descriptor,
      (make f naming descriptor).answer.map act = (make g other descriptor).answer.map act)
    {a b : ι} (twins : Twins make a b) : act a = act b := by
  rcases twins with same | ⟨descriptor, f, g, naming, other, first, second⟩
  · rw [same]
  · have both := agree f g naming other descriptor
    rw [first, second] at both
    exact Except.ok.inj both

theorem map_eq_of_twins {δ ι β : Type} {make : Factory → Naming → δ → Synthesis ι} {act : ι → β}
    (agree : ∀ f g naming other descriptor,
      (make f naming descriptor).answer.map act = (make g other descriptor).answer.map act)
    {tools others : List ι} (swapped : List.Forall₂ (Twins make) tools others) :
    tools.map act = others.map act := by
  induction swapped with
  | nil => rfl
  | cons twins _ ih => rw [List.map_cons, List.map_cons, twins.same_act agree, ih]

namespace Factory

theorem constructorInvokers_agree (f g : Factory) (naming other : Naming) (c : Constructor σ ε) :
    (f.constructorInvoker naming c).answer.map (·.invoke) =
      (g.constructorInvoker other c).answer.map (·.invoke) :=
  (f.answer_constructorInvoker naming c).trans (g.answer_constructorInvoker other c).symm

theorem propertyInvokers_agree (f g : Factory) (naming other : Naming) (p : Property σ ε) :
    (f.propertyInvoker naming p).answer.map (·.invoke) =
      (g.propertyInvoker other p).answer.map (·.invoke) :=
  (f.answer_propertyInvoker naming p).trans (g.answer_propertyInvoker other p).symm

theorem methodInvokers_agree (f g : Factory) (naming other : Naming) (m : Method σ ε) :
    (f.methodInvoker naming m).answer.map (·.invoke) =
      (g.methodInvoker other m).answer.map (·.invoke) :=
  (f.answer_methodInvoker naming m).trans (g.answer_methodInvoker other m).symm

end Factory

namespace Toolbox

-- Only what invokers do shows in a reply, not their names.
theorem reply?_swapped {tools other : Toolbox σ ε} (swapped : tools.Swapped other) :
    tools.reply? = other.reply? := by
  have constructors : tools.constructors.map (·.invoke) = other.constructors.map (·.invoke) :=
    map_eq_of_twins Factory.constructorInvokers_agree swapped.constructors
  have properties : tools.properties.map (·.invoke) = other.properties.map (·.invoke) :=
    map_eq_of_twins Factory.propertyInvokers_agree swapped.properties
  have methods : tools.methods.map (·.invoke) = other.methods.map (·.invoke) :=
    map_eq_of_twins Factory.methodInvokers_agree swapped.methods
  funext heap invocation
  cases invocation with
  | construct invoker arguments =>
      have same := congrArg (fun acts => acts[invoker]?.map fun act =>
        Reply.constructed (act heap arguments)) constructors
      simpa [reply?, List.getElem?_map, Function.comp_def] using same
  | assign invoker target value =>
      have same := congrArg (fun acts => acts[invoker]?.map fun act =>
        Reply.completed (act heap target value)) properties
      simpa [reply?, List.getElem?_map, Function.comp_def] using same
  | call invoker target arguments =>
      have same := congrArg (fun acts => acts[invoker]?.map fun act =>
        Reply.completed (act heap target arguments)) methods
      simpa [reply?, List.getElem?_map, Function.comp_def] using same

theorem run_swapped {tools other : Toolbox σ ε} (swapped : tools.Swapped other)
    (client : Client σ ε)
    (steps : Nat) (replies : List (Reply σ ε)) (heap : Heap σ) :
    tools.run client steps replies heap = other.run client steps replies heap := by
  -- Equal replies leave equal objects and an equal history, from which the client goes on.
  have same := reply?_swapped swapped
  induction steps generalizing replies heap with
  | zero => rfl
  | succ steps ih => simp only [run, same, ih]

end Toolbox

/-- Any two factories accept the same descriptors and reject the others with the
same errors; invokers of one descriptor do the same with all arguments in every
state; and no client can tell invokers from their twins. -/
theorem factories_interchangeable :
    (∀ (f g : Factory) (naming other : Naming) (c : Constructor σ ε),
      (f.constructorInvoker naming c).answer.map (·.invoke) =
        (g.constructorInvoker other c).answer.map (·.invoke)) ∧
    (∀ (f g : Factory) (naming other : Naming) (p : Property σ ε),
      (f.propertyInvoker naming p).answer.map (·.invoke) =
        (g.propertyInvoker other p).answer.map (·.invoke)) ∧
    (∀ (f g : Factory) (naming other : Naming) (m : Method σ ε),
      (f.methodInvoker naming m).answer.map (·.invoke) =
        (g.methodInvoker other m).answer.map (·.invoke)) ∧
    (∀ (tools other : Toolbox σ ε), tools.Swapped other →
      ∀ (client : Client σ ε) (steps : Nat) (heap : Heap σ),
        tools.run client steps [] heap = other.run client steps [] heap) :=
  ⟨Factory.constructorInvokers_agree, Factory.propertyInvokers_agree,
    Factory.methodInvokers_agree,
    fun _ _ swapped client steps heap => Toolbox.run_swapped swapped client steps [] heap⟩

/-- A constructor of a value class whose body says it makes a value and makes an
object. -/
def misfit : Constructor Unit String :=
  ⟨.root ⟨"Box", ⟨1, "zoo::Box"⟩, .value, .plain, .empty⟩, [],
    .ofFunction .value fun heap _ =>
      ⟨.ok ⟨.reference, .root ⟨⟨2, "zoo::Crate"⟩, (), []⟩⟩, ["made"], heap⟩⟩

def constructOnce : Client Unit String := fun replies heap =>
  if replies.isEmpty then some (heap, .construct 0 []) else none

theorem misfit_interchangeable :
    ∃ a b : ConstructorInvoker Unit String,
      (Factory.constructorInvoker ⟨.compiled, .default⟩ .first misfit).answer = .ok a ∧
      (Factory.constructorInvoker ⟨.interpreted, .default⟩ ⟨7⟩ misfit).answer = .ok b ∧
      Toolbox.Swapped ⟨[a], [], []⟩ ⟨[b], [], []⟩ ∧
      Toolbox.run ⟨[a], [], []⟩ constructOnce 2 [] .empty =
        Toolbox.run ⟨[b], [], []⟩ constructOnce 2 [] .empty := by
  obtain ⟨a, made⟩ : ∃ a, (Factory.constructorInvoker ⟨.compiled, .default⟩ .first
      misfit).answer = .ok a := ⟨_, rfl⟩
  obtain ⟨b, other⟩ : ∃ b, (Factory.constructorInvoker ⟨.interpreted, .default⟩ ⟨7⟩
      misfit).answer = .ok b := ⟨_, rfl⟩
  have swapped : Toolbox.Swapped ⟨[a], [], []⟩ ⟨[b], [], []⟩ :=
    ⟨.cons (.inr ⟨misfit, _, _, _, _, made, other⟩) .nil, .nil, .nil⟩
  exact ⟨a, b, made, other, swapped,
    factories_interchangeable.2.2.2 _ _ swapped constructOnce 2 .empty⟩

end LateBinding
