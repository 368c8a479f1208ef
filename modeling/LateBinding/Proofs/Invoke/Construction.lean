import LateBinding.Proofs.Invoke.Confinement
import LateBinding.Proofs.Invoke.Supported
import LateBinding.Proofs.Object.Shape

/-!
Constructors of registered classes, called late and called directly. Once its arguments
are counted and converted, an invoker is its function: what the function makes is boxed
or made an object as the class itself does it, and what fails after the function ran is
a failure of the target.
-/

namespace LateBinding

variable {σ ε : Type}

open Registration Obstacle

/-- Calls the function of a constructor by hand. Whatever it makes is an instance of the
type of the class; a class of values has it in a box, and any other class makes it an
object or says why it does not. -/
def ConstructorRoutine.direct (routine : ConstructorRoutine σ ε) (c : RuntimeClass σ ε)
    (heap : Heap σ) (arguments : List (Argument σ)) : Outcome σ ε (Datum σ ε) :=
  let made := routine.run heap arguments
  let runs := [⟨none, arguments, made.lines⟩]
  match made.result with
  | .error failure => ⟨.error (.targetFailure failure), made.heap, runs⟩
  | .ok content =>
      match c.kind with
      | .value => ⟨.ok (.value (content.withNative c.native)), made.heap, runs⟩
      | .reference =>
          match c.instantiate made.heap (content.withNative c.native) with
          | .ok (object, after) => ⟨.ok (.object object), after, runs⟩
          | .error error => ⟨.error (.targetFailure (.conversion error)), made.heap, runs⟩

-- Making a datum never adds a run, whether or not the class takes the instance.
theorem ConstructorRoutine.deliver_act (routine : ConstructorRoutine σ ε) (c : RuntimeClass σ ε)
    (heap : Heap σ) {arguments converted : List (Argument σ)}
    (accepted : ParamType.convertAll (ε := ε) routine.params arguments = .ok converted) :
    ((routine.body c.kind c.native).act heap arguments).deliver c =
      routine.direct c heap converted := by
  simp only [ConstructorRoutine.body, ConstructorFunction.construct, accepted, direct, raised]
  generalize routine.run heap converted = made
  obtain ⟨result, lines, after⟩ := made
  cases result with
  | error failure => rfl
  | ok content =>
      cases kind : c.kind with
      | value =>
          simp [Outcome.deliver, deliver, Making.outcome, Making.map, Except.map, Except.mapError,
            Except.bind, Instance.native_withNative]
      | reference =>
          simp only [Outcome.deliver, deliver, Making.outcome, Making.map, Except.map,
            Except.mapError, Except.bind]
          cases c.instantiate after (content.withNative c.native) <;> rfl

theorem Interpreted.construct_constructorOf {r : Registration σ ε} {d : RegisteredClass σ ε}
    (accepted : r.build = .ok d) (routine : ConstructorRoutine σ ε) (heap : Heap σ)
    (arguments : List (Datum σ ε)) :
    construct (r.constructorOf d.runtimeClass routine) heap arguments =
      match verdict (ofArguments routine.params arguments) with
      | .error error => .refused heap error
      | .ok _ => routine.direct d.runtimeClass heap (arguments.map Datum.argument) := by
  rw [construct, constructorOf, marshalAll_eq_verdict]
  cases checked : verdict (ofArguments routine.params arguments) with
  | error error => rfl
  | ok _ =>
      have converted : ParamType.convertAll (ε := ε) routine.params
          (arguments.map Datum.argument) = .ok (arguments.map Datum.argument) := by
        rw [convertAll_eq_verdict, checked]
        rfl
      rw [← native_of_build accepted, ← kind_of_build accepted]
      exact routine.deliver_act d.runtimeClass heap converted

/-- All objects are as they were before the call, and an object that it gives is a new
one of the class, with what the function made for content. -/
structure Outcome.MakesOne (outcome : Outcome σ ε (Datum σ ε)) (before : Heap σ)
    (c : RuntimeClass σ ε)
    (made : Except (Failure ε) (Instance σ)) : Prop where
  kept : outcome.heap.Extends before
  fresh : ∀ object, outcome.answer = .ok (.object object) →
    before.read? object.id = none ∧ object.runtimeClass = c ∧
    ∃ content, made = .ok content ∧
      outcome.heap.content? object = some (content.withNative c.native)

theorem ConstructorFunction.OfContents.makesOne_direct {routine : ConstructorRoutine σ ε}
    (pure : routine.OfContents) (c : RuntimeClass σ ε) (heap : Heap σ)
    (arguments : List (Argument σ)) :
    (ConstructorRoutine.direct routine c heap arguments).MakesOne heap c
      (routine.run heap arguments).result := by
  have still := pure.heap_run heap arguments
  unfold ConstructorRoutine.direct
  generalize routine.run heap arguments = made at still ⊢
  obtain ⟨result, lines, left⟩ := made
  obtain rfl : heap = left := still.symm
  cases result with
  | error failure => exact ⟨fun _ _ held => held, fun _ given => nomatch given⟩
  | ok content =>
      cases c.kind with
      | value => exact ⟨fun _ _ held => held, fun _ given => nomatch given⟩
      | reference =>
          cases made : c.instantiate heap (content.withNative c.native) with
          | error error =>
              simp only [made]
              exact ⟨fun _ _ held => held, fun _ given => nomatch given⟩
          | ok result =>
              obtain ⟨object, after⟩ := result
              obtain ⟨_, rfl, rfl⟩ := (c.instantiate_eq_ok_iff _ _ _ _).mp made
              simp only [made]
              refine ⟨heap.extends_allocate _, fun object given => ?_⟩
              cases given
              refine ⟨heap.read?_nextId, rfl, content, rfl, ?_⟩
              rw [Heap.content?, Heap.read?_allocate, if_pos rfl]

/-- Late construction is direct construction: a constructor of a registered class that is
not abstract has invokers by any factory, which refuse a wrong count or the leftmost
argument that does not convert, with nothing run, and otherwise call its function. A
function of what its arguments hold changes no object, and what it makes is new. -/
theorem constructors_call_their_functions {r : Registration σ ε} {d : RegisteredClass σ ε}
    (accepted : r.build = .ok d) (concrete : d.runtimeClass.isAbstract = false) :
    List.Forall₂ (fun routine c => ∀ (factory : Factory) naming, ∃ invoker,
      (factory.constructorInvoker naming c).answer = .ok invoker ∧
      ∀ heap arguments,
        Decides (ofArguments routine.params arguments)
          (fun error => invoker.invoke heap arguments = .refused heap error)
          (invoker.invoke heap arguments =
            routine.direct d.runtimeClass heap (arguments.map Datum.argument)) ∧
        (routine.OfContents → (invoker.invoke heap arguments).MakesOne heap d.runtimeClass
          (routine.run heap (arguments.map Datum.argument)).result))
      r.constructors d.constructors := by
  rw [constructors_of_build accepted]
  simp only [List.forall₂_map_right_iff, List.forall₂_same]
  intro routine _ factory naming
  have granted := (checkConstructor_constructorOf accepted routine).of_check
    (factory.answer_constructorInvoker naming _)
  have bare : r.constructorException? = none := by
    rw [isAbstract_of_build accepted] at concrete
    simp [constructorException?, concrete]
  rw [bare] at granted
  obtain ⟨invoker, made⟩ := granted
  obtain ⟨_, reads⟩ := Factory.reads_of_constructorInvoker made
  refine ⟨invoker, made, fun heap arguments => ?_⟩
  rw [reads, Interpreted.construct_constructorOf accepted, Decides]
  cases verdict (ofArguments routine.params arguments) with
  | error error =>
      exact ⟨rfl, fun _ => ⟨fun _ _ held => held, fun _ given => by cases given⟩⟩
  | ok _ => exact ⟨rfl, fun pure => pure.makesOne_direct d.runtimeClass heap _⟩

namespace Ledgers

def pamphletType : NativeType := ⟨3, "lib::Pamphlet"⟩

def copyOut : ConstructorRoutine Nat String :=
  .ofContents [.reference bookType false] fun others =>
    (.ok (.derived ⟨pamphletType, 1, [.base]⟩ (.root ⟨bookType, (others.map pages).sum, []⟩)), ["copy"])

def pamphlet : Registration Nat String :=
  ((start "Pamphlet" pamphletType .reference).extending bookClass.runtimeClass).constructor copyOut

def pamphletClass : RegisteredClass Nat String := pamphlet.describe pamphlet.finalTable

theorem pamphlet_build : pamphlet.build = .ok pamphletClass :=
  (build_eq_ok_iff _ _).mpr ⟨⟨rfl, List.nodup_nil, by decide, rfl, rfl, rfl⟩, rfl⟩

-- A pamphlet is made of a book, which stays as it is, and of nothing else.
theorem pamphlet_copies_book :
    pamphlet.build = .ok pamphletClass ∧ pamphletClass.runtimeClass.isAbstract = false ∧
    ∀ c ∈ pamphletClass.constructors, ∃ invoker,
      (Factory.constructorInvoker ⟨.compiled, .default⟩ .first c).answer = .ok invoker ∧
      invoker.invoke shelf [.null] =
        .refused shelf (.typeMismatch (.argument 0) "Book" "null") ∧
      let after := invoker.invoke shelf [.object someBook]
      after.answer = .ok (.object ⟨2, pamphletClass.runtimeClass⟩) ∧
      after.runs.length = 1 ∧ shelf.read? 2 = none ∧
      after.heap.read? 2 =
        some (.derived ⟨pamphletType, 1, [.base]⟩ (.root ⟨bookType, 7, []⟩)) ∧
      after.heap.read? 1 = some (.root ⟨bookType, 7, []⟩) := by
  have constructors := constructors_call_their_functions pamphlet_build rfl
  refine ⟨pamphlet_build, rfl, List.forall_mem_singleton.mpr ?_⟩
  obtain ⟨invoker, made, calls⟩ :=
    (List.forall₂_cons.mp constructors).1 ⟨.compiled, .default⟩ .first
  refine ⟨invoker, made, (calls shelf [.null]).1, ?_⟩
  obtain ⟨direct, one⟩ := calls shelf [.object someBook]
  have answer : (invoker.invoke shelf [.object someBook]).answer =
      .ok (.object ⟨2, pamphletClass.runtimeClass⟩) := congrArg (·.answer) direct
  have made := one ⟨_, rfl⟩
  obtain ⟨unused, _, content, same, now⟩ := made.fresh _ answer
  cases same
  exact ⟨answer, congrArg (·.runs.length) direct, unused, now, made.kept 1 _ rfl⟩

end Ledgers

end LateBinding
