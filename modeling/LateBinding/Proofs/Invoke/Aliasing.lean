import LateBinding.Locking
import LateBinding.Proofs.Invoke.Intake
import LateBinding.Proofs.Invoke.Rejection
import LateBinding.Proofs.Object.Keeping

/-!
Objects among their own arguments. Handles are picked out of the arguments with the
places that they have in the whole list, so the scan for the target stops at the
leftmost argument that leads to it. It comes before anything is lent; so what passes
it has its target locked, and reads other objects than that.
-/

namespace LateBinding

variable {σ ε : Type}

def Argument.leadsTo (id : Nat) : Argument σ → Bool
  | .object handle => handle.id == id
  | .null | .value _ => false

def objectsIn (arguments : List (Argument σ)) : List Nat :=
  arguments.filterMap fun argument => argument.handle?.map (·.id)

/-! Handles and the arguments that they come from. -/

theorem aliasAt?_cons (id : Nat) (position : Position) (argument : Argument σ)
    (rest : List (Position × Argument σ)) :
    aliasAt? id (linked ((position, argument) :: rest)) =
      if argument.leadsTo id then some position else aliasAt? id (linked rest) := by
  cases argument with
  | null => rfl
  | value boxed => rfl
  | object handle =>
      by_cases same : handle.id = id
      · simp [aliasAt?, linked, Argument.handle?, Argument.leadsTo, same]
      · simp [aliasAt?, linked, Argument.handle?, Argument.leadsTo, same]

-- The scan runs over handles only, and still counts the arguments that are none.
theorem aliasAt?_positionedFrom (id start : Nat) (arguments : List (Argument σ)) :
    aliasAt? id (linked (positionedFrom start arguments)) =
      (arguments.findIdx? (·.leadsTo id)).map fun index => .argument (start + index) := by
  induction arguments generalizing start with
  | nil => rfl
  | cons argument rest ih =>
      rw [positionedFrom, aliasAt?_cons, ih, List.findIdx?_cons]
      by_cases met : argument.leadsTo id
      · simp [met]
      · simp [met, Function.comp_def, Nat.add_comm, Nat.add_left_comm]

theorem aliasAt?_value (id : Nat) (argument : Argument σ) :
    aliasAt? id (linked [(.value, argument)]) =
      if argument.leadsTo id then some .value else none :=
  aliasAt?_cons id .value argument []

theorem ids_linked_cons (position : Position) (argument : Argument σ)
    (rest : List (Position × Argument σ)) :
    (linked ((position, argument) :: rest)).map (·.2.id) =
      objectsIn [argument] ++ (linked rest).map (·.2.id) := by
  cases argument <;> rfl

theorem ids_linked_positionedFrom (start : Nat) (arguments : List (Argument σ)) :
    (linked (positionedFrom start arguments)).map (·.2.id) = objectsIn arguments := by
  induction arguments generalizing start with
  | nil => rfl
  | cons argument rest ih =>
      rw [positionedFrom, ids_linked_cons, ih]
      exact (List.filterMap_append (l := [argument])).symm

namespace Locking.Request

theorem of_ofCall? {id : Nat} {handles : List (Position × Handle)} {request : Request}
    (asked : ofCall? id handles = some request) :
    request.target = id ∧ request.readers = handles.map (·.2.id) := by
  unfold ofCall? at asked
  split at asked
  · cases asked
    exact ⟨rfl, rfl⟩
  · cases asked

end Locking.Request

/-- How a call locks its target: it asks for the lock exactly if none of its arguments
leads to the target, it will read what its arguments lead to, and it is lent a part
only if none of them leads to the target. -/
structure Receiver.LocksApart (receiver : Receiver σ) (heap : Heap σ) (object : ObjectRef σ ε)
    (arguments : List (Argument σ)) (handles : List (Position × Handle)) : Prop where
  asks : (Locking.Request.ofCall? object.id handles).isSome ↔
    ∀ argument ∈ arguments, argument.leadsTo object.id = false
  request : ∀ request, Locking.Request.ofCall? object.id handles = some request →
    request.target = object.id ∧ request.readers = objectsIn arguments
  lends : ∀ loan, receiver.lend heap handles (.object object) = .ok loan →
    ∀ argument ∈ arguments, argument.leadsTo object.id = false

/-- Goes on with a target that is none of the arguments: the body runs on what the
receiver finds in the object, if it finds anything. -/
def Receiver.proceed (receiver : Receiver σ) (heap : Heap σ) (object : ObjectRef σ ε)
    (act : Instance σ → Change σ ε Unit) : Completion σ ε :=
  match receiver.reach? heap (.object object) with
  | some loan => (act loan.part).settle loan (.object object)
  | none => .refused heap (.object object)
      (.typeMismatch .target receiver.name object.runtimeClass.name)

namespace Receiver

theorem lend_object {receiver : Receiver σ} (kind : receiver.kind = .reference) (heap : Heap σ)
    (object : ObjectRef σ ε) (handles : List (Position × Handle)) :
    receiver.lend heap handles (.object object) =
      match aliasAt? object.id handles with
      | some position => .error (.aliasedTarget position)
      | none =>
          match receiver.reach? heap (.object object) with
          | some loan => .ok loan
          | none => .error (.typeMismatch .target receiver.name object.runtimeClass.name) := by
  cases receiver with
  | value native name => cases kind
  | object upcast name => rfl

theorem apply_object {receiver : Receiver σ} (kind : receiver.kind = .reference) (heap : Heap σ)
    (object : ObjectRef σ ε) (handles : List (Position × Handle))
    (act : Instance σ → Change σ ε Unit) :
    receiver.apply heap (.object object) handles act =
      match aliasAt? object.id handles with
      | some position => .refused heap (.object object) (.aliasedTarget position)
      | none => receiver.proceed heap object act := by
  rw [apply, lend_object kind]
  cases aliasAt? object.id handles with
  | some position => rfl
  | none =>
      rw [proceed]
      cases receiver.reach? heap (.object object) <;> rfl

theorem locksApart {receiver : Receiver σ} (kind : receiver.kind = .reference) (heap : Heap σ)
    (object : ObjectRef σ ε) {arguments : List (Argument σ)} {handles : List (Position × Handle)}
    (scanned : aliasAt? object.id handles = none ↔
      ∀ argument ∈ arguments, argument.leadsTo object.id = false)
    (read : handles.map (·.2.id) = objectsIn arguments) :
    receiver.LocksApart heap object arguments handles := by
  constructor
  case asks => rw [Locking.Request.isSome_ofCall?, Option.isNone_iff_eq_none, scanned]
  case request =>
    intro request asked
    rw [← read]
    exact Locking.Request.of_ofCall? asked
  case lends =>
    intro loan lent
    rw [lend_object kind] at lent
    apply scanned.mp
    cases met : aliasAt? object.id handles with
    | some position =>
        rw [met] at lent
        cases lent
    | none => rfl

-- A receiver for values does not look at the arguments.
theorem lend_value_ne {receiver : Receiver σ} (kind : receiver.kind = .value) (heap : Heap σ)
    (handles : List (Position × Handle)) (target : Datum σ ε) (position : Position) :
    receiver.lend heap handles target ≠ .error (.aliasedTarget position) := by
  intro refused
  cases receiver with
  | object upcast name => cases kind
  | value native name =>
      cases target with
      | null => cases refused
      | value boxed =>
          simp only [lend] at refused
          split at refused <;> cases refused
      | object object => cases refused

theorem answered_of_apply_value {receiver : Receiver σ} (kind : receiver.kind = .value)
    {heap : Heap σ} {target : Datum σ ε} {handles : List (Position × Handle)}
    {act : Instance σ → Change σ ε Unit} {position : Position}
    (refused : (receiver.apply heap target handles act).answer =
      .error (.aliasedTarget position)) :
    ∃ boxed, target = .value boxed ∧ (act boxed).answer = .error (.aliasedTarget position) := by
  unfold apply at refused
  split at refused
  · next error blocked =>
      cases refused
      exact absurd blocked (lend_value_ne kind heap handles target position)
  · next loan lent =>
      rcases whole_of_reach? (reach?_of_lend lent) with
        ⟨boxed, rfl, rfl⟩ | ⟨_, _, _, _, rfl, _, _⟩
      · exact ⟨boxed, rfl, refused⟩
      · cases kind

end Receiver

/-! What converts and runs arguments does not report aliasing. -/

namespace ParamType

theorem mismatch_of_convertAt {type : ParamType} {position : Position} {argument : Argument σ}
    {error : InvokeError ε} (failed : type.convertAt position argument = .error error) :
    error.isTypeMismatch := by
  unfold convertAt at failed
  cases converted : type.convert argument with
  | ok _ =>
      rw [converted] at failed
      cases failed
  | error cause =>
      rw [converted] at failed
      cases failed
      cases cause <;> rfl

theorem convertAll_ne (types : List ParamType) (arguments : List (Argument σ))
    (position : Position) :
    convertAll (ε := ε) types arguments ≠ .error (.aliasedTarget position) := by
  by_cases count : types.length = arguments.length
  · rcases convertAll_cases (ε := ε) count with ⟨_, _, whole⟩ | ⟨_, cause, _, stopped⟩
    · rw [whole]
      rintro ⟨⟩
    · rw [stopped]
      cases cause <;> rintro ⟨⟩
  · rw [convertAll, if_neg count]
    rintro ⟨⟩

end ParamType

-- What a function raises is a failure of the target.
theorem raised_ne {ρ : Type} {answer : Except (InvokeError ε) (Attempt ε ρ)} {position : Position}
    (own : answer ≠ .error (.aliasedTarget position)) :
    raised answer ≠ .error (.aliasedTarget position) := by
  cases answer with
  | error error =>
      intro same
      cases same
      exact own rfl
  | ok attempt => cases attempt <;> rintro ⟨⟩

theorem SetterRoutine.answer_body_ne (routine : SetterRoutine σ ε) (receiver : Receiver σ)
    (heap : Heap σ) (part : Instance σ) (argument : Argument σ) (position : Position) :
    ((routine.body receiver).act heap part argument).answer ≠
      .error (.aliasedTarget position) := by
  apply raised_ne
  rw [SetterFunction.assign]
  cases converted : routine.type.convertAt (ε := ε) .value argument with
  | error error =>
      have mismatch := ParamType.mismatch_of_convertAt converted
      rintro ⟨⟩
      cases mismatch
  | ok own => rintro ⟨⟩

theorem MethodRoutine.answer_body_ne (routine : MethodRoutine σ ε) (receiver : Receiver σ)
    (heap : Heap σ) (part : Instance σ) (arguments : List (Argument σ)) (position : Position) :
    ((routine.body receiver).act heap part arguments).answer ≠
      .error (.aliasedTarget position) := by
  apply raised_ne
  rw [MethodFunction.invokeOn]
  cases converted : ParamType.convertAll (ε := ε) routine.params arguments with
  | error error =>
      rintro ⟨⟩
      exact ParamType.convertAll_ne _ _ _ converted
  | ok own => rintro ⟨⟩

/-- No call of a body on an object runs the body with the object among its arguments.
The call is refused for the leftmost argument that leads to the object, by its place
among all arguments, with nothing run and all objects as they were, whatever else may
be in its way. Else the body gets the arguments as they are, in a part of an object
that its call locked without reading it. Calls with a receiver for values are never
refused for this; only a body written by hand may answer so, after it ran. -/
theorem bodies_never_meet_their_target :
    (∀ (body : MethodBody σ ε) heap (object : ObjectRef σ ε) arguments,
      body.receiver.kind = .reference →
        (body.call heap (.object object) arguments =
          match arguments.findIdx? (·.leadsTo object.id) with
          | some index => .refused heap (.object object) (.aliasedTarget (.argument index))
          | none => body.receiver.proceed heap object fun part => body.act heap part arguments) ∧
        body.receiver.LocksApart heap object arguments (linked (positionedFrom 0 arguments))) ∧
    (∀ (body : SetterBody σ ε) heap (object : ObjectRef σ ε) argument,
      body.receiver.kind = .reference →
        (body.set heap (.object object) argument =
          if argument.leadsTo object.id then
            .refused heap (.object object) (.aliasedTarget .value)
          else body.receiver.proceed heap object fun part => body.act heap part argument) ∧
        body.receiver.LocksApart heap object [argument] (linked [(.value, argument)])) ∧
    (∀ (body : MethodBody σ ε) heap target arguments position, body.receiver.kind = .value →
      (body.call heap target arguments).answer = .error (.aliasedTarget position) →
        ¬ body.OfRoutine ∧ ∃ boxed, target = .value boxed ∧
          (body.act heap boxed arguments).answer = .error (.aliasedTarget position)) ∧
    (∀ (body : SetterBody σ ε) heap target argument position, body.receiver.kind = .value →
      (body.set heap target argument).answer = .error (.aliasedTarget position) →
        ¬ body.OfRoutine ∧ ∃ boxed, target = .value boxed ∧
          (body.act heap boxed argument).answer = .error (.aliasedTarget position)) := by
  refine ⟨?methods, ?setters, ?boxedMethods, ?boxedSetters⟩
  case methods =>
    intro body heap object arguments kind
    have scan := aliasAt?_positionedFrom object.id 0 arguments
    constructor
    · rw [MethodBody.call, Receiver.apply_object kind, scan]
      cases arguments.findIdx? (·.leadsTo object.id) with
      | some index => simp
      | none => rfl
    · refine Receiver.locksApart kind heap object ?_ (ids_linked_positionedFrom 0 arguments)
      rw [scan, Option.map_eq_none_iff, List.findIdx?_eq_none_iff]
  case setters =>
    intro body heap object argument kind
    have scan := aliasAt?_value object.id argument
    constructor
    · rw [SetterBody.set, Receiver.apply_object kind, scan]
      cases argument.leadsTo object.id <;> rfl
    · refine Receiver.locksApart kind heap object ?_ ?_
      · rw [scan]
        simp
      · exact (ids_linked_cons .value argument []).trans (List.append_nil _)
  case boxedMethods =>
    intro body heap target arguments position kind refused
    obtain ⟨boxed, same, answered⟩ := Receiver.answered_of_apply_value kind refused
    refine ⟨?_, boxed, same, answered⟩
    rintro ⟨r, routine, rfl⟩
    exact routine.answer_body_ne r.receiver heap boxed arguments position answered
  case boxedSetters =>
    intro body heap target argument position kind refused
    obtain ⟨boxed, same, answered⟩ := Receiver.answered_of_apply_value kind refused
    refine ⟨?_, boxed, same, answered⟩
    rintro ⟨r, routine, rfl⟩
    exact routine.answer_body_ne r.receiver heap boxed argument position answered

namespace Shapes

def pair : Heap Unit :=
  (Heap.empty.allocate squareContent).allocate squareContent

def otherSquare : ObjectRef Unit String := ⟨1, squareClass.runtimeClass⟩

def crowd : List (Argument Unit) :=
  [.null, .value (.root ⟨⟨4, "i32"⟩, (), []⟩), .object otherSquare.handle,
    .object squareObject.handle, .object squareObject.handle]

def reply (receiver : Receiver Unit) (answer : Except (InvokeError String) Unit) :
    MethodBody Unit String :=
  .ofFunction receiver fun heap lent _ => ⟨⟨answer, ["reply"], lent⟩, heap⟩

-- The square is the fourth argument, though it is only the second handle. Without it the
-- call locks the square and will read the other one. A body for numbers that speaks of
-- aliases does so on its own account.
theorem square_in_crowd :
    (reply square.receiver (.ok ())).call pair (.object squareObject) crowd =
      .refused pair (.object squareObject) (.aliasedTarget (.argument 3)) ∧
    (∃ request, Locking.Request.ofCall? squareObject.id
        (linked (positionedFrom 0 (crowd.take 3))) = some request ∧
      request.target = 0 ∧ request.readers = [1]) ∧
    ¬ (reply (.value ⟨4, "i32"⟩ "i32") (.error (.aliasedTarget .value))).OfRoutine := by
  obtain ⟨onObjects, _, onValues, _⟩ := bodies_never_meet_their_target (σ := Unit)
  have calls := onObjects (reply square.receiver (.ok ())) pair squareObject
  refine ⟨(calls crowd rfl).1, ?_, ?_⟩
  · have locks := (calls (crowd.take 3) rfl).2
    obtain ⟨request, asked⟩ := Option.isSome_iff_exists.mp (locks.asks.mpr (by decide))
    exact ⟨request, asked, locks.request request asked⟩
  · have answers := onValues (reply (.value ⟨4, "i32"⟩ "i32") (.error (.aliasedTarget .value))) pair
      (.value (.root ⟨⟨4, "i32"⟩, (), []⟩)) crowd .value rfl rfl
    exact answers.1

end Shapes

end LateBinding
