import LateBinding.Registration
import LateBinding.Proofs.Invoke.Marshalling
import LateBinding.Proofs.Invoke.Obstacle

/-!
Lending a part of the target to a body. The body converts its arguments once more
while the target is lent, and giving an untouched part back is as good as not
lending it; so what a body refuses comes after what is in the way of lending, and
leaves nothing behind.
-/

namespace LateBinding

variable {σ ε : Type}

open Obstacle

def Receiver.Takes (receiver : Receiver σ) (target : Datum σ ε) : Prop :=
  match receiver, target with
  | .value native _, .value boxed => boxed.native = native
  | .object .., .object _ => True
  | _, _ => False

theorem Heap.write_content (heap : Heap σ) (object : ObjectRef σ ε) (whole : Instance σ)
    (held : heap.content? object = some whole) : heap.write object.id whole = heap := by
  unfold content? read? at held
  obtain ⟨inside, same⟩ := List.getElem?_eq_some_iff.mp held
  rw [write, ← same, List.set_getElem_self]

theorem Receiver.whole_of_reach? {receiver : Receiver σ} {heap : Heap σ} {target : Datum σ ε}
    {loan : Loan σ} (reached : receiver.reach? heap target = some loan) :
    (∃ boxed, target = .value boxed ∧ loan = .ofWhole boxed) ∨
      ∃ ref upcast name, target = .object ref ∧ receiver = .object upcast name ∧
        heap.content? ref = some loan.whole ∧ upcast loan.whole = some loan.place := by
  unfold reach? at reached
  split at reached
  · exact .inl ⟨_, rfl, (Option.some.inj reached).symm⟩
  · next upcast name ref =>
      obtain ⟨whole, held, found⟩ := Option.bind_eq_some_iff.mp reached
      obtain ⟨place, there, taken⟩ := Option.bind_eq_some_iff.mp found
      obtain ⟨rfl, rfl⟩ := Loan.take?_eq_some.mp taken
      exact .inr ⟨ref, upcast, name, rfl, rfl, held, there⟩
  · cases reached

-- Giving back what was lent, as it was lent, restores target and objects.
theorem Receiver.settle_refused {receiver : Receiver σ} {heap : Heap σ} {target : Datum σ ε}
    {loan : Loan σ} (reached : receiver.reach? heap target = some loan) (error : InvokeError ε) :
    (Change.refused heap loan.part error).settle loan target = .refused heap target error := by
  rcases whole_of_reach? reached with ⟨boxed, rfl, rfl⟩ | ⟨ref, _, _, rfl, _, held, _⟩
  · simp only [Change.settle, Change.refused, (Loan.ofWhole boxed).putBack_part]
    rfl
  · have same := heap.write_content ref loan.whole held
    simp [Change.settle, Change.refused, Completion.refused, Outcome.refused, loan.putBack_part,
      same]

/-- What a call leaves behind whose function ran once, on what its target lent: the
function's own answer, all objects as the function left them, and what was lent as the
function left it, in the box or at its place in the object. -/
structure Completion.RanOn (after : Completion σ ε) (target : Datum σ ε) (loan : Loan σ)
    (arguments : List (Argument σ)) (touch : Touch σ (Attempt ε Unit)) : Prop where
  answer : after.answer = touch.result.mapError .targetFailure
  runs : after.runs = [⟨some loan.part, arguments, touch.lines⟩]
  boxed : ∀ content, target = .value content →
    after.target = .value (touch.receiver.withNative content.native) ∧ after.heap = touch.heap
  object : ∀ ref, target = .object ref → after.target = .object ref ∧
    after.heap = touch.heap.write ref.id
      (loan.whole.putAt loan.place (touch.receiver.withNative loan.part.native))

def Touch.ended (touch : Touch σ (Attempt ε Unit)) (lent : Instance σ)
    (arguments : List (Argument σ)) : Change σ ε Unit :=
  (touch.map (·.mapError .targetFailure)).change lent arguments

theorem Receiver.ranOn_settle {receiver : Receiver σ} {heap : Heap σ} {target : Datum σ ε}
    {loan : Loan σ} (reached : receiver.reach? heap target = some loan)
    (touch : Touch σ (Attempt ε Unit)) (arguments : List (Argument σ)) :
    ((touch.ended loan.part arguments).settle loan target).RanOn target loan arguments touch := by
  rcases whole_of_reach? reached with ⟨boxed, rfl, rfl⟩ | ⟨ref, _, _, rfl, _, _, _⟩
  · refine ⟨rfl, rfl, fun content same => ?_, fun own same => ?_⟩
    · cases same
      exact ⟨rfl, rfl⟩
    · cases same
  · refine ⟨rfl, rfl, fun content same => ?_, fun own same => ?_⟩
    · cases same
    · cases same
      exact ⟨rfl, rfl⟩

theorem verdict_aliases (ref : ObjectRef σ ε) (entries : List (Position × Datum σ ε)) :
    verdict (entries.map (ofAlias (.object ref))) =
      match aliasAt? ref.id (linked (entries.map fun entry => (entry.1, entry.2.argument))) with
      | some position => .error (.aliasedTarget position)
      | none => .ok () := by
  induction entries with
  | nil => rfl
  | cons entry rest ih =>
      obtain ⟨position, datum⟩ := entry
      rw [List.map_cons, verdict_cons, ih]
      cases datum with
      | null => rfl
      | value boxed => rfl
      | object other =>
          by_cases same : other.id = ref.id
          · simp [ofAlias, Datum.sameObject, ObjectRef.same, aliasAt?, linked, Datum.argument,
              Argument.handle?, ObjectRef.handle, same]
          · simp [ofAlias, Datum.sameObject, ObjectRef.same, aliasAt?, linked, Datum.argument,
              Argument.handle?, ObjectRef.handle, same, Ne.symm same]

theorem verdict_aliases_value (boxed : Instance σ) (entries : List (Position × Datum σ ε)) :
    verdict (entries.map (ofAlias (.value boxed))) = .ok () := by
  induction entries with
  | nil => rfl
  | cons entry rest ih => exact ih

theorem Receiver.decides_lend {receiver : Receiver σ} (heap : Heap σ) {target : Datum σ ε}
    (takes : receiver.Takes target) (entries : List (Position × Datum σ ε))
    (handles : List (Position × Handle))
    (linking : linked (entries.map fun entry => (entry.1, entry.2.argument)) = handles) :
    Decides (ofLoan receiver heap target entries)
      (fun error => receiver.lend heap handles target = .error error)
      (∃ loan, receiver.reach? heap target = some loan ∧
        receiver.lend heap handles target = .ok loan) := by
  subst handles
  rw [ofLoan, decides_append]
  cases receiver with
  | value native name =>
      cases target with
      | null => cases takes
      | value boxed =>
          rw [Decides, verdict_aliases_value]
          exact ⟨.ofWhole boxed, rfl, if_pos takes⟩
      | object ref => cases takes
  | object upcast name =>
      cases target with
      | null => cases takes
      | value boxed => cases takes
      | object ref =>
          rw [Decides, verdict_aliases]
          cases met : aliasAt? ref.id _ with
          | some position => simp [lend, met]
          | none =>
              cases reading : (heap.content? ref).bind fun whole =>
                  (upcast whole).bind (Loan.take? whole) with
              | none =>
                  simp [lend, met, decides_cons, reach?, reading, Receiver.name, Datum.typeName]
              | some loan => simp [lend, met, decides_cons, decides_nil, reach?, reading]

-- What was not refused before a body is lent its part, the body refuses for the
-- argument that it does not convert, and gives the part back as it was.
theorem Receiver.decides_apply {receiver : Receiver σ} (heap : Heap σ) {target : Datum σ ε}
    (takes : receiver.Takes target) {entries : List (Position × Datum σ ε)}
    {handles : List (Position × Handle)}
    (linking : linked (entries.map fun entry => (entry.1, entry.2.argument)) = handles)
    (later : List (Obstacle ε)) (act : Instance σ → Change σ ε Unit)
    (run : Instance σ → Touch σ (Attempt ε Unit)) (arguments : List (Argument σ))
    (acts : ∀ part, act part =
      match verdict later with
      | .error error => .refused heap part error
      | .ok _ => (run part).ended part arguments) :
    Decides (ofLoan receiver heap target entries ++ later)
      (fun error => receiver.apply heap target handles act = .refused heap target error)
      (∃ loan, receiver.reach? heap target = some loan ∧
        (receiver.apply heap target handles act).RanOn target loan arguments (run loan.part)) := by
  have lending := receiver.decides_lend heap takes entries handles linking
  rw [decides_append]
  unfold Decides at lending ⊢
  cases first : verdict (ofLoan receiver heap target entries) with
  | error error =>
      rw [first] at lending
      simp [apply, lending]
  | ok _ =>
      rw [first] at lending
      obtain ⟨loan, reached, lent⟩ := lending
      cases second : verdict later with
      | error error =>
          -- The body was lent its part by now and refuses; the part comes back untouched.
          simp only [apply, lent, acts, second]
          exact settle_refused reached error
      | ok _ =>
          refine ⟨loan, reached, ?_⟩
          simp only [apply, lent, acts, second]
          exact ranOn_settle reached _ arguments

/-- The function that a class registered for a method. -/
structure Implementation (σ ε : Type) where
  routine : MethodRoutine σ ε
  owner : Registration σ ε

def numbered (arguments : List (Datum σ ε)) : List (Position × Datum σ ε) :=
  arguments.zipIdx.map fun entry => (.argument entry.2, entry.1)

namespace Implementation

/-- What lies between a body and its function. -/
def obstacles (own : Implementation σ ε) (heap : Heap σ) (target : Datum σ ε)
    (arguments : List (Datum σ ε)) : List (Obstacle ε) :=
  ofLoan own.owner.receiver heap target (numbered arguments) ++
    ofArguments own.routine.params arguments

end Implementation

theorem positionedFrom_eq (index : Nat) (arguments : List (Datum σ ε)) :
    positionedFrom index (arguments.map Datum.argument) =
      (arguments.zipIdx index).map fun entry => (.argument entry.2, entry.1.argument) := by
  induction arguments generalizing index with
  | nil => rfl
  | cons datum rest ih => rw [List.map_cons, positionedFrom, ih, List.zipIdx_cons, List.map_cons]

theorem convertAll_eq_verdict (types : List ParamType) (arguments : List (Datum σ ε)) :
    ParamType.convertAll types (arguments.map Datum.argument) =
      (verdict (ofArguments types arguments)).map fun _ => arguments.map Datum.argument :=
  (Interpreted.marshalAll_eq_convertAll types arguments).symm.trans
    (Interpreted.marshalAll_eq_verdict types arguments)

/-! The body of a routine on unchecked arguments: what it refuses them for, and else
one run of the function. -/

theorem SetterRoutine.act_body (routine : SetterRoutine σ ε) (receiver : Receiver σ) (heap : Heap σ)
    (part : Instance σ) (value : Datum σ ε) :
    (routine.body receiver).act heap part value.argument =
      match verdict [ofArgument .value routine.type value] with
      | .error error => .refused heap part error
      | .ok _ => (routine.run heap part value.argument).ended part [value.argument] := by
  have converted : routine.type.convertAt .value value.argument =
      (verdict [ofArgument .value routine.type value]).map fun _ => value.argument := by
    rw [← Interpreted.marshal_eq_convertAt, Interpreted.marshal_eq_verdict]
  simp only [SetterRoutine.body, SetterFunction.assign, converted]
  cases verdict [ofArgument .value routine.type value] <;> rfl

theorem MethodRoutine.act_body (routine : MethodRoutine σ ε) (receiver : Receiver σ) (heap : Heap σ)
    (part : Instance σ) (arguments : List (Datum σ ε)) :
    (routine.body receiver).act heap part (arguments.map Datum.argument) =
      match verdict (ofArguments routine.params arguments) with
      | .error error => .refused heap part error
      | .ok _ => (routine.run heap part (arguments.map Datum.argument)).ended part
          (arguments.map Datum.argument) := by
  simp only [MethodRoutine.body, MethodFunction.invokeOn, convertAll_eq_verdict]
  cases verdict (ofArguments routine.params arguments) <;> rfl

theorem linked_value (value : Datum σ ε) :
    linked ([(Position.value, value)].map fun entry => (entry.1, entry.2.argument)) =
      linked [(.value, value.argument)] :=
  rfl

theorem linked_numbered (arguments : List (Datum σ ε)) :
    linked ((numbered arguments).map fun entry => (entry.1, entry.2.argument)) =
      linked (positionedFrom 0 (arguments.map Datum.argument)) := by
  rw [positionedFrom_eq, numbered, List.map_map]
  rfl

theorem Implementation.decides_call (own : Implementation σ ε) (heap : Heap σ)
    {target : Datum σ ε} (takes : own.owner.receiver.Takes target)
    (arguments : List (Datum σ ε)) :
    Decides (own.obstacles heap target arguments)
      (fun error => (own.routine.body own.owner.receiver).call heap target
        (arguments.map Datum.argument) = .refused heap target error)
      (∃ loan, own.owner.receiver.reach? heap target = some loan ∧
        ((own.routine.body own.owner.receiver).call heap target
          (arguments.map Datum.argument)).RanOn target loan (arguments.map Datum.argument)
            (own.routine.run heap loan.part (arguments.map Datum.argument))) :=
  Receiver.decides_apply heap takes (linked_numbered arguments) _ _
    (fun part => own.routine.run heap part (arguments.map Datum.argument)) _
    fun part => own.routine.act_body own.owner.receiver heap part arguments

end LateBinding
