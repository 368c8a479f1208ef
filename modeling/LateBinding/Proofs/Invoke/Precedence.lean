import LateBinding.Proofs.Instantiation
import LateBinding.Proofs.Invoke.Lending
import LateBinding.Proofs.Invoke.Supported

/-!
The order of precedence among the obstacles of a call. An invoker of a method or
a property that a class registered refuses for the first obstacle that stands,
with the objects and the target as they were and nothing run; without an obstacle
the selected function runs once, on the part that the target lends it.
-/

namespace LateBinding

variable {σ ε : Type}

open Registration Obstacle

namespace Registration

def methodRoutines (r : Registration σ ε) : List (MethodRoutine σ ε) :=
  r.methods.filterMap MethodDeclaration.routine?

def implementation? (r : Registration σ ε) (method : MethodDeclaration σ ε) :
    Option (Implementation σ ε) :=
  method.routine?.map fun routine => ⟨routine, r⟩

/-- The function that a call of the method comes to. A direct method has its own; one
with a slot has that of the nearest declaration in the hierarchy of the target. -/
def selected? (r : Registration σ ε) (method : MethodDeclaration σ ε)
    (hierarchy : List (Registration σ ε)) : Option (Implementation σ ε) :=
  if method.takesSlot then
    (nearest? method.slot hierarchy).bind fun found => found.1.implementation? found.2
  else r.implementation? method

end Registration

namespace Obstacle

/-- All that a call of a method may be refused for, in order. -/
def ofCall (m : Method σ ε) (selected : Option (Implementation σ ε)) (heap : Heap σ)
    (target : Datum σ ε) (arguments : List (Datum σ ε)) : List (Obstacle ε) :=
  (ofTarget m.declaring target :: ofArguments m.params arguments) ++
    ofSlot m target :: (selected.elim [] fun own => own.obstacles heap target arguments)

def ofAssignment (p : Property σ ε) (receiver : Receiver σ) (heap : Heap σ)
    (target value : Datum σ ε) : List (Obstacle ε) :=
  [ofTarget p.declaring target, ofArgument .value p.type value] ++
    ofLoan receiver heap target [(.value, value)]

end Obstacle

theorem Interpreted.call_eq (m : Method σ ε) (heap : Heap σ) (target : Datum σ ε)
    (arguments : List (Datum σ ε)) :
    call m heap target arguments =
      match verdict (ofTarget m.declaring target :: ofArguments m.params arguments) with
      | .error error => .refused heap target error
      | .ok _ =>
          match bodyFor m target with
          | .error error => .refused heap target error
          | .ok body => body.call heap target (arguments.map Datum.argument) := by
  rw [verdict_cons_eq_bind, call, checkTarget_eq_verdict, marshalAll_eq_verdict]
  cases verdict [ofTarget m.declaring target] with
  | error error => rfl
  | ok _ => cases verdict (ofArguments m.params arguments) <;> rfl

theorem Interpreted.assign_eq (p : Property σ ε) (setter : SetterBody σ ε) (heap : Heap σ)
    (target value : Datum σ ε) :
    assign p setter heap target value =
      match verdict [ofTarget p.declaring target, ofArgument .value p.type value] with
      | .error error => .refused heap target error
      | .ok _ => setter.set heap target value.argument := by
  rw [verdict_cons_eq_bind, assign, checkTarget_eq_verdict, marshal_eq_verdict]
  cases verdict [ofTarget p.declaring target] with
  | error error => rfl
  | ok _ => cases verdict [ofArgument .value p.type value] <;> rfl

theorem takes_of_instanceOf {r : Registration σ ε} {d : RegisteredClass σ ε}
    (accepted : r.build = .ok d) {target : Datum σ ε} (inside : target.InstanceOf d.runtimeClass) :
    r.receiver.Takes target := by
  cases target with
  | null => cases inside
  | value boxed =>
      have kind : r.kind = .value := (kind_of_build accepted).symm.trans inside.1
      have native : boxed.native = r.native := inside.2.trans (native_of_build accepted)
      rw [receiver_of_value kind]
      exact native
  | object ref =>
      have kind : r.kind = .reference := (kind_of_build accepted).symm.trans inside.1
      rw [receiver_of_reference kind]
      trivial

theorem Registered.body_of_slot {c : RuntimeClass σ ε} {chain : List (Registration σ ε)}
    (known : Registered c chain) (slot : Fingerprint) :
    (c.resolve slot).bind (·.body) =
      ((nearest? slot chain).bind fun found => found.1.implementation? found.2).map
        fun own => own.routine.body own.owner.receiver := by
  rw [known.resolve_eq_nearest]
  cases nearest? slot chain with
  | none => rfl
  | some found => simp [entryOf, implementation?, Function.comp_def]

theorem Registered.exists_routine_of_slot {c : RuntimeClass σ ε} {chain : List (Registration σ ε)}
    (known : Registered c chain) {slot : Fingerprint} {body : MethodBody σ ε}
    (found : (c.resolve slot).bind (·.body) = some body) :
    ∃ r ∈ chain, ∃ routine ∈ r.methodRoutines, body = routine.body r.receiver := by
  rw [known.body_of_slot] at found
  obtain ⟨own, selected, rfl⟩ := Option.map_eq_some_iff.mp found
  obtain ⟨⟨r, method⟩, nearest, implemented⟩ := Option.bind_eq_some_iff.mp selected
  obtain ⟨routine, declared, rfl⟩ := Option.map_eq_some_iff.mp implemented
  obtain ⟨within, inside, _, _⟩ := mem_of_nearest? nearest
  exact ⟨r, within, routine, List.mem_filterMap.mpr ⟨method, inside, declared⟩, rfl⟩

theorem Registered.kind_of_implementation {c : RuntimeClass σ ε} {chain : List (Registration σ ε)}
    (known : Registered c chain) (kind : c.kind = .reference) {slot : Fingerprint}
    {own : Implementation σ ε}
    (found : (nearest? slot chain).bind (fun found => found.1.implementation? found.2) = some own) :
    own.owner.kind = .reference := by
  obtain ⟨⟨r, method⟩, nearest, implemented⟩ := Option.bind_eq_some_iff.mp found
  obtain ⟨routine, _, rfl⟩ := Option.map_eq_some_iff.mp implemented
  exact known.reference_of_mem kind r (mem_of_nearest? nearest).1

/-- A target that is an object was made as an instance of a class of this hierarchy. -/
def Datum.ObjectOf (hierarchy : List (Registration σ ε)) (target : Datum σ ε) : Prop :=
  ∀ ref, target = .object ref → Registered ref.runtimeClass hierarchy ∧ ref.Made

-- A call of a supported method on an instance of its class finds the body of the
-- selected function, unless the class of the target has none.
theorem bodyFor_selected {r : Registration σ ε} {d : RegisteredClass σ ε}
    (accepted : r.build = .ok d)
    {method : MethodDeclaration σ ε} {m : Method σ ε}
    (described : r.methodOf d.runtimeClass method = m)
    {route : Route σ ε} (routed : m.checkRoute = .ok route) {target : Datum σ ε}
    {hierarchy : List (Registration σ ε)} (sound : target.ObjectOf hierarchy)
    (inside : target.InstanceOf d.runtimeClass) :
    (m.lacksBody target ∧
      Interpreted.bodyFor m target = .error (.abstractMethod m.name target.typeName)) ∨
    (m.lacksBody target = false ∧ ∃ own, r.selected? method hierarchy = some own ∧
      own.owner.receiver.Takes target ∧
      Interpreted.bodyFor m target = .ok (own.routine.body own.owner.receiver)) := by
  rw [methodOf_eq] at described
  subst m
  cases slotted : method.takesSlot with
  | false =>
      obtain ⟨routine, own⟩ := method.exists_routine_of_direct slotted
      refine .inr ⟨?_, ⟨routine, r⟩, ?_, takes_of_instanceOf accepted inside, ?_⟩
      · simp [Method.lacksBody]
      · simp [selected?, slotted, implementation?, own]
      · simp [Interpreted.bodyFor, entryOf, own]
  | true =>
      -- Only reference classes have supported methods with slots, so the target is an object.
      have reference : d.runtimeClass.kind = .reference := by
        apply Method.reference_of_checkRoute routed
        simp [slotted, Dispatch.isVirtual]
      obtain ⟨ref, rfl⟩ : ∃ ref, target = .object ref := by
        cases target with
        | null => cases inside
        | value boxed => exact absurd (reference.symm.trans inside.1) (by decide)
        | object ref => exact ⟨ref, rfl⟩
      obtain ⟨known, made⟩ := sound ref rfl
      have slot := known.body_of_slot method.slot
      cases found : (nearest? method.slot hierarchy).bind fun found =>
          found.1.implementation? found.2 with
      | none =>
          rw [found, Option.map_none] at slot
          left
          simp [Method.lacksBody, Interpreted.bodyFor, resolveVirtual, slot, Datum.typeName]
      | some own =>
          rw [found, Option.map_some] at slot
          have kind := known.kind_of_implementation made.concrete.1 found
          have takes : own.owner.receiver.Takes (.object ref) := by
            rw [receiver_of_reference kind]
            trivial
          refine .inr ⟨?_, own, ?_, takes, ?_⟩
          · simp [Method.lacksBody, slot]
          · simp [selected?, slotted, found]
          · simp [Interpreted.bodyFor, resolveVirtual, slot]

theorem Interpreted.decides_call {r : Registration σ ε} {d : RegisteredClass σ ε}
    (accepted : r.build = .ok d) {method : MethodDeclaration σ ε} {m : Method σ ε}
    (described : r.methodOf d.runtimeClass method = m) {route : Route σ ε}
    (routed : m.checkRoute = .ok route) (heap : Heap σ) {target : Datum σ ε}
    (arguments : List (Datum σ ε)) {hierarchy : List (Registration σ ε)}
    (sound : target.ObjectOf hierarchy) :
    Decides (ofCall m (r.selected? method hierarchy) heap target arguments)
      (fun error => call m heap target arguments = .refused heap target error)
      (∃ own loan, r.selected? method hierarchy = some own ∧
        own.owner.receiver.reach? heap target = some loan ∧
        (call m heap target arguments).RanOn target loan (arguments.map Datum.argument)
          (own.routine.run heap loan.part (arguments.map Datum.argument))) := by
  rw [call_eq, ofCall, decides_append]
  unfold Decides
  cases front : verdict (ofTarget m.declaring target :: ofArguments m.params arguments) with
  | error error => rfl
  | ok _ =>
      have declaring : m.declaring = d.runtimeClass := by
        rw [← described, methodOf_eq]
      have inside := instanceOf_of_verdict front
      rw [declaring] at inside
      change Decides (ofSlot m target :: _) _ _
      rw [decides_cons]
      rcases bodyFor_selected accepted described routed sound inside with
        ⟨lacks, missing⟩ | ⟨has, own, selected, takes, finds⟩
      · simp [ofSlot, lacks, missing]
      · have body := own.decides_call heap takes arguments
        simpa [ofSlot, has, selected, finds] using body

theorem Interpreted.decides_assign {r : Registration σ ε} {d : RegisteredClass σ ε}
    (accepted : r.build = .ok d) {p : Property σ ε} (declaring : p.declaring = d.runtimeClass)
    {routine : SetterRoutine σ ε} (type : p.type = routine.type) (heap : Heap σ)
    (target value : Datum σ ε) :
    Decides (ofAssignment p r.receiver heap target value)
      (fun error => assign p (routine.body r.receiver) heap target value =
        .refused heap target error)
      (∃ loan, r.receiver.reach? heap target = some loan ∧
        (assign p (routine.body r.receiver) heap target value).RanOn target loan [value.argument]
          (routine.run heap loan.part value.argument)) := by
  rw [assign_eq, ofAssignment, decides_append]
  unfold Decides
  cases front : verdict [ofTarget p.declaring target, ofArgument .value p.type value] with
  | error error => rfl
  | ok _ =>
      have inside := instanceOf_of_verdict front
      rw [declaring] at inside
      have acts (part : Instance σ) : (routine.body r.receiver).act heap part value.argument =
          (routine.run heap part value.argument).ended part [value.argument] := by
        rw [routine.act_body, ← type, verdict_of_cons front]
      have body := Receiver.decides_apply heap (takes_of_instanceOf accepted inside)
        (linked_value value) [] _ (fun part => routine.run heap part value.argument) _ acts
      rw [List.append_nil] at body
      exact body

namespace RegisteredClass

theorem decides_of_property {r : Registration σ ε} {d : RegisteredClass σ ε}
    (accepted : r.build = .ok d) {factory : Factory} {naming : Naming} {p : Property σ ε}
    (declared : p ∈ d.properties) {invoker : PropertyInvoker σ ε}
    (made : (factory.propertyInvoker naming p).answer = .ok invoker) :
    ∃ name routine, .writable name routine ∈ r.properties ∧
      r.propertyOf d.runtimeClass (.writable name routine) = p ∧
      ∀ heap target value, Decides (ofAssignment p r.receiver heap target value)
        (fun error => invoker.invoke heap target value = .refused heap target error)
        (∃ loan, r.receiver.reach? heap target = some loan ∧
          (invoker.invoke heap target value).RanOn target loan [value.argument]
            (routine.run heap loan.part value.argument)) := by
  rw [properties_of_build accepted] at declared
  obtain ⟨declaration, member, described⟩ := List.mem_map.mp declared
  obtain ⟨setter, checked, reads⟩ := Factory.reads_of_propertyInvoker made
  have writes := Property.setter_of_checkSetter checked
  subst described
  cases declaration with
  | readOnly name type => cases writes
  | writable name routine =>
      refine ⟨name, routine, member, rfl, fun heap target value => ?_⟩
      have own : routine.body r.receiver = setter := Option.some.inj writes
      rw [reads, ← own]
      exact Interpreted.decides_assign accepted rfl rfl heap target value

theorem decides_of_method {r : Registration σ ε} {d : RegisteredClass σ ε}
    (accepted : r.build = .ok d) {factory : Factory} {naming : Naming} {m : Method σ ε}
    (declared : m ∈ d.methods) {invoker : MethodInvoker σ ε}
    (made : (factory.methodInvoker naming m).answer = .ok invoker) :
    ∃ method ∈ r.methods, r.methodOf d.runtimeClass method = m ∧
      ∀ heap target arguments hierarchy, target.ObjectOf hierarchy →
        Decides (ofCall m (r.selected? method hierarchy) heap target arguments)
          (fun error => invoker.invoke heap target arguments = .refused heap target error)
          (∃ own loan, r.selected? method hierarchy = some own ∧
            own.owner.receiver.reach? heap target = some loan ∧
            (invoker.invoke heap target arguments).RanOn target loan
              (arguments.map Datum.argument)
              (own.routine.run heap loan.part (arguments.map Datum.argument))) := by
  rw [methods_of_build accepted] at declared
  obtain ⟨method, member, described⟩ := List.mem_map.mp declared
  obtain ⟨route, routed, reads⟩ := Factory.reads_of_methodInvoker made
  refine ⟨method, member, described, fun heap target arguments hierarchy sound => ?_⟩
  rw [reads]
  exact Interpreted.decides_call accepted described routed heap arguments sound

end RegisteredClass

/-- The first obstacle that stands decides a call of a registered member, whichever
factory made the invoker. Without one the selected function runs once. -/
theorem first_obstacle_decides {r : Registration σ ε} {d : RegisteredClass σ ε}
    (accepted : r.build = .ok d) (factory : Factory) (naming : Naming) :
    (∀ p ∈ d.properties, ∀ invoker, (factory.propertyInvoker naming p).answer = .ok invoker →
      ∃ name routine, .writable name routine ∈ r.properties ∧
        r.propertyOf d.runtimeClass (.writable name routine) = p ∧
        ∀ heap target value, Decides (ofAssignment p r.receiver heap target value)
          (fun error => invoker.invoke heap target value = .refused heap target error)
          (∃ loan, r.receiver.reach? heap target = some loan ∧
            (invoker.invoke heap target value).RanOn target loan [value.argument]
              (routine.run heap loan.part value.argument))) ∧
    (∀ m ∈ d.methods, ∀ invoker, (factory.methodInvoker naming m).answer = .ok invoker →
      ∃ method ∈ r.methods, r.methodOf d.runtimeClass method = m ∧
        ∀ heap target arguments hierarchy, target.ObjectOf hierarchy →
          Decides (ofCall m (r.selected? method hierarchy) heap target arguments)
            (fun error => invoker.invoke heap target arguments = .refused heap target error)
            (∃ own loan, r.selected? method hierarchy = some own ∧
              own.owner.receiver.reach? heap target = some loan ∧
              (invoker.invoke heap target arguments).RanOn target loan
                (arguments.map Datum.argument)
                (own.routine.run heap loan.part (arguments.map Datum.argument)))) :=
  ⟨fun _ declared _ made => RegisteredClass.decides_of_property accepted declared made,
    fun _ declared _ made => RegisteredClass.decides_of_method accepted declared made⟩

namespace Shapes

def label : MethodDeclaration Unit String := ⟨"label", none, .abstract []⟩

-- The label of a square, called by the class that leaves it open: one argument is
-- one too many, and without it the square's own function runs.
theorem label_of_square :
    ∃ invoker, (Factory.methodInvoker ⟨.compiled, .default⟩ .first
        (shape.methodOf shapeClass.runtimeClass label)).answer = .ok invoker ∧
      invoker.invoke (Heap.empty.allocate squareContent) (.object squareObject) [.null] =
        .refused (Heap.empty.allocate squareContent) (.object squareObject) (.arityMismatch 0 1) ∧
      ∃ loan, Receiver.reach? square.receiver (Heap.empty.allocate squareContent)
          (.object squareObject) = some loan ∧
        (invoker.invoke (Heap.empty.allocate squareContent) (.object squareObject) []).RanOn
          (.object squareObject) loan []
          (idle.run (Heap.empty.allocate squareContent) loan.part []) := by
  have member : shape.methodOf shapeClass.runtimeClass label ∈ shapeClass.methods :=
    .tail _ (.head _)
  obtain ⟨invoker, made⟩ : ∃ invoker, (Factory.methodInvoker ⟨.compiled, .default⟩ .first
      (shape.methodOf shapeClass.runtimeClass label)).answer = .ok invoker := by
    have supported := checkRoute_of_virtual shape_build rfl member rfl
    obtain ⟨invoker, made, _⟩ := Factory.exists_methodInvoker ⟨.compiled, .default⟩ .first supported
    exact ⟨invoker, made⟩
  have sound : Datum.ObjectOf [square, figure, shape] (.object squareObject) := by
    intro ref same
    cases same
    exact ⟨square_registered, squareObject_made⟩
  obtain ⟨method, declared, described, decides⟩ :=
    (first_obstacle_decides shape_build ⟨.compiled, .default⟩ .first).2 _ member invoker made
  have same : method = label := by
    rcases List.mem_cons.mp declared with area | rest
    · subst area
      exact absurd (congrArg Method.name described) (by decide)
    · exact List.mem_singleton.mp rest
  subst same
  have own : square.declaration? label.slot = some ⟨"label", none, .virtual idle⟩ :=
    ((build_eq_ok_iff _ _).mp square_build).1.declaration?_of_mem (.tail _ (.head _)) rfl
  have selected : shape.selected? label [square, figure, shape] = some ⟨idle, square⟩ := by
    have takes : label.takesSlot = true := rfl
    simp [selected?, takes, nearest?, own, implementation?, MethodDeclaration.routine?]
  have present : (shape.methodOf shapeClass.runtimeClass label).lacksBody (.object squareObject) =
      false := by decide +kernel
  refine ⟨invoker, made, ?_, ?_⟩
  · have decided := decides (Heap.empty.allocate squareContent) _ [.null] _ sound
    rw [selected] at decided
    exact decided
  · have decided := decides (Heap.empty.allocate squareContent) _ [] _ sound
    rw [selected] at decided
    have clear : verdict (ofCall (shape.methodOf shapeClass.runtimeClass label)
        (some ⟨idle, square⟩) (Heap.empty.allocate squareContent) (.object squareObject)
        []) = .ok () := by
      rw [ofCall, ofSlot, present]
      rfl
    rw [Decides, clear] at decided
    obtain ⟨_, loan, same, reached, runs⟩ := decided
    cases same
    exact ⟨loan, reached, runs⟩

end Shapes

end LateBinding
