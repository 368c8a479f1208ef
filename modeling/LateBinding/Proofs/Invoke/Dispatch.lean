import LateBinding.Proofs.Invoke.Precedence

/-!
Virtual calls of objects. Classes keep the slots that they inherit, classes that
are not abstract have a body in each slot, and only such classes have objects;
so a virtual call that a class of the object's hierarchy declares finds a body.
-/

namespace LateBinding

variable {σ ε : Type}

open Registration Obstacle

namespace Registered

-- A slot that some class of the hierarchy has is there in all classes below it.
theorem isSome_resolve_of_mem {c : RuntimeClass σ ε} {chain : List (Registration σ ε)}
    (known : Registered c chain) {above : RuntimeClass σ ε} (member : above ∈ c.ancestors)
    {slot : Fingerprint} (there : (above.resolve slot).isSome) : (c.resolve slot).isSome := by
  induction known with
  | root accepted top =>
      rcases (mem_ancestors_of_build accepted).mp member with rfl | ⟨base, extending, _⟩
      · exact there
      · rw [top] at extending
        cases extending
  | @derived r _ base _ _ accepted extending ih =>
      rcases (mem_ancestors_of_build accepted).mp member with rfl | ⟨base, also, further⟩
      · exact there
      · cases extending.symm.trans also
        -- A declaration of this class may only replace the copied entry, never drop it.
        have copied : r.inherited.find? slot = base.resolve slot := by
          simp [inherited, extending, RuntimeClass.resolve]
        rw [resolve_of_build accepted, copied, Option.isSome_or, ih further, Bool.or_true]

theorem body_of_concrete {c : RuntimeClass σ ε} {chain : List (Registration σ ε)}
    (known : Registered c chain) (concrete : c.isAbstract = false) {slot : Fingerprint}
    {entry : TableEntry σ ε} (found : c.resolve slot = some entry) :
    ∃ body, entry.body = some body := by
  have own : c ∈ c.ancestors := by cases c <;> exact List.mem_cons_self
  obtain ⟨r, entry, _, accepted, rfl⟩ := known.exists_build_of_mem own
  have checked := ((build_eq_ok_iff r entry).mp accepted).1
  rw [isAbstract_of_build accepted] at concrete
  rw [RuntimeClass.resolve, table_of_build accepted] at found
  exact checked.body_of_concrete concrete found

end Registered

def FindsBody {α : Type} (answer : Except (InvokeError ε) α) : Prop :=
  ∀ method className, answer ≠ .error (.abstractMethod method className)

namespace Obstacle

theorem argument_of_mem {types : List ParamType} {arguments : List (Datum σ ε)}
    {obstacle : Obstacle ε} (member : obstacle ∈ ofArguments types arguments) :
    obstacle = ofCount types arguments ∨
      ∃ position type datum, obstacle = ofArgument position type (datum : Datum σ ε) := by
  rcases List.mem_cons.mp member with count | listed
  · exact .inl count
  · obtain ⟨entry, _, same⟩ := List.mem_map.mp listed
    exact .inr ⟨_, _, _, same.symm⟩

/-- Of all obstacles to a call, only an empty slot says that a body is missing. -/
theorem ne_abstractMethod_of_mem {m : Method σ ε} {selected : Option (Implementation σ ε)}
    {heap : Heap σ} {target : Datum σ ε} {arguments : List (Datum σ ε)}
    (has : m.lacksBody target = false) {obstacle : Obstacle ε}
    (member : obstacle ∈ ofCall m selected heap target arguments) (stands : obstacle.stands)
    (method className : String) : obstacle.error ≠ .abstractMethod method className := by
  have ofTypes {types : List ParamType} (listed : obstacle ∈ ofArguments types arguments) :
      obstacle.error ≠ .abstractMethod method className := by
    rcases argument_of_mem listed with rfl | ⟨_, _, _, rfl⟩
    · exact fun same => nomatch same
    · exact fun same => nomatch same
  rcases List.mem_append.mp member with front | back
  · rcases List.mem_cons.mp front with rfl | listed
    · exact fun same => nomatch same
    · exact ofTypes listed
  · rcases List.mem_cons.mp back with rfl | rest
    · exact absurd (stands.symm.trans has) (by decide)
    · cases selected with
      | none => cases rest
      | some own =>
          rcases List.mem_append.mp rest with loan | listed
          · rcases List.mem_append.mp loan with met | last
            · obtain ⟨_, _, rfl⟩ := List.mem_map.mp met
              exact fun same => nomatch same
            · obtain rfl := List.mem_singleton.mp last
              exact fun same => nomatch same
          · exact ofTypes listed

end Obstacle

theorem Completion.RanOn.findsBody {after : Completion σ ε} {target : Datum σ ε}
    {loan : Loan σ} {arguments : List (Argument σ)} {touch : Touch σ (Attempt ε Unit)}
    (ran : after.RanOn target loan arguments touch) : FindsBody after.answer := by
  intro method className
  rw [ran.answer]
  cases touch.result with
  | error failure => exact fun same => nomatch same
  | ok _ => exact fun same => nomatch same

theorem Interpreted.findsBody_call {r : Registration σ ε} {d : RegisteredClass σ ε}
    (accepted : r.build = .ok d) {method : MethodDeclaration σ ε} {m : Method σ ε}
    (described : r.methodOf d.runtimeClass method = m) {route : Route σ ε}
    (routed : m.checkRoute = .ok route) {target : Datum σ ε} {hierarchy : List (Registration σ ε)}
    (sound : target.ObjectOf hierarchy) (has : m.lacksBody target = false) (heap : Heap σ)
    (arguments : List (Datum σ ε)) : FindsBody (call m heap target arguments).answer := by
  have decided := decides_call accepted described routed heap arguments sound
  unfold Decides at decided
  split at decided
  · next error refused =>
      obtain ⟨obstacle, member, stands, rfl⟩ := mem_of_verdict refused
      intro name className same
      rw [decided] at same
      exact ne_abstractMethod_of_mem has member stands name className (Except.error.inj same)
  · obtain ⟨own, loan, _, _, ran⟩ := decided
    exact ran.findsBody

/-- Any object whose class has a built class among its ancestors has a body for
each virtual method of that class, declared abstract or not, and invokers of
these methods never miss one. -/
theorem virtual_call_finds_body {r : Registration σ ε} {d : RegisteredClass σ ε}
    (accepted : r.build = .ok d) {m : Method σ ε} (declared : m ∈ d.methods)
    (isVirtual : m.dispatch.isVirtual) {object : ObjectRef σ ε} {chain : List (Registration σ ε)}
    (known : Registered object.runtimeClass chain)
    (below : d.runtimeClass ∈ object.runtimeClass.ancestors) (made : object.Made) :
    (∃ entry body, object.runtimeClass.resolve m.slot = some entry ∧ entry.body = some body ∧
      resolveVirtual m.slot m.name (.object object) = .ok body) ∧
    (∀ (factory : Factory) (naming : Naming), ∃ invoker,
      (factory.methodInvoker naming m).answer = .ok invoker ∧
      ∀ heap arguments, FindsBody (invoker.invoke heap (.object object) arguments).answer) := by
  obtain ⟨kind, concrete⟩ := made.concrete
  obtain ⟨dispatch, there⟩ := slot_of_virtual accepted declared isVirtual
  obtain ⟨entry, found⟩ := Option.isSome_iff_exists.mp (known.isSome_resolve_of_mem below there)
  obtain ⟨body, filled⟩ := known.body_of_concrete concrete found
  have resolved : resolveVirtual m.slot m.name (.object object) = .ok body := by
    simp [resolveVirtual, found, filled]
  refine ⟨⟨entry, body, found, filled, resolved⟩, ?_⟩
  intro factory naming
  have supported := checkRoute_of_virtual accepted (known.kind_of_mem kind below) declared isVirtual
  obtain ⟨invoker, answered, reads⟩ := factory.exists_methodInvoker naming supported
  refine ⟨invoker, answered, ?_⟩
  intro heap arguments
  rw [methods_of_build accepted] at declared
  obtain ⟨method, _, described⟩ := List.mem_map.mp declared
  have sound : Datum.ObjectOf chain (.object object) := by
    intro ref same
    cases same
    exact ⟨known, made⟩
  have has : m.lacksBody (.object object) = false := by
    simp [Method.lacksBody, dispatch, found, filled]
  rw [reads]
  exact Interpreted.findsBody_call accepted described supported sound has heap arguments

namespace Shapes

-- Declared abstract two classes above, beside a direct method in between.
theorem square_finds_label :
    ∃ m ∈ shapeClass.methods, m.dispatch.isVirtual ∧ m.body.isNone ∧
      ∃ body, resolveVirtual m.slot m.name (.object squareObject) = .ok body := by
  have declared : shape.methodOf shapeClass.runtimeClass ⟨"label", none, .abstract []⟩ ∈
      shapeClass.methods := .tail _ (.head _)
  have below : shapeClass.runtimeClass ∈ squareObject.runtimeClass.ancestors :=
    .tail _ (.tail _ (.head _))
  obtain ⟨⟨_, body, _, _, resolved⟩, _⟩ :=
    virtual_call_finds_body shape_build declared rfl square_registered below squareObject_made
  exact ⟨_, declared, rfl, rfl, body, resolved⟩

end Shapes

end LateBinding
