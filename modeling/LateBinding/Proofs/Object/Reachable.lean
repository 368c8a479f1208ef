import LateBinding.Proofs.Object.Keeping

/-!
The objects of a running program. Objects are made in line with their classes, and
bodies that leave the types of parts alone leave them in line. So in every state that
a program reaches, the class of an object tells which parts the object has.
-/

namespace LateBinding

variable {σ ε : Type}

open Registration

structure World (σ ε : Type) where
  heap : Heap σ
  objects : List (ObjectRef σ ε)

namespace World

/-- What may happen in a program. Calls go through invokers of either factory, of any
descriptors. A call may also be followed through its body, so that the objects count
that bodies make. -/
inductive Step : World σ ε → World σ ε → Prop where
  | instantiate {w : World σ ε} {c : RuntimeClass σ ε} {content : Instance σ}
      {object : ObjectRef σ ε} {after : Heap σ}
      (made : c.instantiate w.heap content = .ok (object, after)) :
      Step w ⟨after, object :: w.objects⟩
  | construct {w : World σ ε} {factory : Factory} {naming : Naming} {c : Constructor σ ε}
      {invoker : ConstructorInvoker σ ε}
      (made : (factory.constructorInvoker naming c).answer = .ok invoker)
      (keeps : c.body.KeepsShapes w.heap) (arguments : List (Datum σ ε)) :
      Step w ⟨(invoker.invoke w.heap arguments).heap,
        (invoker.invoke w.heap arguments).objects ++ w.objects⟩
  | assign {w : World σ ε} {factory : Factory} {naming : Naming} {p : Property σ ε}
      {invoker : PropertyInvoker σ ε}
      (made : (factory.propertyInvoker naming p).answer = .ok invoker)
      (keeps : ∀ setter ∈ p.setter, setter.KeepsShapes w.heap) (target value : Datum σ ε) :
      Step w ⟨(invoker.invoke w.heap target value).heap, w.objects⟩
  | call {w : World σ ε} {factory : Factory} {naming : Naming} {m : Method σ ε}
      {invoker : MethodInvoker σ ε} (made : (factory.methodInvoker naming m).answer = .ok invoker)
      {target : Datum σ ε}
      (keeps : ∀ body, Interpreted.bodyFor m target = .ok body → body.KeepsShapes w.heap)
      (arguments : List (Datum σ ε)) :
      Step w ⟨(invoker.invoke w.heap target arguments).heap, w.objects⟩
  | write {w : World σ ε} {object : ObjectRef σ ε} {type : NativeType} {f : Instance σ → Instance σ}
      {after : Heap σ} (keeps : ∀ part, (f part).shape = part.shape)
      (written : w.heap.modifyAs? object type f = some after) : Step w ⟨after, w.objects⟩
  | body {w : World σ ε} {after : Heap σ} (keeps : w.heap.KeepsShapes after) :
      Step w ⟨after, w.objects⟩

inductive Reachable : World σ ε → Prop where
  | start : Reachable ⟨.empty, []⟩
  | next {w after : World σ ε} (before : Reachable w) (step : Step w after) : Reachable after

def InLine (w : World σ ε) : Prop :=
  ∀ object ∈ w.objects, ∃ content, w.heap.content? object = some content ∧
    object.runtimeClass.Takes content

namespace InLine

theorem evolve {w : World σ ε} (inLine : w.InLine) {after : Heap σ}
    (keeps : w.heap.KeepsShapes after) : InLine ⟨after, w.objects⟩ := by
  intro object member
  obtain ⟨content, held, kind, concrete, shape⟩ := inLine object member
  obtain ⟨now, there, same⟩ := keeps object.id content held
  exact ⟨now, there, kind, concrete, same.trans shape⟩

theorem instantiate {w : World σ ε} (inLine : w.InLine) {c : RuntimeClass σ ε}
    {content : Instance σ}
    {object : ObjectRef σ ε} {after : Heap σ}
    (made : c.instantiate w.heap content = .ok (object, after)) :
    InLine ⟨after, object :: w.objects⟩ := by
  obtain ⟨takes, rfl, rfl⟩ := (c.instantiate_eq_ok_iff _ _ _ _).mp made
  refine List.forall_mem_cons.mpr ⟨⟨content, ?_, takes⟩, ?_⟩
  · rw [Heap.content?, Heap.read?_allocate, if_pos rfl]
  · exact inLine.evolve (.allocate w.heap content)

theorem step {w after : World σ ε} (inLine : w.InLine) (step : Step w after) : after.InLine := by
  cases step with
  | instantiate made => exact inLine.instantiate made
  | @construct factory naming c invoker made keeps arguments =>
      obtain ⟨_, reads⟩ := Factory.reads_of_constructorInvoker made
      rw [reads]
      rcases Interpreted.construct_cases keeps arguments with
        ⟨none, kept⟩ | ⟨left, content, object, kept, last, one⟩
      · rw [none]
        exact inLine.evolve kept
      · rw [one]
        exact (inLine.evolve kept).instantiate last
  | @assign factory naming p invoker made keeps target value =>
      obtain ⟨setter, checked, reads⟩ := Factory.reads_of_propertyInvoker made
      have own := keeps setter (Property.setter_of_checkSetter checked)
      rw [reads]
      exact inLine.evolve (Interpreted.keepsShapes_assign p own target value)
  | call made keeps arguments =>
      obtain ⟨_, _, reads⟩ := Factory.reads_of_methodInvoker made
      rw [reads]
      exact inLine.evolve (Interpreted.keepsShapes_call keeps arguments)
  | write keeps written => exact inLine.evolve (.modifyAs keeps written)
  | body keeps => exact inLine.evolve keeps

end InLine

theorem Reachable.inLine {w : World σ ε} (reached : Reachable w) : w.InLine := by
  induction reached with
  | start => exact fun _ member => nomatch member
  | next _ step ih => exact ih.step step

end World

theorem RuntimeClass.Takes.isSome_viewAs? {c : RuntimeClass σ ε} {content : Instance σ}
    (takes : c.Takes content) (type : NativeType) :
    c.derivesFrom type ↔ (content.viewAs? type).isSome := by
  rw [c.derivesFrom_iff_mem, content.isSome_viewAs?, ← takes.2.2]
  rfl

theorem ObjectRef.downcast?_iff (object : ObjectRef σ ε) (type : NativeType) :
    (Datum.object object).downcast? type = some object ↔ object.derivesFrom type := by
  simp [Datum.downcast?, Datum.object?, Option.filter]

theorem ParamType.derivesFrom_of_convert {param : ParamType} {handle : Handle}
    {converted : Argument σ} (accepted : param.convert (.object handle) = .ok converted) :
    handle.derivesFrom param.native := by
  cases param with
  | value native declaredName => cases accepted
  | reference native nullable =>
      simp only [convert] at accepted
      split at accepted
      · next derives => exact derives
      · cases accepted

-- A handle that passed as an argument is read as a part of the parameter's type.
theorem Heap.readAs?_of_convert {heap : Heap σ} {object : ObjectRef σ ε} {content : Instance σ}
    (held : heap.content? object = some content) (takes : object.runtimeClass.Takes content)
    {param : ParamType} {converted : Argument σ}
    (accepted : param.convert (.object object.handle) = .ok converted) :
    converted = .object object.handle ∧
      ∃ seen, heap.readAs? object.handle param.native = some seen ∧
        seen.native = param.native := by
  have derives := ParamType.derivesFrom_of_convert accepted
  rw [object.derivesFrom_handle] at derives
  obtain ⟨seen, found⟩ := Option.isSome_iff_exists.mp ((takes.isSome_viewAs? _).mp derives)
  have read : heap.read? object.handle.id = some content := held
  refine ⟨ParamType.eq_of_convert accepted, seen, ?_, Instance.native_of_viewAs? found⟩
  rw [readAs?, read, Option.bind_some, found]

/-- What a class takes, and what this makes of the objects of a reachable state: they are
of concrete reference classes, seen as a type exactly if they have a part of it, and
what reads them as a type that they passed for finds that part. -/
theorem objects_show_their_types :
    (∀ (c : RuntimeClass σ ε) heap content, (∃ made, c.instantiate heap content = .ok made) ↔
      c.kind = .reference ∧ c.isAbstract = false ∧ content.shape = c.lineage) ∧
    (∀ w : World σ ε, w.Reachable → ∀ object ∈ w.objects,
      object.runtimeClass.kind = .reference ∧ object.runtimeClass.isAbstract = false ∧
      ∃ content, w.heap.content? object = some content ∧
        (∀ type, (object.derivesFrom type ↔ (content.viewAs? type).isSome) ∧
          ((Datum.object object).downcast? type = some object ↔ (content.viewAs? type).isSome)) ∧
        ∀ (param : ParamType) (converted : Argument σ),
          param.convert (.object object.handle) = .ok converted →
          converted = .object object.handle ∧
            ∃ seen, w.heap.readAs? object.handle param.native = some seen ∧
              seen.native = param.native) := by
  constructor
  · intro c heap content
    constructor
    · rintro ⟨⟨object, after⟩, made⟩
      exact ((c.instantiate_eq_ok_iff heap after content object).mp made).1
    · intro takes
      exact ⟨_, (c.instantiate_eq_ok_iff heap _ content _).mpr ⟨takes, rfl, rfl⟩⟩
  · intro w reached object member
    obtain ⟨content, held, takes⟩ := reached.inLine object member
    refine ⟨takes.1, takes.2.1, content, held, ?_, ?_⟩
    · intro type
      exact ⟨takes.isSome_viewAs? type,
        (object.downcast?_iff type).trans (takes.isSome_viewAs? type)⟩
    · intro param converted accepted
      exact Heap.readAs?_of_convert held takes accepted

namespace Shapes

def scale : Method Unit String :=
  square.methodOf squareClass.runtimeClass ⟨"scale", none, .direct idle⟩

-- A square that was made and called is a shape still, and nothing but its ancestors.
theorem scaled_square_shows :
    ∃ w : World Unit String, w.Reachable ∧ squareObject ∈ w.objects ∧
      ∃ content, w.heap.content? squareObject = some content ∧
        (content.viewAs? ⟨1, "zoo::Shape"⟩).isSome ∧
        ¬ (content.viewAs? ⟨4, "zoo::Circle"⟩).isSome := by
  obtain ⟨invoker, made⟩ : ∃ invoker,
      (Factory.methodInvoker ⟨.compiled, .default⟩ .first scale).answer = .ok invoker :=
    ⟨_, rfl⟩
  have keeps : ∀ body, Interpreted.bodyFor scale (.object squareObject) = .ok body →
      body.KeepsShapes (Heap.empty.allocate squareContent) := by
    intro body found
    cases found
    exact MethodRoutine.keepsShapes_body (fun lent _ => ⟨.refl _, rfl⟩) square.receiver
  have reached := World.Reachable.next (.next .start (.instantiate square_instantiate))
    (.call made keeps [])
  obtain ⟨_, _, content, held, shown, _⟩ :=
    objects_show_their_types.2 _ reached squareObject List.mem_cons_self
  refine ⟨_, reached, List.mem_cons_self, content, held, ?_, ?_⟩
  · exact (shown ⟨1, "zoo::Shape"⟩).1.mp rfl
  · exact fun seen => absurd ((shown ⟨4, "zoo::Circle"⟩).1.mpr seen) (by decide)

end Shapes

end LateBinding
