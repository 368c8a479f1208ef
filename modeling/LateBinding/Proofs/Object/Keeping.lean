import LateBinding.Proofs.Invoke.Delivery

/-!
Calls of bodies that leave the types of parts alone. However such a body is called,
the call leaves the types of all objects alone: what the body was lent goes back into
the gap that it left, and a constructor ends with making an object of its class.
-/

namespace LateBinding

variable {σ ε : Type}

def Heap.Extends (after before : Heap σ) : Prop :=
  ∀ id content, before.read? id = some content → after.read? id = some content

theorem Heap.read?_nextId (heap : Heap σ) : heap.read? heap.nextId = none :=
  List.getElem?_eq_none (Nat.le_refl _)

theorem Heap.extends_allocate (heap : Heap σ) (content : Instance σ) :
    (heap.allocate content).Extends heap := by
  intro id old held
  have inside : id ≠ heap.nextId := by
    rintro rfl
    rw [heap.read?_nextId] at held
    cases held
  rw [read?_allocate, if_neg inside, held]

/-- Every cell is still there, with parts of the types that it had. -/
def Heap.KeepsShapes (before after : Heap σ) : Prop :=
  ∀ id content, before.read? id = some content →
    ∃ now, after.read? id = some now ∧ now.shape = content.shape

/-! Bodies that do not change the types of parts when they are called with these
objects. They may make objects and write to all there are, by calls of their own too. -/

def ConstructorBody.KeepsShapes (body : ConstructorBody σ ε) (heap : Heap σ) : Prop :=
  ∀ arguments, heap.KeepsShapes (body.act heap arguments).heap

def Change.KeepsShapes (before : Heap σ) (lent : Instance σ) (change : Change σ ε Unit) : Prop :=
  before.KeepsShapes change.heap ∧ change.receiver.shape = lent.shape

def SetterBody.KeepsShapes (body : SetterBody σ ε) (heap : Heap σ) : Prop :=
  ∀ lent argument, Change.KeepsShapes heap lent (body.act heap lent argument)

def MethodBody.KeepsShapes (body : MethodBody σ ε) (heap : Heap σ) : Prop :=
  ∀ lent arguments, Change.KeepsShapes heap lent (body.act heap lent arguments)

namespace Heap.KeepsShapes

theorem refl (heap : Heap σ) : heap.KeepsShapes heap :=
  fun _ content held => ⟨content, held, rfl⟩

theorem trans {first second third : Heap σ} (early : first.KeepsShapes second)
    (late : second.KeepsShapes third) : first.KeepsShapes third := by
  intro id content held
  obtain ⟨between, found, same⟩ := early id content held
  obtain ⟨now, there, still⟩ := late id between found
  exact ⟨now, there, still.trans same⟩

theorem allocate (heap : Heap σ) (content : Instance σ) :
    heap.KeepsShapes (heap.allocate content) :=
  fun id old held => ⟨old, heap.extends_allocate content id old held, rfl⟩

theorem write {heap : Heap σ} {id : Nat} {old new : Instance σ} (held : heap.read? id = some old)
    (same : new.shape = old.shape) : heap.KeepsShapes (heap.write id new) := by
  intro other content found
  rw [read?_write]
  by_cases hit : id = other
  · subst hit
    obtain rfl := Option.some.inj (held.symm.trans found)
    exact ⟨new, by simp [found], same⟩
  · exact ⟨content, by rw [if_neg hit, found], rfl⟩

end Heap.KeepsShapes

namespace Receiver

theorem reach?_of_lend {receiver : Receiver σ} {heap : Heap σ}
    {handles : List (Position × Handle)} {target : Datum σ ε} {loan : Loan σ}
    (lent : receiver.lend heap handles target = .ok loan) :
    receiver.reach? heap target = some loan := by
  unfold lend at lent
  split at lent
  · split at lent
    · cases lent
      rfl
    · cases lent
  · split at lent
    · cases lent
    · split at lent
      · next reached =>
          cases lent
          exact reached
      · cases lent
  · cases lent

-- What the body wrote to its target in between is lost, but its types are the same.
theorem keepsShapes_settle {receiver : Receiver σ} {heap : Heap σ} {target : Datum σ ε}
    {loan : Loan σ} (reached : receiver.reach? heap target = some loan)
    {change : Change σ ε Unit} (keeps : Change.KeepsShapes heap loan.part change) :
    heap.KeepsShapes (change.settle loan target).heap := by
  rcases whole_of_reach? reached with ⟨boxed, rfl, _⟩ | ⟨ref, _, _, rfl, _, held, _⟩
  · exact keeps.1
  · obtain ⟨now, there, still⟩ := keeps.1 ref.id loan.whole held
    have back := Loan.shape_putBack keeps.2
    exact keeps.1.trans (.write there (back.trans still.symm))

theorem keepsShapes_apply {receiver : Receiver σ} {heap : Heap σ} {target : Datum σ ε}
    {handles : List (Position × Handle)} {act : Instance σ → Change σ ε Unit}
    (keeps : ∀ part, Change.KeepsShapes heap part (act part)) :
    heap.KeepsShapes (receiver.apply heap target handles act).heap := by
  unfold apply
  split
  · exact .refl heap
  · next loan lent => exact keepsShapes_settle (reach?_of_lend lent) (keeps loan.part)

end Receiver

theorem Heap.KeepsShapes.modifyAs {heap after : Heap σ} {object : ObjectRef σ ε} {type : NativeType}
    {f : Instance σ → Instance σ} (keeps : ∀ part, (f part).shape = part.shape)
    (written : heap.modifyAs? object type f = some after) : heap.KeepsShapes after := by
  obtain ⟨whole, held, rest⟩ := Option.bind_eq_some_iff.mp written
  obtain ⟨loan, lent, same⟩ := Option.bind_eq_some_iff.mp rest
  obtain ⟨_, _, taken⟩ := Option.bind_eq_some_iff.mp lent
  obtain ⟨rfl, _⟩ := Loan.take?_eq_some.mp taken
  cases same
  exact .write held (Loan.shape_putBack (keeps loan.part))

def Outcome.objects (outcome : Outcome σ ε (Datum σ ε)) : List (ObjectRef σ ε) :=
  match outcome.answer with
  | .ok datum => datum.object?.toList
  | .error _ => []

theorem MethodRoutine.keepsShapes_body {routine : MethodRoutine σ ε} {heap : Heap σ}
    (keeps : ∀ lent arguments, heap.KeepsShapes (routine.run heap lent arguments).heap ∧
      (routine.run heap lent arguments).receiver.shape = lent.shape) (receiver : Receiver σ) :
    (routine.body receiver).KeepsShapes heap := by
  intro lent arguments
  simp only [body, MethodFunction.invokeOn]
  split
  · exact ⟨.refl heap, rfl⟩
  · next converted _ => exact keeps lent converted

namespace Interpreted

-- A constructor call ends with making its object, if it comes to make one.
theorem construct_cases {c : Constructor σ ε} {heap : Heap σ} (keeps : c.body.KeepsShapes heap)
    (arguments : List (Datum σ ε)) :
    ((construct c heap arguments).objects = [] ∧
      heap.KeepsShapes (construct c heap arguments).heap) ∨
    ∃ left content object, heap.KeepsShapes left ∧
      c.declaring.instantiate left content = .ok (object, (construct c heap arguments).heap) ∧
      (construct c heap arguments).objects = [object] := by
  unfold construct
  split
  · exact .inl ⟨rfl, .refl heap⟩
  · next marshalled _ =>
      have left := keeps marshalled
      generalize c.body.act heap marshalled = outcome at left ⊢
      unfold Outcome.deliver
      split
      · exact .inl ⟨rfl, left⟩
      · next creation _ =>
          split
          · next datum after delivered =>
              rcases deliver_cases delivered with ⟨_, _, rfl, rfl⟩ | ⟨_, object, rfl, made⟩
              · exact .inl ⟨rfl, left⟩
              · exact .inr ⟨outcome.heap, creation.content, object, left, made, rfl⟩
          · exact .inl ⟨rfl, left⟩

theorem keepsShapes_assign (p : Property σ ε) {setter : SetterBody σ ε} {heap : Heap σ}
    (keeps : setter.KeepsShapes heap) (target value : Datum σ ε) :
    heap.KeepsShapes (assign p setter heap target value).heap := by
  unfold assign
  split
  · exact .refl heap
  · split
    · exact .refl heap
    · exact Receiver.keepsShapes_apply fun part => keeps part _

theorem keepsShapes_call {m : Method σ ε} {heap : Heap σ} {target : Datum σ ε}
    (keeps : ∀ body, bodyFor m target = .ok body → body.KeepsShapes heap)
    (arguments : List (Datum σ ε)) : heap.KeepsShapes (call m heap target arguments).heap := by
  unfold call
  split
  · exact .refl heap
  · split
    · exact .refl heap
    · split
      · exact .refl heap
      · next body found => exact Receiver.keepsShapes_apply fun part => keeps body found part _

end Interpreted

end LateBinding
