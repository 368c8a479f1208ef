import LateBinding.Proofs.Object.Shape
import LateBinding.Proofs.Registration.Inheritance

/-!
Objects that came about by instantiating a class. Classes that are abstract or take
values have none.
-/

namespace LateBinding

variable {σ ε : Type}

/-- An object that came about by instantiating its class. -/
def ObjectRef.Made (object : ObjectRef σ ε) : Prop :=
  ∃ heap content after, object.runtimeClass.instantiate heap content = .ok (object, after)

theorem ObjectRef.Made.concrete {object : ObjectRef σ ε} (made : object.Made) :
    object.runtimeClass.kind = .reference ∧ object.runtimeClass.isAbstract = false := by
  obtain ⟨heap, content, after, made⟩ := made
  have takes := ((object.runtimeClass.instantiate_eq_ok_iff heap after content object).mp made).1
  exact ⟨takes.1, takes.2.1⟩

namespace Shapes

def squareContent : Instance Unit :=
  .derived ⟨⟨3, "zoo::Square"⟩, (), [.base]⟩
    (.derived ⟨⟨2, "zoo::Figure"⟩, (), [.base]⟩ (.root ⟨⟨1, "zoo::Shape"⟩, (), []⟩))

def squareObject : ObjectRef Unit String := ⟨0, squareClass.runtimeClass⟩

theorem square_instantiate :
    squareClass.runtimeClass.instantiate .empty squareContent =
      .ok (squareObject, Heap.empty.allocate squareContent) :=
  (RuntimeClass.instantiate_eq_ok_iff _ _ _ _ _).mpr ⟨⟨rfl, rfl, rfl⟩, rfl, rfl⟩

theorem squareObject_made : squareObject.Made :=
  ⟨.empty, squareContent, Heap.empty.allocate squareContent, square_instantiate⟩

end Shapes

end LateBinding
