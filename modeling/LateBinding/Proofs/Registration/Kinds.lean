import LateBinding.Proofs.Registration.Inheritance

/-!
Which kinds of class inherit. Registration asks of a base class that it takes references, and
asks nothing of the kind of the class that extends it. So a value class can stand only at the
lower end of a hierarchy, and there it may stand: with a base class, and with the slots of it.
-/

namespace LateBinding

variable {σ ε : Type}

open Registration

namespace RuntimeClass

/-- Inheritance is for reference classes: a value class has no base class, and no slots that it
did not declare; with a base class come reference classes alone. -/
def InheritsAsReference (c : RuntimeClass σ ε) (declared : List Fingerprint) : Prop :=
  (c.kind = .value → c.base? = none ∧ ∀ slot ∈ c.table.slots, slot ∈ declared) ∧
  (c.base? ≠ none → ∀ ancestor ∈ c.ancestors, ancestor.kind = .reference)

theorem base?_onBase (own : ClassRecord σ ε) (base : Option (RuntimeClass σ ε)) :
    (onBase own base).base? = base := by
  cases base <;> rfl

end RuntimeClass

theorem base?_of_build {r : Registration σ ε} {c : RegisteredClass σ ε}
    (accepted : r.build = .ok c) :
    c.runtimeClass.base? = r.base := by
  rw [runtimeClass_of_build accepted, RuntimeClass.base?_onBase]

theorem mem_slots_of_build {r : Registration σ ε} {c : RegisteredClass σ ε}
    (accepted : r.build = .ok c) (top : r.base = none) {slot : Fingerprint}
    (member : slot ∈ c.runtimeClass.table.slots) : slot ∈ r.declaredSlots := by
  have walk := (Registered.root accepted top).mem_slots_iff slot
  simpa using walk.mp member

namespace Registered

theorem exists_build {c : RuntimeClass σ ε} {r : Registration σ ε} {above : List (Registration σ ε)}
    (known : Registered c (r :: above)) :
    ∃ entry : RegisteredClass σ ε, r.build = .ok entry ∧ entry.runtimeClass = c ∧
      ∀ base, r.base = some base → Registered base above := by
  cases known with
  | root accepted top =>
      refine ⟨_, accepted, rfl, fun base extending => ?_⟩
      rw [top] at extending
      cases extending
  | derived further accepted extending =>
      refine ⟨_, accepted, rfl, fun base also => ?_⟩
      cases extending.symm.trans also
      exact further

theorem reference_of_base {c : RuntimeClass σ ε} {r : Registration σ ε}
    {above : List (Registration σ ε)} (known : Registered c (r :: above)) {base : RuntimeClass σ ε}
    (extending : c.base? = some base) {ancestor : RuntimeClass σ ε}
    (member : ancestor ∈ base.ancestors) : ancestor.kind = .reference := by
  obtain ⟨entry, accepted, rfl, further⟩ := known.exists_build
  rw [base?_of_build accepted] at extending
  have checked := ((build_eq_ok_iff _ _).mp accepted).1.base_open extending
  exact (further base extending).kind_of_mem checked.1 member

theorem last_of_value {c : RuntimeClass σ ε} {r : Registration σ ε}
    {above : List (Registration σ ε)}
    (known : Registered c (r :: above)) {ancestor : RuntimeClass σ ε}
    (member : ancestor ∈ c.ancestors) (value : ancestor.kind = .value) : ancestor = c := by
  obtain ⟨entry, accepted, rfl, _⟩ := known.exists_build
  rcases (mem_ancestors_of_build accepted).mp member with same | ⟨base, extending, further⟩
  · exact same
  · rw [← base?_of_build accepted] at extending
    rw [known.reference_of_base extending further] at value
    cases value

theorem inheritsAsReference_iff {c : RuntimeClass σ ε} {r : Registration σ ε}
    {above : List (Registration σ ε)} (known : Registered c (r :: above)) :
    c.InheritsAsReference r.declaredSlots ↔ c.kind = .reference ∨ c.base? = none := by
  constructor
  · rintro ⟨alone, _⟩
    cases kind : c.kind with
    | reference => exact .inl rfl
    | value => exact .inr (alone kind).1
  · rintro (reference | top)
    · refine ⟨fun value => ?_, fun _ ancestor member => known.kind_of_mem reference member⟩
      rw [reference] at value
      cases value
    · refine ⟨fun _ => ⟨top, fun slot member => ?_⟩, fun based => absurd top based⟩
      obtain ⟨entry, accepted, rfl, _⟩ := known.exists_build
      exact mem_slots_of_build accepted (base?_of_build accepted ▸ top) member

/-- Kinds in a registered hierarchy. All base classes take references, so a value class is never
extended. A class inherits as reference classes do unless it is a value class with a base class;
and whatever its kind, each slot that it leaves alone holds what it holds in the base class. -/
theorem base_classes_take_references {c : RuntimeClass σ ε} {r : Registration σ ε}
    {above : List (Registration σ ε)} (known : Registered c (r :: above)) :
    (∀ base, c.base? = some base → ∀ ancestor ∈ base.ancestors, ancestor.kind = .reference) ∧
    (∀ ancestor ∈ c.ancestors, ancestor.kind = .value → ancestor = c) ∧
    (c.InheritsAsReference r.declaredSlots ↔ c.kind = .reference ∨ c.base? = none) ∧
    ∀ slot, c.resolve slot =
      ((r.declaration? slot).map r.entryOf).or (c.base?.bind fun base => base.resolve slot) := by
  refine ⟨fun base extending ancestor => known.reference_of_base extending,
    fun ancestor => known.last_of_value, known.inheritsAsReference_iff, fun slot => ?_⟩
  obtain ⟨entry, accepted, rfl, _⟩ := known.exists_build
  rw [resolve_of_build accepted, base?_of_build accepted, inherited]
  cases r.base with
  | none => rfl
  | some base => rfl

end Registered

/-! A value class under the classes over two slots. It declares nothing. -/
namespace Shapes

def stamp : Registration Unit String :=
  (start "Stamp" ⟨4, "zoo::Stamp"⟩ .value).extending squareClass.runtimeClass

def stampClass : RegisteredClass Unit String := stamp.describe stamp.finalTable

theorem stamp_build : stamp.build = .ok stampClass :=
  (build_eq_ok_iff _ _).mpr
    ⟨⟨rfl, by decide +kernel, by decide, by decide +kernel, rfl, rfl⟩, rfl⟩

theorem stamp_registered :
    Registered stampClass.runtimeClass [stamp, square, figure, shape] :=
  .derived square_registered stamp_build rfl

theorem stamp_resolves_as_square :
    Registered stampClass.runtimeClass [stamp, square, figure, shape] ∧
    (∀ ancestor ∈ squareClass.runtimeClass.ancestors, ancestor.kind = .reference) ∧
    ¬ stampClass.runtimeClass.InheritsAsReference stamp.declaredSlots ∧
    ∀ slot, stampClass.runtimeClass.resolve slot = squareClass.runtimeClass.resolve slot := by
  obtain ⟨bases, _, inherits, resolves⟩ :=
    Registered.base_classes_take_references stamp_registered
  refine ⟨stamp_registered, bases squareClass.runtimeClass rfl, fun asReference => ?_, resolves⟩
  rcases inherits.mp asReference with kind | top
  · cases kind
  · cases top

/-- A value class with a base class, and with both slots of it. -/
theorem stamp_inherits_as_value :
    Registered stampClass.runtimeClass [stamp, square, figure, shape] ∧
    stampClass.runtimeClass.kind = .value ∧
    stampClass.runtimeClass.base? = some squareClass.runtimeClass ∧
    stamp.declaredSlots = [] ∧ stampClass.runtimeClass.tableSize = 2 :=
  ⟨stamp_registered, rfl, rfl, rfl, by decide +kernel⟩

end Shapes

end LateBinding
