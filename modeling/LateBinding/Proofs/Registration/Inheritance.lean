import LateBinding.Proofs.Registration.Acceptance
import Mathlib.Data.Finset.Card

/-!
The table of a class against a walk up its base classes. Building a class copies
the table of the base class and writes over it; looking a slot up there finds
what the nearest class of the hierarchy declared for it. Direct methods leave no
trace in a class, and a table has one entry for each slot that was declared.
-/

namespace LateBinding

variable {σ ε : Type}

namespace Registration

def declaration? (r : Registration σ ε) (slot : Fingerprint) : Option (MethodDeclaration σ ε) :=
  r.methods.find? fun method => method.takesSlot && method.slot == slot

def declaredSlots (r : Registration σ ε) : List Fingerprint :=
  (r.methods.filter (·.takesSlot)).map (·.slot)

/-- The nearest registration of a hierarchy that declares a slot, with its
declaration. -/
def nearest? (slot : Fingerprint) :
    List (Registration σ ε) → Option (Registration σ ε × MethodDeclaration σ ε)
  | [] => none
  | r :: above =>
      match r.declaration? slot with
      | some method => some (r, method)
      | none => nearest? slot above

def withoutDirect (r : Registration σ ε) : Registration σ ε :=
  { r with methods := r.methods.filter (·.takesSlot) }

theorem find?_write (r : Registration σ ε) (table : MethodTable σ ε)
    (method : MethodDeclaration σ ε)
    (slot : Fingerprint) :
    (r.write table method).find? slot =
      if method.takesSlot && method.slot == slot then some (r.entryOf method)
      else table.find? slot := by
  cases takes : method.takesSlot with
  | false => simp [write, takes]
  | true =>
      by_cases same : slot = method.slot
      · simp [write, takes, MethodTable.find?_insert, same]
      · simp [write, takes, MethodTable.find?_insert, same, Ne.symm same]

-- Distinct slots are written once, so the order of the declarations does not
-- matter to a look-up.
theorem find?_foldl_write (r : Registration σ ε) (slot : Fingerprint) (table : MethodTable σ ε)
    (methods : List (MethodDeclaration σ ε)) (distinct : (methods.map (·.slot)).Nodup) :
    (methods.foldl r.write table).find? slot =
      ((methods.find? fun method => method.takesSlot && method.slot == slot).map
        r.entryOf).or (table.find? slot) := by
  -- The rest is written after this declaration and would win, but it does not have the slot.
  induction methods generalizing table with
  | nil => simp
  | cons method rest ih =>
      rw [List.map_cons, List.nodup_cons] at distinct
      rw [List.foldl_cons, ih _ distinct.2, find?_write, List.find?_cons]
      cases hit : method.takesSlot && method.slot == slot with
      | false => simp
      | true =>
          have same : method.slot = slot := by simpa using (Bool.and_eq_true_iff.mp hit).2
          have unique : (rest.find? fun other => other.takesSlot && other.slot == slot) = none := by
            simp only [List.find?_eq_none, Bool.and_eq_true, beq_iff_eq, not_and]
            intro other member _ sameSlot
            exact distinct.1 (List.mem_map.mpr ⟨other, member, sameSlot.trans same.symm⟩)
          simp [unique]

theorem Accepted.find?_finalTable {r : Registration σ ε} (accepted : r.Accepted)
    (slot : Fingerprint) :
    r.finalTable.find? slot =
      ((r.declaration? slot).map r.entryOf).or (r.inherited.find? slot) :=
  find?_foldl_write r slot r.inherited r.methods accepted.distinct

theorem declaration?_eq_none_iff (r : Registration σ ε) (slot : Fingerprint) :
    r.declaration? slot = none ↔ slot ∉ r.declaredSlots := by
  simp only [declaration?, declaredSlots, List.find?_eq_none, Bool.and_eq_true, beq_iff_eq,
    List.mem_map, List.mem_filter, not_exists, not_and]
  exact ⟨fun h method member => h method member.1 member.2,
    fun h method member takes => h method ⟨member, takes⟩⟩

-- Slots are distinct, so a slot has the one declaration that takes it.
theorem Accepted.declaration?_of_mem {r : Registration σ ε} (accepted : r.Accepted)
    {method : MethodDeclaration σ ε} (member : method ∈ r.methods) (takes : method.takesSlot) :
    r.declaration? method.slot = some method := by
  have distinct := accepted.distinct
  unfold declaration?
  generalize r.methods = methods at member distinct ⊢
  induction methods with
  | nil => cases member
  | cons first rest ih =>
      rw [List.map_cons, List.nodup_cons] at distinct
      rcases List.mem_cons.mp member with same | later
      · subst first
        simp [takes]
      · have other : (first.slot == method.slot) = false := by
          rw [beq_eq_false_iff_ne]
          intro same
          exact distinct.1 (List.mem_map.mpr ⟨method, later, same.symm⟩)
        simpa [other] using ih later distinct.2

theorem nearest?_append (slot : Fingerprint) (front back : List (Registration σ ε)) :
    nearest? slot (front ++ back) = (nearest? slot front).or (nearest? slot back) := by
  induction front with
  | nil => rfl
  | cons r rest ih =>
      rw [List.cons_append, nearest?, nearest?, ih]
      cases r.declaration? slot <;> rfl

theorem nearest?_eq_none_iff (slot : Fingerprint) (chain : List (Registration σ ε)) :
    nearest? slot chain = none ↔ slot ∉ chain.flatMap declaredSlots := by
  induction chain with
  | nil => simp [nearest?]
  | cons r above ih =>
      rw [List.flatMap_cons, List.mem_append, not_or, ← declaration?_eq_none_iff, ← ih, nearest?]
      cases r.declaration? slot <;> simp

theorem mem_of_nearest? {slot : Fingerprint} {chain : List (Registration σ ε)}
    {r : Registration σ ε}
    {method : MethodDeclaration σ ε} (found : nearest? slot chain = some (r, method)) :
    r ∈ chain ∧ method ∈ r.methods ∧ method.takesSlot ∧ method.slot = slot := by
  induction chain with
  | nil => cases found
  | cons first above ih =>
      rw [nearest?] at found
      cases own : first.declaration? slot with
      | none =>
          rw [own] at found
          obtain ⟨member, rest⟩ := ih found
          exact ⟨List.mem_cons_of_mem first member, rest⟩
      | some declared =>
          rw [own] at found
          cases found
          have hit := List.find?_some own
          rw [Bool.and_eq_true, beq_iff_eq] at hit
          exact ⟨List.mem_cons_self, List.mem_of_find?_eq_some own, hit⟩

theorem isSome_body_entryOf (r : Registration σ ε) {method : MethodDeclaration σ ε}
    (takes : method.takesSlot) :
    (r.entryOf method).body.isSome ↔ ∃ routine, method.form = .virtual routine := by
  cases form : method.form with
  | direct routine => simp [MethodDeclaration.takesSlot, form] at takes
  | virtual routine => simp [entryOf, MethodDeclaration.routine?, form]
  | abstract params => simp [entryOf, MethodDeclaration.routine?, form]

theorem nodup_slots_foldl_write (r : Registration σ ε) (table : MethodTable σ ε)
    (methods : List (MethodDeclaration σ ε)) (apart : table.slots.Nodup) :
    (methods.foldl r.write table).slots.Nodup := by
  induction methods generalizing table with
  | nil => exact apart
  | cons method rest ih =>
      apply ih
      unfold write
      split
      · exact MethodTable.nodup_slots_insert table method.slot (r.entryOf method) apart
      · exact apart

-- Writing skips direct methods, so leaving them out writes the same table.
theorem finalTable_withoutDirect (r : Registration σ ε) :
    r.withoutDirect.finalTable = r.finalTable := by
  unfold finalTable withoutDirect
  rw [List.foldl_filter]
  congr 1
  funext table method
  unfold write
  split
  · rfl
  · rfl

theorem Accepted.withoutDirect {r : Registration σ ε} (accepted : r.Accepted) :
    r.withoutDirect.Accepted where
  base := accepted.base
  distinct := accepted.distinct.sublist (List.filter_sublist.map _)
  placed method member := accepted.placed method (List.mem_of_mem_filter member)
  complete := by
    rw [finalTable_withoutDirect]
    exact accepted.complete
  properties := accepted.properties
  constructors := accepted.constructors

end Registration

namespace MethodTable

theorem find?_eq_none_iff (table : MethodTable σ ε) (slot : Fingerprint) :
    table.find? slot = none ↔ slot ∉ table.slots := by
  simp only [find?, slots, List.lookup_eq_none_iff, List.mem_map, not_exists, not_and]
  exact ⟨fun h entry member same => by simpa [same] using h entry member,
    fun h entry member => by simpa using fun same => h entry member same.symm⟩

theorem slots_empty : (empty : MethodTable σ ε).slots = [] :=
  rfl

end MethodTable

open Registration

theorem resolve_of_build {r : Registration σ ε} {c : RegisteredClass σ ε}
    (accepted : r.build = .ok c)
    (slot : Fingerprint) :
    c.runtimeClass.resolve slot =
      ((r.declaration? slot).map r.entryOf).or (r.inherited.find? slot) := by
  rw [RuntimeClass.resolve, table_of_build accepted]
  exact ((build_eq_ok_iff r c).mp accepted).1.find?_finalTable slot

theorem build_withoutDirect {r : Registration σ ε} {c : RegisteredClass σ ε}
    (accepted : r.build = .ok c) :
    ∃ c' : RegisteredClass σ ε,
      r.withoutDirect.build = .ok c' ∧ c'.runtimeClass = c.runtimeClass := by
  have checked := ((build_eq_ok_iff r c).mp accepted).1
  refine ⟨_, (build_eq_ok_iff _ _).mpr ⟨checked.withoutDirect, rfl⟩, ?_⟩
  rw [runtimeClass_of_build accepted, finalTable_withoutDirect]
  rfl

namespace Registered

theorem resolve_eq_nearest {c : RuntimeClass σ ε} {chain : List (Registration σ ε)}
    (known : Registered c chain) (slot : Fingerprint) :
    c.resolve slot = (nearest? slot chain).map fun found => found.1.entryOf found.2 := by
  induction known with
  | @root r _ accepted top =>
      have nothing : r.inherited.find? slot = none := by
        simp [inherited, top, MethodTable.find?_empty]
      rw [resolve_of_build accepted, nothing, nearest?]
      cases r.declaration? slot <;> rfl
  | @derived r _ base _ above accepted extending ih =>
      -- What was copied from the base class is, by induction, the walk from there on.
      have copied : r.inherited.find? slot = base.resolve slot := by
        simp [inherited, extending, RuntimeClass.resolve]
      rw [resolve_of_build accepted, copied, ih, nearest?]
      cases r.declaration? slot <;> rfl

theorem nodup_slots {c : RuntimeClass σ ε} {chain : List (Registration σ ε)}
    (known : Registered c chain) : c.table.slots.Nodup := by
  induction known with
  | @root r _ accepted top =>
      rw [table_of_build accepted]
      apply nodup_slots_foldl_write
      simp [inherited, top, MethodTable.slots_empty]
  | @derived r _ base _ above accepted extending ih =>
      rw [table_of_build accepted]
      apply nodup_slots_foldl_write
      simpa [inherited, extending] using ih

theorem resolve_eq_none_iff {c : RuntimeClass σ ε} {chain : List (Registration σ ε)}
    (known : Registered c chain) (slot : Fingerprint) :
    c.resolve slot = none ↔ slot ∉ chain.flatMap declaredSlots := by
  rw [known.resolve_eq_nearest, Option.map_eq_none_iff, nearest?_eq_none_iff]

theorem mem_slots_iff {c : RuntimeClass σ ε} {chain : List (Registration σ ε)}
    (known : Registered c chain) (slot : Fingerprint) :
    slot ∈ c.table.slots ↔ slot ∈ chain.flatMap declaredSlots :=
  not_iff_not.mp ((c.table.find?_eq_none_iff slot).symm.trans (known.resolve_eq_none_iff slot))

-- Slots are listed once, so the size of the table counts the declared slots.
theorem tableSize_eq_card {c : RuntimeClass σ ε} {chain : List (Registration σ ε)}
    (known : Registered c chain) :
    c.tableSize = (chain.flatMap declaredSlots).toFinset.card := by
  have same : c.table.slots.toFinset = (chain.flatMap declaredSlots).toFinset := by
    ext slot
    simp only [List.mem_toFinset, known.mem_slots_iff]
  calc c.tableSize = c.table.slots.length := by simp [RuntimeClass.tableSize, MethodTable.size,
        MethodTable.slots]
    _ = c.table.slots.toFinset.card := (List.toFinset_card_of_nodup known.nodup_slots).symm
    _ = _ := by rw [same]

theorem withoutDirect {c : RuntimeClass σ ε} {chain : List (Registration σ ε)}
    (known : Registered c chain) : Registered c (chain.map Registration.withoutDirect) := by
  induction known with
  | root accepted top =>
      obtain ⟨c, rebuilt, same⟩ := build_withoutDirect accepted
      rw [← same]
      exact .root rebuilt top
  | derived above accepted extending ih =>
      obtain ⟨c, rebuilt, same⟩ := build_withoutDirect accepted
      rw [← same]
      exact .derived ih rebuilt extending

/-- The table of a registered class against its hierarchy, in full: the hierarchy
is that of its ancestors, a slot holds what the nearest of them declared for it
and is missing only if none did, the table counts the declared slots, and direct
methods have no part in any of it. -/
theorem table_eq_walk {c : RuntimeClass σ ε} {chain : List (Registration σ ε)}
    (known : Registered c chain) :
    List.Forall₂ (fun ancestor r => ∃ entry : RegisteredClass σ ε,
      r.build = .ok entry ∧ entry.runtimeClass = ancestor) c.ancestors chain ∧
    (∀ front r back method, chain = front ++ r :: back →
      method ∈ r.methods → method.takesSlot → method.slot ∉ front.flatMap declaredSlots →
      ∃ entry, c.resolve method.slot = some entry ∧ entry.name = method.name ∧
        entry.declaredBy = r.name ∧
        entry.body = method.routine?.map (fun routine => routine.body r.receiver) ∧
        (entry.body.isSome ↔ ∃ routine, method.form = .virtual routine)) ∧
    (∀ slot, c.resolve slot = none ↔
      ∀ r ∈ chain, ∀ method ∈ r.methods, method.takesSlot → method.slot ≠ slot) ∧
    c.tableSize = (chain.flatMap declaredSlots).toFinset.card ∧
    Registered c (chain.map Registration.withoutDirect) := by
  refine ⟨known.in_step, ?_, ?_, known.tableSize_eq_card, known.withoutDirect⟩
  · intro front r back method split member takes unmet
    have accepted := known.accepted_of_mem r (by simp [split])
    have found : nearest? method.slot chain = some (r, method) := by
      rw [split, nearest?_append, (nearest?_eq_none_iff _ _).mpr unmet, nearest?,
        accepted.declaration?_of_mem member takes]
      rfl
    refine ⟨r.entryOf method, ?_, rfl, rfl, rfl, isSome_body_entryOf r takes⟩
    rw [known.resolve_eq_nearest, found]
    rfl
  · intro slot
    rw [known.resolve_eq_none_iff]
    simp only [List.mem_flatMap, declaredSlots, List.mem_map, List.mem_filter, not_exists, not_and,
      ne_eq, and_imp]

end Registered

/-! Three classes over two slots. The class in the middle takes the body of one
slot away again, and has a direct method with the signature of the other. -/
namespace Shapes

def idle : MethodRoutine Unit String :=
  ⟨[], fun heap lent _ => ⟨⟨.ok (), ["idle"], lent⟩, heap⟩⟩

def shape : Registration Unit String :=
  (((start "Shape" ⟨1, "zoo::Shape"⟩ .reference).modified ⟨true, false⟩).method
    "area" none (.virtual idle)).method "label" none (.abstract [])

def shapeClass : RegisteredClass Unit String := shape.describe shape.finalTable

def figure : Registration Unit String :=
  ((((start "Figure" ⟨2, "zoo::Figure"⟩ .reference).modified ⟨true, false⟩).extending
    shapeClass.runtimeClass).method "area" none (.abstract [])).method "label" none (.direct idle)

def figureClass : RegisteredClass Unit String := figure.describe figure.finalTable

def square : Registration Unit String :=
  ((((start "Square" ⟨3, "zoo::Square"⟩ .reference).extending
    figureClass.runtimeClass).method "area" none (.virtual idle)).method
    "label" none (.virtual idle)).method "scale" none (.direct idle)

def squareClass : RegisteredClass Unit String := square.describe square.finalTable

theorem shape_build : shape.build = .ok shapeClass :=
  (build_eq_ok_iff _ _).mpr
    ⟨⟨rfl, by decide +kernel, by decide, rfl, rfl, rfl⟩, rfl⟩

theorem figure_build : figure.build = .ok figureClass :=
  (build_eq_ok_iff _ _).mpr
    ⟨⟨rfl, by decide +kernel, by decide, rfl, rfl, rfl⟩, rfl⟩

theorem square_build : square.build = .ok squareClass :=
  (build_eq_ok_iff _ _).mpr
    ⟨⟨rfl, by decide +kernel, by decide, by decide +kernel, rfl, rfl⟩, rfl⟩

theorem figure_registered : Registered figureClass.runtimeClass [figure, shape] :=
  .derived (.root shape_build rfl) figure_build rfl

theorem square_registered : Registered squareClass.runtimeClass [square, figure, shape] :=
  .derived figure_registered square_build rfl

-- The direct method of the middle class leaves the slot to the class above.
theorem figure_table :
    Registered figureClass.runtimeClass [figure, shape] ∧
    (∃ entry, figureClass.runtimeClass.resolve (.ofSlot "label" []) = some entry ∧
      entry.name = "label" ∧ entry.declaredBy = "Shape" ∧ entry.body.isNone) ∧
    figureClass.runtimeClass.tableSize = 2 := by
  have walk := Registered.table_eq_walk figure_registered
  obtain ⟨entry, found, name, declaredBy, body, _⟩ :=
    walk.2.1 [figure] shape [] ⟨"label", none, .abstract []⟩ rfl (by simp [shape, method]) rfl
      (by decide +kernel)
  exact ⟨figure_registered, ⟨entry, found, name, declaredBy, by rw [body]; rfl⟩,
    walk.2.2.2.1.trans (by decide +kernel)⟩

end Shapes

end LateBinding
