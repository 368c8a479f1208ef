import LateBinding.Registration
import Mathlib.Data.List.Forall2

/-!
Which registrations are accepted, and the classes that come of them. The scan of
the methods is taken apart into what it checks and what it writes: distinct
slots, no abstract method on a concrete class, and one table entry for each
declaration that takes a slot. A class is known with the registrations of itself
and of its base classes.
-/

namespace LateBinding

variable {σ ε : Type}

theorem bind_eq_ok_iff {ε α β : Type} (first : Except ε α) (next : α → Except ε β) (b : β) :
    first >>= next = .ok b ↔ ∃ a, first = .ok a ∧ next a = .ok b := by
  cases first <;> simp [bind, Except.bind]

theorem MethodTable.body_of_firstAbstract?_eq_none {table : MethodTable σ ε}
    (none : table.firstAbstract? = none)
    {slot : Fingerprint} {entry : TableEntry σ ε} (found : table.find? slot = some entry) :
    entry.body ≠ Option.none := by
  obtain ⟨front, back, split, _⟩ := List.lookup_eq_some_iff.mp found
  have listed : entry ∈ table.entries.map (·.2) := by
    rw [split]
    simp
  have filled := List.find?_eq_none.mp none entry listed
  simpa [TableEntry.isAbstract] using filled

namespace MethodDeclaration

def routine? (method : MethodDeclaration σ ε) : Option (MethodRoutine σ ε) :=
  match method.form with
  | .direct routine | .virtual routine => some routine
  | .abstract _ => none

/-- Direct methods take no slot. -/
def takesSlot (method : MethodDeclaration σ ε) : Bool :=
  match method.form with
  | .direct _ => false
  | .virtual _ | .abstract _ => true

def isAbstract (method : MethodDeclaration σ ε) : Bool :=
  method.routine?.isNone

theorem exists_routine_of_direct (method : MethodDeclaration σ ε)
    (direct : method.takesSlot = false) :
    ∃ routine, method.routine? = some routine := by
  unfold takesSlot at direct
  unfold routine?
  cases form : method.form <;> simp [form] at direct ⊢

end MethodDeclaration

namespace Registration

def entryOf (r : Registration σ ε) (method : MethodDeclaration σ ε) : TableEntry σ ε :=
  ⟨method.name, r.name, method.routine?.map fun routine => routine.body r.receiver⟩

def write (r : Registration σ ε) (table : MethodTable σ ε) (method : MethodDeclaration σ ε) :
    MethodTable σ ε :=
  if method.takesSlot then table.insert method.slot (r.entryOf method) else table

/-- The inherited table with all declarations of the class written over it. -/
def finalTable (r : Registration σ ε) : MethodTable σ ε :=
  r.methods.foldl r.write r.inherited

def misplaces (r : Registration σ ε) (method : MethodDeclaration σ ε) : Bool :=
  method.isAbstract && !r.modifiers.isAbstract

-- What the scan does with one declaration, whatever its form.
theorem enter_cons (r : Registration σ ε) (seen : List Fingerprint) (table : MethodTable σ ε)
    (method : MethodDeclaration σ ε) (rest : List (MethodDeclaration σ ε)) :
    r.enter seen table (method :: rest) =
      if method.slot ∈ seen then .error (.duplicate r.name method.name)
      else if r.misplaces method then .error (.abstractMethodOnConcrete r.name method.name)
      else r.enter (method.slot :: seen) (r.write table method) rest := by
  by_cases known : method.slot ∈ seen
  · simp [enter, known]
  · cases form : method.form with
    | direct routine =>
        simp [enter, known, form, misplaces, MethodDeclaration.isAbstract,
          MethodDeclaration.routine?, write, MethodDeclaration.takesSlot]
    | virtual routine =>
        simp [enter, known, form, misplaces, MethodDeclaration.isAbstract,
          MethodDeclaration.routine?, write, MethodDeclaration.takesSlot, entryOf]
    | abstract params =>
        cases bare : r.modifiers.isAbstract <;>
          simp [enter, known, form, misplaces, MethodDeclaration.isAbstract,
            MethodDeclaration.routine?, write, MethodDeclaration.takesSlot, entryOf, bare]

-- The scan accepts distinct slots, none of them seen before, and no misplaced
-- abstract method; it writes the declarations one by one.
theorem enter_eq_ok_iff (r : Registration σ ε) (seen : List Fingerprint)
    (table result : MethodTable σ ε) (methods : List (MethodDeclaration σ ε)) :
    r.enter seen table methods = .ok result ↔
      (methods.map (·.slot)).Nodup ∧ (∀ method ∈ methods, method.slot ∉ seen) ∧
      (∀ method ∈ methods, r.misplaces method = false) ∧
      methods.foldl r.write table = result := by
  induction methods generalizing seen table with
  | nil => simp [enter]
  | cons method rest ih =>
      rw [enter_cons]
      by_cases known : method.slot ∈ seen
      · simp [known]
      · -- The scan goes on with this slot among those seen, so the rest must avoid it too.
        cases placed : r.misplaces method with
        | true => simp [known, placed]
        | false =>
            have fresh : (∀ later ∈ rest, later.slot ∉ method.slot :: seen) ↔
                method.slot ∉ rest.map (·.slot) ∧ ∀ later ∈ rest, later.slot ∉ seen := by
              simp only [List.mem_cons, not_or, List.mem_map, not_exists, not_and, forall_and]
            simp only [known, placed, if_false, ih, fresh, List.map_cons, List.nodup_cons,
              List.forall_mem_cons, List.foldl_cons, Bool.false_eq_true, not_false_eq_true]
            constructor
            · rintro ⟨apart, ⟨new, unseen⟩, rest⟩
              exact ⟨⟨new, apart⟩, ⟨trivial, unseen⟩, ⟨trivial, rest.1⟩, rest.2⟩
            · rintro ⟨⟨new, apart⟩, ⟨_, unseen⟩, ⟨_, placed⟩, written⟩
              exact ⟨apart, ⟨new, unseen⟩, placed, written⟩

/-- What the checks ask of a registration, in their order. -/
structure Accepted (r : Registration σ ε) : Prop where
  base : r.checkBase = .ok ()
  distinct : (r.methods.map (·.slot)).Nodup
  placed : ∀ method ∈ r.methods, r.misplaces method = false
  complete : r.checkComplete r.finalTable = .ok ()
  properties : r.checkProperties = .ok ()
  constructors : r.checkConstructors = .ok ()

theorem build_eq_ok_iff (r : Registration σ ε) (c : RegisteredClass σ ε) :
    r.build = .ok c ↔ r.Accepted ∧ r.describe r.finalTable = c := by
  -- At the start nothing is seen, which leaves of the scan that the slots are distinct.
  have scan (table : MethodTable σ ε) := enter_eq_ok_iff r [] r.inherited table r.methods
  simp only [List.not_mem_nil, not_false_eq_true, implies_true, true_and] at scan
  simp only [build, bind_eq_ok_iff, scan, pure, Except.pure, Except.ok.injEq]
  constructor
  · rintro ⟨_, base, _, ⟨distinct, placed, rfl⟩, _, complete, _, properties, _, constructors, same⟩
    exact ⟨⟨base, distinct, placed, complete, properties, constructors⟩, same⟩
  · rintro ⟨accepted, same⟩
    exact ⟨(), accepted.base, _, ⟨accepted.distinct, accepted.placed, rfl⟩, (), accepted.complete,
      (), accepted.properties, (), accepted.constructors, same⟩

def ownRecord (r : Registration σ ε) : ClassRecord σ ε :=
  ⟨r.name, r.native, r.kind, r.modifiers, r.finalTable⟩

theorem methodOf_eq (r : Registration σ ε) (c : RuntimeClass σ ε) (method : MethodDeclaration σ ε) :
    r.methodOf c method =
      ⟨c, method.name, method.form.params, method.returns,
        if method.takesSlot then .virtual method.slot else .direct, (r.entryOf method).body⟩ := by
  unfold methodOf entryOf MethodDeclaration.takesSlot MethodDeclaration.routine?
  cases method.form with
  | direct routine => rfl
  | «virtual» routine => rfl
  | abstract params => rfl

theorem methods_of_build {r : Registration σ ε} {c : RegisteredClass σ ε}
    (accepted : r.build = .ok c) : c.methods = r.methods.map (r.methodOf c.runtimeClass) := by
  obtain ⟨_, rfl⟩ := (build_eq_ok_iff r c).mp accepted
  rfl

theorem properties_of_build {r : Registration σ ε} {c : RegisteredClass σ ε}
    (accepted : r.build = .ok c) :
    c.properties = r.properties.map (r.propertyOf c.runtimeClass) := by
  obtain ⟨_, rfl⟩ := (build_eq_ok_iff r c).mp accepted
  rfl

theorem constructors_of_build {r : Registration σ ε} {c : RegisteredClass σ ε}
    (accepted : r.build = .ok c) :
    c.constructors = r.constructors.map (r.constructorOf c.runtimeClass) := by
  obtain ⟨_, rfl⟩ := (build_eq_ok_iff r c).mp accepted
  rfl

theorem runtimeClass_of_build {r : Registration σ ε} {c : RegisteredClass σ ε}
    (accepted : r.build = .ok c) : c.runtimeClass = .onBase r.ownRecord r.base := by
  obtain ⟨_, rfl⟩ := (build_eq_ok_iff r c).mp accepted
  rfl

theorem own_of_build {r : Registration σ ε} {c : RegisteredClass σ ε} (accepted : r.build = .ok c) :
    c.runtimeClass.own = r.ownRecord := by
  rw [runtimeClass_of_build accepted]
  cases r.base <;> rfl

theorem name_of_build {r : Registration σ ε} {c : RegisteredClass σ ε}
    (accepted : r.build = .ok c) :
    c.runtimeClass.name = r.name :=
  congrArg ClassRecord.name (own_of_build accepted)

theorem native_of_build {r : Registration σ ε} {c : RegisteredClass σ ε}
    (accepted : r.build = .ok c) :
    c.runtimeClass.native = r.native :=
  congrArg ClassRecord.native (own_of_build accepted)

theorem kind_of_build {r : Registration σ ε} {c : RegisteredClass σ ε}
    (accepted : r.build = .ok c) :
    c.runtimeClass.kind = r.kind :=
  congrArg ClassRecord.kind (own_of_build accepted)

theorem isAbstract_of_build {r : Registration σ ε} {c : RegisteredClass σ ε}
    (accepted : r.build = .ok c) : c.runtimeClass.isAbstract = r.modifiers.isAbstract :=
  congrArg (fun own : ClassRecord σ ε => own.modifiers.isAbstract) (own_of_build accepted)

theorem table_of_build {r : Registration σ ε} {c : RegisteredClass σ ε}
    (accepted : r.build = .ok c) :
    c.runtimeClass.table = r.finalTable :=
  congrArg ClassRecord.table (own_of_build accepted)

theorem mem_ancestors_of_build {r : Registration σ ε} {c : RegisteredClass σ ε}
    (accepted : r.build = .ok c) {ancestor : RuntimeClass σ ε} :
    ancestor ∈ c.runtimeClass.ancestors ↔
      ancestor = c.runtimeClass ∨ ∃ base, r.base = some base ∧ ancestor ∈ base.ancestors := by
  rw [runtimeClass_of_build accepted]
  cases r.base <;> simp [RuntimeClass.onBase, RuntimeClass.ancestors]

theorem Accepted.base_open {r : Registration σ ε} (accepted : r.Accepted) {base : RuntimeClass σ ε}
    (extending : r.base = some base) : base.kind = .reference ∧ base.isSealed = false := by
  have checked := accepted.base
  simp only [checkBase, extending] at checked
  split at checked
  · cases checked
  · split at checked
    · cases checked
    · next notValue =>
        split at checked
        · cases checked
        · next unsealed =>
            refine ⟨?_, by simpa using unsealed⟩
            cases kind : base.kind with
            | value => exact absurd kind notValue
            | reference => rfl

-- A class that is not abstract has a body in every slot.
theorem Accepted.body_of_concrete {r : Registration σ ε} (accepted : r.Accepted)
    (concrete : r.modifiers.isAbstract = false) {slot : Fingerprint} {entry : TableEntry σ ε}
    (found : r.finalTable.find? slot = some entry) : ∃ body, entry.body = some body := by
  have checked := accepted.complete
  simp only [checkComplete, concrete, Bool.false_eq_true, if_false] at checked
  split at checked
  · next none =>
      exact Option.ne_none_iff_exists'.mp (MethodTable.body_of_firstAbstract?_eq_none none found)
  · cases checked

end Registration

/-- A registered class, known with the registrations of itself and of its base
classes, nearest first. A base class has to be registered before. -/
inductive Registered : RuntimeClass σ ε → List (Registration σ ε) → Prop where
  | root {r : Registration σ ε} {c : RegisteredClass σ ε}
      (accepted : r.build = .ok c) (top : r.base = none) : Registered c.runtimeClass [r]
  | derived {r : Registration σ ε} {c : RegisteredClass σ ε} {base : RuntimeClass σ ε}
      {chain : List (Registration σ ε)} (above : Registered base chain)
      (accepted : r.build = .ok c) (extending : r.base = some base) :
      Registered c.runtimeClass (r :: chain)

namespace Registered

theorem in_step {c : RuntimeClass σ ε} {chain : List (Registration σ ε)}
    (known : Registered c chain) :
    List.Forall₂ (fun ancestor r => ∃ entry : RegisteredClass σ ε,
      r.build = .ok entry ∧ entry.runtimeClass = ancestor) c.ancestors chain := by
  induction known with
  | root accepted top =>
      have shape := Registration.runtimeClass_of_build accepted
      rw [top] at shape
      rw [shape]
      exact .cons ⟨_, accepted, shape⟩ .nil
  | derived above accepted extending ih =>
      have shape := Registration.runtimeClass_of_build accepted
      rw [extending] at shape
      rw [shape]
      exact .cons ⟨_, accepted, shape⟩ ih

theorem exists_build_of_mem {c : RuntimeClass σ ε} {chain : List (Registration σ ε)}
    (known : Registered c chain) {ancestor : RuntimeClass σ ε} (member : ancestor ∈ c.ancestors) :
    ∃ r entry, r ∈ chain ∧ r.build = .ok entry ∧ entry.runtimeClass = ancestor := by
  induction known with
  | root accepted top =>
      rcases (Registration.mem_ancestors_of_build accepted).mp member with
        same | ⟨base, extending, _⟩
      · exact ⟨_, _, List.mem_cons_self, accepted, same.symm⟩
      · rw [top] at extending
        cases extending
  | derived above accepted extending ih =>
      rcases (Registration.mem_ancestors_of_build accepted).mp member with
        same | ⟨base, also, further⟩
      · exact ⟨_, _, List.mem_cons_self, accepted, same.symm⟩
      · cases extending.symm.trans also
        obtain ⟨r, entry, listed, built⟩ := ih further
        exact ⟨r, entry, List.mem_cons_of_mem _ listed, built⟩

theorem accepted_of_mem {c : RuntimeClass σ ε} {chain : List (Registration σ ε)}
    (known : Registered c chain) : ∀ r ∈ chain, r.Accepted := by
  induction known with
  | root accepted top => simpa using ((Registration.build_eq_ok_iff _ _).mp accepted).1
  | derived above accepted extending ih =>
      exact List.forall_mem_cons.mpr ⟨((Registration.build_eq_ok_iff _ _).mp accepted).1, ih⟩

-- Value classes have no heirs, so all base classes of a reference class are
-- reference classes too.
theorem reference_of_mem {c : RuntimeClass σ ε} {chain : List (Registration σ ε)}
    (known : Registered c chain) (kind : c.kind = .reference) :
    ∀ r ∈ chain, r.kind = .reference := by
  induction known with
  | root accepted top =>
      rw [Registration.kind_of_build accepted] at kind
      exact List.forall_mem_singleton.mpr kind
  | derived above accepted extending ih =>
      have base := ((Registration.build_eq_ok_iff _ _).mp accepted).1.base_open extending
      rw [Registration.kind_of_build accepted] at kind
      exact List.forall_mem_cons.mpr ⟨kind, ih base.1⟩

theorem kind_of_mem {c : RuntimeClass σ ε} {chain : List (Registration σ ε)}
    (known : Registered c chain) (kind : c.kind = .reference) {ancestor : RuntimeClass σ ε}
    (member : ancestor ∈ c.ancestors) : ancestor.kind = .reference := by
  obtain ⟨r, entry, listed, accepted, rfl⟩ := known.exists_build_of_mem member
  rw [Registration.kind_of_build accepted]
  exact known.reference_of_mem kind r listed

end Registered

end LateBinding
