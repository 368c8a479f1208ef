import LateBinding.Proofs.Registration.Inheritance
import Mathlib.Data.List.Duplicate

/-!
Why registrations are refused. The rules for a registration are listed in the order in
which they are checked, each with what it asks and with the errors that tell of it being
broken. A registration is accepted exactly if it keeps all rules; otherwise the first
broken one names the error, and what the error names breaks that rule.
-/

namespace LateBinding

variable {σ ε : Type}

/-- What a rule asks, and which errors tell that it is broken. -/
structure Rule where
  holds : Prop
  blames : RegistrationError → Prop

namespace Rule

/-- The first rule of a list that does not hold blames with the error. -/
inductive FirstBroken (error : RegistrationError) : List Rule → Prop where
  | here {rule : Rule} {rest : List Rule} (broken : ¬ rule.holds) (blamed : rule.blames error) :
      FirstBroken error (rule :: rest)
  | later {rule : Rule} {rest : List Rule} (kept : rule.holds) (further : FirstBroken error rest) :
      FirstBroken error (rule :: rest)

/-- The check goes through if all rules hold and fails for the first that does not. -/
def Follows {α : Type} (rules : List Rule) : Except RegistrationError α → Prop
  | .ok _ => ∀ rule ∈ rules, rule.holds
  | .error error => FirstBroken error rules

theorem FirstBroken.append {error : RegistrationError} {front : List Rule}
    (first : FirstBroken error front) (back : List Rule) : FirstBroken error (front ++ back) := by
  induction first with
  | here broken blamed => exact .here broken blamed
  | later kept _ ih => exact .later kept ih

theorem FirstBroken.behind {error : RegistrationError} {front back : List Rule}
    (kept : ∀ rule ∈ front, rule.holds) (first : FirstBroken error back) :
    FirstBroken error (front ++ back) := by
  induction front with
  | nil => exact first
  | cons rule rest ih =>
      rw [List.forall_mem_cons] at kept
      exact .later kept.1 (ih kept.2)

theorem FirstBroken.exists_broken {error : RegistrationError} {rules : List Rule}
    (first : FirstBroken error rules) : ∃ rule ∈ rules, ¬ rule.holds := by
  induction first with
  | here broken _ => exact ⟨_, List.mem_cons_self, broken⟩
  | later _ _ ih =>
      obtain ⟨rule, member, broken⟩ := ih
      exact ⟨rule, List.mem_cons_of_mem _ member, broken⟩

-- A later check may count on the rules of the earlier ones.
theorem Follows.bind {α β : Type} {front back : List Rule} {first : Except RegistrationError α}
    {next : α → Except RegistrationError β} (early : Follows front first)
    (late : ∀ a, first = .ok a → (∀ rule ∈ front, rule.holds) → Follows back (next a)) :
    Follows (front ++ back) (first >>= next) := by
  cases first with
  | error error => exact early.append back
  | ok a =>
      have rest := late a rfl early
      change Follows (front ++ back) (next a)
      cases final : next a with
      | error error =>
          rw [final] at rest
          exact rest.behind early
      | ok b =>
          rw [final] at rest
          exact List.forall_mem_append.mpr ⟨early, rest⟩

theorem Follows.exists_ok_iff {α : Type} {rules : List Rule} {result : Except RegistrationError α}
    (follows : Follows rules result) : (∃ a, result = .ok a) ↔ ∀ rule ∈ rules, rule.holds := by
  cases result with
  | ok a => exact ⟨fun _ => follows, fun _ => ⟨a, rfl⟩⟩
  | error error =>
      obtain ⟨rule, member, broken⟩ := follows.exists_broken
      constructor
      · rintro ⟨a, same⟩
        cases same
      · exact fun kept => absurd (kept rule member) broken

end Rule

theorem duplicate_of_firstRepeated {α : Type} [DecidableEq α] {seen list : List α} {a : α}
    (found : firstRepeated seen list = some a) : (seen ++ list).Duplicate a := by
  induction list generalizing seen with
  | nil => cases found
  | cons first rest ih =>
      rw [firstRepeated] at found
      split at found
      · next known =>
          cases found
          rw [List.duplicate_iff_two_le_count, List.count_append, List.count_cons_self]
          have old := List.count_pos_iff.mpr known
          omega
      · have later := ih found
        rw [List.duplicate_iff_two_le_count] at later ⊢
        rwa [List.perm_middle.count_eq]

open Rule

namespace Registration

def Fills (r : Registration σ ε) (slot : Fingerprint) : Prop :=
  ∃ method ∈ r.methods, method.slot = slot ∧ ∃ routine, method.form = .virtual routine

/-- A slot of the base class has no body there and gets none. -/
def LeavesEmpty (r : Registration σ ε) (slot : Fingerprint) (entry : TableEntry σ ε) : Prop :=
  ∃ base, r.base = some base ∧ base.resolve slot = some entry ∧ entry.body = none ∧ ¬ r.Fills slot

def signatures (r : Registration σ ε) : List (List Fingerprint) :=
  r.constructors.map fun c => ParamType.fingerprints c.params

def modifierRule (r : Registration σ ε) : Rule where
  holds := ¬ (r.modifiers.isAbstract ∧ r.modifiers.isSealed)
  blames error := error = .abstractAndSealed r.name

def baseKindRule (r : Registration σ ε) : Rule where
  holds := ∀ base, r.base = some base → base.kind = .reference
  blames error := ∃ base, r.base = some base ∧ base.kind = .value ∧
    error = .valueBase r.name base.name

def openBaseRule (r : Registration σ ε) : Rule where
  holds := ∀ base, r.base = some base → base.isSealed = false
  blames error := ∃ base, r.base = some base ∧ base.isSealed ∧
    error = .sealedBase r.name base.name

def ownSlotRule (r : Registration σ ε) (earlier : List (MethodDeclaration σ ε))
    (method : MethodDeclaration σ ε) : Rule where
  holds := ∀ other ∈ earlier, other.slot ≠ method.slot
  blames error := error = .duplicate r.name method.name

def placementRule (r : Registration σ ε) (method : MethodDeclaration σ ε) : Rule where
  holds := method.isAbstract → r.modifiers.isAbstract
  blames error := error = .abstractMethodOnConcrete r.name method.name

/-- Two rules for each method, in the order of declaration. -/
def methodRules (r : Registration σ ε) (earlier : List (MethodDeclaration σ ε)) :
    List (MethodDeclaration σ ε) → List Rule
  | [] => []
  | method :: rest =>
      r.ownSlotRule earlier method :: r.placementRule method ::
        r.methodRules (method :: earlier) rest

-- Where several slots stay empty, any of them may be named.
def completionRule (r : Registration σ ε) : Rule where
  holds := r.modifiers.isAbstract = false → ∀ slot entry, ¬ r.LeavesEmpty slot entry
  blames error := ∃ slot entry, r.LeavesEmpty slot entry ∧ error = .unimplemented r.name entry.name

def propertyRule (r : Registration σ ε) : Rule where
  holds := (r.properties.map (·.name)).Nodup
  blames error := ∃ name, (r.properties.map (·.name)).Duplicate name ∧
    error = .duplicate r.name name

def constructorRule (r : Registration σ ε) : Rule where
  holds := r.signatures.Nodup
  blames error := error = .duplicate r.name r.name

def rules (r : Registration σ ε) : List Rule :=
  [r.modifierRule, r.baseKindRule, r.openBaseRule] ++
    (r.methodRules [] r.methods ++ ([r.completionRule] ++ ([r.propertyRule] ++ [r.constructorRule])))

theorem follows_checkBase (r : Registration σ ε) :
    Follows [r.modifierRule, r.baseKindRule, r.openBaseRule] r.checkBase := by
  unfold checkBase
  split
  · next both =>
      have broken : ¬ r.modifierRule.holds :=
        fun kept => kept (by simpa using both)
      exact .here broken rfl
  · next apart =>
      have modifiers : r.modifierRule.holds := by simpa [modifierRule] using apart
      cases extending : r.base with
      | none =>
          have none {p : RuntimeClass σ ε → Prop} : ∀ base, r.base = some base → p base := by
            simp [extending]
          exact List.forall_mem_cons.mpr ⟨modifiers, List.forall_mem_cons.mpr
            ⟨none, List.forall_mem_singleton.mpr none⟩⟩
      | some base =>
          have only {p : RuntimeClass σ ε → Prop} :
              (∀ other, r.base = some other → p other) ↔ p base := by
            simp [extending]
          cases kind : base.kind with
          | value =>
              have broken : ¬ r.baseKindRule.holds := by
                simp [baseKindRule, only, kind]
              simp only [kind, if_true]
              exact .later modifiers (.here broken ⟨base, extending, kind, rfl⟩)
          | reference =>
              have reference : r.baseKindRule.holds := only.mpr kind
              simp only [kind, reduceCtorEq, if_false]
              cases sealing : base.isSealed with
              | true =>
                  have broken : ¬ r.openBaseRule.holds := by
                    simp [openBaseRule, only, sealing]
                  exact .later modifiers (.later reference
                    (.here broken ⟨base, extending, sealing, rfl⟩))
              | false =>
                  exact List.forall_mem_cons.mpr ⟨modifiers, List.forall_mem_cons.mpr
                    ⟨reference, List.forall_mem_singleton.mpr (only.mpr sealing)⟩⟩

-- The scan keeps slots and forgets the methods that they came of.
theorem follows_enter (r : Registration σ ε) (earlier : List (MethodDeclaration σ ε))
    (table : MethodTable σ ε) (methods : List (MethodDeclaration σ ε)) :
    Follows (r.methodRules earlier methods) (r.enter (earlier.map (·.slot)) table methods) := by
  induction methods generalizing earlier table with
  | nil => exact fun _ member => nomatch member
  | cons method rest ih =>
      rw [enter_cons, methodRules]
      have seen : method.slot ∈ earlier.map (·.slot) ↔ ¬ (r.ownSlotRule earlier method).holds := by
        simp [ownSlotRule]
      by_cases known : method.slot ∈ earlier.map (·.slot)
      · rw [if_pos known]
        exact .here (seen.mp known) rfl
      · have own : (r.ownSlotRule earlier method).holds :=
          not_not.mp fun broken => known (seen.mpr broken)
        rw [if_neg known]
        by_cases misplaced : r.misplaces method
        · have broken : ¬ (r.placementRule method).holds := by
            simpa [placementRule, misplaces] using misplaced
          rw [if_pos misplaced]
          exact .later own (.here broken rfl)
        · have placed : (r.placementRule method).holds := by
            simpa [placementRule, misplaces] using misplaced
          rw [if_neg misplaced]
          have further := ih (method :: earlier) (r.write table method)
          rw [List.map_cons] at further
          cases result :
              r.enter (method.slot :: earlier.map (·.slot)) (r.write table method) rest with
          | error error =>
              rw [result] at further
              exact .later own (.later placed further)
          | ok final =>
              rw [result] at further
              exact List.forall_mem_cons.mpr ⟨own, List.forall_mem_cons.mpr ⟨placed, further⟩⟩

theorem methodRules_hold_iff (r : Registration σ ε)
    (earlier methods : List (MethodDeclaration σ ε)) :
    (∀ rule ∈ r.methodRules earlier methods, rule.holds) ↔
      (methods.map (·.slot)).Nodup ∧
      (∀ method ∈ methods, ∀ other ∈ earlier, other.slot ≠ method.slot) ∧
      ∀ method ∈ methods, method.isAbstract → r.modifiers.isAbstract := by
  induction methods generalizing earlier with
  | nil => simp [methodRules]
  | cons method rest ih =>
      have fresh : (∀ later ∈ rest, ∀ other ∈ method :: earlier, other.slot ≠ later.slot) ↔
          method.slot ∉ rest.map (·.slot) ∧
            ∀ later ∈ rest, ∀ other ∈ earlier, other.slot ≠ later.slot := by
        simp only [List.forall_mem_cons, List.mem_map, not_exists, not_and, forall_and, ne_comm]
      rw [methodRules, List.forall_mem_cons, List.forall_mem_cons, ih, fresh, List.map_cons,
        List.nodup_cons, List.forall_mem_cons, List.forall_mem_cons]
      constructor
      · rintro ⟨own, placed, apart, ⟨new, unseen⟩, rest⟩
        exact ⟨⟨new, apart⟩, ⟨own, unseen⟩, placed, rest⟩
      · rintro ⟨⟨new, apart⟩, ⟨own, unseen⟩, placed, rest⟩
        exact ⟨own, placed, apart, ⟨new, unseen⟩, rest⟩

/-- The slots that stay without a body are those that the base class leaves open and the
class does not fill. -/
theorem find?_finalTable_eq_abstract_iff (r : Registration σ ε)
    (distinct : (r.methods.map (·.slot)).Nodup)
    (placed : ∀ method ∈ r.methods, method.isAbstract = false) (slot : Fingerprint)
    (entry : TableEntry σ ε) :
    (r.finalTable.find? slot = some entry ∧ entry.body = none) ↔ r.LeavesEmpty slot entry := by
  rw [finalTable, find?_foldl_write r slot r.inherited r.methods distinct]
  change (((r.declaration? slot).map r.entryOf).or (r.inherited.find? slot) = some entry ∧ _) ↔ _
  cases own : r.declaration? slot with
  | some method =>
      -- A declaration that is not abstract has a body to put into its slot.
      have hit := List.find?_some own
      rw [Bool.and_eq_true, beq_iff_eq] at hit
      have member := List.mem_of_find?_eq_some own
      have implemented : (r.entryOf method).body.isSome := by
        rw [entryOf, Option.isSome_map]
        exact Option.isNone_eq_false_iff.mp (placed method member)
      obtain ⟨routine, form⟩ := (isSome_body_entryOf r hit.1).mp implemented
      have filled : r.Fills slot := ⟨method, member, hit.2, routine, form⟩
      constructor
      · rintro ⟨found, empty⟩
        cases found
        simp [entryOf, MethodDeclaration.routine?, form] at empty
      · rintro ⟨_, _, _, _, unfilled⟩
        exact absurd filled unfilled
  | none =>
      have unfilled : ¬ r.Fills slot := by
        rintro ⟨method, member, same, routine, form⟩
        have takes : method.takesSlot := by simp [MethodDeclaration.takesSlot, form]
        have miss := List.find?_eq_none.mp own method member
        simp [takes, same] at miss
      cases extending : r.base with
      | none => simp [LeavesEmpty, inherited, extending, MethodTable.find?_empty]
      | some base => simp [LeavesEmpty, inherited, extending, RuntimeClass.resolve, unfilled]

def Founded (r : Registration σ ε) : Prop :=
  ∀ base, r.base = some base → ∃ chain, Registered base chain

theorem Founded.nodup_slots {r : Registration σ ε} (founded : r.Founded) :
    r.finalTable.slots.Nodup := by
  apply nodup_slots_foldl_write
  cases extending : r.base with
  | none => simp [inherited, extending, MethodTable.slots_empty]
  | some base =>
      obtain ⟨_, known⟩ := founded base extending
      simpa [inherited, extending] using known.nodup_slots

end Registration

namespace MethodTable

theorem find?_of_mem {table : MethodTable σ ε} (apart : table.slots.Nodup) {slot : Fingerprint}
    {entry : TableEntry σ ε} (member : (slot, entry) ∈ table.entries) :
    table.find? slot = some entry := by
  unfold slots at apart
  unfold find?
  generalize table.entries = entries at apart member ⊢
  induction entries with
  | nil => cases member
  | cons first rest ih =>
      rw [List.map_cons, List.nodup_cons] at apart
      rcases List.mem_cons.mp member with same | later
      · rw [← same, List.lookup_cons_self]
      · have differ : (slot == first.1) = false := by
          rw [beq_eq_false_iff_ne]
          intro same
          exact apart.1 (List.mem_map.mpr ⟨_, later, same⟩)
        rw [List.lookup_cons, differ]
        exact ih apart.2 later

theorem mem_of_firstAbstract? {table : MethodTable σ ε} (apart : table.slots.Nodup)
    {entry : TableEntry σ ε} (found : table.firstAbstract? = some entry) :
    ∃ slot, table.find? slot = some entry ∧ entry.body = none := by
  have empty := List.find?_some found
  obtain ⟨⟨slot, _⟩, member, rfl⟩ := List.mem_map.mp (List.mem_of_find?_eq_some found)
  exact ⟨slot, find?_of_mem apart member, Option.isNone_iff_eq_none.mp empty⟩

end MethodTable

namespace Registration

theorem follows_checkComplete {r : Registration σ ε} (founded : r.Founded)
    (distinct : (r.methods.map (·.slot)).Nodup)
    (placed : ∀ method ∈ r.methods, method.isAbstract → r.modifiers.isAbstract) :
    Follows [r.completionRule] (r.checkComplete r.finalTable) := by
  unfold checkComplete
  cases bare : r.modifiers.isAbstract with
  | true =>
      refine List.forall_mem_singleton.mpr ?_
      simp [completionRule, bare]
  | false =>
      have implemented : ∀ method ∈ r.methods, method.isAbstract = false := by
        simpa [bare] using placed
      have empty := r.find?_finalTable_eq_abstract_iff distinct implemented
      simp only [Bool.false_eq_true, if_false]
      cases first : r.finalTable.firstAbstract? with
      | none =>
          refine List.forall_mem_singleton.mpr fun _ slot entry left => ?_
          obtain ⟨found, none⟩ := (empty slot entry).mpr left
          exact MethodTable.body_of_firstAbstract?_eq_none first found none
      | some entry =>
          obtain ⟨slot, found⟩ := MethodTable.mem_of_firstAbstract? founded.nodup_slots first
          have left := (empty slot entry).mp found
          exact .here (fun kept => kept bare slot entry left) ⟨slot, entry, left, rfl⟩

theorem follows_checkProperties (r : Registration σ ε) :
    Follows [r.propertyRule] r.checkProperties := by
  unfold checkProperties
  cases first : firstRepeated [] (r.properties.map (·.name)) with
  | none => exact List.forall_mem_singleton.mpr ((firstRepeated_eq_none _ _).mp first).1
  | some name =>
      have twice := duplicate_of_firstRepeated first
      exact .here twice.not_nodup ⟨name, twice, rfl⟩

theorem follows_checkConstructors (r : Registration σ ε) :
    Follows [r.constructorRule] r.checkConstructors := by
  unfold checkConstructors
  cases first : firstRepeated [] (r.constructors.map fun c => ParamType.fingerprints c.params) with
  | none => exact List.forall_mem_singleton.mpr ((firstRepeated_eq_none _ _).mp first).1
  | some signature => exact .here (duplicate_of_firstRepeated first).not_nodup rfl

theorem follows_build {r : Registration σ ε} (founded : r.Founded) : Follows r.rules r.build := by
  unfold rules build
  refine r.follows_checkBase.bind fun _ _ _ => ?_
  refine (r.follows_enter [] r.inherited r.methods).bind fun table scanned kept => ?_
  obtain ⟨distinct, _, placed⟩ := (r.methodRules_hold_iff [] r.methods).mp kept
  obtain ⟨_, _, _, rfl⟩ := (r.enter_eq_ok_iff [] r.inherited table r.methods).mp scanned
  refine (follows_checkComplete founded distinct placed).bind fun _ _ _ => ?_
  refine r.follows_checkProperties.bind fun _ _ _ => ?_
  have last : Follows ([r.constructorRule] ++ [])
      (r.checkConstructors >>= fun _ => .ok (r.describe r.finalTable)) :=
    r.follows_checkConstructors.bind fun _ _ _ _ member => nomatch member
  rwa [List.append_nil] at last

structure Admissible (r : Registration σ ε) : Prop where
  modifiers : ¬ (r.modifiers.isAbstract ∧ r.modifiers.isSealed)
  base : ∀ base, r.base = some base → base.kind = .reference ∧ base.isSealed = false
  slots : (r.methods.map (·.slot)).Nodup
  placed : ∀ method ∈ r.methods, method.isAbstract → r.modifiers.isAbstract
  complete : r.modifiers.isAbstract = false → ∀ base, r.base = some base →
    ∀ slot entry, base.resolve slot = some entry → entry.body = none → r.Fills slot
  properties : (r.properties.map (·.name)).Nodup
  constructors : r.signatures.Nodup

theorem rules_hold_iff (r : Registration σ ε) : (∀ rule ∈ r.rules, rule.holds) ↔ r.Admissible := by
  simp only [rules, List.forall_mem_append, List.forall_mem_cons,
    methodRules_hold_iff, List.not_mem_nil, false_implies, implies_true, true_and, and_true]
  constructor
  · rintro ⟨⟨modifiers, reference, unsealed⟩, ⟨distinct, placed⟩, complete, properties, constructors⟩
    refine ⟨modifiers, fun base extending => ⟨reference base extending, unsealed base extending⟩,
      distinct, placed, ?_, properties, constructors⟩
    intro concrete base extending slot entry found empty
    exact not_not.mp fun unfilled =>
      complete concrete slot entry ⟨base, extending, found, empty, unfilled⟩
  · intro own
    refine ⟨⟨own.modifiers, fun base extending => (own.base base extending).1,
      fun base extending => (own.base base extending).2⟩, ⟨own.slots, own.placed⟩, ?_,
      own.properties, own.constructors⟩
    rintro concrete slot entry ⟨base, extending, found, empty, unfilled⟩
    exact unfilled (own.complete concrete base extending slot entry found empty)

/-- A registration on a registered base class is accepted exactly if it is admissible.
Otherwise it is refused for the first rule that it breaks, under its own name and that of
what breaks the rule. -/
theorem first_broken_rule_refuses {r : Registration σ ε} (founded : r.Founded) :
    ((∃ c, r.build = .ok c) ↔ r.Admissible) ∧
    ∀ error, r.build = .error error → FirstBroken error r.rules := by
  have follows := follows_build founded
  refine ⟨follows.exists_ok_iff.trans r.rules_hold_iff, ?_⟩
  intro error refused
  rw [refused] at follows
  exact follows

end Registration

namespace Shapes

open Registration

/-- A concrete class with a direct method for the slot that figures leave open, and with
two properties of one name besides. -/
def blank : Registration Unit String :=
  ((((start "Blank" ⟨4, "zoo::Blank"⟩ .reference).extending figureClass.runtimeClass).method
    "area" none (.direct idle)).readOnlyProperty "side" (.value ⟨5, "u8"⟩ "u8")).readOnlyProperty
      "side" (.value ⟨5, "u8"⟩ "u8")

-- The open slot comes before the properties.
theorem blank_refused :
    blank.Founded ∧ blank.build = .error (.unimplemented "Blank" "area") ∧
    FirstBroken (.unimplemented "Blank" "area") blank.rules ∧ ¬ blank.Admissible := by
  have founded : blank.Founded := by
    intro base extending
    cases extending
    exact ⟨_, figure_registered⟩
  have error : (match blank.build with | .error error => some error | .ok _ => none) =
      some (.unimplemented "Blank" "area") := by decide +kernel
  cases refused : blank.build with
  | ok c =>
      rw [refused] at error
      cases error
  | error cause =>
      rw [refused] at error
      cases error
      obtain ⟨accepted, first⟩ := first_broken_rule_refuses founded
      refine ⟨founded, rfl, first _ refused, fun own => ?_⟩
      obtain ⟨c, built⟩ := accepted.mpr own
      rw [refused] at built
      cases built

end Shapes

end LateBinding
