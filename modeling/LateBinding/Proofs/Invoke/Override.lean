import LateBinding.Proofs.Invoke.Dispatch

/-!
Overrides against the parameters of the methods whose slot they take. Of a
parameter type a slot keeps the hashed name and whether null is admitted, while
callers and bodies check native type and kind. An override admits what the
method above admits exactly if the two agree on these in each place; so it never
narrows where a name tells the type, and null is never what it refuses.
-/

namespace LateBinding

variable {σ ε : Type}

open Registration Obstacle

namespace ParamType

/-- All that a fingerprint keeps of a parameter type. -/
def mark : ParamType → String × Bool
  | .value _ declaredName => (declaredName, false)
  | .reference native nullable => (native.fullName, nullable)

theorem fingerprint_eq (type : ParamType) :
    type.fingerprint =
      if type.mark.2 then (Fingerprint.ofName type.mark.1).nullable else .ofName type.mark.1 := by
  cases type with
  | value native declaredName => rfl
  | reference native nullable => cases nullable <;> rfl

/-- Types that marshalling treats alike, null apart. -/
def Matches (type other : ParamType) : Prop :=
  type.kind = other.kind ∧ type.native = other.native

def sample [Inhabited σ] : ParamType → Datum σ ε
  | .value native _ => .value (.root ⟨native, default, []⟩)
  | .reference native _ => .object ⟨0, .root ⟨"", native, .reference, .plain, .empty⟩⟩

theorem admits_sample_iff [Inhabited σ] (type other : ParamType) :
    other.Admits (type.sample : Datum σ ε) ↔ type.Matches other := by
  cases type with
  | value native declaredName =>
      cases other with
      | value => simp [sample, Admits, Matches, kind, ParamType.native, Instance.native,
          Instance.outer]
      | reference => simp [sample, Admits, Matches, kind]
  | reference native nullable =>
      cases other with
      | value => simp [sample, Admits, Matches, kind]
      | reference => simp [sample, Admits, Matches, kind, ParamType.native, ObjectRef.IsA,
          RuntimeClass.ancestors, RuntimeClass.native, RuntimeClass.own]

theorem admits_sample [Inhabited σ] (type : ParamType) : type.Admits (type.sample : Datum σ ε) :=
  (admits_sample_iff type type).mpr ⟨rfl, rfl⟩

theorem Matches.admits {type other : ParamType} (alike : type.Matches other)
    (same : type.mark = other.mark) {datum : Datum σ ε} (admits : type.Admits datum) :
    other.Admits datum := by
  obtain ⟨kind, native⟩ := alike
  cases type with
  | value own declaredName =>
      cases other with
      | value =>
          cases native
          cases datum <;> exact admits
      | reference => cases kind
  | reference own nullable =>
      cases other with
      | value => cases kind
      | reference =>
          cases native
          cases same
          exact admits

theorem admits_samples [Inhabited σ] (types : List ParamType) :
    List.Forall₂ Admits types (types.map (sample (σ := σ) (ε := ε))) := by
  induction types with
  | nil => exact .nil
  | cons type types ih => exact .cons type.admits_sample ih

-- One list admits what the other does exactly if they match in each place. To see it of
-- one place, the others are filled with samples.
theorem forall_admits_iff [Inhabited σ] {types others : List ParamType}
    (same : types.map mark = others.map mark) :
    (∀ arguments : List (Datum σ ε), List.Forall₂ Admits types arguments →
      List.Forall₂ Admits others arguments) ↔ List.Forall₂ Matches types others := by
  induction types generalizing others with
  | nil =>
      obtain rfl := List.map_eq_nil_iff.mp same.symm
      exact ⟨fun _ => .nil, fun _ _ admits => admits⟩
  | cons type types ih =>
      obtain ⟨other, others, rfl, sameHead, sameRest⟩ := List.map_eq_cons_iff.mp same.symm
      rw [List.forall₂_cons, ← ih sameRest.symm]
      constructor
      · intro wide
        constructor
        · have put := wide _ (.cons type.admits_sample (admits_samples types))
          exact (admits_sample_iff type other).mp (List.forall₂_cons.mp put).1
        · intro rest admits
          have put := wide _ (.cons type.admits_sample admits)
          exact (List.forall₂_cons.mp put).2
      · rintro ⟨alike, wide⟩ arguments admits
        cases admits with
        | cons first rest => exact .cons (alike.admits sameHead.symm first) (wide _ rest)

end ParamType

namespace Obstacle

theorem verdict_ofArgumentsFrom_iff (index : Nat) {types : List ParamType}
    {arguments : List (Datum σ ε)} (count : types.length = arguments.length) :
    verdict (ofArgumentsFrom index types arguments) = .ok () ↔
      List.Forall₂ ParamType.Admits types arguments := by
  induction types generalizing index arguments with
  | nil =>
      obtain rfl := List.eq_nil_of_length_eq_zero count.symm
      simp [ofArgumentsFrom, verdict]
  | cons type types ih =>
      cases arguments with
      | nil => cases count
      | cons datum rest =>
          rw [ofArgumentsFrom_cons, verdict_cons, List.forall₂_cons,
            ← ih (index + 1) (Nat.succ.inj count)]
          by_cases admits : type.Admits datum <;> simp [ofArgument, admits]

theorem verdict_ofArguments_iff (types : List ParamType) (arguments : List (Datum σ ε)) :
    verdict (ofArguments types arguments) = .ok () ↔
      List.Forall₂ ParamType.Admits types arguments := by
  rw [ofArguments, verdict_cons]
  by_cases count : types.length = arguments.length
  · simp [ofCount, count, verdict_ofArgumentsFrom_iff 0 count]
  · have apart : ¬ List.Forall₂ ParamType.Admits types arguments :=
      fun admits => count admits.length_eq
    simp [ofCount, count, apart]

end Obstacle

theorem convertAll_eq_ok_iff (types : List ParamType) (arguments : List (Datum σ ε)) :
    ParamType.convertAll (ε := ε) types (arguments.map Datum.argument) =
        .ok (arguments.map Datum.argument) ↔
      List.Forall₂ ParamType.Admits types arguments := by
  rw [convertAll_eq_verdict, ← verdict_ofArguments_iff]
  cases verdict (ofArguments types arguments) <;> simp [Except.map]

theorem run_ofTypes_eq_ok_iff (types : List ParamType) (arguments : List (Datum σ ε))
    (marshalled : List (Argument σ)) :
    (Compiled.ArgumentPlan.ofTypes types).run arguments = .ok marshalled ↔
      List.Forall₂ ParamType.Admits types arguments ∧
        marshalled = arguments.map Datum.argument := by
  rw [Compiled.run_ofTypes, Interpreted.marshalAll_eq_verdict, ← verdict_ofArguments_iff]
  cases verdict (ofArguments types arguments) <;> simp [Except.map, eq_comm]

namespace MethodDeclaration

def mark (method : MethodDeclaration σ ε) : String × List (String × Bool) :=
  (method.name, method.form.params.map ParamType.mark)

theorem slot_eq_of_mark {method other : MethodDeclaration σ ε} (same : method.mark = other.mark) :
    method.slot = other.slot := by
  have fingerprints (types : List ParamType) : ParamType.fingerprints types =
      (types.map ParamType.mark).map fun mark =>
        if mark.2 then (Fingerprint.ofName mark.1).nullable else .ofName mark.1 := by
    simp [ParamType.fingerprints, ParamType.fingerprint_eq]
  obtain ⟨name, marks⟩ := Prod.mk.inj same
  rw [slot, slot, name, fingerprints, marks, ← fingerprints]

theorem params_of_routine? {method : MethodDeclaration σ ε} {routine : MethodRoutine σ ε}
    (own : method.routine? = some routine) : routine.params = method.form.params := by
  unfold routine? at own
  cases form : method.form with
  | direct other => rw [form] at own; cases own; rfl
  | «virtual» other => rw [form] at own; cases own; rfl
  | abstract params => rw [form] at own; cases own

end MethodDeclaration

namespace Registration

def declarations (chain : List (Registration σ ε)) : List (MethodDeclaration σ ε) :=
  chain.flatMap (·.methods)

/-- Methods share a slot by name and marks only, and not because hashes of
different texts coincide. -/
def CollisionFree (chain : List (Registration σ ε)) : Prop :=
  ∀ method ∈ declarations chain, ∀ other ∈ declarations chain,
    method.slot = other.slot → method.mark = other.mark

/-- In the signatures of a hierarchy one name stands for one native type of one kind. -/
def NamesTellTypes (chain : List (Registration σ ε)) : Prop :=
  ∀ type ∈ (declarations chain).flatMap (·.form.params),
    ∀ other ∈ (declarations chain).flatMap (·.form.params),
      type.mark.1 = other.mark.1 → type.Matches other

theorem NamesTellTypes.matches {chain : List (Registration σ ε)} (named : NamesTellTypes chain)
    {method other : MethodDeclaration σ ε} (member : method ∈ declarations chain)
    (listed : other ∈ declarations chain) (same : method.mark = other.mark) :
    List.Forall₂ ParamType.Matches method.form.params other.form.params := by
  have marks := (Prod.mk.inj same).2
  apply List.forall₂_of_length_eq_of_get (by simpa using congrArg List.length marks)
  intro i inside within
  have place : method.form.params[i].mark = other.form.params[i].mark := by
    simpa [inside, within] using congrArg (·[i]?) marks
  exact named _ (List.mem_flatMap.mpr ⟨method, member, List.getElem_mem inside⟩)
    _ (List.mem_flatMap.mpr ⟨other, listed, List.getElem_mem within⟩) (congrArg Prod.fst place)

end Registration

-- A slot that the hierarchy declares has a function in a concrete class. It is that of the
-- nearest declaration, which need not be this one.
theorem Registered.exists_override {c : RuntimeClass σ ε} {chain : List (Registration σ ε)}
    (known : Registered c chain) (concrete : c.isAbstract = false)
    {method : MethodDeclaration σ ε} (member : method ∈ declarations chain)
    (takes : method.takesSlot) :
    ∃ own : Implementation σ ε,
      (c.resolve method.slot).bind (·.body) = some (own.routine.body own.owner.receiver) ∧
      ∃ other ∈ declarations chain,
        method.slot = other.slot ∧ own.routine.params = other.form.params := by
  obtain ⟨r, listed, declared⟩ := List.mem_flatMap.mp member
  have taken : method.slot ∈ chain.flatMap declaredSlots :=
    List.mem_flatMap.mpr ⟨r, listed,
      List.mem_map.mpr ⟨method, List.mem_filter.mpr ⟨declared, takes⟩, rfl⟩⟩
  have resolved := known.resolve_eq_nearest method.slot
  have body := known.body_of_slot method.slot
  cases found : nearest? method.slot chain with
  | none => exact absurd taken ((nearest?_eq_none_iff _ _).mp found)
  | some nearest =>
      obtain ⟨s, other⟩ := nearest
      obtain ⟨within, inside, _, same⟩ := mem_of_nearest? found
      rw [found] at resolved body
      obtain ⟨_, filled⟩ := known.body_of_concrete concrete resolved
      obtain ⟨routine, own, _⟩ := Option.map_eq_some_iff.mp filled
      refine ⟨⟨routine, s⟩, ?_, other, List.mem_flatMap.mpr ⟨s, within, inside⟩,
        same.symm, MethodDeclaration.params_of_routine? own⟩
      simpa [implementation?, own] using body

/-- What a concrete class has in the slot of a method that it inherits or declares
converts all that the plan of the method lets through, exactly if the parameter
types match in each place. They do where names tell types. -/
theorem override_admits_iff [Inhabited σ] {r : Registration σ ε} {d : RegisteredClass σ ε}
    (accepted : r.build = .ok d) {m : Method σ ε} (declared : m ∈ d.methods)
    (isVirtual : m.dispatch.isVirtual) {c : RuntimeClass σ ε} {chain : List (Registration σ ε)}
    (known : Registered c chain) (listed : r ∈ chain) (concrete : c.isAbstract = false)
    (apart : CollisionFree chain) :
    ∃ own : Implementation σ ε,
      (c.resolve m.slot).bind (·.body) = some (own.routine.body own.owner.receiver) ∧
      ((∀ (arguments : List (Datum σ ε)) marshalled,
          (Compiled.ArgumentPlan.ofTypes m.params).run arguments = .ok marshalled →
          ParamType.convertAll (ε := ε) own.routine.params marshalled = .ok marshalled) ↔
        List.Forall₂ ParamType.Matches m.params own.routine.params) ∧
      (NamesTellTypes chain → List.Forall₂ ParamType.Matches m.params own.routine.params) := by
  rw [methods_of_build accepted] at declared
  obtain ⟨method, inside, rfl⟩ := List.mem_map.mp declared
  have takes : method.takesSlot := by
    rw [methodOf_eq] at isVirtual
    cases takes : method.takesSlot <;> simp [takes, Dispatch.isVirtual] at isVirtual ⊢
  have member : method ∈ declarations chain := List.mem_flatMap.mpr ⟨r, listed, inside⟩
  obtain ⟨own, body, other, within, shared, params⟩ :=
    known.exists_override concrete member takes
  have same := apart method member other within shared
  rw [methodOf_eq, Method.slot]
  refine ⟨own, body, ?_, ?_⟩
  · rw [params, ← ParamType.forall_admits_iff (σ := σ) (ε := ε) (Prod.mk.inj same).2]
    constructor
    · intro wide arguments admits
      exact (convertAll_eq_ok_iff _ _).mp
        (wide arguments _ ((run_ofTypes_eq_ok_iff _ _ _).mpr ⟨admits, rfl⟩))
    · intro wide arguments marshalled accepted
      obtain ⟨admits, rfl⟩ := (run_ofTypes_eq_ok_iff _ _ _).mp accepted
      exact (convertAll_eq_ok_iff _ _).mpr (wide arguments admits)
  · intro named
    rw [params]
    exact named.matches member within same

/-! A class that leaves a method on integers open, and one that fills it with a
function on a type which it calls by the same name. -/
namespace Meters

def integer : NativeType := ⟨4, "i32"⟩

def wrapped : NativeType := ⟨5, "zoo::Wrapped"⟩

def seven : Datum Unit String := .value (.root ⟨integer, (), []⟩)

def set : MethodDeclaration Unit String := ⟨"set", none, .abstract [.value integer "i32"]⟩

def meter : Registration Unit String :=
  ((start "Meter" ⟨1, "zoo::Meter"⟩ .reference).modified ⟨true, false⟩).method
    "set" none set.form

def meterClass : RegisteredClass Unit String := meter.describe meter.finalTable

def turn (native : NativeType) : MethodRoutine Unit String :=
  ⟨[.value native "i32"], fun heap lent _ => ⟨⟨.ok (), ["set"], lent⟩, heap⟩⟩

def dial (native : NativeType) : Registration Unit String :=
  ((start "Dial" ⟨2, "zoo::Dial"⟩ .reference).extending meterClass.runtimeClass).method
    "set" none (.virtual (turn native))

def dialClass (native : NativeType) : RegisteredClass Unit String :=
  (dial native).describe (dial native).finalTable

theorem meter_build : meter.build = .ok meterClass :=
  (build_eq_ok_iff _ _).mpr
    ⟨⟨rfl, List.nodup_singleton _, by decide, rfl, rfl, rfl⟩, rfl⟩

theorem set_declared : meter.methodOf meterClass.runtimeClass set ∈ meterClass.methods :=
  List.mem_cons_self

-- The slot is the one left open, whatever the native type is.
theorem dial_table (native : NativeType) :
    (dial native).finalTable.entries =
      [(set.slot, ⟨"set", "Dial", some ((turn native).body (dial native).receiver)⟩)] := by
  have same : MethodDeclaration.slot ⟨"set", none, .virtual (turn native)⟩ = set.slot :=
    MethodDeclaration.slot_eq_of_mark rfl
  change MethodTable.fill (MethodDeclaration.slot ⟨"set", none, .virtual (turn native)⟩) _
    [(set.slot, _)] = _
  rw [same, MethodTable.fill, if_pos rfl]
  rfl

theorem dial_build (native : NativeType) : (dial native).build = .ok (dialClass native) := by
  refine (build_eq_ok_iff _ _).mpr
    ⟨⟨rfl, List.nodup_singleton _, ?_, ?_, rfl, rfl⟩, rfl⟩
  · intro method member
    obtain rfl := List.mem_singleton.mp member
    rfl
  · have filled : (dial native).finalTable.firstAbstract? = none := by
      rw [MethodTable.firstAbstract?, dial_table]
      rfl
    rw [checkComplete, filled]
    rfl

theorem dial_registered (native : NativeType) :
    Registered (dialClass native).runtimeClass [dial native, meter] :=
  .derived (.root meter_build rfl) (dial_build native) rfl

theorem dial_collisionFree (native : NativeType) : CollisionFree [dial native, meter] := by
  have marks : ∀ method ∈ declarations [dial native, meter],
      method.mark = ("set", [("i32", false)]) := by
    intro method member
    rcases List.mem_cons.mp member with rfl | rest
    · rfl
    · obtain rfl := List.mem_singleton.mp rest
      rfl
  intro method member other listed _
  exact (marks method member).trans (marks other listed).symm

theorem dial_body (native : NativeType) :
    ((dialClass native).runtimeClass.resolve set.slot).bind (·.body) =
      some ((turn native).body (dial native).receiver) := by
  have found : (dialClass native).runtimeClass.resolve set.slot =
      [(set.slot, _)].lookup set.slot := congrArg (List.lookup set.slot) (dial_table native)
  rw [found, List.lookup_cons_self]
  rfl

theorem integer_dial_names : NamesTellTypes [dial integer, meter] := by
  have single : ∀ type ∈ (declarations [dial integer, meter]).flatMap (·.form.params),
      type = .value integer "i32" := by
    intro type member
    rcases List.mem_cons.mp member with rfl | rest
    · rfl
    · exact List.mem_singleton.mp rest
  intro type member other listed _
  rw [single type member, single other listed]
  exact ⟨rfl, rfl⟩

-- A function on integers takes what the method above takes.
theorem integer_dial_admits :
    CollisionFree [dial integer, meter] ∧ NamesTellTypes [dial integer, meter] ∧
    Registered (dialClass integer).runtimeClass [dial integer, meter] ∧
    ∃ own : Implementation Unit String,
      ((dialClass integer).runtimeClass.resolve set.slot).bind (·.body) =
        some (own.routine.body own.owner.receiver) ∧
      (Compiled.ArgumentPlan.ofTypes set.form.params).run [seven] = .ok [seven.argument] ∧
      ParamType.convertAll (ε := String) own.routine.params [seven.argument] =
        .ok [seven.argument] := by
  have apart := dial_collisionFree integer
  have known := dial_registered integer
  obtain ⟨own, body, exact, agree⟩ := override_admits_iff meter_build set_declared rfl
    known (.tail _ (.head _)) rfl apart
  have taken : (Compiled.ArgumentPlan.ofTypes set.form.params).run [seven] =
      .ok [seven.argument] := rfl
  exact ⟨apart, integer_dial_names, known, own, body, taken,
    exact.mpr (agree integer_dial_names) [seven] _ taken⟩

/-- A declared name may stand for two types, and slots do not tell them apart. The
class is accepted and refuses what the plan of the method above lets through. -/
theorem wrapped_dial_narrows :
    CollisionFree [dial wrapped, meter] ∧
    Registered (dialClass wrapped).runtimeClass [dial wrapped, meter] ∧
    (∃ own : Implementation Unit String,
      ((dialClass wrapped).runtimeClass.resolve set.slot).bind (·.body) =
        some (own.routine.body own.owner.receiver) ∧
      (Compiled.ArgumentPlan.ofTypes set.form.params).run [seven] = .ok [seven.argument] ∧
      ParamType.convertAll (ε := String) own.routine.params [seven.argument] =
        .error (.typeMismatch (.argument 0) "i32" "i32")) :=
  ⟨dial_collisionFree wrapped, dial_registered wrapped, ⟨turn wrapped, dial wrapped⟩,
    dial_body wrapped, rfl, by decide +kernel⟩

end Meters

end LateBinding
