import LateBinding.Proofs.Invoke.Agreement
import LateBinding.Proofs.Registration.Inheritance

/-!
Which members of registered classes have invokers. The check of a descriptor finds
what registration put there: bodies of the kind of the class, and the slots of its
virtual methods in its own table. So all members have invokers but for three exceptions,
which the registration tells by itself.
-/

namespace LateBinding

variable {σ ε : Type}

open Registration

theorem resolve_of_declared {r : Registration σ ε} {d : RegisteredClass σ ε}
    (accepted : r.build = .ok d)
    {method : MethodDeclaration σ ε} (member : method ∈ r.methods) (takes : method.takesSlot) :
    d.runtimeClass.resolve method.slot = some (r.entryOf method) := by
  have checked := ((build_eq_ok_iff r d).mp accepted).1
  rw [resolve_of_build accepted, checked.declaration?_of_mem member takes]
  rfl

theorem slot_of_virtual {r : Registration σ ε} {d : RegisteredClass σ ε}
    (accepted : r.build = .ok d)
    {m : Method σ ε} (declared : m ∈ d.methods) (isVirtual : m.dispatch.isVirtual) :
    m.dispatch = .virtual m.slot ∧ (d.runtimeClass.resolve m.slot).isSome := by
  rw [methods_of_build accepted] at declared
  obtain ⟨method, member, rfl⟩ := List.mem_map.mp declared
  rw [methodOf_eq] at isVirtual ⊢
  cases takes : method.takesSlot with
  | false => simp [takes, Dispatch.isVirtual] at isVirtual
  | true =>
      refine ⟨by simp [Method.slot, MethodDeclaration.slot], ?_⟩
      change (d.runtimeClass.resolve method.slot).isSome
      rw [resolve_of_declared accepted member takes]
      rfl

theorem Factory.exists_methodInvoker (factory : Factory) (naming : Naming) {m : Method σ ε}
    {route : Route σ ε} (routed : m.checkRoute = .ok route) :
    ∃ invoker, (factory.methodInvoker naming m).answer = .ok invoker ∧
      invoker.invoke = Interpreted.call m := by
  have answer := factory.answer_methodInvoker naming m
  rw [routed] at answer
  cases made : (factory.methodInvoker naming m).answer with
  | error error => simp [made, Except.map] at answer
  | ok invoker =>
      rw [made] at answer
      exact ⟨invoker, rfl, Except.ok.inj answer⟩

/-! An invoker of either factory tells that its descriptor was accepted, and reads it. -/

theorem reads_of_made {ι α β : Type} {answer : Except SynthesisError ι}
    {checked : Except SynthesisError α} {act : ι → β} {read : α → β}
    (same : answer.map act = checked.map read) {invoker : ι} (made : answer = .ok invoker) :
    ∃ a, checked = .ok a ∧ act invoker = read a := by
  rw [made] at same
  cases verdict : checked with
  | error error => simp [verdict, Except.map] at same
  | ok a =>
      rw [verdict] at same
      exact ⟨a, rfl, Except.ok.inj same⟩

namespace Factory

theorem reads_of_constructorInvoker {factory : Factory} {naming : Naming} {c : Constructor σ ε}
    {invoker : ConstructorInvoker σ ε}
    (made : (factory.constructorInvoker naming c).answer = .ok invoker) :
    c.check = .ok () ∧ invoker.invoke = Interpreted.construct c := by
  obtain ⟨_, checked, reads⟩ := reads_of_made (factory.answer_constructorInvoker naming c) made
  exact ⟨checked, reads⟩

theorem reads_of_propertyInvoker {factory : Factory} {naming : Naming} {p : Property σ ε}
    {invoker : PropertyInvoker σ ε} (made : (factory.propertyInvoker naming p).answer = .ok invoker) :
    ∃ setter, p.checkSetter = .ok setter ∧ invoker.invoke = Interpreted.assign p setter :=
  reads_of_made (factory.answer_propertyInvoker naming p) made

theorem reads_of_methodInvoker {factory : Factory} {naming : Naming} {m : Method σ ε}
    {invoker : MethodInvoker σ ε} (made : (factory.methodInvoker naming m).answer = .ok invoker) :
    ∃ route, m.checkRoute = .ok route ∧ invoker.invoke = Interpreted.call m :=
  reads_of_made (factory.answer_methodInvoker naming m) made

end Factory

-- Bodies that a registration writes take targets of the kind of its class.
theorem bodyFits_methodOf {r : Registration σ ε} {d : RegisteredClass σ ε}
    (accepted : r.build = .ok d)
    (method : MethodDeclaration σ ε) : (r.methodOf d.runtimeClass method).bodyFits := by
  have kind := kind_of_build accepted
  rw [methodOf_eq, Method.bodyFits]
  cases routine : method.routine? with
  | none => simp [entryOf, routine]
  | some own => simp [entryOf, routine, MethodRoutine.body, receiver, kind]

theorem checkRoute_of_virtual {r : Registration σ ε} {d : RegisteredClass σ ε}
    (accepted : r.build = .ok d) (kind : d.runtimeClass.kind = .reference) {m : Method σ ε}
    (declared : m ∈ d.methods) (isVirtual : m.dispatch.isVirtual) :
    m.checkRoute = .ok (.slot m.slot) := by
  obtain ⟨dispatch, there⟩ := slot_of_virtual accepted declared isVirtual
  rw [methods_of_build accepted] at declared
  obtain ⟨method, _, rfl⟩ := List.mem_map.mp declared
  have fits := bodyFits_methodOf accepted method
  have declaring : (r.methodOf d.runtimeClass method).declaring = d.runtimeClass := by
    rw [methodOf_eq]
  have present := Option.isNone_eq_false_iff.mpr there
  simp [Method.checkRoute, fits, dispatch, declaring, kind, present]

theorem Method.reference_of_checkRoute {m : Method σ ε} {route : Route σ ε}
    (routed : m.checkRoute = .ok route) (isVirtual : m.dispatch.isVirtual) :
    m.declaring.kind = .reference := by
  unfold checkRoute at routed
  split at routed
  · split at routed
    · next direct => simp [direct, Dispatch.isVirtual] at isVirtual
    · split at routed
      · cases routed
      · next notValue =>
          cases kind : m.declaring.kind with
          | value => exact absurd kind notValue
          | reference => rfl
  · cases routed

theorem Property.setter_of_checkSetter {p : Property σ ε} {setter : SetterBody σ ε}
    (checked : p.checkSetter = .ok setter) : p.setter = some setter := by
  unfold checkSetter at checked
  split at checked
  · cases checked
  · next own found =>
      split at checked
      · cases checked
      · cases checked
        exact found

/-! The exceptions. -/

namespace Registration

def constructorException? (r : Registration σ ε) : Option Unsupported :=
  if r.modifiers.isAbstract then some .abstractClass else none

def propertyException? : PropertyDeclaration σ ε → Option Unsupported
  | .writable .. => none
  | .readOnly .. => some .readOnlyProperty

def methodException? (r : Registration σ ε) (method : MethodDeclaration σ ε) : Option Unsupported :=
  if r.kind = .value ∧ method.takesSlot then some .virtualOnValue else none

end Registration

/-- A request that concerns a member is granted, unless there is an exception, which it is
then rejected for. -/
def GrantedUnless {ι : Type} (exception : Option Unsupported) (member : String)
    (answer : Except SynthesisError ι) : Prop :=
  match exception with
  | none => ∃ invoker, answer = .ok invoker
  | some reason => answer = .error ⟨member, reason⟩

theorem GrantedUnless.of_check {ι α β : Type} {answer : Except SynthesisError ι}
    {checked : Except SynthesisError α} {act : ι → β} {read : α → β}
    (same : answer.map act = checked.map read) {exception : Option Unsupported} {member : String}
    (verdict : GrantedUnless exception member checked) : GrantedUnless exception member answer := by
  cases exception with
  | none =>
      obtain ⟨a, rfl⟩ := verdict
      cases answer with
      | error error => cases same
      | ok invoker => exact ⟨invoker, rfl⟩
  | some reason =>
      cases verdict
      cases answer with
      | error error =>
          cases same
          rfl
      | ok invoker => cases same

theorem checkConstructor_constructorOf {r : Registration σ ε} {d : RegisteredClass σ ε}
    (accepted : r.build = .ok d) (routine : ConstructorRoutine σ ε) :
    GrantedUnless r.constructorException? (r.constructorOf d.runtimeClass routine).display
      (r.constructorOf d.runtimeClass routine).check := by
  have bare := isAbstract_of_build accepted
  have kind := kind_of_build accepted
  cases marked : r.modifiers.isAbstract <;>
    simp [GrantedUnless, constructorException?, Constructor.check, Constructor.unsupported,
      constructorOf, ConstructorRoutine.body, bare, kind, marked]

theorem checkSetter_propertyOf {r : Registration σ ε} {d : RegisteredClass σ ε}
    (accepted : r.build = .ok d) (declaration : PropertyDeclaration σ ε) :
    GrantedUnless (propertyException? declaration) (r.propertyOf d.runtimeClass declaration).display
      (r.propertyOf d.runtimeClass declaration).checkSetter := by
  have kind := kind_of_build accepted
  cases declaration with
  | readOnly name type => rfl
  | writable name routine =>
      have own : r.receiver.kind = d.runtimeClass.kind := (Receiver.kind_of _ _).trans kind.symm
      exact ⟨_, if_neg (not_not.mpr own)⟩

theorem checkRoute_methodOf {r : Registration σ ε} {d : RegisteredClass σ ε}
    (accepted : r.build = .ok d) {method : MethodDeclaration σ ε} (member : method ∈ r.methods) :
    GrantedUnless (r.methodException? method) (r.methodOf d.runtimeClass method).display
      (r.methodOf d.runtimeClass method).checkRoute := by
  have fits := bodyFits_methodOf accepted method
  have kind := kind_of_build accepted
  cases takes : method.takesSlot with
  | false =>
      obtain ⟨routine, own⟩ := method.exists_routine_of_direct takes
      rw [Method.checkRoute, if_pos fits, methodOf_eq]
      simp [GrantedUnless, methodException?, takes, entryOf, own]
  | true =>
      cases sort : r.kind with
      | value =>
          rw [Method.checkRoute, if_pos fits, methodOf_eq]
          simp [GrantedUnless, methodException?, takes, sort, kind, Method.unsupported]
      | reference =>
          have declared : r.methodOf d.runtimeClass method ∈ d.methods := by
            rw [methods_of_build accepted]
            exact List.mem_map_of_mem member
          have isVirtual : (r.methodOf d.runtimeClass method).dispatch.isVirtual := by
            simp [methodOf_eq, takes, Dispatch.isVirtual]
          have routed := checkRoute_of_virtual accepted (kind.trans sort) declared isVirtual
          simp [GrantedUnless, methodException?, sort, routed]

/-- Members of a registered class have invokers, by any factory, with three exceptions:
constructors of abstract classes, read-only properties, and methods of value classes that
take a slot. Methods that take a slot dispatch on it, and find themselves there. -/
theorem members_granted {r : Registration σ ε} {d : RegisteredClass σ ε}
    (accepted : r.build = .ok d) :
    List.Forall₂ (fun _ c => ∀ (factory : Factory) naming,
      GrantedUnless r.constructorException? c.display (factory.constructorInvoker naming c).answer)
      r.constructors d.constructors ∧
    List.Forall₂ (fun declaration p => ∀ (factory : Factory) naming,
      GrantedUnless (propertyException? declaration) p.display
        (factory.propertyInvoker naming p).answer)
      r.properties d.properties ∧
    List.Forall₂ (fun method m => (∀ (factory : Factory) naming,
        GrantedUnless (r.methodException? method) m.display
          (factory.methodInvoker naming m).answer) ∧
      (m.dispatch = if method.takesSlot then .virtual m.slot else .direct) ∧
      (method.takesSlot → ∃ entry, d.runtimeClass.resolve m.slot = some entry ∧
        entry.name = m.name ∧ entry.declaredBy = d.runtimeClass.name ∧ entry.body = m.body))
      r.methods d.methods := by
  rw [constructors_of_build accepted, properties_of_build accepted, methods_of_build accepted]
  simp only [List.forall₂_map_right_iff, List.forall₂_same]
  refine ⟨?constructors, ?properties, ?methods⟩
  case constructors =>
    intro routine _ factory naming
    exact (checkConstructor_constructorOf accepted routine).of_check
      (factory.answer_constructorInvoker naming _)
  case properties =>
    intro declaration _ factory naming
    exact (checkSetter_propertyOf accepted declaration).of_check
      (factory.answer_propertyInvoker naming _)
  case methods =>
    intro method member
    refine ⟨fun factory naming => (checkRoute_methodOf accepted member).of_check
      (factory.answer_methodInvoker naming _), ?_, ?_⟩
    · rw [methodOf_eq]
      rfl
    · intro takes
      refine ⟨r.entryOf method, ?_, ?_, ?_, ?_⟩
      · rw [methodOf_eq]
        exact resolve_of_declared accepted member takes
      · rw [methodOf_eq]
        rfl
      · exact (name_of_build accepted).symm
      · rw [methodOf_eq]

/-! A class of values with one member of each sort. -/
namespace Shapes

def coin : Registration Unit String :=
  (((start "Coin" ⟨6, "zoo::Coin"⟩ .value).constructor
    ⟨[], fun heap _ => ⟨.ok (.root ⟨⟨6, "zoo::Coin"⟩, (), []⟩), ["mint"], heap⟩⟩).readOnlyProperty
    "side" (.value ⟨5, "u8"⟩ "u8")).method "flip" none (.virtual idle)

def coinClass : RegisteredClass Unit String := coin.describe coin.finalTable

theorem coin_build : coin.build = .ok coinClass :=
  (build_eq_ok_iff _ _).mpr
    ⟨⟨rfl, List.nodup_singleton _, by decide, rfl, rfl, rfl⟩, rfl⟩

-- Coins can be made, but neither is their side set nor are they flipped.
theorem coin_members :
    coin.build = .ok coinClass ∧
    (∀ c ∈ coinClass.constructors, ∃ invoker,
      (Factory.constructorInvoker ⟨.compiled, .default⟩ .first c).answer = .ok invoker) ∧
    (∀ p ∈ coinClass.properties,
      (Factory.propertyInvoker ⟨.compiled, .default⟩ .first p).answer =
        .error ⟨p.display, .readOnlyProperty⟩) ∧
    (∀ m ∈ coinClass.methods,
      (Factory.methodInvoker ⟨.interpreted, .default⟩ .first m).answer =
        .error ⟨m.display, .virtualOnValue⟩ ∧
      ∃ entry, coinClass.runtimeClass.resolve m.slot = some entry ∧ entry.name = "flip") := by
  obtain ⟨constructors, properties, methods⟩ := members_granted coin_build
  have mint := (List.forall₂_cons.mp constructors).1
  have side := (List.forall₂_cons.mp properties).1
  obtain ⟨flip, _, listed⟩ := (List.forall₂_cons.mp methods).1
  obtain ⟨entry, found, name, _⟩ := listed rfl
  exact ⟨coin_build, List.forall_mem_singleton.mpr (mint _ _),
    List.forall_mem_singleton.mpr (side _ _),
    List.forall_mem_singleton.mpr ⟨flip _ _, entry, found, name⟩⟩

end Shapes

end LateBinding
