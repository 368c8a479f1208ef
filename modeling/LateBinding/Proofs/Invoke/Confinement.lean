import LateBinding.Proofs.Invoke.Rejection
import LateBinding.Proofs.Object.Keeping
import LateBinding.Proofs.Object.Walks
import LateBinding.Scenario.Execution
import Mathlib.Algebra.GroupWithZero.Nat

/-!
What calls may change. A registered function that looks only at the part it is lent
and at what its arguments hold changes that part and nothing else: not the parts
around it, no other object, no copy of a boxed target and no argument. All handles to
the target show the change, and a program finds it under the names that lead there.
-/

namespace LateBinding

variable {σ ε : Type}

open Registration Obstacle

/-! Functions of what they are lent and of what their arguments hold. -/

section

variable {ρ : Type}

def ConstructorFunction.OfContents (function : ConstructorFunction σ ρ) : Prop :=
  ∃ f, function = .ofContents function.params f

def SetterFunction.OfContents (function : SetterFunction σ ρ) : Prop :=
  ∃ f, function = .ofContents function.type f

def MethodFunction.OfContents (function : MethodFunction σ ρ) : Prop :=
  ∃ f, function = .ofContents function.params f

theorem ConstructorFunction.OfContents.heap_run {function : ConstructorFunction σ ρ}
    (pure : function.OfContents) (heap : Heap σ) (arguments : List (Argument σ)) :
    (function.run heap arguments).heap = heap := by
  obtain ⟨f, same⟩ := pure
  rw [same]
  rfl

theorem SetterFunction.OfContents.heap_run {function : SetterFunction σ ρ}
    (pure : function.OfContents) (heap : Heap σ) (lent : Instance σ) (argument : Argument σ) :
    (function.run heap lent argument).heap = heap := by
  obtain ⟨f, same⟩ := pure
  rw [same]
  rfl

theorem MethodFunction.OfContents.heap_run {function : MethodFunction σ ρ}
    (pure : function.OfContents) (heap : Heap σ) (lent : Instance σ)
    (arguments : List (Argument σ)) : (function.run heap lent arguments).heap = heap := by
  obtain ⟨f, same⟩ := pure
  rw [same]
  rfl

theorem MethodFunction.OfContents.shared {function : MethodFunction σ ρ}
    (pure : function.OfContents) : function.shared.OfContents := by
  obtain ⟨f, same⟩ := pure
  refine ⟨fun lent held => { f lent held with receiver := lent }, ?_⟩
  rw [same]
  rfl

theorem MethodFunction.OfContents.fallible {function : MethodFunction σ (Attempt ε ρ)}
    (pure : function.OfContents) : function.fallible.OfContents := by
  obtain ⟨f, same⟩ := pure
  refine ⟨fun lent held =>
    ⟨(f lent held).result.map fun _ => (), (f lent held).lines, (f lent held).receiver⟩, ?_⟩
  rw [same]
  rfl

end

/-! The functions that a class registered. -/

def PropertyDeclaration.routine? : PropertyDeclaration σ ε → Option (SetterRoutine σ ε)
  | .writable _ routine => some routine
  | .readOnly .. => none

def Registration.setterRoutines (r : Registration σ ε) : List (SetterRoutine σ ε) :=
  r.properties.filterMap PropertyDeclaration.routine?

structure Registration.OfContents (r : Registration σ ε) : Prop where
  constructors : ∀ routine ∈ r.constructors, routine.OfContents
  setters : ∀ routine ∈ r.setterRoutines, routine.OfContents
  methods : ∀ routine ∈ r.methodRoutines, routine.OfContents

def SetterBody.OfContents (body : SetterBody σ ε) : Prop :=
  ∃ r : Registration σ ε, ∃ routine ∈ r.setterRoutines,
    routine.OfContents ∧ body = routine.body r.receiver

def MethodBody.OfContents (body : MethodBody σ ε) : Prop :=
  ∃ r : Registration σ ε, ∃ routine ∈ r.methodRoutines,
    routine.OfContents ∧ body = routine.body r.receiver

/-- A target that is an object is one of a class whose hierarchy registered only such
functions for its methods. -/
def Datum.OfContents (target : Datum σ ε) : Prop :=
  ∀ ref, target = .object ref → ∃ chain, Registered ref.runtimeClass chain ∧
    ∀ r ∈ chain, ∀ routine ∈ r.methodRoutines, routine.OfContents

theorem Registered.ofContents_of_slot {c : RuntimeClass σ ε} {chain : List (Registration σ ε)}
    (known : Registered c chain)
    (pure : ∀ r ∈ chain, ∀ routine ∈ r.methodRoutines, routine.OfContents) {slot : Fingerprint}
    {body : MethodBody σ ε} (found : (c.resolve slot).bind (·.body) = some body) :
    body.OfContents := by
  obtain ⟨r, within, routine, member, rfl⟩ := known.exists_routine_of_slot found
  exact ⟨r, routine, member, pure r within routine member, rfl⟩

theorem Interpreted.ofContents_of_bodyFor {m : Method σ ε}
    (written : ∀ body ∈ m.body, body.OfContents) {target : Datum σ ε} (sound : target.OfContents)
    {body : MethodBody σ ε} (found : bodyFor m target = .ok body) : body.OfContents := by
  rcases bodyFor_cases found with declared | ⟨ref, slot, same, filled⟩
  · exact written body declared
  · obtain ⟨chain, known, pure⟩ := sound ref same
    exact known.ofContents_of_slot pure filled

def Heap.shown (heap : Heap σ) : Datum σ ε → Option (Instance σ)
  | .null => none
  | .value boxed => some boxed
  | .object ref => heap.content? ref

/-- A boxed value may give way to another one of its type, an object stays the handle
that it is. -/
def Datum.Remains : Datum σ ε → Datum σ ε → Prop
  | .null, .null => True
  | .value boxed, .value now => now.native = boxed.native
  | .object ref, .object now => now = ref
  | _, _ => False

-- Handles to one object show the same, also the one that a call gives back.
theorem Datum.Remains.shown_of_same {target now datum : Datum σ ε} (remains : target.Remains now)
    (same : target.sameObject datum) (heap : Heap σ) : heap.shown datum = heap.shown now := by
  cases target with
  | null => cases same
  | value boxed => cases same
  | object ref =>
      cases now with
      | null => cases remains
      | value boxed => cases remains
      | object kept =>
          cases datum with
          | null => cases same
          | value boxed => cases same
          | object other =>
              obtain rfl : kept = ref := remains
              have ids : kept.id = other.id := by simpa [sameObject, ObjectRef.same] using same
              rw [Heap.shown, Heap.shown, Heap.content?, Heap.content?, ids]

theorem Heap.shown_write (heap : Heap σ) {ref : ObjectRef σ ε} (content : Instance σ)
    {datum : Datum σ ε} (apart : (Datum.object ref).sameObject datum = false) :
    (heap.write ref.id content).shown datum = heap.shown datum := by
  cases datum with
  | null => rfl
  | value boxed => rfl
  | object other =>
      have ids : ref.id ≠ other.id := by simpa [Datum.sameObject, ObjectRef.same] using apart
      rw [shown, content?, read?_write, if_neg ids]
      rfl

/-- What a call leaves whose function ran on a loan from its target, given the native
type of the class that registered the function. The loan gives way to what the function
made of it, the answer is the function's own, and all else is as before: what is inside
the target beside the loan, the parts around the first one of the type, the target's type
and identity, all other objects and all arguments. If the parts around lend the bases that
they show, the first part of the type is the loan, and they are as before with all that they
hold. -/
structure Loan.Confines (loan : Loan σ) (type : NativeType) (before : Heap σ)
    (target : Datum σ ε) (arguments : List (Datum σ ε)) (touch : Touch σ (Attempt ε Unit))
    (after : Completion σ ε) : Prop where
  held : before.shown target = some loan.whole
  answer : after.answer = touch.result.mapError .targetFailure
  gap : after.heap.shown after.target =
    some (loan.whole.putAt loan.place (touch.receiver.withNative loan.part.native))
  beside : ∀ now, after.heap.shown after.target = some now →
    ∀ place, ¬ loan.place <+: place →
      (now.at? place).map (·.outer) = (loan.whole.at? place).map (·.outer)
  around : ∀ now, after.heap.shown after.target = some now →
    (now.outside type).map (·.outer) = (loan.whole.outside type).map (·.outer)
  outside : loan.whole.Opens type → ∀ now, after.heap.shown after.target = some now →
    loan.whole.viewAs? type = some loan.part ∧ now.outside type = loan.whole.outside type ∧
      now.viewAs? type = some (touch.receiver.withNative type)
  remains : target.Remains after.target
  shared : ∀ datum, target.sameObject datum →
    after.heap.shown datum = after.heap.shown after.target
  elsewhere : ∀ datum, target.sameObject datum = false →
    after.heap.shown datum = before.shown datum
  arguments : ∀ datum ∈ arguments, after.heap.shown datum = before.shown datum

def Completion.Untouched (after : Completion σ ε) (before : Heap σ) (target : Datum σ ε) : Prop :=
  ∃ error, error.isRejection ∧ after = .refused before target error

theorem Completion.Untouched.shown {after : Completion σ ε} {before : Heap σ} {target : Datum σ ε}
    (untouched : after.Untouched before target) (datum : Datum σ ε) :
    after.heap.shown datum = before.shown datum := by
  obtain ⟨error, _, rfl⟩ := untouched
  rfl

theorem Registration.lentAt?_of_reach? {r : Registration σ ε} {heap : Heap σ}
    {ref : ObjectRef σ ε} {loan : Loan σ}
    (reached : r.receiver.reach? heap (.object ref) = some loan) :
    r.kind = .reference ∧ heap.content? ref = some loan.whole ∧
      loan.whole.lentAt? r.native = some loan.place := by
  rcases Receiver.whole_of_reach? reached with
    ⟨_, same, _⟩ | ⟨_, upcast, name, same, own, held, found⟩
  · cases same
  · cases same
    cases kind : r.kind with
    | value =>
        rw [receiver_of_value kind] at own
        cases own
    | reference =>
        rw [receiver_of_reference kind] at own
        cases own
        exact ⟨rfl, held, found⟩

theorem Registration.native_of_receiver [Inhabited σ] {r s : Registration σ ε}
    (same : r.receiver = s.receiver) : r.native = s.native := by
  have kinds := congrArg Receiver.kind same
  rw [receiver, receiver, Receiver.kind_of, Receiver.kind_of] at kinds
  cases kind : r.kind with
  | value =>
      rw [receiver_of_value kind, receiver_of_value (kinds.symm.trans kind)] at same
      exact (Receiver.value.inj same).1
  | reference =>
      rw [receiver_of_reference kind, receiver_of_reference (kinds.symm.trans kind)] at same
      -- An instance of the one type alone is lent as the other only if they are one.
      have found : (Instance.root ⟨r.native, (default : σ), []⟩).lentAt? r.native = some [] := by
        rw [Instance.lentAt?]
        exact if_pos rfl
      rw [congrFun (Receiver.object.inj same).1 (Instance.root ⟨r.native, (default : σ), []⟩)] at found
      obtain ⟨_, here, own⟩ := Instance.exists_at?_of_lentAt? found
      cases here
      exact own

theorem Registration.native_of_reach? {r : Registration σ ε} {heap : Heap σ} {target : Datum σ ε}
    {loan : Loan σ} (takes : r.receiver.Takes target)
    (reached : r.receiver.reach? heap target = some loan) : loan.part.native = r.native := by
  cases target with
  | null => cases kind : r.kind <;> simp [receiver, Receiver.of, kind, Receiver.reach?] at reached
  | value boxed =>
      cases kind : r.kind with
      | value =>
          rw [receiver_of_value kind] at takes reached
          cases reached
          exact takes
      | reference =>
          rw [receiver_of_reference kind] at takes
          cases takes
  | object ref =>
      obtain ⟨_, _, found⟩ := lentAt?_of_reach? reached
      obtain ⟨part, there, own⟩ := Instance.exists_at?_of_lentAt? found
      cases there.symm.trans loan.found
      exact own

-- It is enough to know what the target shows now, and that no other object changed.
theorem Loan.Confines.of_shown {loan : Loan σ} {type : NativeType} {before : Heap σ}
    {target : Datum σ ε} {arguments : List (Datum σ ε)} {touch : Touch σ (Attempt ε Unit)}
    {after : Completion σ ε} (held : before.shown target = some loan.whole)
    (own : loan.part.native = type)
    (found : loan.whole.lentAt? type = some loan.place)
    (answered : after.answer = touch.result.mapError .targetFailure)
    (gap : after.heap.shown after.target =
      some (loan.whole.putAt loan.place (touch.receiver.withNative loan.part.native)))
    (remains : target.Remains after.target)
    (elsewhere : ∀ datum, target.sameObject datum = false →
      after.heap.shown datum = before.shown datum)
    (apart : ∀ datum ∈ arguments, target.sameObject datum = false) :
    loan.Confines type before target arguments touch after := by
  constructor
  case held => exact held
  case answer => exact answered
  case gap => exact gap
  case beside =>
    intro now left place apart
    cases gap.symm.trans left
    exact Instance.outer_at?_putAt loan.found _ apart
  case around =>
    intro now left
    cases gap.symm.trans left
    exact Instance.map_outer_outside_putAt loan.found own
      ((Instance.native_withNative _ _).trans own)
  case outside =>
    intro opens now left
    cases gap.symm.trans left
    have leads := opens.leads (opens.mem_shape (Option.isSome_of_eq_some found))
    have place := Option.some.inj (found.symm.trans leads.lentAt?_eq)
    have seen : loan.whole.viewAs? type = some loan.part := by
      rw [Instance.viewAs?_eq_at?, ← place, loan.found]
    rw [place, own]
    exact ⟨seen, Instance.surrounds_putAt seen (Instance.native_withNative _ _)⟩
  case remains => exact remains
  case shared => exact fun datum same => remains.shown_of_same same after.heap
  case elsewhere => exact elsewhere
  case arguments => exact fun datum member => elsewhere datum (apart datum member)

theorem Completion.RanOn.confines {r : Registration σ ε} {heap : Heap σ} {target : Datum σ ε}
    (takes : r.receiver.Takes target) {loan : Loan σ}
    (reached : r.receiver.reach? heap target = some loan) {arguments : List (Datum σ ε)}
    (apart : ∀ datum ∈ arguments, target.sameObject datum = false)
    {touch : Touch σ (Attempt ε Unit)} (still : touch.heap = heap)
    {marshalled : List (Argument σ)} {after : Completion σ ε}
    (ran : after.RanOn target loan marshalled touch) :
    loan.Confines r.native heap target arguments touch after := by
  have own := native_of_reach? takes reached
  rcases Receiver.whole_of_reach? reached with ⟨boxed, rfl, rfl⟩ | ⟨ref, _, _, rfl, _, held, _⟩
  · obtain ⟨target, left⟩ := ran.boxed boxed rfl
    have hit : boxed.native = r.native := own
    refine .of_shown rfl own ?_ ran.answer ?_ ?_ ?_ apart
    · rw [Instance.lentAt?]
      exact if_pos hit
    · rw [target]
      rfl
    · rw [target]
      exact Instance.native_withNative _ _
    · intro datum _
      rw [left, still]
  · obtain ⟨target, left⟩ := ran.object ref rfl
    obtain ⟨_, _, found⟩ := lentAt?_of_reach? reached
    rw [still] at left
    refine .of_shown held own found ran.answer ?_ ?_ ?_ apart
    · have here : heap.read? ref.id = some loan.whole := held
      rw [target, left, Heap.shown, Heap.content?, Heap.read?_write, if_pos rfl, here]
      rfl
    · rw [target]
      exact rfl
    · intro datum other
      rw [left]
      exact heap.shown_write _ other

theorem Receiver.Ends.confines {r : Registration σ ε} {heap : Heap σ} {target : Datum σ ε}
    {arguments : List (Datum σ ε)} {run : Instance σ → Touch σ (Attempt ε Unit)}
    {completion : Completion σ ε}
    (ended : r.receiver.Ends heap target arguments run completion)
    (still : ∀ part, (run part).heap = heap) :
    completion.Untouched heap target ∨
      ∃ loan, r.receiver.reach? heap target = some loan ∧
        loan.Confines r.native heap target arguments (run loan.part) completion := by
  cases ended with
  | refused error rejection same => exact .inl ⟨error, rejection, same⟩
  | ran loan takes reached apart once =>
      exact .inr ⟨loan, reached, once.confines takes reached apart (still loan.part)⟩

namespace Interpreted

theorem confines_assign (p : Property σ ε) {setter : SetterBody σ ε} (written : setter.OfContents)
    (heap : Heap σ) (target value : Datum σ ε) :
    (assign p setter heap target value).Untouched heap target ∨
      ∃ r : Registration σ ε, ∃ routine ∈ r.setterRoutines, setter = routine.body r.receiver ∧
        ∃ loan, r.receiver.reach? heap target = some loan ∧
          loan.Confines r.native heap target [value]
            (routine.run heap loan.part value.argument) (assign p setter heap target value) := by
  obtain ⟨r, routine, member, pure, rfl⟩ := written
  rw [assign_eq]
  split
  · next error refused =>
      have rejection := isRejection_of_verdict
        (List.forall_mem_cons.mpr ⟨rfl, List.forall_mem_singleton.mpr rfl⟩) refused
      exact .inl ⟨error, rejection, rfl⟩
  · rcases (routine.ends_set r.receiver heap target value).confines (pure.heap_run heap · _) with
      untouched | confined
    · exact .inl untouched
    · exact .inr ⟨r, routine, member, rfl, confined⟩

theorem confines_call {m : Method σ ε} (written : ∀ body ∈ m.body, body.OfContents) (heap : Heap σ)
    {target : Datum σ ε} (sound : target.OfContents) (arguments : List (Datum σ ε)) :
    (call m heap target arguments).Untouched heap target ∨
      ∃ r : Registration σ ε, ∃ routine ∈ r.methodRoutines,
        bodyFor m target = .ok (routine.body r.receiver) ∧
        ∃ loan, r.receiver.reach? heap target = some loan ∧
          loan.Confines r.native heap target arguments
            (routine.run heap loan.part (arguments.map Datum.argument))
            (call m heap target arguments) := by
  rw [call_eq]
  split
  · next error refused =>
      have rejection := isRejection_of_verdict
        (List.forall_mem_cons.mpr ⟨rfl, isRejection_of_mem_arguments⟩) refused
      exact .inl ⟨error, rejection, rfl⟩
  · split
    · next error missing => exact .inl ⟨error, isRejection_of_bodyFor missing, rfl⟩
    · next body found =>
        obtain ⟨r, routine, member, pure, rfl⟩ := ofContents_of_bodyFor written sound found
        rcases (routine.ends_call r.receiver heap target arguments).confines
          (pure.heap_run heap · _) with untouched | confined
        · exact .inl untouched
        · exact .inr ⟨r, routine, member, found, confined⟩

end Interpreted

/-! The names of a program. The classes that it registers have scripts for functions. -/

namespace Scenario

theorem State.ofContents_declare {r : Registration Content String} (pure : r.OfContents)
    (member : MemberDeclaration) : (declare r member).OfContents := by
  cases member with
  | constructor params script template =>
      refine ⟨fun routine listed => ?_, pure.setters, pure.methods⟩
      rcases List.mem_append.mp listed with earlier | last
      · exact pure.constructors routine earlier
      · obtain rfl := List.mem_singleton.mp last
        exact ⟨_, rfl⟩
  | property name type script =>
      refine ⟨pure.constructors, fun routine listed => ?_, pure.methods⟩
      rw [setterRoutines, declare, Registration.property, List.filterMap_append] at listed
      rcases List.mem_append.mp listed with earlier | last
      · exact pure.setters routine earlier
      · obtain rfl := List.mem_singleton.mp last
        exact ⟨_, rfl⟩
  | readOnly name type =>
      refine ⟨pure.constructors, fun routine listed => ?_, pure.methods⟩
      rw [setterRoutines, declare, readOnlyProperty, List.filterMap_append] at listed
      rcases List.mem_append.mp listed with earlier | last
      · exact pure.setters routine earlier
      · cases last
  | method name params returns isVirtual shared script =>
      refine ⟨pure.constructors, pure.setters, fun routine listed => ?_⟩
      rw [methodRoutines, declare, Registration.method, List.filterMap_append] at listed
      rcases List.mem_append.mp listed with earlier | last
      · exact pure.methods routine earlier
      · have own : (script.method params).OfContents := ⟨_, rfl⟩
        cases isVirtual <;> cases shared <;> obtain rfl := List.mem_singleton.mp last
        · exact own.fallible
        · exact own.shared.fallible
        · exact own.fallible
        · exact own.shared.fallible
  | abstract name params returns =>
      refine ⟨pure.constructors, pure.setters, fun routine listed => ?_⟩
      rw [methodRoutines, declare, Registration.method, List.filterMap_append] at listed
      rcases List.mem_append.mp listed with earlier | last
      · exact pure.methods routine earlier
      · cases last

theorem State.ofContents_foldl_declare {r : Registration Content String} (pure : r.OfContents)
    (members : List MemberDeclaration) : (members.foldl declare r).OfContents := by
  induction members generalizing r with
  | nil => exact pure
  | cons member rest ih => exact ih (ofContents_declare pure member)

/-- Whatever class a program declares, its functions are of contents. -/
theorem State.ofContents_registration (declaration : ClassDeclaration)
    (base : Option (RuntimeClass Content String)) : (registration declaration base).OfContents := by
  have bare : ∀ r : Registration Content String, r.constructors = [] → r.properties = [] →
      r.methods = [] → r.OfContents := by
    intro r constructors properties methods
    constructor
    · simp [constructors]
    · simp [setterRoutines, properties]
    · simp [methodRoutines, methods]
  cases base with
  | none => exact ofContents_foldl_declare (bare _ rfl rfl rfl) _
  | some base => exact ofContents_foldl_declare (bare _ rfl rfl rfl) _

/-- All names but the target's own are bound to what they were bound to, and show what
they showed unless they lead to the target's object. -/
def State.KeepsOthers (before after : State) (target : Expr) (datum : Datum Content String) : Prop :=
  ∀ name, target ≠ .variable name →
    after.values.lookup name = before.values.lookup name ∧
    ((∀ held, before.values.lookup name = some held → datum.sameObject held = false) →
      after.shown name = before.shown name)

theorem snapshot_congr {heap after : Heap Content} {datum : Datum Content String}
    (same : after.shown datum = heap.shown datum) : snapshot after datum = snapshot heap datum := by
  cases datum with
  | null => rfl
  | value boxed => rfl
  | object ref => exact congrArg (Snapshot.object ref.runtimeClass.name) same

theorem State.keepsOthers_complete (state : State) (target : Expr) (datum : Datum Content String)
    {completion : Completion Content String}
    (elsewhere : ∀ other, datum.sameObject other = false →
      completion.heap.shown other = state.heap.shown other) :
    state.KeepsOthers (state.complete target completion).state target datum := by
  intro name other
  have bound : (state.complete target completion).state.values.lookup name =
      state.values.lookup name := by
    cases target with
    | «variable» own =>
        have differ : name ≠ own := fun same => other (congrArg Expr.variable same.symm)
        exact (Bindings.lookup_put _ _ _ _).trans (if_neg differ)
    | null => rfl
    | value content => rfl
    | boxed inner => rfl
  refine ⟨bound, fun apart => ?_⟩
  have heap : (state.complete target completion).state.heap = completion.heap := by
    cases target <;> rfl
  unfold shown snapshot
  rw [bound, heap]
  apply snapshot_congr
  cases held : state.values.lookup name with
  | none => rfl
  | some datum => exact elsewhere datum (apart datum held)

theorem State.complete_of_assign {state : State} {name : String} {target value : Expr}
    {invoker : PropertyInvoker Content String} {datum : Datum Content String} {reply : Reply}
    (known : state.invokers.lookup name = some (.property invoker))
    (evaluated : state.eval? target = some datum)
    (assigned : state.assign? name target value = some reply) :
    ∃ other, reply = state.complete target (invoker.invoke state.heap datum other) := by
  simp only [assign?, known, evaluated, Option.bind_eq_bind, Option.bind_some] at assigned
  obtain ⟨other, _, same⟩ := Option.bind_eq_some_iff.mp assigned
  exact ⟨other, (Option.some.inj same).symm⟩

theorem State.complete_of_call {state : State} {name : String} {target : Expr}
    {arguments : List Expr} {invoker : MethodInvoker Content String} {datum : Datum Content String}
    {reply : Reply} (known : state.invokers.lookup name = some (.method invoker))
    (evaluated : state.eval? target = some datum)
    (called : state.call? name target arguments = some reply) :
    ∃ data, reply = state.complete target (invoker.invoke state.heap datum data) := by
  simp only [call?, known, evaluated, Option.bind_eq_bind, Option.bind_some] at called
  obtain ⟨data, _, same⟩ := Option.bind_eq_some_iff.mp called
  exact ⟨data, (Option.some.inj same).symm⟩

end Scenario

/-- A call of registered functions of their part and of what their arguments hold is
refused with nothing changed, or changes that part of its target alone. That goes for
descriptors around such functions and targets whose classes registered no others,
whatever the call answers. In a program, no other name notices, unless it leads to
the target's object. -/
theorem calls_stay_in_their_part (factory : Factory) (naming : Naming) :
    (∀ p : Property σ ε, (∀ setter ∈ p.setter, setter.OfContents) →
      ∀ invoker, (factory.propertyInvoker naming p).answer = .ok invoker →
        ∀ heap target value,
          (invoker.invoke heap target value).Untouched heap target ∨
          ∃ r : Registration σ ε, ∃ routine ∈ r.setterRoutines,
            p.setter = some (routine.body r.receiver) ∧
            ∃ loan, r.receiver.reach? heap target = some loan ∧
              loan.Confines r.native heap target [value]
                (routine.run heap loan.part value.argument)
                (invoker.invoke heap target value)) ∧
    (∀ m : Method σ ε, (∀ body ∈ m.body, body.OfContents) →
      ∀ invoker, (factory.methodInvoker naming m).answer = .ok invoker →
        ∀ heap target, target.OfContents → ∀ arguments,
          (invoker.invoke heap target arguments).Untouched heap target ∨
          ∃ r : Registration σ ε, ∃ routine ∈ r.methodRoutines,
            Interpreted.bodyFor m target = .ok (routine.body r.receiver) ∧
            ∃ loan, r.receiver.reach? heap target = some loan ∧
              loan.Confines r.native heap target arguments
                (routine.run heap loan.part (arguments.map Datum.argument))
                (invoker.invoke heap target arguments)) ∧
    (∀ p : Property Scenario.Content String, (∀ setter ∈ p.setter, setter.OfContents) →
      ∀ invoker, (factory.propertyInvoker naming p).answer = .ok invoker →
        ∀ (state : Scenario.State) name target value reply datum,
          state.invokers.lookup name = some (.property invoker) →
          state.assign? name target value = some reply → state.eval? target = some datum →
          state.KeepsOthers reply.state target datum) ∧
    (∀ m : Method Scenario.Content String, (∀ body ∈ m.body, body.OfContents) →
      ∀ invoker, (factory.methodInvoker naming m).answer = .ok invoker →
        ∀ (state : Scenario.State) name target arguments reply datum,
          state.invokers.lookup name = some (.method invoker) →
          state.call? name target arguments = some reply → state.eval? target = some datum →
          datum.OfContents → state.KeepsOthers reply.state target datum) := by
  refine ⟨?properties, ?methods, ?assignments, ?calls⟩
  case properties =>
    intro p written invoker made heap target value
    obtain ⟨setter, checked, reads⟩ := Factory.reads_of_propertyInvoker made
    have own := Property.setter_of_checkSetter checked
    rw [reads, own]
    rcases Interpreted.confines_assign p (written setter own) heap target value with
      untouched | ⟨r, routine, member, same, confined⟩
    · exact .inl untouched
    · exact .inr ⟨r, routine, member, congrArg some same, confined⟩
  case methods =>
    intro m written invoker made heap target sound arguments
    obtain ⟨_, _, reads⟩ := Factory.reads_of_methodInvoker made
    rw [reads]
    exact Interpreted.confines_call written heap sound arguments
  case assignments =>
    intro p written invoker made state name target value reply datum known assigned evaluated
    obtain ⟨other, rfl⟩ := Scenario.State.complete_of_assign known evaluated assigned
    obtain ⟨setter, checked, reads⟩ := Factory.reads_of_propertyInvoker made
    apply state.keepsOthers_complete
    rw [reads]
    rcases Interpreted.confines_assign p (written setter (Property.setter_of_checkSetter checked))
      state.heap datum other with untouched | ⟨_, _, _, _, _, _, confined⟩
    · exact fun other _ => untouched.shown other
    · exact confined.elsewhere
  case calls =>
    intro m written invoker made state name target arguments reply datum known called evaluated
      sound
    obtain ⟨data, rfl⟩ := Scenario.State.complete_of_call known evaluated called
    obtain ⟨_, _, reads⟩ := Factory.reads_of_methodInvoker made
    apply state.keepsOthers_complete
    rw [reads]
    rcases Interpreted.confines_call written state.heap sound data with
      untouched | ⟨_, _, _, _, _, _, confined⟩
    · exact fun other _ => untouched.shown other
    · exact confined.elsewhere

/-! Books with a number of pages, and diaries that are books. Binding other books in adds
their pages, and fails all the same. -/
namespace Ledgers

def bookType : NativeType := ⟨1, "lib::Book"⟩

def pages : Held Nat → Nat
  | .object _ (some content) => ((content.viewAs? bookType).map (·.outer.state)).getD 0
  | _ => 0

def bindIn : MethodRoutine Nat String :=
  .ofContents [.reference bookType false] fun lent others =>
    ⟨.error (.raised "spine"), ["bind"], lent.mapState (· + (others.map pages).sum)⟩

def book : Registration Nat String :=
  (start "Book" bookType .reference).method "bind" none (.virtual bindIn)

def bookClass : RegisteredClass Nat String := book.describe book.finalTable

def diary : Registration Nat String :=
  (start "Diary" ⟨2, "lib::Diary"⟩ .reference).extending bookClass.runtimeClass

def diaryClass : RegisteredClass Nat String := diary.describe diary.finalTable

theorem book_build : book.build = .ok bookClass :=
  (build_eq_ok_iff _ _).mpr ⟨⟨rfl, List.nodup_singleton _, by decide, rfl, rfl, rfl⟩, rfl⟩

theorem diary_build : diary.build = .ok diaryClass :=
  (build_eq_ok_iff _ _).mpr ⟨⟨rfl, List.nodup_nil, by decide, rfl, rfl, rfl⟩, rfl⟩

theorem diary_registered : Registered diaryClass.runtimeClass [diary, book] :=
  .derived (.root book_build rfl) diary_build rfl

def shelf : Heap Nat :=
  (Heap.empty.allocate
    (.derived ⟨⟨2, "lib::Diary"⟩, 5, [.base]⟩ (.root ⟨bookType, 10, []⟩))).allocate
      (.root ⟨bookType, 7, []⟩)

def someDiary : ObjectRef Nat String := ⟨0, diaryClass.runtimeClass⟩

def someBook : ObjectRef Nat String := ⟨1, bookClass.runtimeClass⟩

def bindMethod : Method Nat String :=
  book.methodOf bookClass.runtimeClass ⟨"bind", none, .virtual bindIn⟩

-- The diary gets the pages of the book into the book that it is, and keeps its own.
theorem diary_binds_book :
    (∀ body ∈ bindMethod.body, body.OfContents) ∧ Datum.OfContents (.object someDiary) ∧
    ∃ invoker, (Factory.methodInvoker ⟨.compiled, .default⟩ .first bindMethod).answer =
        .ok invoker ∧
      let after := invoker.invoke shelf (.object someDiary) [.object someBook]
      after.answer = .error (.targetFailure (.raised "spine")) ∧
      (after.heap.content? someDiary).bind (·.viewAs? bookType) =
        some (.root ⟨bookType, 17, []⟩) ∧
      (after.heap.content? someDiary).map (·.outside bookType) =
        some [.root ⟨⟨2, "lib::Diary"⟩, 5, [.base]⟩] ∧
      after.heap.content? someBook = some (.root ⟨bookType, 7, []⟩) := by
  have pure : bindIn.OfContents := ⟨_, rfl⟩
  have member : bindIn ∈ book.methodRoutines := List.mem_cons_self
  have written : ∀ body ∈ bindMethod.body, body.OfContents := by
    intro body declared
    cases declared
    exact ⟨book, bindIn, member, pure, rfl⟩
  have sound : Datum.OfContents (.object someDiary) := by
    intro ref same
    cases same
    refine ⟨_, diary_registered, fun r listed routine registered => ?_⟩
    rcases List.mem_cons.mp listed with rfl | rest
    · cases registered
    · obtain rfl := List.mem_singleton.mp rest
      obtain rfl := List.mem_singleton.mp registered
      exact pure
  obtain ⟨invoker, made⟩ : ∃ invoker,
      (Factory.methodInvoker ⟨.compiled, .default⟩ .first bindMethod).answer = .ok invoker :=
    ⟨_, rfl⟩
  have ended := (calls_stay_in_their_part ⟨.compiled, .default⟩ .first).2.1 bindMethod written
    invoker made shelf _ sound [.object someBook]
  obtain ⟨_, _, reads⟩ := Factory.reads_of_methodInvoker made
  rw [reads] at ended
  refine ⟨written, sound, invoker, made, ?_⟩
  rw [reads]
  rcases ended with ⟨_, _, refused⟩ | ⟨r, routine, _, found, loan, _, confined⟩
  · exact absurd (congrArg (·.runs) refused) (List.cons_ne_nil _ _)
  · have body : bindIn.body book.receiver = routine.body r.receiver :=
      Except.ok.inj (Eq.trans rfl found)
    have native : bookType = r.native := native_of_receiver (r := book) (congrArg (·.receiver) body)
    have whole : .derived ⟨⟨2, "lib::Diary"⟩, 5, [.base]⟩ (.root ⟨bookType, 10, []⟩) =
        loan.whole := Option.some.inj (Eq.trans rfl confined.held)
    have opens : loan.whole.Opens bookType := by
      rw [← whole]
      decide
    obtain ⟨_, outside, _⟩ := confined.outside (native ▸ opens) _ confined.gap
    rw [← native] at outside
    have before : loan.whole.outside bookType = [.root ⟨⟨2, "lib::Diary"⟩, 5, [.base]⟩] := by
      rw [← whole]
      rfl
    refine ⟨rfl, rfl, ?_, confined.arguments _ (List.mem_singleton_self _)⟩
    exact (congrArg (Option.map (·.outside bookType)) confined.gap).trans
      (congrArg some (outside.trans before))

/-- A diary that holds one more book, and lends that in place of the book that it is. -/
def doubleDiary : Instance Nat :=
  .holding (.derived ⟨⟨2, "lib::Diary"⟩, 5, [.aside 0]⟩ (.root ⟨bookType, 10, []⟩))
    (.root ⟨bookType, 3, []⟩)

/-- Its class takes it. A book bound in goes to the one that the diary holds, so the book
that it shows is as before, and the diary around that one is not. -/
theorem double_diary_binds_aside :
    let heap := (Heap.empty.allocate doubleDiary).allocate (.root ⟨bookType, 7, []⟩)
    diaryClass.runtimeClass.instantiate .empty doubleDiary =
      .ok (someDiary, Heap.empty.allocate doubleDiary) ∧
    ¬ doubleDiary.Opens bookType ∧
    ∃ invoker, (Factory.methodInvoker ⟨.compiled, .default⟩ .first bindMethod).answer =
        .ok invoker ∧
      let after := invoker.invoke heap (.object someDiary) [.object someBook]
      (after.heap.content? someDiary).bind (·.at? [.aside 0]) =
        some (.root ⟨bookType, 10, []⟩) ∧
      (after.heap.content? someDiary).bind (·.viewAs? bookType) =
        doubleDiary.viewAs? bookType ∧
      (after.heap.content? someDiary).map (·.outside bookType) ≠
        some (doubleDiary.outside bookType) := by
  have made := (diaryClass.runtimeClass.instantiate_eq_ok_iff .empty _ doubleDiary
    someDiary).mpr ⟨⟨rfl, rfl, rfl⟩, rfl, rfl⟩
  exact ⟨made, by decide, _, rfl, rfl, rfl, by decide⟩

end Ledgers

end LateBinding
