import LateBinding.Proofs.Invoke.Confinement
import Mathlib.Logic.Function.Basic

/-!
Calls that do not get in each other's way. A call of a function of its part and of what
its arguments hold reads its target and its arguments, and writes to its target alone;
in any other heap that shows the same of these it does the same. Two such calls on
different targets, neither of them given the target of the other, may change places.
They may look at the same third object, and either may fail. So a batch of such calls may
run in any order.
-/

namespace LateBinding

variable {σ ε : Type}

open Registration Obstacle

namespace Heap

/-- The heap with what an object holds in the other heap. A box holds its value in any
heap. -/
def adopt (heap source : Heap σ) : Datum σ ε → Heap σ
  | .object ref => (source.content? ref).elim heap (heap.write ref.id)
  | _ => heap

theorem adopt_object (heap source : Heap σ) (ref : ObjectRef σ ε) :
    heap.adopt source (.object ref) = (source.content? ref).elim heap (heap.write ref.id) :=
  rfl

theorem adopt_of_shown {heap source : Heap σ} {datum : Datum σ ε}
    (same : heap.shown datum = source.shown datum) : heap.adopt source datum = heap := by
  cases datum with
  | null => rfl
  | value boxed => rfl
  | object ref =>
      rw [adopt_object]
      cases held : source.content? ref with
      | none => rfl
      | some content => exact heap.write_content ref content (same.trans held)

theorem shown_adopt (heap source : Heap σ) {datum other : Datum σ ε}
    (apart : datum.sameObject other = false) :
    (heap.adopt source datum).shown other = heap.shown other := by
  cases datum with
  | null => rfl
  | value boxed => rfl
  | object ref =>
      rw [adopt_object]
      cases source.content? ref with
      | none => rfl
      | some content => exact heap.shown_write content apart

theorem adopt_comm (heap first second : Heap σ) {datum other : Datum σ ε}
    (apart : datum.sameObject other = false) :
    (heap.adopt first datum).adopt second other = (heap.adopt second other).adopt first datum := by
  cases datum with
  | null => rfl
  | value boxed => rfl
  | object ref =>
      cases other with
      | null => rfl
      | value boxed => rfl
      | object kept =>
          have ids : ref.id ≠ kept.id := by simpa [Datum.sameObject, ObjectRef.same] using apart
          simp only [adopt_object]
          cases first.content? ref with
          | none => rfl
          | some content =>
              cases second.content? kept with
              | none => rfl
              | some own => exact congrArg Heap.mk (List.set_comm content own ids)

theorem held_congr {heap other : Heap σ} {datum : Datum σ ε}
    (same : other.shown datum = heap.shown datum) :
    other.held datum.argument = heap.held datum.argument := by
  cases datum with
  | null => rfl
  | value boxed => rfl
  | object ref => exact congrArg (Held.object ref.handle) same

theorem map_held_congr {heap other : Heap σ} {arguments : List (Datum σ ε)}
    (same : ∀ datum ∈ arguments, other.shown datum = heap.shown datum) :
    (arguments.map Datum.argument).map other.held =
      (arguments.map Datum.argument).map heap.held := by
  rw [List.map_map, List.map_map]
  exact List.map_congr_left fun datum member => held_congr (same datum member)

end Heap

def Completion.movedTo (completion : Completion σ ε) (target : Datum σ ε) (heap : Heap σ) :
    Completion σ ε :=
  { completion with heap := heap.adopt completion.heap target }

/-- A call that depends on what these data show and on nothing else in the heap, and
changes nothing else than its target. -/
def Local (target : Datum σ ε) (given : List (Datum σ ε)) (act : Heap σ → Completion σ ε) : Prop :=
  ∀ heap other : Heap σ, (∀ datum ∈ given, other.shown datum = heap.shown datum) →
    act other = (act heap).movedTo target other

theorem Local.heap_eq {target : Datum σ ε} {given : List (Datum σ ε)}
    {act : Heap σ → Completion σ ε}
    (own : Local target given act) (heap : Heap σ) :
    (act heap).heap = heap.adopt (act heap).heap target :=
  congrArg (·.heap) (own heap heap fun _ _ => rfl)

theorem Local.shown_of_apart {target : Datum σ ε} {given : List (Datum σ ε)}
    {act : Heap σ → Completion σ ε} (own : Local target given act) (heap : Heap σ)
    {datum : Datum σ ε} (apart : target.sameObject datum = false) :
    (act heap).heap.shown datum = heap.shown datum := by
  rw [own.heap_eq heap]
  exact heap.shown_adopt _ apart

-- What the one call changed is not among what the other is given.
theorem Local.after {target other : Datum σ ε} {given passed : List (Datum σ ε)}
    {act next : Heap σ → Completion σ ε} (own : Local target given act)
    (following : Local other passed next)
    (spared : ∀ datum ∈ passed, target.sameObject datum = false) (heap : Heap σ) :
    next (act heap).heap = (next heap).movedTo other (act heap).heap :=
  following heap (act heap).heap fun datum member => own.shown_of_apart heap (spared datum member)

theorem Local.heap_comm {target other : Datum σ ε} {given passed : List (Datum σ ε)}
    {act next : Heap σ → Completion σ ε} (own : Local target given act)
    (following : Local other passed next) (apart : target.sameObject other = false)
    (spared : ∀ datum ∈ passed, target.sameObject datum = false)
    (spares : ∀ datum ∈ given, other.sameObject datum = false) (heap : Heap σ) :
    (next (act heap).heap).heap = (act (next heap).heap).heap := by
  calc (next (act heap).heap).heap
      = (act heap).heap.adopt (next heap).heap other :=
        congrArg (·.heap) (own.after following spared heap)
    _ = (heap.adopt (act heap).heap target).adopt (next heap).heap other := by
        rw [← own.heap_eq heap]
    _ = (heap.adopt (next heap).heap other).adopt (act heap).heap target :=
        heap.adopt_comm _ _ apart
    _ = (next heap).heap.adopt (act heap).heap target := by
        rw [← following.heap_eq heap]
    _ = (act (next heap).heap).heap :=
        congrArg (·.heap) (following.after own spares heap).symm

theorem Completion.refused_movedTo {heap other : Heap σ} {target : Datum σ ε}
    (same : other.shown target = heap.shown target) (error : InvokeError ε) :
    (Completion.refused heap target error).movedTo target other =
      .refused other target error :=
  congrArg (fun left => Completion.refused left target error) (Heap.adopt_of_shown same)

/-! Such functions read no more than what their arguments show, and leave the heap as it
is. So do their bodies. -/

section

variable {ρ : Type}

theorem SetterFunction.OfContents.run_congr {function : SetterFunction σ ρ}
    (pure : function.OfContents) {heap other : Heap σ} {value : Datum σ ε}
    (same : other.shown value = heap.shown value) (part : Instance σ) :
    function.run other part value.argument =
      { function.run heap part value.argument with heap := other } := by
  obtain ⟨f, own⟩ := pure
  rw [own]
  exact congrArg (fun held => (⟨f part held, other⟩ : Touch σ ρ)) (Heap.held_congr same)

theorem MethodFunction.OfContents.run_congr {function : MethodFunction σ ρ}
    (pure : function.OfContents) {heap other : Heap σ} {arguments : List (Datum σ ε)}
    (same : ∀ datum ∈ arguments, other.shown datum = heap.shown datum) (part : Instance σ) :
    function.run other part (arguments.map Datum.argument) =
      { function.run heap part (arguments.map Datum.argument) with heap := other } := by
  obtain ⟨f, own⟩ := pure
  rw [own]
  exact congrArg (fun held => (⟨f part held, other⟩ : Touch σ ρ)) (Heap.map_held_congr same)

end

theorem SetterBody.OfContents.act_congr {body : SetterBody σ ε} (written : body.OfContents)
    {heap other : Heap σ} {value : Datum σ ε} (same : other.shown value = heap.shown value)
    (part : Instance σ) :
    body.act other part value.argument =
      { body.act heap part value.argument with heap := other } := by
  obtain ⟨r, routine, _, pure, rfl⟩ := written
  rw [routine.act_body, routine.act_body, pure.run_congr same]
  cases verdict [ofArgument .value routine.type value] with
  | error error => rfl
  | ok _ => rfl

theorem MethodBody.OfContents.act_congr {body : MethodBody σ ε} (written : body.OfContents)
    {heap other : Heap σ} {arguments : List (Datum σ ε)}
    (same : ∀ datum ∈ arguments, other.shown datum = heap.shown datum) (part : Instance σ) :
    body.act other part (arguments.map Datum.argument) =
      { body.act heap part (arguments.map Datum.argument) with heap := other } := by
  obtain ⟨r, routine, _, pure, rfl⟩ := written
  rw [routine.act_body, routine.act_body, pure.run_congr same]
  cases verdict (ofArguments routine.params arguments) with
  | error error => rfl
  | ok _ => rfl

namespace Receiver

theorem lend_congr (receiver : Receiver σ) {heap other : Heap σ}
    (handles : List (Position × Handle)) {target : Datum σ ε}
    (same : other.shown target = heap.shown target) :
    receiver.lend other handles target = receiver.lend heap handles target := by
  cases target with
  | null => cases receiver <;> rfl
  | value boxed => cases receiver <;> rfl
  | object ref =>
      have held : other.content? ref = heap.content? ref := same
      cases receiver with
      | value => rfl
      | object => simp only [lend, held]

theorem settle_congr {receiver : Receiver σ} {heap other : Heap σ} {target : Datum σ ε}
    (same : other.shown target = heap.shown target) {loan : Loan σ}
    (reached : receiver.reach? heap target = some loan) {change : Change σ ε Unit}
    (still : change.heap = heap) :
    { change with heap := other }.settle loan target =
      (change.settle loan target).movedTo target other := by
  rcases whole_of_reach? reached with ⟨boxed, rfl, _⟩ | ⟨ref, _, _, rfl, _, held, _⟩
  · rfl
  · have written (content : Instance σ) :
        (heap.write ref.id content).content? ref = some content := by
      rw [Heap.content?, Heap.read?_write, if_pos rfl,
        show heap.read? ref.id = some loan.whole from held]
      rfl
    simp only [Change.settle, Completion.movedTo, Heap.adopt_object, still, written,
      Option.elim_some]

theorem apply_congr (receiver : Receiver σ) {heap other : Heap σ} {target : Datum σ ε}
    (same : other.shown target = heap.shown target) (handles : List (Position × Handle))
    {act moved : Instance σ → Change σ ε Unit} (still : ∀ part, (act part).heap = heap)
    (acts : ∀ part, moved part = { act part with heap := other }) :
    receiver.apply other target handles moved =
      (receiver.apply heap target handles act).movedTo target other := by
  rw [apply, apply, receiver.lend_congr handles same]
  cases lent : receiver.lend heap handles target with
  | error error => exact (Completion.refused_movedTo same error).symm
  | ok loan =>
      simp only [acts]
      exact settle_congr same (reach?_of_lend lent) (still loan.part)

end Receiver

theorem SetterBody.OfContents.isLocal {body : SetterBody σ ε} (written : body.OfContents)
    (target value : Datum σ ε) :
    Local target [target, value] fun heap => body.set heap target value.argument := by
  intro heap other same
  obtain ⟨held, passed⟩ := List.forall_mem_cons.mp same
  have shown := passed value (List.mem_singleton_self value)
  apply body.receiver.apply_congr held
  · exact fun part => congrArg (·.heap) (written.act_congr rfl part)
  · exact written.act_congr shown

theorem MethodBody.OfContents.isLocal {body : MethodBody σ ε} (written : body.OfContents)
    (target : Datum σ ε) (arguments : List (Datum σ ε)) :
    Local target (target :: arguments) fun heap =>
      body.call heap target (arguments.map Datum.argument) := by
  intro heap other same
  obtain ⟨held, passed⟩ := List.forall_mem_cons.mp same
  apply body.receiver.apply_congr held
  · exact fun part => congrArg (·.heap) (written.act_congr (fun _ _ => rfl) part)
  · exact written.act_congr passed

theorem local_refused {target : Datum σ ε} {given : List (Datum σ ε)} (member : target ∈ given)
    (error : InvokeError ε) : Local target given fun heap => .refused heap target error :=
  fun _ _ same => (Completion.refused_movedTo (same target member) error).symm

namespace Interpreted

-- What stands before the body looks at classes and types, never into the heap.
theorem local_assign (p : Property σ ε) {setter : SetterBody σ ε} (written : setter.OfContents)
    (target value : Datum σ ε) :
    Local target [target, value] fun heap => assign p setter heap target value := by
  simp only [assign_eq]
  cases verdict [ofTarget p.declaring target, ofArgument .value p.type value] with
  | error error => exact local_refused List.mem_cons_self error
  | ok _ => exact written.isLocal target value

theorem local_call {m : Method σ ε} {target : Datum σ ε}
    (written : ∀ body, bodyFor m target = .ok body → body.OfContents)
    (arguments : List (Datum σ ε)) :
    Local target (target :: arguments) fun heap => call m heap target arguments := by
  simp only [call_eq]
  cases verdict (ofTarget m.declaring target :: ofArguments m.params arguments) with
  | error error => exact local_refused List.mem_cons_self error
  | ok _ =>
      cases found : bodyFor m target with
      | error error => exact local_refused List.mem_cons_self error
      | ok body => exact (written body found).isLocal target arguments

end Interpreted

/-! Programs with variables. A call on a variable leaves the boxed value there that it
made of the one it found; objects are shared by all handles to them. -/

structure Memory (σ ε : Type) where
  heap : Heap σ
  values : String → Datum σ ε

/-- What a program passes: what a variable holds when the call is made, or a datum that
the program had before. -/
inductive Term (σ ε : Type) where
  | «variable» (name : String)
  | datum (own : Datum σ ε)

def Term.read (values : String → Datum σ ε) : Term σ ε → Datum σ ε
  | .variable name => values name
  | .datum own => own

inductive Statement (σ ε : Type) where
  | assign (invoker : PropertyInvoker σ ε) (target : String) (value : Term σ ε)
  | call (invoker : MethodInvoker σ ε) (target : String) (arguments : List (Term σ ε))

def Completion.result (completion : Completion σ ε) :
    Except (InvokeError ε) Unit × List (Run σ) × Datum σ ε :=
  (completion.answer, completion.runs, completion.target)

theorem Term.read_update {values : String → Datum σ ε} {name : String} {term : Term σ ε}
    (other : term ≠ .variable name) (datum : Datum σ ε) :
    term.read (Function.update values name datum) = term.read values := by
  cases term with
  | «variable» own => exact Function.update_of_ne (fun same => other (congrArg _ same)) _ _
  | datum own => rfl

namespace Statement

def target : Statement σ ε → String
  | .assign _ target _ | .call _ target _ => target

def passed : Statement σ ε → List (Term σ ε)
  | .assign _ _ value => [value]
  | .call _ _ arguments => arguments

def terms (statement : Statement σ ε) : List (Term σ ε) :=
  .variable statement.target :: statement.passed

def act (values : String → Datum σ ε) : Statement σ ε → Heap σ → Completion σ ε
  | .assign invoker target value, heap =>
      invoker.invoke heap (values target) (value.read values)
  | .call invoker target arguments, heap =>
      invoker.invoke heap (values target) (arguments.map (·.read values))

def completion (statement : Statement σ ε) (memory : Memory σ ε) : Completion σ ε :=
  statement.act memory.values memory.heap

def after (statement : Statement σ ε) (memory : Memory σ ε) : Memory σ ε :=
  let completion := statement.completion memory
  ⟨completion.heap, Function.update memory.values statement.target completion.target⟩

/-- The invoker comes from some factory, and what it runs on its target is a registered
function of its part and of what its arguments hold. -/
def OfContents (values : String → Datum σ ε) : Statement σ ε → Prop
  | .assign invoker _ _ => ∃ (factory : Factory) (naming : Naming) (p : Property σ ε),
      (factory.propertyInvoker naming p).answer = .ok invoker ∧
      ∀ setter ∈ p.setter, setter.OfContents
  | .call invoker target _ => ∃ (factory : Factory) (naming : Naming) (m : Method σ ε),
      (factory.methodInvoker naming m).answer = .ok invoker ∧
      ∀ body, Interpreted.bodyFor m (values target) = .ok body → body.OfContents

/-- Neither its own target nor an argument is the target of the other: not the variable,
and not the object in it. -/
def Spares (values : String → Datum σ ε) (statement other : Statement σ ε) : Prop :=
  ∀ term ∈ statement.terms, term ≠ .variable other.target ∧
    (values other.target).sameObject (term.read values) = false

theorem OfContents.isLocal {values : String → Datum σ ε} {statement : Statement σ ε}
    (written : statement.OfContents values) :
    Local (values statement.target) (statement.terms.map (·.read values))
      (statement.act values) := by
  cases statement with
  | assign invoker target value =>
      obtain ⟨factory, naming, p, made, own⟩ := written
      obtain ⟨setter, checked, reads⟩ := Factory.reads_of_propertyInvoker made
      have registered := own setter (Property.setter_of_checkSetter checked)
      have assigned := Interpreted.local_assign p registered (values target)
        (value.read values)
      rw [← reads] at assigned
      exact assigned
  | call invoker target arguments =>
      obtain ⟨factory, naming, m, made, own⟩ := written
      obtain ⟨_, _, reads⟩ := Factory.reads_of_methodInvoker made
      have called := Interpreted.local_call own (arguments.map (·.read values))
      rw [← reads] at called
      exact called

theorem act_update {values : String → Datum σ ε} {statement : Statement σ ε} {name : String}
    (others : ∀ term ∈ statement.terms, term ≠ .variable name) (datum : Datum σ ε) :
    statement.act (Function.update values name datum) = statement.act values := by
  have reads : ∀ term ∈ statement.terms,
      term.read (Function.update values name datum) = term.read values :=
    fun term member => Term.read_update (others term member) datum
  cases statement with
  | assign invoker target value =>
      obtain ⟨lent, passed⟩ := List.forall_mem_cons.mp reads
      have given := passed value (List.mem_singleton_self value)
      funext heap
      exact congrArg₂ (invoker.invoke heap) lent given
  | call invoker target arguments =>
      obtain ⟨lent, passed⟩ := List.forall_mem_cons.mp reads
      funext heap
      exact congrArg₂ (invoker.invoke heap) lent (List.map_congr_left passed)

theorem Spares.target_ne {values : String → Datum σ ε} {statement other : Statement σ ε}
    (spares : statement.Spares values other) : statement.target ≠ other.target :=
  fun same => (spares _ List.mem_cons_self).1 (congrArg Term.variable same)

theorem Spares.given {values : String → Datum σ ε} {statement other : Statement σ ε}
    (spares : statement.Spares values other) :
    ∀ datum ∈ statement.terms.map (·.read values),
      (values other.target).sameObject datum = false := by
  intro datum member
  obtain ⟨term, listed, rfl⟩ := List.mem_map.mp member
  exact (spares term listed).2

-- The heap is another one by then, the variables are the same to what is spared.
theorem completion_after {memory : Memory σ ε} {statement other : Statement σ ε}
    (spares : statement.Spares memory.values other) :
    statement.completion (other.after memory) =
      statement.act memory.values (other.completion memory).heap :=
  congrFun (act_update (fun term member => (spares term member).1) _) _

theorem result_after {memory : Memory σ ε} {statement other : Statement σ ε}
    (first : other.OfContents memory.values) (own : statement.OfContents memory.values)
    (spares : statement.Spares memory.values other) :
    (statement.completion (other.after memory)).result = (statement.completion memory).result := by
  have moved := first.isLocal.after own.isLocal spares.given memory.heap
  rw [completion_after spares]
  exact (congrArg Completion.result moved).trans rfl

theorem after_comm {memory : Memory σ ε} {one other : Statement σ ε}
    (first : one.OfContents memory.values) (second : other.OfContents memory.values)
    (spared : other.Spares memory.values one) (spares : one.Spares memory.values other) :
    other.after (one.after memory) = one.after (other.after memory) := by
  have apart : (memory.values one.target).sameObject (memory.values other.target) = false :=
    (spared _ List.mem_cons_self).2
  have heaps : (other.completion (one.after memory)).heap =
      (one.completion (other.after memory)).heap := by
    rw [completion_after spared, completion_after spares]
    exact first.isLocal.heap_comm second.isLocal apart spared.given spares.given memory.heap
  have late : (other.completion (one.after memory)).target = (other.completion memory).target :=
    congrArg (·.2.2) (result_after first second spared)
  have early : (one.completion (other.after memory)).target = (one.completion memory).target :=
    congrArg (·.2.2) (result_after second first spares)
  simp only [after] at heaps late early ⊢
  rw [heaps, late, early, Function.update_comm spares.target_ne]

/-! Batches of calls. A call leaves those that are apart from it as they are, and as far
apart from each other. -/

theorem values_after {memory : Memory σ ε} {name : String} {statement : Statement σ ε}
    (other : name ≠ statement.target) : (statement.after memory).values name = memory.values name :=
  Function.update_of_ne other _ _

theorem OfContents.after {memory : Memory σ ε} {statement first : Statement σ ε}
    (own : statement.OfContents memory.values) (spares : statement.Spares memory.values first) :
    statement.OfContents (first.after memory).values := by
  cases statement with
  | assign invoker target value => exact own
  | call invoker target arguments =>
      have kept : (first.after memory).values target = memory.values target :=
        values_after spares.target_ne
      rw [OfContents, kept]
      exact own

theorem Spares.after {memory : Memory σ ε} {statement other first : Statement σ ε}
    (own : statement.Spares memory.values other) (spares : statement.Spares memory.values first)
    (spared : other.Spares memory.values first) :
    statement.Spares (first.after memory).values other := by
  intro term member
  have read : term.read (first.after memory).values = term.read memory.values :=
    Term.read_update (spares term member).1 _
  rw [values_after spared.target_ne, read]
  exact own term member

structure Independent (values : String → Datum σ ε) (batch : List (Statement σ ε)) : Prop where
  ofContents : ∀ statement ∈ batch, statement.OfContents values
  spares : batch.Pairwise fun one other => one.Spares values other ∧ other.Spares values one

theorem Independent.tail {memory : Memory σ ε} {first : Statement σ ε} {rest : List (Statement σ ε)}
    (batch : Independent memory.values (first :: rest)) :
    Independent (first.after memory).values rest := by
  obtain ⟨apart, within⟩ := List.pairwise_cons.mp batch.spares
  constructor
  · intro statement member
    exact (batch.ofContents statement (List.mem_cons_of_mem _ member)).after
      (apart statement member).2
  · refine within.imp_of_mem fun here there => ?_
    rintro ⟨forth, back⟩
    have one := (apart _ here).2
    have other := (apart _ there).2
    exact ⟨forth.after one other, back.after other one⟩

theorem Independent.perm {values : String → Datum σ ε} {batch other : List (Statement σ ε)}
    (own : Independent values batch) (same : batch.Perm other) : Independent values other :=
  ⟨fun statement member => own.ofContents statement (same.mem_iff.mpr member),
    (same.pairwise_iff fun apart => apart.symm).mp own.spares⟩

def runAll (memory : Memory σ ε) (batch : List (Statement σ ε)) : Memory σ ε :=
  batch.foldl (fun memory statement => statement.after memory) memory

theorem result_runAll {memory : Memory σ ε} {statement : Statement σ ε}
    {batch : List (Statement σ ε)}
    (own : Independent memory.values (statement :: batch)) :
    (statement.completion (runAll memory batch)).result = (statement.completion memory).result := by
  induction batch generalizing memory with
  | nil => rfl
  | cons first rest ih =>
      have swapped := own.perm (List.Perm.swap first statement rest)
      have apart := (List.pairwise_cons.mp own.spares).1 first List.mem_cons_self
      have now := result_after (own.ofContents first (List.mem_cons_of_mem _ List.mem_cons_self))
        (own.ofContents statement List.mem_cons_self) apart.1
      exact (ih swapped.tail).trans now

theorem runAll_perm {memory : Memory σ ε} {batch other : List (Statement σ ε)}
    (own : Independent memory.values batch) (same : batch.Perm other) :
    runAll memory batch = runAll memory other := by
  induction same generalizing memory with
  | nil => rfl
  | cons first _ ih => exact ih own.tail
  | swap first second rest =>
      have apart := (List.pairwise_cons.mp own.spares).1 first List.mem_cons_self
      have pure := List.forall_mem_cons.mp own.ofContents
      have swapped := after_comm pure.1 (List.forall_mem_cons.mp pure.2).1 apart.2 apart.1
      exact congrArg (runAll · rest) swapped
  | trans before _ early late => exact (early own).trans (late (own.perm before))

end Statement

/-- Two calls on different targets, neither of which is given the target of the other,
may run in either order. Each reports the same, and all objects and variables end up the
same, whatever fails, whatever else both are given, and whichever factories made the
invokers. -/
theorem calls_on_different_targets_commute (memory : Memory σ ε) (one other : Statement σ ε)
    (first : one.OfContents memory.values) (second : other.OfContents memory.values)
    (spared : other.Spares memory.values one) (spares : one.Spares memory.values other) :
    (other.completion (one.after memory)).result = (other.completion memory).result ∧
      (one.completion (other.after memory)).result = (one.completion memory).result ∧
      other.after (one.after memory) = one.after (other.after memory) :=
  ⟨Statement.result_after first second spared, Statement.result_after second first spares,
    Statement.after_comm first second spared spares⟩

namespace Ledgers

def cite : SetterRoutine Nat String :=
  .ofContents (.reference bookType false) fun lent cited =>
    ⟨.ok (), ["cite"], lent.mapState fun _ => pages cited⟩

def card : Registration Nat String :=
  (start "Card" ⟨3, "lib::Card"⟩ .value).property "source" cite

def sourceProperty : Property Nat String :=
  card.propertyOf (card.describe card.finalTable).runtimeClass (.writable "source" cite)

def blankCard : Instance Nat := .root ⟨⟨3, "lib::Card"⟩, 0, []⟩

def desk : Memory Nat String where
  heap := shelf.allocate (.root ⟨bookType, 3, []⟩)
  values
    | "diary" => .object someDiary
    | "card" => .value blankCard
    | _ => .null

def leaflet : Term Nat String := .datum (.object ⟨2, bookClass.runtimeClass⟩)

-- The diary binds the leaflet in and the card cites it, in either order.
theorem bind_and_cite_commute :
    ∃ binder citer,
      (Factory.methodInvoker ⟨.compiled, .default⟩ .first bindMethod).answer = .ok binder ∧
      (Factory.propertyInvoker ⟨.interpreted, .default⟩ .first sourceProperty).answer =
        .ok citer ∧
      let bind : Statement Nat String := .call binder "diary" [leaflet]
      let cite : Statement Nat String := .assign citer "card" leaflet
      bind.OfContents desk.values ∧ cite.OfContents desk.values ∧
      cite.Spares desk.values bind ∧ bind.Spares desk.values cite ∧
      (cite.completion (bind.after desk)).result = (cite.completion desk).result ∧
      (bind.completion (cite.after desk)).result = (bind.completion desk).result ∧
      cite.after (bind.after desk) = bind.after (cite.after desk) ∧
      (cite.completion desk).target = .value (.root ⟨⟨3, "lib::Card"⟩, 3, []⟩) ∧
      (bind.completion desk).answer = .error (.targetFailure (.raised "spine")) := by
  obtain ⟨binder, bound⟩ : ∃ binder,
      (Factory.methodInvoker ⟨.compiled, .default⟩ .first bindMethod).answer = .ok binder :=
    ⟨_, rfl⟩
  obtain ⟨citer, cited⟩ : ∃ citer,
      (Factory.propertyInvoker ⟨.interpreted, .default⟩ .first sourceProperty).answer =
        .ok citer :=
    ⟨_, rfl⟩
  have binds : (Statement.call binder "diary" [leaflet]).OfContents desk.values := by
    refine ⟨_, _, bindMethod, bound, fun body found => ?_⟩
    obtain rfl : bindIn.body book.receiver = body := Except.ok.inj (Eq.trans rfl found)
    exact ⟨book, bindIn, List.mem_cons_self, ⟨_, rfl⟩, rfl⟩
  have cites : (Statement.assign citer "card" leaflet).OfContents desk.values := by
    refine ⟨_, _, sourceProperty, cited, fun setter declared => ?_⟩
    cases declared
    exact ⟨card, cite, List.mem_cons_self, ⟨_, rfl⟩, rfl⟩
  have spared : (Statement.assign citer "card" leaflet).Spares desk.values
      (.call binder "diary" [leaflet]) :=
    List.forall_mem_cons.mpr ⟨⟨by simp [Statement.target], rfl⟩,
      List.forall_mem_singleton.mpr ⟨nofun, rfl⟩⟩
  have spares : (Statement.call binder "diary" [leaflet]).Spares desk.values
      (.assign citer "card" leaflet) :=
    List.forall_mem_cons.mpr ⟨⟨by simp [Statement.target], rfl⟩,
      List.forall_mem_singleton.mpr ⟨nofun, rfl⟩⟩
  obtain ⟨late, early, same⟩ :=
    calls_on_different_targets_commute desk _ _ binds cites spared spares
  have binding : binder.invoke = Interpreted.call bindMethod := by
    obtain ⟨_, _, reads⟩ := Factory.reads_of_methodInvoker bound
    exact reads
  refine ⟨binder, citer, bound, cited, binds, cites, spared, spares, late, early, same, ?_, ?_⟩
  · cases cited
    rfl
  · rw [Statement.completion, Statement.act, binding]
    rfl

end Ledgers

end LateBinding
