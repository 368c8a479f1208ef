import LateBinding.Proofs.Invoke.Dispatch

/-!
Calls that are rejected. A descriptor may pair a registered body with any class,
types, slot or dispatch, so mismatches come up at every depth of a call, the last
of them while the body has its part of the target already. All of them come before
the registered function: a call is rejected with nothing run and nothing changed,
or it runs one function once, whose failure is no rejection.
-/

namespace LateBinding

variable {σ ε : Type}

open Registration Obstacle

/-- Calls are rejected for what they are given. Only a body that ran makes the target fail. -/
def InvokeError.isRejection : InvokeError ε → Bool
  | .typeMismatch .. | .arityMismatch .. | .abstractMethod .. | .aliasedTarget _ => true
  | .targetFailure _ => false

def Outcome.isRejected {α : Type} (outcome : Outcome σ ε α) : Bool :=
  match outcome.answer with
  | .error error => error.isRejection
  | .ok _ => false

def Outcome.AllOrNothing {α : Type} (before : Heap σ) (outcome : Outcome σ ε α) : Prop :=
  if outcome.isRejected then outcome.runs = [] ∧ outcome.heap = before
  else outcome.runs.length = 1

def Completion.AllOrNothing (before : Heap σ) (target : Datum σ ε) (completion : Completion σ ε) :
    Prop :=
  completion.toOutcome.AllOrNothing before ∧
    (completion.isRejected → completion.target = target)

/-! Bodies that registrations write, whatever descriptors they are found in. Functions that
bring an adapter or a parameter type of their own are left out, as in their definition. -/

def ConstructorBody.OfRoutine (body : ConstructorBody σ ε) : Prop :=
  ∃ (r : Registration σ ε) (routine : ConstructorRoutine σ ε), body = routine.body r.kind r.native

def SetterBody.OfRoutine (body : SetterBody σ ε) : Prop :=
  ∃ (r : Registration σ ε) (routine : SetterRoutine σ ε), body = routine.body r.receiver

def MethodBody.OfRoutine (body : MethodBody σ ε) : Prop :=
  ∃ (r : Registration σ ε) (routine : MethodRoutine σ ε), body = routine.body r.receiver

def Datum.OfRegistered (target : Datum σ ε) : Prop :=
  ∀ ref, target = .object ref → ∃ chain, Registered ref.runtimeClass chain

-- A table is filled by registrations alone, those of the base classes included.
theorem Registered.ofRoutine_of_slot {c : RuntimeClass σ ε} {chain : List (Registration σ ε)}
    (known : Registered c chain) {slot : Fingerprint} {body : MethodBody σ ε}
    (found : (c.resolve slot).bind (·.body) = some body) : body.OfRoutine := by
  obtain ⟨r, _, routine, _, rfl⟩ := known.exists_routine_of_slot found
  exact ⟨r, routine, rfl⟩

namespace Obstacle

theorem isRejection_of_verdict {obstacles : List (Obstacle ε)}
    (rejects : ∀ obstacle ∈ obstacles, obstacle.error.isRejection) {error : InvokeError ε}
    (refused : verdict obstacles = .error error) : error.isRejection := by
  obtain ⟨obstacle, member, _, rfl⟩ := mem_of_verdict refused
  exact rejects obstacle member

theorem isRejection_of_mem_arguments {types : List ParamType} {arguments : List (Datum σ ε)} :
    ∀ obstacle ∈ ofArguments types arguments, obstacle.error.isRejection := by
  intro obstacle member
  rcases argument_of_mem member with rfl | ⟨_, _, _, rfl⟩
  · rfl
  · rfl

theorem isRejection_of_mem_loan {receiver : Receiver σ} {heap : Heap σ} {target : Datum σ ε}
    {entries : List (Position × Datum σ ε)} :
    ∀ obstacle ∈ ofLoan receiver heap target entries, obstacle.error.isRejection := by
  intro obstacle member
  rcases List.mem_append.mp member with met | last
  · obtain ⟨_, _, rfl⟩ := List.mem_map.mp met
    rfl
  · obtain rfl := List.mem_singleton.mp last
    rfl

end Obstacle

theorem Outcome.allOrNothing_refused {α : Type} {heap : Heap σ} {error : InvokeError ε}
    (rejection : error.isRejection) :
    (Outcome.refused heap error : Outcome σ ε α).AllOrNothing heap := by
  simp [AllOrNothing, isRejected, refused, rejection]

theorem Outcome.allOrNothing_of_ran {α : Type} {before : Heap σ} {outcome : Outcome σ ε α}
    (accepted : outcome.isRejected = false) (once : outcome.runs.length = 1) :
    outcome.AllOrNothing before := by
  rw [AllOrNothing, accepted]
  exact once

theorem Completion.allOrNothing_refused {heap : Heap σ} {target : Datum σ ε} {error : InvokeError ε}
    (rejection : error.isRejection) :
    (Completion.refused heap target error).AllOrNothing heap target :=
  ⟨Outcome.allOrNothing_refused rejection, fun _ => rfl⟩

-- Whatever a function answers, it is either accepted or a failure of the target.
theorem Completion.RanOn.isRejected {after : Completion σ ε} {target : Datum σ ε}
    {loan : Loan σ} {arguments : List (Argument σ)} {touch : Touch σ (Attempt ε Unit)}
    (ran : after.RanOn target loan arguments touch) : after.isRejected = false := by
  rw [Outcome.isRejected, ran.answer]
  cases touch.result with
  | error failure => rfl
  | ok _ => rfl

theorem Completion.RanOn.allOrNothing {after : Completion σ ε} {target : Datum σ ε}
    {loan : Loan σ} {arguments : List (Argument σ)} {touch : Touch σ (Attempt ε Unit)}
    (ran : after.RanOn target loan arguments touch) (heap : Heap σ) :
    after.AllOrNothing heap target := by
  refine ⟨Outcome.allOrNothing_of_ran ran.isRejected ?_, fun rejected => ?_⟩
  · rw [ran.runs]
    rfl
  · rw [ran.isRejected] at rejected
    cases rejected

theorem Receiver.lend_of_not_takes {receiver : Receiver σ} (heap : Heap σ)
    (handles : List (Position × Handle)) {target : Datum σ ε} (misfit : ¬ receiver.Takes target) :
    ∃ error : InvokeError ε, error.isRejection ∧
      receiver.lend heap handles target = .error error := by
  cases receiver with
  | value native name =>
      cases target with
      | null => exact ⟨_, rfl, rfl⟩
      | value boxed => exact ⟨_, rfl, if_neg misfit⟩
      | object ref => exact ⟨_, rfl, rfl⟩
  | object upcast name =>
      cases target with
      | null => exact ⟨_, rfl, rfl⟩
      | value boxed => exact ⟨_, rfl, rfl⟩
      | object ref => exact absurd trivial misfit

/-- How a call of the body of a function ends: refused with nothing run and nothing
changed, or with one run on what the receiver finds in the target, which is none of
the arguments then. -/
inductive Receiver.Ends (receiver : Receiver σ) (heap : Heap σ) (target : Datum σ ε)
    (arguments : List (Datum σ ε)) (run : Instance σ → Touch σ (Attempt ε Unit))
    (completion : Completion σ ε) : Prop where
  | refused (error : InvokeError ε) (rejection : error.isRejection)
      (same : completion = .refused heap target error)
  | ran (loan : Loan σ) (takes : receiver.Takes target)
      (reached : receiver.reach? heap target = some loan)
      (apart : ∀ datum ∈ arguments, target.sameObject datum = false)
      (once : completion.RanOn target loan (arguments.map Datum.argument) (run loan.part))

-- A body that converts before it runs its function: what it refuses for comes after
-- the obstacles to lending, and with the part untouched.
theorem Receiver.ends_apply {receiver : Receiver σ} (heap : Heap σ) (target : Datum σ ε)
    {entries : List (Position × Datum σ ε)} {handles : List (Position × Handle)}
    (linking : linked (entries.map fun entry => (entry.1, entry.2.argument)) = handles)
    (later : List (Obstacle ε)) (rejects : ∀ obstacle ∈ later, obstacle.error.isRejection)
    (act : Instance σ → Change σ ε Unit) (run : Instance σ → Touch σ (Attempt ε Unit))
    {arguments : List (Datum σ ε)} (listed : ∀ datum ∈ arguments, ∃ entry ∈ entries, entry.2 = datum)
    (acts : ∀ part, act part =
      match verdict later with
      | .error error => .refused heap part error
      | .ok _ => (run part).ended part (arguments.map Datum.argument)) :
    receiver.Ends heap target arguments run (receiver.apply heap target handles act) := by
  by_cases takes : receiver.Takes target
  · have decided := receiver.decides_apply heap takes linking later act run _ acts
    unfold Decides at decided
    split at decided
    · next error refused =>
        have rejection := isRejection_of_verdict
          (List.forall_mem_append.mpr ⟨isRejection_of_mem_loan, rejects⟩) refused
        exact .refused error rejection decided
    · next clear =>
        obtain ⟨loan, reached, ran⟩ := decided
        refine .ran loan takes reached (fun datum member => ?_) ran
        obtain ⟨entry, inside, rfl⟩ := listed datum member
        have compared : ofAlias target entry ∈ ofLoan receiver heap target entries ++ later :=
          List.mem_append_left _ (List.mem_append_left _ (List.mem_map_of_mem inside))
        exact stands_of_verdict clear compared
  · obtain ⟨error, rejection, refused⟩ := receiver.lend_of_not_takes heap handles takes
    refine .refused error rejection ?_
    rw [apply, refused]

theorem SetterRoutine.ends_set (routine : SetterRoutine σ ε) (receiver : Receiver σ) (heap : Heap σ)
    (target value : Datum σ ε) :
    receiver.Ends heap target [value] (fun part => routine.run heap part value.argument)
      ((routine.body receiver).set heap target value.argument) := by
  apply Receiver.ends_apply heap target (linked_value value) [ofArgument .value routine.type value]
  case rejects => exact List.forall_mem_singleton.mpr rfl
  case listed => exact List.forall_mem_singleton.mpr ⟨_, List.mem_singleton_self _, rfl⟩
  case acts => exact fun part => routine.act_body receiver heap part value

theorem MethodRoutine.ends_call (routine : MethodRoutine σ ε) (receiver : Receiver σ)
    (heap : Heap σ)
    (target : Datum σ ε) (arguments : List (Datum σ ε)) :
    receiver.Ends heap target arguments
      (fun part => routine.run heap part (arguments.map Datum.argument))
      ((routine.body receiver).call heap target (arguments.map Datum.argument)) := by
  apply Receiver.ends_apply heap target (linked_numbered arguments)
    (ofArguments routine.params arguments)
  case rejects => exact isRejection_of_mem_arguments
  case listed =>
    intro datum member
    obtain ⟨index, there⟩ := List.mem_iff_getElem?.mp member
    exact ⟨_, List.mem_map_of_mem (List.mk_mem_zipIdx_iff_getElem?.mpr there), rfl⟩
  case acts => exact fun part => routine.act_body receiver heap part arguments

theorem Receiver.Ends.allOrNothing {receiver : Receiver σ} {heap : Heap σ} {target : Datum σ ε}
    {arguments : List (Datum σ ε)} {run : Instance σ → Touch σ (Attempt ε Unit)}
    {completion : Completion σ ε}
    (ended : receiver.Ends heap target arguments run completion) :
    completion.AllOrNothing heap target := by
  cases ended with
  | refused error rejection same =>
      rw [same]
      exact Completion.allOrNothing_refused rejection
  | ran loan _ _ _ once => exact once.allOrNothing heap

-- An instance that its class does not take is a failure of the body, so making it a
-- datum never turns a call that ran into a rejected one.
theorem Outcome.isRejected_deliver (outcome : Outcome σ ε (Creation σ)) (c : RuntimeClass σ ε) :
    (outcome.deliver c).isRejected = outcome.isRejected := by
  cases answer : outcome.answer with
  | error error => simp only [isRejected, deliver, answer]
  | ok creation =>
      have accepted : outcome.isRejected = false := by simp only [isRejected, answer]
      rw [accepted]
      simp only [isRejected, deliver, answer]
      cases made : LateBinding.deliver c outcome.heap creation with
      | ok _ => rfl
      | error error =>
          unfold LateBinding.deliver at made
          split at made
          · split at made
            · cases made
            · cases made
              rfl
          · split at made
            · cases made
            · cases made
              rfl

theorem Outcome.AllOrNothing.deliver {before : Heap σ} {outcome : Outcome σ ε (Creation σ)}
    (whole : outcome.AllOrNothing before) (c : RuntimeClass σ ε) :
    (outcome.deliver c).AllOrNothing before := by
  rw [AllOrNothing, isRejected_deliver]
  unfold AllOrNothing at whole
  cases answer : outcome.answer with
  | error error => simpa only [Outcome.deliver, answer] using whole
  | ok creation =>
      have accepted : outcome.isRejected = false := by simp only [isRejected, answer]
      rw [accepted] at whole ⊢
      simp only [Outcome.deliver, answer]
      cases LateBinding.deliver c outcome.heap creation <;> exact whole

theorem ConstructorBody.OfRoutine.allOrNothing_act {body : ConstructorBody σ ε}
    (written : body.OfRoutine) (heap : Heap σ) (arguments : List (Datum σ ε)) :
    (body.act heap (arguments.map Datum.argument)).AllOrNothing heap := by
  obtain ⟨r, routine, rfl⟩ := written
  simp only [ConstructorRoutine.body, ConstructorFunction.construct, convertAll_eq_verdict]
  cases refused : verdict (ofArguments routine.params arguments) with
  | error error =>
      exact Outcome.allOrNothing_refused
        (isRejection_of_verdict isRejection_of_mem_arguments refused)
  | ok _ =>
      simp only [Except.map]
      generalize routine.run heap (arguments.map Datum.argument) = made
      obtain ⟨answer, lines, after⟩ := made
      cases answer with
      | error failure => exact Outcome.allOrNothing_of_ran rfl rfl
      | ok content => exact Outcome.allOrNothing_of_ran rfl rfl

theorem SetterBody.OfRoutine.allOrNothing_set {body : SetterBody σ ε} (written : body.OfRoutine)
    (heap : Heap σ) (target value : Datum σ ε) :
    (body.set heap target value.argument).AllOrNothing heap target := by
  obtain ⟨r, routine, rfl⟩ := written
  exact (routine.ends_set r.receiver heap target value).allOrNothing

theorem MethodBody.OfRoutine.allOrNothing_call {body : MethodBody σ ε} (written : body.OfRoutine)
    (heap : Heap σ) (target : Datum σ ε) (arguments : List (Datum σ ε)) :
    (body.call heap target (arguments.map Datum.argument)).AllOrNothing heap target := by
  obtain ⟨r, routine, rfl⟩ := written
  exact (routine.ends_call r.receiver heap target arguments).allOrNothing

namespace Interpreted

theorem allOrNothing_construct {c : Constructor σ ε} (written : c.body.OfRoutine) (heap : Heap σ)
    (arguments : List (Datum σ ε)) : (construct c heap arguments).AllOrNothing heap := by
  rw [construct, marshalAll_eq_verdict]
  cases own : verdict (ofArguments c.params arguments) with
  | error error =>
      exact Outcome.allOrNothing_refused
        (isRejection_of_verdict isRejection_of_mem_arguments own)
  | ok _ =>
      exact (written.allOrNothing_act heap arguments).deliver c.declaring

theorem allOrNothing_assign (p : Property σ ε) {setter : SetterBody σ ε}
    (written : setter.OfRoutine)
    (heap : Heap σ) (target value : Datum σ ε) :
    (assign p setter heap target value).AllOrNothing heap target := by
  rw [assign_eq]
  split
  · next error refused =>
      apply Completion.allOrNothing_refused
      apply isRejection_of_verdict _ refused
      intro obstacle member
      rcases List.mem_cons.mp member with rfl | last
      · rfl
      · obtain rfl := List.mem_singleton.mp last
        rfl
  · exact written.allOrNothing_set heap target value

theorem bodyFor_cases {m : Method σ ε} {target : Datum σ ε} {body : MethodBody σ ε}
    (found : bodyFor m target = .ok body) :
    m.body = some body ∨ ∃ ref slot, target = .object ref ∧
      (ref.runtimeClass.resolve slot).bind (·.body) = some body := by
  unfold bodyFor at found
  split at found
  · next slot _ =>
      cases target with
      | null => cases found
      | value boxed => cases found
      | object ref =>
          rw [resolveVirtual] at found
          split at found
          · next own filled =>
              cases found
              exact .inr ⟨ref, slot, rfl, filled⟩
          · cases found
  · split at found
    · next own declared =>
        cases found
        exact .inl declared
    · cases found

theorem ofRoutine_of_bodyFor {m : Method σ ε} (written : ∀ body ∈ m.body, body.OfRoutine)
    {target : Datum σ ε} (sound : target.OfRegistered) {body : MethodBody σ ε}
    (found : bodyFor m target = .ok body) : body.OfRoutine := by
  rcases bodyFor_cases found with declared | ⟨ref, slot, same, filled⟩
  · exact written body declared
  · obtain ⟨chain, known⟩ := sound ref same
    exact known.ofRoutine_of_slot filled

theorem isRejection_of_bodyFor {m : Method σ ε} {target : Datum σ ε} {error : InvokeError ε}
    (missing : bodyFor m target = .error error) : error.isRejection := by
  unfold bodyFor at missing
  split at missing
  · cases target with
    | null => cases missing; rfl
    | value boxed => cases missing; rfl
    | object ref =>
        rw [resolveVirtual] at missing
        split at missing
        · cases missing
        · cases missing; rfl
  · split at missing
    · cases missing
    · cases missing; rfl

theorem allOrNothing_call {m : Method σ ε} (written : ∀ body ∈ m.body, body.OfRoutine)
    (heap : Heap σ) {target : Datum σ ε} (sound : target.OfRegistered)
    (arguments : List (Datum σ ε)) : (call m heap target arguments).AllOrNothing heap target := by
  rw [call_eq]
  split
  · next error refused =>
      apply Completion.allOrNothing_refused
      apply isRejection_of_verdict _ refused
      exact List.forall_mem_cons.mpr ⟨rfl, isRejection_of_mem_arguments⟩
  · split
    · next error missing =>
        exact Completion.allOrNothing_refused (isRejection_of_bodyFor missing)
    · next body found =>
        exact (ofRoutine_of_bodyFor written sound found).allOrNothing_call heap target arguments

end Interpreted

/-- A call that is rejected ran no function and left the target and all objects as
they were, and any other call ran one function once: for descriptors around
registered bodies, however they came to be paired, and targets of registered
classes. -/
theorem rejected_calls_leave_no_trace (factory : Factory) (naming : Naming) :
    (∀ c : Constructor σ ε, c.body.OfRoutine →
      ∀ invoker, (factory.constructorInvoker naming c).answer = .ok invoker →
        ∀ heap arguments, (invoker.invoke heap arguments).AllOrNothing heap) ∧
    (∀ p : Property σ ε, (∀ setter ∈ p.setter, setter.OfRoutine) →
      ∀ invoker, (factory.propertyInvoker naming p).answer = .ok invoker →
        ∀ heap target value, (invoker.invoke heap target value).AllOrNothing heap target) ∧
    (∀ m : Method σ ε, (∀ body ∈ m.body, body.OfRoutine) →
      ∀ invoker, (factory.methodInvoker naming m).answer = .ok invoker →
        ∀ heap target, target.OfRegistered → ∀ arguments,
          (invoker.invoke heap target arguments).AllOrNothing heap target) := by
  refine ⟨?constructors, ?properties, ?methods⟩
  case constructors =>
    intro c written invoker made heap arguments
    obtain ⟨_, reads⟩ := Factory.reads_of_constructorInvoker made
    rw [reads]
    exact Interpreted.allOrNothing_construct written heap arguments
  case properties =>
    intro p written invoker made heap target value
    obtain ⟨setter, checked, reads⟩ := Factory.reads_of_propertyInvoker made
    have own := written setter (Property.setter_of_checkSetter checked)
    rw [reads]
    exact Interpreted.allOrNothing_assign p own heap target value
  case methods =>
    intro m written invoker made heap target sound arguments
    obtain ⟨_, _, reads⟩ := Factory.reads_of_methodInvoker made
    rw [reads]
    exact Interpreted.allOrNothing_call written heap sound arguments

namespace Shapes

/-- The label of a square under a signature that is not its own. -/
def mislabelled : Method Unit String :=
  ⟨squareClass.runtimeClass, "label", [.reference ⟨1, "zoo::Shape"⟩ true], none, .direct,
    some (idle.body square.receiver)⟩

-- The descriptor's own checks pass, so the body counts its arguments with the square lent.
theorem mislabelled_rejected :
    ∃ invoker, (Factory.methodInvoker ⟨.interpreted, .default⟩ .first mislabelled).answer =
        .ok invoker ∧
      let left := invoker.invoke (Heap.empty.allocate squareContent) (.object squareObject) [.null]
      left.answer = .error (.arityMismatch 0 1) ∧ left.runs = [] ∧
        left.heap = Heap.empty.allocate squareContent ∧ left.target = .object squareObject := by
  obtain ⟨invoker, made⟩ : ∃ invoker,
      (Factory.methodInvoker ⟨.interpreted, .default⟩ .first mislabelled).answer = .ok invoker :=
    ⟨_, rfl⟩
  have written : ∀ body ∈ mislabelled.body, body.OfRoutine := by
    intro body declared
    cases declared
    exact ⟨square, idle, rfl⟩
  have sound : Datum.OfRegistered (.object squareObject) := by
    intro ref same
    cases same
    exact ⟨_, square_registered⟩
  have whole := (rejected_calls_leave_no_trace ⟨.interpreted, .default⟩ .first).2.2 mislabelled
    written invoker made (Heap.empty.allocate squareContent) _ sound [.null]
  have answer : (invoker.invoke (Heap.empty.allocate squareContent) (.object squareObject)
      [.null]).answer = .error (.arityMismatch 0 1) := by
    cases made
    rfl
  obtain ⟨rest, target⟩ := whole
  have rejected : (invoker.invoke (Heap.empty.allocate squareContent) (.object squareObject)
      [.null]).isRejected := by
    rw [Outcome.isRejected, answer]
    rfl
  rw [Outcome.AllOrNothing, if_pos rejected] at rest
  exact ⟨invoker, made, answer, rest.1, rest.2, target rejected⟩

end Shapes

end LateBinding
