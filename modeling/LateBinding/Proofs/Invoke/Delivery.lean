import LateBinding.Proofs.Invoke.Rejection

/-!
What constructors give. The kind that a body says it makes is checked when its
invoker is made, the instance that it does make only when it is delivered. A body
that makes an object for a value class fails there. A body that makes a value for a
reference class is let through if the value has the type of the class, and nothing
else comes between a constructor and the sort of its class.
-/

namespace LateBinding

variable {σ ε : Type}

open Registration Obstacle

/-- Constructors of a value class are to give boxes of exactly its type, those of a
reference class objects of that very class. -/
def Datum.MadeAs (c : RuntimeClass σ ε) : Datum σ ε → Prop
  | .null => False
  | .value boxed => c.kind = .value ∧ boxed.native = c.native
  | .object ref => c.kind = .reference ∧ ref.runtimeClass = c

/-- A value of the type of a reference class, in place of an object. -/
def Creation.StraysFrom (creation : Creation σ) (c : RuntimeClass σ ε) : Prop :=
  c.kind = .reference ∧ creation.kind = .value ∧ creation.content.native = c.native

def Constructor.Makes (c : Constructor σ ε) (heap : Heap σ) (arguments : List (Datum σ ε))
    (creation : Creation σ) : Prop :=
  ∃ marshalled, Interpreted.marshalAll c.params arguments = .ok marshalled ∧
    (c.body.act heap marshalled).answer = .ok creation

/-- One call of a constructor gives what its class is to give, and fails if its body
made the other kind. -/
def Constructor.KeepsKind (c : Constructor σ ε) (outcome : Outcome σ ε (Datum σ ε)) (heap : Heap σ)
    (arguments : List (Datum σ ε)) : Prop :=
  (∀ datum, outcome.answer = .ok datum → datum.MadeAs c.declaring) ∧
  (∀ creation, c.Makes heap arguments creation → creation.kind ≠ c.declaring.kind →
    ∃ error, outcome.answer = .error error)

theorem deliver_cases {c : RuntimeClass σ ε} {heap after : Heap σ} {creation : Creation σ}
    {datum : Datum σ ε} (delivered : deliver c heap creation = .ok (datum, after)) :
    (creation.kind = .value ∧ creation.content.native = c.native ∧
      datum = .value creation.content ∧ after = heap) ∨
    (creation.kind = .reference ∧ ∃ object, datum = .object object ∧
      c.instantiate heap creation.content = .ok (object, after)) := by
  unfold deliver at delivered
  split at delivered
  · next value =>
      split at delivered
      · next same =>
          cases delivered
          exact .inl ⟨value, same, rfl, rfl⟩
      · cases delivered
  · next reference =>
      split at delivered
      · next object _ made =>
          cases delivered
          exact .inr ⟨reference, object, rfl, made⟩
      · cases delivered

theorem madeAs_of_deliver {c : RuntimeClass σ ε} {heap after : Heap σ} {creation : Creation σ}
    {datum : Datum σ ε} (kind : creation.kind = c.kind)
    (delivered : deliver c heap creation = .ok (datum, after)) : datum.MadeAs c := by
  rcases deliver_cases delivered with ⟨value, same, rfl, _⟩ | ⟨_, object, rfl, made⟩
  · exact ⟨kind.symm.trans value, same⟩
  · obtain ⟨takes, rfl, _⟩ := (c.instantiate_eq_ok_iff _ _ _ _).mp made
    exact ⟨takes.1, rfl⟩

-- Instantiating asks for the kind of the class, boxing for its type alone.
theorem straysFrom_of_deliver {c : RuntimeClass σ ε} {heap after : Heap σ} {creation : Creation σ}
    {datum : Datum σ ε} (other : creation.kind ≠ c.kind)
    (delivered : deliver c heap creation = .ok (datum, after)) : creation.StraysFrom c := by
  rcases deliver_cases delivered with ⟨value, same, _⟩ | ⟨reference, object, _, made⟩
  · cases kind : c.kind with
    | value => exact absurd (value.trans kind.symm) other
    | reference => exact ⟨kind, value, same⟩
  · have takes := ((c.instantiate_eq_ok_iff _ _ _ _).mp made).1
    exact absurd (reference.trans takes.1.symm) other

theorem Creation.StraysFrom.delivered {c : RuntimeClass σ ε} {creation : Creation σ}
    (strays : creation.StraysFrom c) (heap : Heap σ) :
    deliver c heap creation = .ok (.value creation.content, heap) := by
  simp [deliver, strays.2.1, strays.2.2]

namespace Interpreted

theorem answer_of_makes {c : Constructor σ ε} {heap : Heap σ} {arguments : List (Datum σ ε)}
    {creation : Creation σ} (makes : c.Makes heap arguments creation) :
    ∃ left,
      (construct c heap arguments).answer = (deliver c.declaring left creation).map (·.1) := by
  obtain ⟨marshalled, taken, answer⟩ := makes
  refine ⟨(c.body.act heap marshalled).heap, ?_⟩
  simp only [construct, taken, Outcome.deliver, answer]
  cases LateBinding.deliver c.declaring (c.body.act heap marshalled).heap creation <;> rfl

theorem makes_of_construct {c : Constructor σ ε} {heap : Heap σ} {arguments : List (Datum σ ε)}
    {datum : Datum σ ε} (given : (construct c heap arguments).answer = .ok datum) :
    ∃ creation, c.Makes heap arguments creation := by
  unfold construct at given
  cases taken : marshalAll c.params arguments with
  | error error => simp [taken, Outcome.refused] at given
  | ok marshalled =>
      cases answer : (c.body.act heap marshalled).answer with
      | error error => simp [taken, Outcome.deliver, answer] at given
      | ok creation => exact ⟨creation, marshalled, taken, answer⟩

theorem keepsKind_iff (c : Constructor σ ε) (heap : Heap σ) (arguments : List (Datum σ ε)) :
    c.KeepsKind (construct c heap arguments) heap arguments ↔
      ∀ creation, c.Makes heap arguments creation → ¬ creation.StraysFrom c.declaring := by
  constructor
  · intro keeps creation makes strays
    obtain ⟨left, answer⟩ := answer_of_makes makes
    have other : creation.kind ≠ c.declaring.kind := by
      rw [strays.1, strays.2.1]
      decide
    obtain ⟨error, fails⟩ := keeps.2 creation makes other
    rw [strays.delivered, fails] at answer
    cases answer
  · intro straight
    constructor
    · intro datum given
      obtain ⟨creation, makes⟩ := makes_of_construct given
      obtain ⟨left, answer⟩ := answer_of_makes makes
      cases delivered : deliver c.declaring left creation with
      | error error =>
          rw [given, delivered] at answer
          cases answer
      | ok made =>
          rw [given, delivered] at answer
          obtain rfl : datum = made.1 := Except.ok.inj answer
          by_cases kind : creation.kind = c.declaring.kind
          · exact madeAs_of_deliver kind delivered
          · exact absurd (straysFrom_of_deliver kind delivered) (straight creation makes)
    · intro creation makes other
      obtain ⟨left, answer⟩ := answer_of_makes makes
      cases delivered : deliver c.declaring left creation with
      | error error => exact ⟨error, by rw [answer, delivered]; rfl⟩
      | ok made => exact absurd (straysFrom_of_deliver other delivered) (straight creation makes)

end Interpreted

-- A registration writes bodies that make what they say, and the check holds them to it.
theorem ConstructorBody.OfRoutine.kind_of_makes {c : Constructor σ ε} (written : c.body.OfRoutine)
    {heap : Heap σ} {arguments : List (Datum σ ε)} {creation : Creation σ}
    (makes : c.Makes heap arguments creation) : creation.kind = c.body.produces := by
  obtain ⟨marshalled, _, answer⟩ := makes
  obtain ⟨r, routine, body⟩ := written
  rw [body] at answer ⊢
  simp only [ConstructorRoutine.body] at answer ⊢
  cases made : raised (routine.construct heap marshalled).answer with
  | error error =>
      rw [made] at answer
      cases answer
  | ok content =>
      rw [made] at answer
      cases answer
      rfl

theorem Constructor.produces_of_check {c : Constructor σ ε} (checked : c.check = .ok ()) :
    c.body.produces = c.declaring.kind := by
  unfold check at checked
  split at checked
  · cases checked
  · split at checked
    · cases checked
    · next same => exact not_not.mp same

/-- Invokers of constructors keep the kind of the class in exactly the calls in which
the body makes no value of the type of a reference class: in all calls for value
classes, and in all calls of registered bodies. -/
theorem constructor_keeps_kind_iff {factory : Factory} {naming : Naming} {c : Constructor σ ε}
    {invoker : ConstructorInvoker σ ε}
    (made : (factory.constructorInvoker naming c).answer = .ok invoker) :
    (∀ heap arguments, c.KeepsKind (invoker.invoke heap arguments) heap arguments ↔
      ∀ creation, c.Makes heap arguments creation → ¬ creation.StraysFrom c.declaring) ∧
    (c.declaring.kind = .value ∨ c.body.OfRoutine →
      ∀ heap arguments, c.KeepsKind (invoker.invoke heap arguments) heap arguments) := by
  obtain ⟨checked, reads⟩ := Factory.reads_of_constructorInvoker made
  rw [reads]
  refine ⟨Interpreted.keepsKind_iff c, ?_⟩
  intro plain heap arguments
  apply (Interpreted.keepsKind_iff c heap arguments).mpr
  intro creation makes strays
  rcases plain with kind | written
  · exact absurd (strays.1.symm.trans kind) (by decide)
  · have same := (written.kind_of_makes makes).trans (Constructor.produces_of_check checked)
    rw [strays.1, strays.2.1] at same
    cases same

-- The body says a value and makes an object, which a value class refuses.
theorem misfit_fails :
    ∃ invoker : ConstructorInvoker Unit String,
      (Factory.constructorInvoker ⟨.compiled, .default⟩ .first misfit).answer = .ok invoker ∧
      ∃ error, (invoker.invoke .empty []).answer = .error error := by
  obtain ⟨invoker, made⟩ : ∃ invoker,
      (Factory.constructorInvoker ⟨.compiled, .default⟩ .first misfit).answer = .ok invoker :=
    ⟨_, rfl⟩
  have keeps := (constructor_keeps_kind_iff made).2 (.inl rfl) .empty []
  exact ⟨invoker, made, keeps.2 _ ⟨[], rfl, rfl⟩ (by decide)⟩

/-- A constructor of a reference class whose body says it makes an object and makes a
value of the type of the class. -/
def stray : Constructor Unit String :=
  ⟨.root ⟨"Crate", ⟨2, "zoo::Crate"⟩, .reference, .plain, .empty⟩, [],
    .ofFunction .reference fun heap _ =>
      ⟨.ok ⟨.value, .root ⟨⟨2, "zoo::Crate"⟩, (), []⟩⟩, ["made"], heap⟩⟩

-- Both factories accept it, and what it gives is a box.
theorem stray_breaks_kind :
    stray.declaring.kind = .reference ∧
    ∀ (factory : Factory) (naming : Naming), ∃ invoker,
      (factory.constructorInvoker naming stray).answer = .ok invoker ∧
      (invoker.invoke .empty []).answer =
        .ok (.value (.root ⟨⟨2, "zoo::Crate"⟩, (), []⟩)) ∧
      ¬ stray.KeepsKind (invoker.invoke .empty []) .empty [] := by
  refine ⟨rfl, ?_⟩
  intro factory naming
  have answer := factory.answer_constructorInvoker naming stray
  cases made : (factory.constructorInvoker naming stray).answer with
  | error error =>
      rw [made] at answer
      cases answer
  | ok invoker =>
      rw [made] at answer
      have reads : invoker.invoke = Interpreted.construct stray := Except.ok.inj answer
      have box : (invoker.invoke .empty []).answer =
          .ok (.value (.root ⟨⟨2, "zoo::Crate"⟩, (), []⟩)) := by
        rw [reads]
        rfl
      refine ⟨invoker, rfl, box, ?_⟩
      intro keeps
      have kind := (keeps.1 _ box).1
      cases kind

end LateBinding
