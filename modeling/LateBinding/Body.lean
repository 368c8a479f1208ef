import LateBinding.Argument
import LateBinding.Loan

/-!
Bodies of members. A constructor body makes a fresh instance; a setter or
method body is lent an instance inside its target and acts on it. Bodies take
arguments that are marshalled already and see the objects behind them, so a body
may do to other objects whatever it likes. What ran, and on what, is kept beside
the answer.
-/

namespace LateBinding

variable {σ ε α : Type}

/-- One run of a function that was registered or handed in for a member. -/
structure Run (σ : Type) where
  receiver : Option (Instance σ)
  arguments : List (Argument σ)
  lines : List String

structure Outcome (σ ε α : Type) where
  answer : Except (InvokeError ε) α
  heap : Heap σ
  runs : List (Run σ)

def Outcome.refused (heap : Heap σ) (error : InvokeError ε) : Outcome σ ε α :=
  ⟨.error error, heap, []⟩

structure Change (σ ε α : Type) extends Outcome σ ε α where
  receiver : Instance σ

def Change.refused (heap : Heap σ) (receiver : Instance σ) (error : InvokeError ε) :
    Change σ ε α :=
  { Outcome.refused heap error with receiver }

/-- How a body finds its receiver: in a box of exactly one type, or at the place
in an object that a function of its own tells. A place where nothing is counts
as none. The name stands in errors only. -/
inductive Receiver (σ : Type) where
  | value (native : NativeType) (name : String)
  | object (upcast : Instance σ → Option Place) (name : String)

namespace Receiver

def of (kind : Kind) (native : NativeType) : Receiver σ :=
  match kind with
  | .value => .value native native.shortName
  | .reference => .object (·.lentAt? native) native.shortName

def kind : Receiver σ → Kind
  | .value .. => .value
  | .object .. => .reference

def name : Receiver σ → String
  | .value _ name | .object _ name => name

@[simp]
theorem kind_of (kind : Kind) (native : NativeType) : (of (σ := σ) kind native).kind = kind := by
  cases kind <;> rfl

def inspect (receiver : Receiver σ) : String :=
  match receiver.kind with
  | .value => "Receiver::Value(" ++ receiver.name ++ ")"
  | .reference => "Receiver::Object(" ++ receiver.name ++ ")"

end Receiver

structure Creation (σ : Type) where
  kind : Kind
  content : Instance σ

structure ConstructorBody (σ ε : Type) where
  /-- The kind that the body says it makes. What it makes is known only after a run. -/
  produces : Kind
  act : Heap σ → List (Argument σ) → Outcome σ ε (Creation σ)

structure SetterBody (σ ε : Type) where
  receiver : Receiver σ
  act : Heap σ → Instance σ → Argument σ → Change σ ε Unit

structure MethodBody (σ ε : Type) where
  receiver : Receiver σ
  act : Heap σ → Instance σ → List (Argument σ) → Change σ ε Unit

/-! Functions for bodies. A function returns a result and may report lines. Its one
run is put on record. -/

structure Making (σ ρ : Type) where
  result : ρ
  lines : List String
  heap : Heap σ

/-- What a function does to the instance it was lent, without touching objects. -/
structure Reaction (σ ρ : Type) where
  result : ρ
  lines : List String
  receiver : Instance σ

structure Touch (σ ρ : Type) extends Reaction σ ρ where
  heap : Heap σ

def Making.outcome (made : Making σ (Except (InvokeError ε) α)) (arguments : List (Argument σ)) :
    Outcome σ ε α :=
  ⟨made.result, made.heap, [⟨none, arguments, made.lines⟩]⟩

def Making.map {ρ τ : Type} (change : ρ → τ) (made : Making σ ρ) : Making σ τ :=
  ⟨change made.result, made.lines, made.heap⟩

def Touch.change (touch : Touch σ (Except (InvokeError ε) α)) (lent : Instance σ)
    (arguments : List (Argument σ)) : Change σ ε α where
  answer := touch.result
  heap := touch.heap
  runs := [⟨some lent, arguments, touch.lines⟩]
  receiver := touch.receiver

def Touch.map {ρ τ : Type} (change : ρ → τ) (touch : Touch σ ρ) : Touch σ τ :=
  ⟨⟨change touch.result, touch.lines, touch.receiver⟩, touch.heap⟩

/-! Bodies written by hand. They take arguments as they come and answer with
any error. -/

def ConstructorBody.ofFunction (produces : Kind)
    (f : Heap σ → List (Argument σ) → Making σ (Except (InvokeError ε) (Creation σ))) :
    ConstructorBody σ ε where
  produces
  act heap arguments := (f heap arguments).outcome arguments

def SetterBody.ofFunction (receiver : Receiver σ)
    (f : Heap σ → Instance σ → Argument σ → Touch σ (Except (InvokeError ε) Unit)) :
    SetterBody σ ε where
  receiver
  act heap lent argument := (f heap lent argument).change lent [argument]

def MethodBody.ofFunction (receiver : Receiver σ)
    (f : Heap σ → Instance σ → List (Argument σ) → Touch σ (Except (InvokeError ε) Unit)) :
    MethodBody σ ε where
  receiver
  act heap lent arguments := (f heap lent arguments).change lent arguments

end LateBinding
