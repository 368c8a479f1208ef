import LateBinding.Datum

/-!
Running bodies on targets that are marshalled already, like their arguments. A
target is lent to a body for the length of the call. An object that is its own
argument is refused before it is lent, since the body would wait for an object
that its own call keeps.
-/

namespace LateBinding

variable {σ ε : Type}

/-- What a call on a target leaves behind. A boxed target is replaced, an
object target stays the handle that it was. -/
structure Completion (σ ε : Type) extends Outcome σ ε Unit where
  target : Datum σ ε

def Completion.refused (heap : Heap σ) (target : Datum σ ε) (error : InvokeError ε) :
    Completion σ ε :=
  { Outcome.refused heap error with target }

def linked (arguments : List (Position × Argument σ)) : List (Position × Handle) :=
  arguments.filterMap fun entry => entry.2.handle?.map fun handle => (entry.1, handle)

def positionedFrom : Nat → List (Argument σ) → List (Position × Argument σ)
  | _, [] => []
  | index, argument :: rest => (.argument index, argument) :: positionedFrom (index + 1) rest

def aliasAt? (id : Nat) (handles : List (Position × Handle)) : Option Position :=
  (handles.find? fun entry => entry.2.id == id).map (·.1)

/-- Takes back what was lent. What surrounds it in an object is as it was when it
was lent, whatever the body did elsewhere. -/
def Change.settle (change : Change σ ε Unit) (loan : Loan σ) : Datum σ ε → Completion σ ε
  | .null => { change.toOutcome with target := .null }
  | .value _ => { change.toOutcome with target := .value (loan.putBack change.receiver) }
  | .object object =>
      { change.toOutcome with
        heap := change.heap.write object.id (loan.putBack change.receiver)
        target := .object object }

namespace Receiver

def lend (receiver : Receiver σ) (heap : Heap σ) (handles : List (Position × Handle))
    (target : Datum σ ε) : Except (InvokeError ε) (Loan σ) :=
  match receiver, target with
  | .value native name, .value boxed =>
      if boxed.native = native then .ok (.ofWhole boxed)
      else .error (.typeMismatch .target name boxed.native.shortName)
  | .object upcast name, .object ref =>
      match aliasAt? ref.id handles with
      | some position => .error (.aliasedTarget position)
      | none =>
          match (heap.content? ref).bind fun whole =>
            (upcast whole).bind (Loan.take? whole) with
          | some loan => .ok loan
          | none => .error (.typeMismatch .target name ref.runtimeClass.name)
  | receiver, target => .error (.typeMismatch .target receiver.name target.typeName)

def apply (receiver : Receiver σ) (heap : Heap σ) (target : Datum σ ε)
    (handles : List (Position × Handle)) (act : Instance σ → Change σ ε Unit) :
    Completion σ ε :=
  match receiver.lend heap handles target with
  | .error error => .refused heap target error
  | .ok loan => (act loan.part).settle loan target

end Receiver

def SetterBody.set (body : SetterBody σ ε) (heap : Heap σ) (target : Datum σ ε)
    (argument : Argument σ) : Completion σ ε :=
  body.receiver.apply heap target (linked [(.value, argument)]) fun part =>
    body.act heap part argument

def MethodBody.call (body : MethodBody σ ε) (heap : Heap σ) (target : Datum σ ε)
    (arguments : List (Argument σ)) : Completion σ ε :=
  body.receiver.apply heap target (linked (positionedFrom 0 arguments)) fun part =>
    body.act heap part arguments

end LateBinding
