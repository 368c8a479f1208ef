import LateBinding.Routine
import LateBinding.Scenario.Content

/-!
Scripts stand for the functions of members. A script reports its label with the
texts of its arguments, records that line on its receiver, and may fail before
or after it did so.
-/

namespace LateBinding.Scenario

structure Fault where
  message : String
  /-- The text that the first argument has to have; any call fails if absent. -/
  trigger : Option String
  /-- Whether the script fails after it recorded its line, not before. -/
  late : Bool

structure Script where
  label : String
  fault : Option Fault

namespace Script

def unfailing (script : Script) : Script :=
  { script with fault := none }

def line (script : Script) (arguments : List String) : String :=
  script.label ++ "(" ++ ", ".intercalate arguments ++ ")"

def Fault.hits (fault : Fault) (arguments : List String) : Bool :=
  match fault.trigger with
  | none => true
  | some text => arguments.head? == some text

def fails (script : Script) (late : Bool) (arguments : List String) : Option String :=
  (script.fault.filter fun fault => fault.late == late && Fault.hits fault arguments).map
    (·.message)

/-- Runs a script for arguments with these texts. `mark` is what recording a line
does. A script that does not fail returns its line. -/
def run {α : Type} (script : Script) (arguments : List String) (mark : String → α → α)
    (before : α) : Attempt String String × List String × α :=
  match script.fails false arguments with
  | some message => (.error (.raised message), [], before)
  | none =>
      let line := script.line arguments
      let after := mark line before
      match script.fails true arguments with
      | some message => (.error (.raised message), [line], after)
      | none => (.ok line, [line], after)

def constructor (script : Script) (params : List ParamType) (template : Value) :
    ConstructorRoutine Content String :=
  .ofContents params fun arguments =>
    let ran := script.run (List.zipWith heldLine params arguments) Value.note template
    (ran.1.map fun _ => ran.2.2, ran.2.1)

def setter (script : Script) (type : ParamType) : SetterRoutine Content String :=
  .ofContents type fun receiver argument =>
    let ran := script.run [heldLine type argument] Value.note receiver
    ⟨ran.1.map fun _ => (), ran.2.1, ran.2.2⟩

def method (script : Script) (params : List ParamType) :
    MethodFunction Content (Attempt String String) :=
  .ofContents params fun receiver arguments =>
    let ran := script.run (List.zipWith heldLine params arguments) Value.note receiver
    ⟨ran.1, ran.2.1, ran.2.2⟩

/-! Hand-written bodies. -/

def rawConstructor (script : Script) (produces : Kind) (made : Creation Content) :
    ConstructorBody Content String :=
  .ofFunction produces fun heap arguments =>
    let ran := script.run (arguments.map argumentLine) (fun _ creation => creation) made
    ⟨(ran.1.mapError .targetFailure).map fun _ => ran.2.2, ran.2.1, heap⟩

def rawReaction (script : Script) (part : Value) (arguments : List (Argument Content)) :
    Reaction Content (Except (InvokeError String) Unit) :=
  let ran := script.run (arguments.map argumentLine) Value.note part
  ⟨(ran.1.mapError .targetFailure).map fun _ => (), ran.2.1, ran.2.2⟩

def rawSetter (script : Script) (receiver : Receiver Content) : SetterBody Content String :=
  .ofFunction receiver fun heap part argument =>
    { script.rawReaction part [argument] with heap }

def rawMethod (script : Script) (receiver : Receiver Content) : MethodBody Content String :=
  .ofFunction receiver fun heap part arguments =>
    { script.rawReaction part arguments with heap }

end Script

end LateBinding.Scenario
