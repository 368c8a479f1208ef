import LateBinding.Error

/-!
What factories report. An event is a message with fields, in the order in which
they are reported.
-/

namespace LateBinding

inductive FieldValue where
  | text (content : String)
  | number (content : Nat)
  deriving DecidableEq

structure Event where
  message : String
  fields : List (String × FieldValue)
  deriving DecidableEq

namespace Event

def nameField : String := "injector"

def rejected (sort : String) (error : SynthesisError) : Event :=
  ⟨"rejected injector synthesis",
    [("kind", .text sort), ("member", .text error.member),
     ("reason", .text error.reason.message)]⟩

def nameless (event : Event) : Event :=
  { event with fields := event.fields.filter fun field => field.1 != nameField }

end Event

end LateBinding
