/-!
Everything that can go wrong, by cause: a value that does not convert, a call
that is refused or fails, a member that cannot be called late, a class that
cannot be registered. Each cause has one wording.
-/

namespace LateBinding

inductive ConversionError where
  | typeMismatch (expected actual : String)
  | nullReference (target : String)
  | classMismatch (className actual : String)
  | baseChainMismatch (className actual : String)
  | abstractClass (className : String)
  deriving DecidableEq

def ConversionError.message : ConversionError → String
  | .typeMismatch expected actual => s!"type mismatch: expected {expected}, got {actual}"
  | .nullReference target => s!"null cannot be converted to {target}"
  | .classMismatch className actual =>
      s!"class '{className}' does not describe values of type {actual}"
  | .baseChainMismatch className actual =>
      s!"base chain of {actual} does not match class '{className}'"
  | .abstractClass className => s!"class '{className}' is abstract and cannot be instantiated"

inductive Position where
  | target
  | argument (index : Nat)
  | value
  deriving DecidableEq

def Position.display : Position → String
  | .target => "target"
  | .argument index => s!"argument {index}"
  | .value => "property value"

/-- Why a body that ran gave up: an error of its own, or an instance that its
class does not take. Errors of bodies are of any type `ε`. -/
inductive Failure (ε : Type) where
  | raised (error : ε)
  | conversion (error : ConversionError)
  deriving DecidableEq

def Failure.message {ε : Type} [ToString ε] : Failure ε → String
  | .raised error => toString error
  | .conversion error => error.message

inductive InvokeError (ε : Type) where
  | typeMismatch (position : Position) (expected actual : String)
  | arityMismatch (expected actual : Nat)
  | abstractMethod (method className : String)
  | aliasedTarget (position : Position)
  | targetFailure (failure : Failure ε)
  deriving DecidableEq

namespace InvokeError

variable {ε : Type}

/-- A failed conversion, told as a mismatch at the place of the value. Null
counts as the actual type; a cause that names no types keeps its wording. -/
def ofConversion (position : Position) : ConversionError → InvokeError ε
  | .typeMismatch expected actual => .typeMismatch position expected actual
  | .nullReference target => .typeMismatch position target "null"
  | error => .typeMismatch position "convertible value" error.message

def isTypeMismatch : InvokeError ε → Bool
  | .typeMismatch .. => true
  | _ => false

def message [ToString ε] : InvokeError ε → String
  | .typeMismatch position expected actual =>
      let place := position.display
      s!"type mismatch for {place}: expected {expected}, got {actual}"
  | .arityMismatch expected actual =>
      s!"argument count mismatch: expected {expected}, got {actual}"
  | .abstractMethod method className =>
      s!"no implementation of '{method}' on class '{className}'"
  | .aliasedTarget position => position.display ++ " is the target object itself"
  | .targetFailure failure => failure.message

end InvokeError

inductive Unsupported where
  | readOnlyProperty
  | abstractClass
  | missingBody
  | virtualOnValue
  | missingSlot
  | kindMismatch
  deriving DecidableEq

def Unsupported.message : Unsupported → String
  | .readOnlyProperty => "property has no setter"
  | .abstractClass => "declaring class is abstract"
  | .missingBody => "non-virtual method has no body"
  | .virtualOnValue => "value types cannot dispatch virtually"
  | .missingSlot => "declaring class has no vtable slot"
  | .kindMismatch => "body does not produce the declaring kind"

structure SynthesisError where
  member : String
  reason : Unsupported
  deriving DecidableEq

def SynthesisError.message (error : SynthesisError) : String :=
  "unsupported member '" ++ error.member ++ "': " ++ error.reason.message

inductive RegistrationError where
  | sealedBase (className base : String)
  | valueBase (className base : String)
  | abstractMethodOnConcrete (className method : String)
  | unimplemented (className method : String)
  | duplicate (className member : String)
  | abstractAndSealed (className : String)
  deriving DecidableEq

def RegistrationError.message : RegistrationError → String
  | .sealedBase className base => s!"class '{className}' cannot extend sealed class '{base}'"
  | .valueBase className base => s!"class '{className}' cannot extend value type '{base}'"
  | .abstractMethodOnConcrete className method =>
      s!"abstract method '{method}' declared on concrete class '{className}'"
  | .unimplemented className method =>
      s!"concrete class '{className}' does not implement abstract method '{method}'"
  | .duplicate className member => s!"duplicate member '{member}' on class '{className}'"
  | .abstractAndSealed className => s!"class '{className}' cannot be both abstract and sealed"

end LateBinding
