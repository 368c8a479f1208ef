import LateBinding.Fingerprint
import LateBinding.Kind
import LateBinding.NativeType

/-!
The types that parameters and properties are declared with. A value parameter
has a declared name beside its native type, and its fingerprint comes from that
name; a reference parameter is named after its native type, and its fingerprint
comes from the full name.
-/

namespace LateBinding

inductive ParamType where
  | value (native : NativeType) (declaredName : String)
  | reference (native : NativeType) (nullable : Bool)
  deriving DecidableEq

namespace ParamType

def native : ParamType → NativeType
  | .value native _ | .reference native _ => native

def kind : ParamType → Kind
  | .value .. => .value
  | .reference .. => .reference

def isNullable : ParamType → Bool
  | .value .. => false
  | .reference _ nullable => nullable

def name : ParamType → String
  | .value _ declaredName => declaredName
  | .reference native _ => native.shortName

def fingerprint : ParamType → Fingerprint
  | .value _ declaredName => .ofName declaredName
  | .reference native false => .ofName native.fullName
  | .reference native true => (Fingerprint.ofName native.fullName).nullable

/-- The name, with a question mark if null is admitted. -/
def display (type : ParamType) : String :=
  if type.isNullable then type.name ++ "?" else type.name

def inspect (type : ParamType) : String :=
  "StaticType(" ++ type.display ++ ")"

def displayList (types : List ParamType) : String :=
  "(" ++ ", ".intercalate (types.map display) ++ ")"

end ParamType

end LateBinding
