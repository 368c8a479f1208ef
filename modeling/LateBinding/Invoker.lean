import LateBinding.Call

/-!
Invokers: named functions of three fixed shapes that callers keep. An invoker
does not show how it was made; any function of the shape can be one.
-/

namespace LateBinding

variable {σ ε : Type}

structure ConstructorInvoker (σ ε : Type) where
  name : String
  invoke : Heap σ → List (Datum σ ε) → Outcome σ ε (Datum σ ε)

structure PropertyInvoker (σ ε : Type) where
  name : String
  /-- Sets the property of the first datum to the second. -/
  invoke : Heap σ → Datum σ ε → Datum σ ε → Completion σ ε

structure MethodInvoker (σ ε : Type) where
  name : String
  invoke : Heap σ → Datum σ ε → List (Datum σ ε) → Completion σ ε

def ConstructorInvoker.inspect (invoker : ConstructorInvoker σ ε) : String :=
  Text.openRecord "ConstructorInjector" [("name", Text.quote invoker.name)]

def PropertyInvoker.inspect (invoker : PropertyInvoker σ ε) : String :=
  Text.openRecord "PropertyInjector" [("name", Text.quote invoker.name)]

def MethodInvoker.inspect (invoker : MethodInvoker σ ε) : String :=
  Text.openRecord "MethodInjector" [("name", Text.quote invoker.name)]

end LateBinding
