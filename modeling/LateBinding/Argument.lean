import LateBinding.Error
import LateBinding.Heap
import LateBinding.ParamType

/-!
Arguments as bodies take them: null, a copy of a value, or a handle to an
object. A handle knows the object's number, the name of its class and the types
of that class and its bases. A parameter type converts arguments; it never
looks into the objects behind handles.
-/

namespace LateBinding

structure Handle where
  id : Nat
  className : String
  /-- The native types of the class and its base classes, nearest first. -/
  lineage : List NativeType
  deriving DecidableEq

namespace Handle

def derivesFrom (handle : Handle) (type : NativeType) : Bool :=
  decide (type ∈ handle.lineage)

def inspect (handle : Handle) : String :=
  "ObjectRef(" ++ handle.className ++ ")"

def inspectAs (handle : Handle) (type : NativeType) : String :=
  "Ref<" ++ type.shortName ++ ">(" ++ handle.className ++ ")"

end Handle

inductive Argument (σ : Type) where
  | null
  | value (boxed : Instance σ)
  | object (handle : Handle)
  deriving DecidableEq

namespace Argument

variable {σ : Type}

def typeName : Argument σ → String
  | .null => "null"
  | .value boxed => boxed.native.shortName
  | .object handle => handle.className

def inspect : Argument σ → String
  | .null => "Null"
  | .value boxed => "Value(" ++ boxed.native.shortName ++ ")"
  | .object handle => "Object(" ++ handle.className ++ ")"

def handle? : Argument σ → Option Handle
  | .object handle => some handle
  | _ => none

end Argument

namespace ParamType

variable {σ ε : Type}

/-- Converts an argument to the type, or says what stands in the way. Values
convert to their exact type, handles to every type of their lineage, and null
to nullable references. -/
def convert : ParamType → Argument σ → Except ConversionError (Argument σ)
  | .value native declaredName, .value boxed =>
      if boxed.native = native then .ok (.value boxed)
      else .error (.typeMismatch declaredName boxed.native.shortName)
  | .value _ declaredName, .null => .error (.nullReference declaredName)
  | .value _ declaredName, .object handle =>
      .error (.typeMismatch declaredName handle.className)
  | .reference native _, .object handle =>
      if handle.derivesFrom native then .ok (.object handle)
      else .error (.typeMismatch native.shortName handle.className)
  | .reference _ true, .null => .ok .null
  | .reference native false, .null => .error (.nullReference native.shortName)
  | .reference native _, .value boxed =>
      .error (.typeMismatch native.shortName boxed.native.shortName)

theorem eq_of_convert {type : ParamType} {argument converted : Argument σ}
    (accepted : type.convert argument = .ok converted) : converted = argument := by
  cases type with
  | value native declaredName =>
      cases argument with
      | null => cases accepted
      | value boxed =>
          simp only [convert] at accepted
          split at accepted
          · cases accepted; rfl
          · cases accepted
      | object handle => cases accepted
  | reference native nullable =>
      cases argument with
      | null =>
          cases nullable with
          | false => cases accepted
          | true => cases accepted; rfl
      | value boxed => cases nullable <;> cases accepted
      | object handle =>
          simp only [convert] at accepted
          split at accepted
          · cases accepted; rfl
          · cases accepted

def convertAt (type : ParamType) (position : Position) (argument : Argument σ) :
    Except (InvokeError ε) (Argument σ) :=
  (type.convert argument).mapError (InvokeError.ofConversion position)

/-- Takes the next of the arguments that are left and converts it. The index is its
place in the call and is counted apart from the list; a list that has run out is
refused with the counts up to there. -/
def takeNext (type : ParamType) (index : Nat) :
    List (Argument σ) → Except (InvokeError ε) (Argument σ × List (Argument σ))
  | [] => .error (.arityMismatch (index + 1) index)
  | argument :: rest => (type.convertAt (.argument index) argument).map (·, rest)

/-- Converts arguments from left to right, one for each type, the first of them at
the given index. The first that does not convert decides. -/
def convertFrom : Nat → List ParamType → List (Argument σ) →
    Except (InvokeError ε) (List (Argument σ))
  | _, [], _ => .ok []
  | index, type :: types, arguments => do
      let (first, rest) ← type.takeNext index arguments
      let later ← convertFrom (index + 1) types rest
      return first :: later

theorem convertFrom_of_takeNext {type : ParamType} {index : Nat}
    {arguments rest : List (Argument σ)} {first : Argument σ}
    (took : type.takeNext (ε := ε) index arguments = .ok (first, rest)) (types : List ParamType) :
    convertFrom (ε := ε) index (type :: types) arguments =
      (convertFrom (index + 1) types rest).map (first :: ·) := by
  rw [convertFrom, took]
  change ((convertFrom (index + 1) types rest).bind fun later => .ok (first :: later)) = _
  cases convertFrom (ε := ε) (index + 1) types rest <;> rfl

theorem convertFrom_cons (index : Nat) (type : ParamType) (types : List ParamType)
    (argument : Argument σ) (rest : List (Argument σ)) :
    convertFrom (ε := ε) index (type :: types) (argument :: rest) =
      (type.convertAt (.argument index) argument).bind fun first =>
        (convertFrom (index + 1) types rest).map (first :: ·) := by
  cases head : type.convertAt (ε := ε) (.argument index) argument with
  | error error =>
      rw [convertFrom, takeNext, head]
      rfl
  | ok first =>
      have took : type.takeNext (ε := ε) index (argument :: rest) = .ok (first, rest) := by
        rw [takeNext, head]
        rfl
      exact convertFrom_of_takeNext took types

def convertAll (types : List ParamType) (arguments : List (Argument σ)) :
    Except (InvokeError ε) (List (Argument σ)) :=
  if types.length = arguments.length then convertFrom 0 types arguments
  else .error (.arityMismatch types.length arguments.length)

end ParamType

/-- An argument with what the object behind it holds. -/
inductive Held (σ : Type) where
  | null
  | value (boxed : Instance σ)
  | object (handle : Handle) (content : Option (Instance σ))
  deriving DecidableEq

namespace Heap

variable {σ : Type}

def held (heap : Heap σ) : Argument σ → Held σ
  | .null => .null
  | .value boxed => .value boxed
  | .object handle => .object handle (heap.read? handle.id)

/-- What a handle shows to a reader who asks for a type. -/
def readAs? (heap : Heap σ) (handle : Handle) (type : NativeType) : Option (Instance σ) :=
  (heap.read? handle.id).bind (·.viewAs? type)

end Heap

end LateBinding
