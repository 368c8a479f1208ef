import LateBinding.RuntimeClass

/-!
The generic values that callers pass around: null, a boxed value, or a shared
object. An object carries the class that it was made as. A value becomes an
object only if the class takes references, is not abstract, and its chain of
base classes is in line with the embedded bases of the value.
-/

namespace LateBinding

variable {σ ε : Type}

structure ObjectRef (σ ε : Type) where
  id : Nat
  runtimeClass : RuntimeClass σ ε

namespace ObjectRef

def handle (object : ObjectRef σ ε) : Handle :=
  ⟨object.id, object.runtimeClass.name, object.runtimeClass.lineage⟩

def derivesFrom (object : ObjectRef σ ε) (type : NativeType) : Bool :=
  object.runtimeClass.derivesFrom type

def same (a b : ObjectRef σ ε) : Bool :=
  a.id == b.id

def inspect (object : ObjectRef σ ε) : String :=
  "ObjectRef(" ++ object.runtimeClass.name ++ ")"

end ObjectRef

inductive Datum (σ ε : Type) where
  | null
  | value (boxed : Instance σ)
  | object (ref : ObjectRef σ ε)

namespace Datum

def isNull : Datum σ ε → Bool
  | .null => true
  | _ => false

/-- Objects report the name of their class, boxed values that of their type. -/
def typeName : Datum σ ε → String
  | .null => "null"
  | .value boxed => boxed.native.shortName
  | .object ref => ref.runtimeClass.name

def inspect : Datum σ ε → String
  | .null => "Null"
  | .value boxed => "Value(" ++ boxed.native.shortName ++ ")"
  | .object ref => "Object(" ++ ref.runtimeClass.name ++ ")"

def value? : Datum σ ε → Option (Instance σ)
  | .value boxed => some boxed
  | _ => none

def object? : Datum σ ε → Option (ObjectRef σ ε)
  | .object ref => some ref
  | _ => none

def argument : Datum σ ε → Argument σ
  | .null => .null
  | .value boxed => .value boxed
  | .object ref => .object ref.handle

/-- A copy of the value, if it is one of exactly the given type. -/
def unbox (type : NativeType) : Datum σ ε → Except ConversionError (Instance σ)
  | .value boxed =>
      if boxed.native = type then .ok boxed
      else .error (.typeMismatch type.shortName boxed.native.shortName)
  | .null => .error (.nullReference type.shortName)
  | .object ref => .error (.typeMismatch type.shortName ref.runtimeClass.name)

def valueAs? (type : NativeType) (datum : Datum σ ε) : Option (Instance σ) :=
  datum.value?.filter fun boxed => decide (boxed.native = type)

def overwrite? (type : NativeType) (content : Instance σ) (datum : Datum σ ε) :
    Option (Datum σ ε) :=
  (datum.valueAs? type).map fun _ => .value (content.withNative type)

/-- The object, if its class is registered for the type or derives from it. -/
def downcast? (type : NativeType) (datum : Datum σ ε) : Option (ObjectRef σ ε) :=
  datum.object?.filter fun ref => ref.derivesFrom type

end Datum

/-- Walks an instance and a class outwards in step: type for type, and as many
embedded bases as base classes. -/
def Instance.alignsWith : Instance σ → RuntimeClass σ ε → Bool
  | .root part, .root own => decide (part.native = own.native)
  | .derived part base, .derived own above =>
      decide (part.native = own.native) && base.alignsWith above
  | .holding whole _, c => whole.alignsWith c
  | _, _ => false

namespace RuntimeClass

def checkContent (c : RuntimeClass σ ε) (content : Instance σ) : Except ConversionError Unit :=
  if c.kind ≠ .reference ∨ content.native ≠ c.native then
    .error (.classMismatch c.name content.native.fullName)
  else if c.isAbstract then .error (.abstractClass c.name)
  else if content.alignsWith c then .ok ()
  else .error (.baseChainMismatch c.name content.native.fullName)

def instantiate (c : RuntimeClass σ ε) (heap : Heap σ) (content : Instance σ) :
    Except ConversionError (ObjectRef σ ε × Heap σ) :=
  (c.checkContent content).map fun _ => (⟨heap.nextId, c⟩, heap.allocate content)

end RuntimeClass

def Heap.content? (heap : Heap σ) (object : ObjectRef σ ε) : Option (Instance σ) :=
  heap.read? object.id

/-- Acts on what an object lends for writing as a type. -/
def Heap.modifyAs? (heap : Heap σ) (object : ObjectRef σ ε) (type : NativeType)
    (f : Instance σ → Instance σ) : Option (Heap σ) := do
  let whole ← heap.content? object
  let loan ← whole.borrowAs? type
  return heap.write object.id (loan.putBack (f loan.part))

end LateBinding
