import LateBinding.Factory
import LateBinding.Registration
import LateBinding.Scenario.Script

/-!
Scenarios: lists of steps over named classes, descriptors, invokers and values.
The four sorts of names do not meet.
-/

namespace LateBinding.Scenario

inductive Expr where
  | variable (name : String)
  | null
  | value (content : Value)
  | boxed (inner : Expr)

inductive Operand where
  | name (text : String)
  | type (type : ParamType)
  | word (word : UInt64)
  | nullable (inner : Operand)

namespace Operand

def fingerprint : Operand → Fingerprint
  | .name text => .ofName text
  | .type param => param.fingerprint
  | .word bits => ⟨bits⟩
  | .nullable inner => inner.fingerprint.nullable

end Operand

/-- A slot by its fingerprint or by the signature that it is for. -/
inductive SlotReference where
  | operand (operand : Operand)
  | signature (name : String) (params : List Operand)

def SlotReference.fingerprint : SlotReference → Fingerprint
  | .operand slot => slot.fingerprint
  | .signature name params => .ofSlot name (params.map Operand.fingerprint)

inductive MemberSort where
  | constructor
  | property
  | method
  deriving DecidableEq

/-- A member by its place in a registered class, or a descriptor by name. -/
inductive MemberReference where
  | ofClass (className : String) (sort : MemberSort) (index : Nat)
  | defined (name : String)

inductive MemberDeclaration where
  | constructor (params : List ParamType) (script : Script) (template : Value)
  | property (name : String) (type : ParamType) (script : Script)
  | readOnly (name : String) (type : ParamType)
  /-- `isVirtual` says how it dispatches, `shared` that the receiver is only looked at. -/
  | method (name : String) (params : List ParamType) (returns : Option NativeType)
      (isVirtual shared : Bool) (script : Script)
  | abstract (name : String) (params : List ParamType) (returns : Option NativeType)

structure ClassDeclaration where
  name : String
  native : NativeType
  kind : Kind
  modifiers : Modifiers
  base : Option String
  members : List MemberDeclaration

/-- Where a descriptor that is put together by hand has its body from. -/
inductive BodySource (α : Type) where
  | absent
  | of (member : MemberReference)
  | script (script : Script) (shape : α)

structure CreationShape where
  produces : Kind
  makes : Kind
  content : Expr

inductive Definition where
  | constructor (params : List ParamType) (body : BodySource CreationShape)
  | property (name : String) (type : ParamType) (body : BodySource (Receiver Content))
  | method (name : String) (params : List ParamType) (returns : Option NativeType)
      (slot : Option SlotReference) (body : BodySource (Receiver Content))

inductive Query where
  | arity (count : Nat)
  | property (name : String)
  | method (name : String)

inductive Step where
  | register (bind : String) (declaration : ClassDeclaration)
  | describe (className : String)
  | find (className : String) (query : Query)
  | resolve (className : String) (slot : SlotReference)
  | member (member : MemberReference)
  | derives (className : String) (type : NativeType)
  | define (bind className : String) (definition : Definition)
  | synthesize (bind : String) (factory : Factory) (member : MemberReference)
  /-- An invoker around a fixed function of its shape. -/
  | custom (bind : String) (sort : MemberSort) (name : String)
  | share (invoker bind : String)
  | bind (bind : String) (value : Expr)
  | construct (invoker : String) (arguments : List Expr) (bind : Option String)
  | assign (invoker : String) (target value : Expr)
  | call (invoker : String) (target : Expr) (arguments : List Expr)
  /-- The same call over and over, by several callers with a target of their own. -/
  | crowd (invoker : String) (target : Expr) (arguments : List Expr) (callers times : Nat)
  | construction (member : MemberReference) (arguments : List Expr)
  | assignment (member : MemberReference) (target value : Expr)
  | invocation (member : MemberReference) (target : Expr) (arguments : List Expr)
  | instantiate (className : String) (template : Value) (bind : Option String)
  | inspect (value : Expr)
  | unbox (value : Expr) (type : NativeType)
  | takeOut (value : Expr) (type : NativeType)
  | overwrite (target : Expr) (type : NativeType) (value : Expr)
  | downcast (value : Expr) (type : NativeType) (note : Option String)
      (bind : Option String) (nullable : Bool)
  | same (left right : Expr)
  | convert (value : Expr) (type : ParamType)
  | view (template : Value) (type : NativeType)
  | receiver (receiver : Receiver Content)
  | lend (receiver : Receiver Content) (target : Expr) (note : String)
      (linked : List (Position × Expr))

end LateBinding.Scenario
