import LateBinding.RuntimeClass

/-!
Descriptors of members: which class declares a member, with which types, and by
which body it runs. Registration writes descriptors, and they can be put
together by hand from any body.
-/

namespace LateBinding

variable {σ ε : Type}

def ParamType.fingerprints (types : List ParamType) : List Fingerprint :=
  types.map ParamType.fingerprint

/-- How a method call finds its body: the declared one, or what fills a slot in
the table of the target's class. -/
inductive Dispatch where
  | direct
  | virtual (slot : Fingerprint)
  deriving DecidableEq

namespace Dispatch

def isVirtual : Dispatch → Bool
  | .direct => false
  | .virtual _ => true

def inspect : Dispatch → String
  | .direct => "Direct"
  | .virtual slot => Text.record "Virtual" [("slot", slot.inspect)]

end Dispatch

structure Constructor (σ ε : Type) where
  declaring : RuntimeClass σ ε
  params : List ParamType
  body : ConstructorBody σ ε

namespace Constructor

def fingerprint (c : Constructor σ ε) : Fingerprint :=
  .ofConstructor c.declaring.fingerprint (ParamType.fingerprints c.params)

def display (c : Constructor σ ε) : String :=
  c.declaring.name ++ ParamType.displayList c.params

def inspect (c : Constructor σ ε) : String :=
  Text.openRecord "ConstructorDef"
    [("name", Text.quote c.display), ("hash", c.fingerprint.inspect)]

end Constructor

structure Property (σ ε : Type) where
  declaring : RuntimeClass σ ε
  name : String
  type : ParamType
  setter : Option (SetterBody σ ε)

namespace Property

def isReadOnly (p : Property σ ε) : Bool :=
  p.setter.isNone

def fingerprint (p : Property σ ε) : Fingerprint :=
  .ofProperty p.declaring.fingerprint p.name

def display (p : Property σ ε) : String :=
  p.declaring.name ++ "." ++ p.name

def inspect (p : Property σ ε) : String :=
  Text.openRecord "PropertyDef"
    [("name", Text.quote p.display), ("type", p.type.inspect),
     ("read_only", Text.flag p.isReadOnly)]

end Property

structure Method (σ ε : Type) where
  declaring : RuntimeClass σ ε
  name : String
  params : List ParamType
  /-- The type of the result, kept for developers; none for methods without one. -/
  returns : Option NativeType
  dispatch : Dispatch
  body : Option (MethodBody σ ε)

namespace Method

def fingerprint (m : Method σ ε) : Fingerprint :=
  .ofMethod m.declaring.fingerprint m.name (ParamType.fingerprints m.params)

/-- The slot that every override of the method shares, whether or not the
method is virtual itself. -/
def slot (m : Method σ ε) : Fingerprint :=
  .ofSlot m.name (ParamType.fingerprints m.params)

def returnName (m : Method σ ε) : Option String :=
  m.returns.map NativeType.shortName

def display (m : Method σ ε) : String :=
  m.declaring.name ++ "::" ++ m.name ++ ParamType.displayList m.params

def inspect (m : Method σ ε) : String :=
  Text.openRecord "MethodDef"
    [("name", Text.quote m.display), ("returns", Text.quoteOption m.returnName),
     ("dispatch", m.dispatch.inspect)]

end Method

end LateBinding
