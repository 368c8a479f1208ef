import LateBinding.Scenario.Step

/-!
Answers to the steps of a scenario. Values are answered as snapshots, since the
objects behind them may change in later steps.
-/

namespace LateBinding.Scenario

inductive Snapshot where
  | null
  | boxed (content : Value)
  | object (className : String) (content : Option Value)

def snapshot (heap : Heap Content) : Datum Content String → Snapshot
  | .null => .null
  | .value boxed => .boxed boxed
  | .object ref => .object ref.runtimeClass.name (heap.content? ref)

inductive Descriptor where
  | constructor (member : Constructor Content String)
  | property (member : Property Content String)
  | method (member : Method Content String)

def Descriptor.display : Descriptor → String
  | .constructor member => member.display
  | .property member => member.display
  | .method member => member.display

/-- What a hand-run constructor body made: a value, or an object of some type. -/
inductive Made where
  | value (content : Value)
  | object (type : NativeType)

/-- What a downcast found: the handle, the part that it is seen from, and whether
it still is the object that was cast. -/
structure Found where
  handle : Handle
  type : NativeType
  part : Option Value
  same : Bool

/-- An argument converted to a parameter type: a value, a handle seen as a type
with the part seen, or null. -/
inductive Converted where
  | null
  | value (content : Value)
  | reference (handle : Handle) (type : NativeType) (part : Option Value)

inductive Answer where
  | malformed
  | done
  | registered (result : Except RegistrationError (RegisteredClass Content String))
  | described (description : RegisteredClass Content String)
  | found (display : Option String)
  | resolved (slot : Fingerprint) (entry : Option (TableEntry Content String))
  | member (descriptor : Descriptor)
  | derives (result : Bool)
  /-- The name and its record, where the name may be told. -/
  | invoker (name : Option (String × String))
  | rejected (error : SynthesisError)
  | bound (value : Snapshot)
  | constructed (result : Except (InvokeError String) Snapshot)
  | completed (result : Except (InvokeError String) Unit) (target : Snapshot)
  | crowded (successes : Nat) (target : Snapshot)
  | made (result : Except (InvokeError String) (Kind × Made))
  | instantiated (result : Except ConversionError Snapshot)
  | inspected (value : Datum Content String) (snapshot : Snapshot)
  | unboxed (result : Except ConversionError Value) (inside : Option Value)
  | takenOut (content : Option Value) (box : Snapshot)
  | overwritten (done : Bool) (target : Snapshot)
  /-- The object if the cast found it, whether the value is an object at all, and
  what the name for the result, if the step gives one, is bound to afterwards. -/
  | downcast (found : Option Found) (isObject : Bool) (bound : Option Snapshot)
  | same (result : Bool)
  | converted (result : Except ConversionError Converted) (raw : Argument Content)
  | viewed (tag : Option String) (wrote : Bool) (content : Value)
  | receiver (receiver : Receiver Content)

structure Report where
  answer : Answer
  lines : List String
  events : List Event

end LateBinding.Scenario
