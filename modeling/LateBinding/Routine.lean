import LateBinding.Body

/-!
Functions that classes register for their members: a list of parameter types,
and what to do with arguments of these types. An adapter counts and converts the
arguments before the function runs, and returns what the function returned. A
routine is a function as a body takes it, one that may fail and whose result is
dropped unless it is the instance that a constructor made. Functions that bring
an adapter of their own, or parameter types of their own, are left out.
-/

namespace LateBinding

variable {σ ε ρ : Type}

structure ConstructorFunction (σ ρ : Type) where
  params : List ParamType
  run : Heap σ → List (Argument σ) → Making σ ρ

structure SetterFunction (σ ρ : Type) where
  type : ParamType
  run : Heap σ → Instance σ → Argument σ → Touch σ ρ

structure MethodFunction (σ ρ : Type) where
  params : List ParamType
  run : Heap σ → Instance σ → List (Argument σ) → Touch σ ρ

/-! Adapters. -/

def ConstructorFunction.construct (f : ConstructorFunction σ ρ) (heap : Heap σ)
    (arguments : List (Argument σ)) : Outcome σ ε ρ :=
  match ParamType.convertAll f.params arguments with
  | .error error => .refused heap error
  | .ok converted => ((f.run heap converted).map .ok).outcome converted

def SetterFunction.assign (f : SetterFunction σ ρ) (heap : Heap σ) (lent : Instance σ)
    (argument : Argument σ) : Change σ ε ρ :=
  match f.type.convertAt .value argument with
  | .error error => .refused heap lent error
  | .ok converted => ((f.run heap lent converted).map .ok).change lent [converted]

def MethodFunction.invokeOn (f : MethodFunction σ ρ) (heap : Heap σ) (lent : Instance σ)
    (arguments : List (Argument σ)) : Change σ ε ρ :=
  match ParamType.convertAll f.params arguments with
  | .error error => .refused heap lent error
  | .ok converted => ((f.run heap lent converted).map .ok).change lent converted

/-- The function with a receiver that it may only look at. -/
def MethodFunction.shared (f : MethodFunction σ ρ) : MethodFunction σ ρ :=
  { f with run := fun heap lent arguments => { f.run heap lent arguments with receiver := lent } }

/-! Functions of their receiver and of what their arguments hold. They read
objects and never write to them. -/

def ConstructorFunction.ofContents (params : List ParamType)
    (f : List (Held σ) → ρ × List String) : ConstructorFunction σ ρ where
  params
  run heap arguments :=
    let made := f (arguments.map heap.held)
    ⟨made.1, made.2, heap⟩

def SetterFunction.ofContents (type : ParamType) (f : Instance σ → Held σ → Reaction σ ρ) :
    SetterFunction σ ρ where
  type
  run heap lent argument := { f lent (heap.held argument) with heap }

def MethodFunction.ofContents (params : List ParamType)
    (f : Instance σ → List (Held σ) → Reaction σ ρ) : MethodFunction σ ρ where
  params
  run heap lent arguments := { f lent (arguments.map heap.held) with heap }

/-! Routines. -/

abbrev Attempt (ε α : Type) := Except (Failure ε) α

abbrev ConstructorRoutine (σ ε : Type) := ConstructorFunction σ (Attempt ε (Instance σ))

abbrev SetterRoutine (σ ε : Type) := SetterFunction σ (Attempt ε Unit)

abbrev MethodRoutine (σ ε : Type) := MethodFunction σ (Attempt ε Unit)

def ConstructorFunction.infallible (f : ConstructorFunction σ (Instance σ)) :
    ConstructorRoutine σ ε where
  params := f.params
  run heap arguments := (f.run heap arguments).map .ok

def SetterFunction.infallible (f : SetterFunction σ Unit) : SetterRoutine σ ε where
  type := f.type
  run heap lent argument := (f.run heap lent argument).map .ok

def MethodFunction.infallible (f : MethodFunction σ ρ) : MethodRoutine σ ε where
  params := f.params
  run heap lent arguments := (f.run heap lent arguments).map fun _ => .ok ()

def MethodFunction.fallible (f : MethodFunction σ (Attempt ε ρ)) : MethodRoutine σ ε where
  params := f.params
  run heap lent arguments := (f.run heap lent arguments).map (·.map fun _ => ())

/-- The answer of a call whose function may have failed. -/
def raised (answer : Except (InvokeError ε) (Attempt ε ρ)) : Except (InvokeError ε) ρ :=
  answer.bind (·.mapError .targetFailure)

/-- The body of a constructor of `native`. Whatever the routine makes is an
instance of that type. -/
def ConstructorRoutine.body (routine : ConstructorRoutine σ ε) (kind : Kind)
    (native : NativeType) : ConstructorBody σ ε where
  produces := kind
  act heap arguments :=
    let outcome := routine.construct heap arguments
    { outcome with
      answer := (raised outcome.answer).map fun content => ⟨kind, content.withNative native⟩ }

def SetterRoutine.body (routine : SetterRoutine σ ε) (receiver : Receiver σ) :
    SetterBody σ ε where
  receiver
  act heap lent argument :=
    let change := routine.assign heap lent argument
    { change with answer := raised change.answer }

def MethodRoutine.body (routine : MethodRoutine σ ε) (receiver : Receiver σ) :
    MethodBody σ ε where
  receiver
  act heap lent arguments :=
    let change := routine.invokeOn heap lent arguments
    { change with answer := raised change.answer }

end LateBinding
