import LateBinding.Invoke.Resolve

/-!
Calls straight from a descriptor. Every call asks the descriptor anew how to
check the target, how to convert each argument and where the body is.
-/

namespace LateBinding.Interpreted

variable {σ ε : Type}

def marshal (type : ParamType) (position : Position) (datum : Datum σ ε) :
    Except (InvokeError ε) (Argument σ) :=
  match type, datum with
  | .value native _, .value boxed =>
      if boxed.native = native then .ok (.value boxed)
      else .error (.typeMismatch position type.name datum.typeName)
  | .reference native _, .object object =>
      if object.derivesFrom native then .ok (.object object.handle)
      else .error (.typeMismatch position type.name datum.typeName)
  | .reference _ true, .null => .ok .null
  | _, _ => .error (.typeMismatch position type.name datum.typeName)

def marshalFrom :
    Nat → List ParamType → List (Datum σ ε) → Except (InvokeError ε) (List (Argument σ))
  | index, type :: types, datum :: rest =>
      match marshal type (.argument index) datum with
      | .error error => .error error
      | .ok first => (marshalFrom (index + 1) types rest).map (first :: ·)
  | _, _, _ => .ok []

def marshalAll (types : List ParamType) (arguments : List (Datum σ ε)) :
    Except (InvokeError ε) (List (Argument σ)) :=
  if types.length = arguments.length then marshalFrom 0 types arguments
  else .error (.arityMismatch types.length arguments.length)

def fits (c : RuntimeClass σ ε) : Datum σ ε → Bool
  | .value boxed => decide (c.kind = .value ∧ boxed.native = c.native)
  | .object object => decide (c.kind = .reference) && object.derivesFrom c.native
  | .null => false

def checkTarget (c : RuntimeClass σ ε) (target : Datum σ ε) : Except (InvokeError ε) Unit :=
  if fits c target then .ok ()
  else .error (.typeMismatch .target c.name target.typeName)

def construct (c : Constructor σ ε) (heap : Heap σ) (arguments : List (Datum σ ε)) :
    Outcome σ ε (Datum σ ε) :=
  match marshalAll c.params arguments with
  | .error error => .refused heap error
  | .ok marshalled => (c.body.act heap marshalled).deliver c.declaring

def assign (p : Property σ ε) (setter : SetterBody σ ε) (heap : Heap σ) (target value : Datum σ ε) :
    Completion σ ε :=
  match checkTarget p.declaring target with
  | .error error => .refused heap target error
  | .ok _ =>
      match marshal p.type .value value with
      | .error error => .refused heap target error
      | .ok marshalled => setter.set heap target marshalled

/-- The body that a call of the method on the target runs. -/
def bodyFor (m : Method σ ε) (target : Datum σ ε) : Except (InvokeError ε) (MethodBody σ ε) :=
  match m.dispatch with
  | .virtual slot => resolveVirtual slot m.name target
  | .direct =>
      match m.body with
      | some body => .ok body
      | none => .error (.abstractMethod m.name m.declaring.name)

def call (m : Method σ ε) (heap : Heap σ) (target : Datum σ ε) (arguments : List (Datum σ ε)) :
    Completion σ ε :=
  match checkTarget m.declaring target with
  | .error error => .refused heap target error
  | .ok _ =>
      match marshalAll m.params arguments with
      | .error error => .refused heap target error
      | .ok marshalled =>
          match bodyFor m target with
          | .error error => .refused heap target error
          | .ok body => body.call heap target marshalled

end LateBinding.Interpreted
