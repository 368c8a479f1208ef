import LateBinding.Invoke.Resolve
import LateBinding.Support

/-!
Call plans. A plan is compiled from a descriptor once and settles what every
call needs: a conversion per parameter, the check of the target, and the way to
the body. Running a plan does not look at the descriptor again. All checks of a
plan come before the body.
-/

namespace LateBinding.Compiled

variable {σ ε : Type}

inductive Conversion where
  | unbox (native : NativeType) (name : String)
  | cast (native : NativeType) (name : String) (nullable : Bool)
  deriving DecidableEq

namespace Conversion

def ofType (type : ParamType) : Conversion :=
  match type.kind with
  | .value => .unbox type.native type.name
  | .reference => .cast type.native type.name type.isNullable

def run (position : Position) : Conversion → Datum σ ε → Except (InvokeError ε) (Argument σ)
  | .unbox native name, datum =>
      match datum.valueAs? native with
      | some boxed => .ok (.value boxed)
      | none => .error (.typeMismatch position name datum.typeName)
  | .cast native name nullable, datum =>
      match datum.downcast? native with
      | some object => .ok (.object object.handle)
      | none =>
          if nullable && datum.isNull then .ok .null
          else .error (.typeMismatch position name datum.typeName)

end Conversion

structure ArgumentPlan where
  conversions : List Conversion

namespace ArgumentPlan

def ofTypes (types : List ParamType) : ArgumentPlan :=
  ⟨types.map Conversion.ofType⟩

/-- As many data as parameters, then each conversion on its datum; the leftmost
failure decides. -/
def run (plan : ArgumentPlan) (arguments : List (Datum σ ε)) :
    Except (InvokeError ε) (List (Argument σ)) :=
  if plan.conversions.length ≠ arguments.length then
    .error (.arityMismatch plan.conversions.length arguments.length)
  else
    (plan.conversions.zip arguments).zipIdx.mapM fun entry =>
      entry.1.1.run (.argument entry.2) entry.1.2

end ArgumentPlan

inductive TargetPlan where
  | boxed (native : NativeType) (className : String)
  | object (native : NativeType) (className : String)
  deriving DecidableEq

namespace TargetPlan

def ofClass (c : RuntimeClass σ ε) : TargetPlan :=
  match c.kind with
  | .value => .boxed c.native c.name
  | .reference => .object c.native c.name

def check (plan : TargetPlan) (target : Datum σ ε) : Except (InvokeError ε) Unit :=
  match plan with
  | .boxed native className =>
      if (target.valueAs? native).isSome then .ok ()
      else .error (.typeMismatch .target className target.typeName)
  | .object native className =>
      if (target.downcast? native).isSome then .ok ()
      else .error (.typeMismatch .target className target.typeName)

end TargetPlan

structure ConstructorPlan (σ ε : Type) where
  declaring : RuntimeClass σ ε
  arguments : ArgumentPlan
  body : ConstructorBody σ ε

namespace ConstructorPlan

def compile (c : Constructor σ ε) : Except SynthesisError (ConstructorPlan σ ε) :=
  c.check.map fun _ => ⟨c.declaring, .ofTypes c.params, c.body⟩

def run (plan : ConstructorPlan σ ε) (heap : Heap σ) (arguments : List (Datum σ ε)) :
    Outcome σ ε (Datum σ ε) :=
  match plan.arguments.run arguments with
  | .error error => .refused heap error
  | .ok marshalled => (plan.body.act heap marshalled).deliver plan.declaring

end ConstructorPlan

structure PropertyPlan (σ ε : Type) where
  target : TargetPlan
  value : Conversion
  setter : SetterBody σ ε

namespace PropertyPlan

def compile (p : Property σ ε) : Except SynthesisError (PropertyPlan σ ε) :=
  p.checkSetter.map fun setter => ⟨.ofClass p.declaring, .ofType p.type, setter⟩

def prepare (plan : PropertyPlan σ ε) (target value : Datum σ ε) :
    Except (InvokeError ε) (Argument σ) := do
  plan.target.check target
  plan.value.run .value value

def run (plan : PropertyPlan σ ε) (heap : Heap σ) (target value : Datum σ ε) : Completion σ ε :=
  match plan.prepare target value with
  | .error error => .refused heap target error
  | .ok marshalled => plan.setter.set heap target marshalled

end PropertyPlan

inductive RoutePlan (σ ε : Type) where
  | fixed (body : MethodBody σ ε)
  | lookUp (slot : Fingerprint) (method : String)

def RoutePlan.find (plan : RoutePlan σ ε) (target : Datum σ ε) :
    Except (InvokeError ε) (MethodBody σ ε) :=
  match plan with
  | .fixed body => .ok body
  | .lookUp slot method => resolveVirtual slot method target

structure MethodPlan (σ ε : Type) where
  target : TargetPlan
  arguments : ArgumentPlan
  route : RoutePlan σ ε

namespace MethodPlan

def routeOf (m : Method σ ε) : Route σ ε → RoutePlan σ ε
  | .fixed body => .fixed body
  | .slot slot => .lookUp slot m.name

def compile (m : Method σ ε) : Except SynthesisError (MethodPlan σ ε) :=
  m.checkRoute.map fun route => ⟨.ofClass m.declaring, .ofTypes m.params, routeOf m route⟩

def prepare (plan : MethodPlan σ ε) (target : Datum σ ε) (arguments : List (Datum σ ε)) :
    Except (InvokeError ε) (MethodBody σ ε × List (Argument σ)) := do
  plan.target.check target
  let marshalled ← plan.arguments.run arguments
  let body ← plan.route.find target
  return (body, marshalled)

def run (plan : MethodPlan σ ε) (heap : Heap σ) (target : Datum σ ε)
    (arguments : List (Datum σ ε)) :
    Completion σ ε :=
  match plan.prepare target arguments with
  | .error error => .refused heap target error
  | .ok (body, marshalled) => body.call heap target marshalled

end MethodPlan

end LateBinding.Compiled
