import LateBinding.Call
import LateBinding.Member

/-!
The two steps of a call that need the class of an object: finding the body that
fills a slot, and making a fresh instance a datum.
-/

namespace LateBinding

variable {σ ε : Type}

def resolveVirtual (slot : Fingerprint) (method : String) :
    Datum σ ε → Except (InvokeError ε) (MethodBody σ ε)
  | .object object =>
      match (object.runtimeClass.resolve slot).bind (·.body) with
      | some body => .ok body
      | none => .error (.abstractMethod method object.runtimeClass.name)
  | target => .error (.typeMismatch .target "object" target.typeName)

/-- Boxes a fresh value, or makes a fresh object of the class. An instance that
the class does not take is a failure of the body that made it. -/
def deliver (c : RuntimeClass σ ε) (heap : Heap σ) (creation : Creation σ) :
    Except (InvokeError ε) (Datum σ ε × Heap σ) :=
  match creation.kind with
  | .value =>
      if creation.content.native = c.native then .ok (.value creation.content, heap)
      else .error (.targetFailure (.conversion
        (.classMismatch c.name creation.content.native.shortName)))
  | .reference =>
      match c.instantiate heap creation.content with
      | .ok (object, heap) => .ok (.object object, heap)
      | .error error => .error (.targetFailure (.conversion error))

def Outcome.deliver (outcome : Outcome σ ε (Creation σ)) (c : RuntimeClass σ ε) :
    Outcome σ ε (Datum σ ε) :=
  match outcome.answer with
  | .error error => { outcome with answer := .error error }
  | .ok creation =>
      match LateBinding.deliver c outcome.heap creation with
      | .ok (datum, heap) => ⟨.ok datum, heap, outcome.runs⟩
      | .error error => ⟨.error error, outcome.heap, outcome.runs⟩

end LateBinding
