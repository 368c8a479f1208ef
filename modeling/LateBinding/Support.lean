import LateBinding.Member

/-!
Which members can be called late. The check looks at the descriptor alone, so
its verdict does not depend on how invokers are made.
-/

namespace LateBinding

variable {σ ε : Type}

def Constructor.unsupported (c : Constructor σ ε) (reason : Unsupported) : SynthesisError :=
  ⟨c.display, reason⟩

/-- An abstract class makes no instances, and the body has to say that it makes
the kind of its class. -/
def Constructor.check (c : Constructor σ ε) : Except SynthesisError Unit :=
  if c.declaring.isAbstract then .error (c.unsupported .abstractClass)
  else if c.body.produces ≠ c.declaring.kind then .error (c.unsupported .kindMismatch)
  else .ok ()

def Property.unsupported (p : Property σ ε) (reason : Unsupported) : SynthesisError :=
  ⟨p.display, reason⟩

def Property.checkSetter (p : Property σ ε) : Except SynthesisError (SetterBody σ ε) :=
  match p.setter with
  | none => .error (p.unsupported .readOnlyProperty)
  | some setter =>
      if setter.receiver.kind ≠ p.declaring.kind then .error (p.unsupported .kindMismatch)
      else .ok setter

def Method.unsupported (m : Method σ ε) (reason : Unsupported) : SynthesisError :=
  ⟨m.display, reason⟩

/-- Where a call of a supported method goes. -/
inductive Route (σ ε : Type) where
  | fixed (body : MethodBody σ ε)
  | slot (slot : Fingerprint)

def Method.bodyFits (m : Method σ ε) : Bool :=
  match m.body with
  | none => true
  | some body => decide (body.receiver.kind = m.declaring.kind)

def Method.checkRoute (m : Method σ ε) : Except SynthesisError (Route σ ε) :=
  if m.bodyFits then
    match m.dispatch with
    | .direct =>
        match m.body with
        | some body => .ok (.fixed body)
        | none => .error (m.unsupported .missingBody)
    | .virtual slot =>
        if m.declaring.kind = .value then .error (m.unsupported .virtualOnValue)
        else if (m.declaring.resolve slot).isNone then .error (m.unsupported .missingSlot)
        else .ok (.slot slot)
  else .error (m.unsupported .kindMismatch)

end LateBinding
