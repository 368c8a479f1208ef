import LateBinding.Event
import LateBinding.Invoke.Compiled
import LateBinding.Invoke.Interpreted
import LateBinding.Invoker
import LateBinding.Naming

/-!
Factories make invokers from descriptors. The strategy decides whether calls run
a plan compiled in advance or interpret the descriptor; options and naming give
the name. A descriptor that cannot be called late is rejected, and takes no name.
-/

namespace LateBinding

variable {σ ε : Type}

inductive Strategy where
  | compiled
  | interpreted
  deriving DecidableEq

structure Factory where
  strategy : Strategy
  options : Options
  deriving DecidableEq

structure Synthesis (α : Type) where
  answer : Except SynthesisError α
  naming : Naming
  events : List Event

def Synthesis.rejected {α : Type} (naming : Naming) (sort : String) (error : SynthesisError) :
    Synthesis α :=
  ⟨.error error, naming, [.rejected sort error]⟩

namespace Factory

/-- Names an invoker and reports it; a member that is not supported is rejected. -/
def finish {α β : Type} (factory : Factory) (naming : Naming) (sort : String)
    (plan : Except SynthesisError α) (make : String → α → β) (report : String → Event) :
    Synthesis β :=
  match plan with
  | .error error => .rejected naming sort error
  | .ok plan =>
      let named := naming.next factory.options
      ⟨.ok (make named.1 plan), named.2, [report named.1]⟩

def brief (message name member : String) (hash : Fingerprint) : Event :=
  ⟨message, [(Event.nameField, .text name), ("member", .text member), ("hash", .text hash.display)]⟩

/-- The fields that all compiled invokers are reported with, and those of their sort. -/
def full (message name className member : String) (hash : Fingerprint)
    (fields : List (String × FieldValue)) : Event :=
  ⟨message, [(Event.nameField, .text name), ("class", .text className),
    ("member", .text member), ("hash", .text hash.display)] ++ fields⟩

def constructorInvoker (factory : Factory) (naming : Naming) (c : Constructor σ ε) :
    Synthesis (ConstructorInvoker σ ε) :=
  match factory.strategy with
  | .compiled =>
      factory.finish naming "constructor" (Compiled.ConstructorPlan.compile c)
        (fun name plan => ⟨name, plan.run⟩)
        (fun name => full "synthesized constructor injector" name c.declaring.name c.display
          c.fingerprint [("arity", .number c.params.length)])
  | .interpreted =>
      factory.finish naming "constructor" c.check
        (fun name _ => ⟨name, Interpreted.construct c⟩)
        (fun name => brief "created reflective constructor injector" name c.display c.fingerprint)

def propertyInvoker (factory : Factory) (naming : Naming) (p : Property σ ε) :
    Synthesis (PropertyInvoker σ ε) :=
  match factory.strategy with
  | .compiled =>
      factory.finish naming "property" (Compiled.PropertyPlan.compile p)
        (fun name plan => ⟨name, plan.run⟩)
        (fun name => full "synthesized property injector" name p.declaring.name p.display
          p.fingerprint [("property_type", .text p.type.display)])
  | .interpreted =>
      factory.finish naming "property" p.checkSetter
        (fun name setter => ⟨name, Interpreted.assign p setter⟩)
        (fun name => brief "created reflective property injector" name p.display p.fingerprint)

def methodInvoker (factory : Factory) (naming : Naming) (m : Method σ ε) :
    Synthesis (MethodInvoker σ ε) :=
  match factory.strategy with
  | .compiled =>
      factory.finish naming "method" (Compiled.MethodPlan.compile m)
        (fun name plan => ⟨name, plan.run⟩)
        (fun name => full "synthesized method injector" name m.declaring.name m.display
          m.fingerprint
          [("arity", .number m.params.length), ("returns", .text (m.returnName.getD "()")),
           ("dispatch", .text m.dispatch.inspect)])
  | .interpreted =>
      factory.finish naming "method" m.checkRoute
        (fun name _ => ⟨name, Interpreted.call m⟩)
        (fun name => brief "created reflective method injector" name m.display m.fingerprint)

end Factory

end LateBinding
