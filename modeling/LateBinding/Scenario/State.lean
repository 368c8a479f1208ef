import LateBinding.Scenario.Answer

/-!
The state of a scenario: what its names are bound to, the objects, and the
naming of invokers.
-/

namespace LateBinding.Scenario

/-- Names and what they are bound to; the first binding of a name counts. -/
abbrev Bindings (α : Type) := List (String × α)

def Bindings.put {α : Type} (bindings : Bindings α) (name : String) (a : α) : Bindings α :=
  (name, a) :: bindings.filter fun entry => entry.1 != name

theorem Bindings.lookup_put {α : Type} (bindings : Bindings α) (name other : String) (a : α) :
    (bindings.put name a).lookup other =
      if other = name then some a else bindings.lookup other := by
  by_cases same : other = name
  · simp [put, same]
  · have differ : (other == name) = false := by simpa using same
    simp only [put, List.lookup_cons, differ, same, ↓reduceIte]
    induction bindings with
    | nil => rfl
    | cons first rest ih =>
        rcases first with ⟨key, old⟩
        by_cases known : key = name
        · have kept : (other == key) = false := known ▸ differ
          simpa [List.filter_cons, List.lookup_cons, known, differ] using ih
        · by_cases found : other = key
          · simp [known, found]
          · have missed : (other == key) = false := by simpa using found
            simpa [List.filter_cons, List.lookup_cons, known, missed] using ih

inductive AnyInvoker where
  | constructor (invoker : ConstructorInvoker Content String)
  | property (invoker : PropertyInvoker Content String)
  | method (invoker : MethodInvoker Content String)

namespace AnyInvoker

def name : AnyInvoker → String
  | .constructor invoker => invoker.name
  | .property invoker => invoker.name
  | .method invoker => invoker.name

def inspect : AnyInvoker → String
  | .constructor invoker => invoker.inspect
  | .property invoker => invoker.inspect
  | .method invoker => invoker.inspect

end AnyInvoker

structure State where
  classes : Bindings (RegisteredClass Content String)
  descriptors : Bindings Descriptor
  invokers : Bindings AnyInvoker
  values : Bindings (Datum Content String)
  heap : Heap Content
  naming : Naming

namespace State

def initial : State :=
  ⟨[], [], [], [], .empty, .first⟩

def bindValue (state : State) (name : Option String) (value : Datum Content String) : State :=
  match name with
  | none => state
  | some name => { state with values := state.values.put name value }

def eval? (state : State) : Expr → Option (Datum Content String)
  | .variable name => state.values.lookup name
  | .null => some .null
  | .value content => some (.value content)
  | .boxed inner =>
      match state.eval? inner with
      | some (.value content) => some (.value content)
      | _ => none

def evalAll? (state : State) (exprs : List Expr) : Option (List (Datum Content String)) :=
  exprs.mapM state.eval?

/-- A variable that was a target keeps what became of it; any other target is gone. -/
def keepTarget (state : State) (expr : Expr) (target : Datum Content String) : State :=
  match expr with
  | .variable name => { state with values := state.values.put name target }
  | _ => state

def snapshot (state : State) (value : Datum Content String) : Snapshot :=
  Scenario.snapshot state.heap value

def shown (state : State) (name : String) : Snapshot :=
  state.snapshot ((state.values.lookup name).getD .null)

def memberOf? (c : RegisteredClass Content String) (sort : MemberSort) (index : Nat) :
    Option Descriptor :=
  match sort with
  | .constructor => (c.constructors[index]?).map .constructor
  | .property => (c.properties[index]?).map .property
  | .method => (c.methods[index]?).map .method

def member? (state : State) : MemberReference → Option Descriptor
  | .ofClass className sort index =>
      (state.classes.lookup className).bind fun c => memberOf? c sort index
  | .defined name => state.descriptors.lookup name

end State

end LateBinding.Scenario
