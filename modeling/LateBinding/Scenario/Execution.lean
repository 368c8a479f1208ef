import LateBinding.Scenario.State

/-!
Running scenarios. Every step yields a report; a step that fails binds no name.
-/

namespace LateBinding.Scenario

structure Reply where
  state : State
  report : Report

namespace State

def reply (state : State) (answer : Answer) : Reply :=
  ⟨state, answer, [], []⟩

def replyWith (state : State) (runs : List (Run Content)) (answer : Answer) : Reply :=
  ⟨state, answer, runs.flatMap (·.lines), []⟩

/-! Classes and descriptors. -/

def declare (registration : Registration Content String) :
    MemberDeclaration → Registration Content String
  | .constructor params script template =>
      registration.constructor (script.constructor params template)
  | .property name type script => registration.property name (script.setter type)
  | .readOnly name type => registration.readOnlyProperty name type
  | .method name params returns isVirtual shared script =>
      let function := script.method params
      let routine := (if shared then function.shared else function).fallible
      registration.method name returns (if isVirtual then .virtual routine else .direct routine)
  | .abstract name params returns => registration.method name returns (.abstract params)

def registration (declaration : ClassDeclaration) (base : Option (RuntimeClass Content String)) :
    Registration Content String :=
  let start := (Registration.start declaration.name declaration.native declaration.kind).modified
    declaration.modifiers
  let start := match base with
    | none => start
    | some base => start.extending base
  declaration.members.foldl declare start

def register? (state : State) (bind : String) (declaration : ClassDeclaration) : Option Reply := do
  let base ← match declaration.base with
    | none => some none
    | some name => (state.classes.lookup name).map fun c => some c.runtimeClass
  match (registration declaration base).build with
  | .error error => return state.reply (.registered (.error error))
  | .ok c =>
      let after := { state with classes := state.classes.put bind c }
      return after.reply (.registered (.ok c))

def find (c : RegisteredClass Content String) : Query → Option String
  | .arity count => (c.constructorOfArity? count).map (·.display)
  | .property name => (c.propertyNamed? name).map (·.display)
  | .method name => (c.methodNamed? name).map (·.display)

def setterFrom? (state : State) :
    BodySource (Receiver Content) → Option (Option (SetterBody Content String))
  | .absent => some none
  | .of member =>
      match state.member? member with
      | some (.property property) => some property.setter
      | _ => none
  | .script script receiver => some (some (script.rawSetter receiver))

def methodBodyFrom? (state : State) :
    BodySource (Receiver Content) → Option (Option (MethodBody Content String))
  | .absent => some none
  | .of member =>
      match state.member? member with
      | some (.method method) => some method.body
      | _ => none
  | .script script receiver => some (some (script.rawMethod receiver))

def constructorBodyFrom? (state : State) :
    BodySource CreationShape → Option (ConstructorBody Content String)
  | .absent => none
  | .of member =>
      match state.member? member with
      | some (.constructor constructor) => some constructor.body
      | _ => none
  | .script script shape => do
      let content ← (← state.eval? shape.content).value?
      return script.rawConstructor shape.produces ⟨shape.makes, content⟩

def descriptor? (state : State) (declaring : RuntimeClass Content String) :
    Definition → Option Descriptor
  | .constructor params body => do
      return .constructor ⟨declaring, params, ← state.constructorBodyFrom? body⟩
  | .property name type body => do
      return .property ⟨declaring, name, type, ← state.setterFrom? body⟩
  | .method name params returns slot body => do
      let dispatch := match slot with
        | none => .direct
        | some slot => .virtual slot.fingerprint
      return .method ⟨declaring, name, params, returns, dispatch, ← state.methodBodyFrom? body⟩

def define? (state : State) (bind className : String) (definition : Definition) :
    Option Reply := do
  let declaring ← state.classes.lookup className
  let descriptor ← state.descriptor? declaring.runtimeClass definition
  let after := { state with descriptors := state.descriptors.put bind descriptor }
  return after.reply (.member descriptor)

/-! Invokers. -/

/-- Keeps a new invoker, if the factory made one. The name is told if it is
reproducible: names are counted from the start of the scenario, or untagged. -/
def keep {α : Type} (state : State) (bind : String) (told : Bool) (synthesis : Synthesis α)
    (any : α → AnyInvoker) : Reply :=
  let counted := { state with naming := synthesis.naming }
  match synthesis.answer with
  | .error error => ⟨counted, .rejected error, [], synthesis.events⟩
  | .ok made =>
      let invoker := any made
      let name := if told then some (invoker.name, invoker.inspect) else none
      ⟨{ counted with invokers := counted.invokers.put bind invoker }, .invoker name, [],
        synthesis.events⟩

def synthesize (state : State) (told : Bool) (bind : String) (factory : Factory) :
    Descriptor → Reply
  | .constructor member =>
      state.keep bind told (factory.constructorInvoker state.naming member) .constructor
  | .property member =>
      state.keep bind told (factory.propertyInvoker state.naming member) .property
  | .method member =>
      state.keep bind told (factory.methodInvoker state.naming member) .method

/-- Invokers around fixed functions: the first argument is the result, the value
or the last argument replaces the target. -/
def customInvoker (name : String) : MemberSort → AnyInvoker
  | .constructor => .constructor ⟨name, fun heap arguments =>
      match arguments with
      | first :: _ => ⟨.ok first, heap, []⟩
      | [] => .refused heap (.arityMismatch 1 0)⟩
  | .property => .property ⟨name, fun heap _ value => ⟨⟨.ok (), heap, []⟩, value⟩⟩
  | .method => .method ⟨name, fun heap _ arguments =>
      ⟨⟨.ok (), heap, []⟩, arguments.getLast?.getD .null⟩⟩

def custom (state : State) (bind : String) (sort : MemberSort) (name : String) : Reply :=
  let invoker := customInvoker name sort
  { state with invokers := state.invokers.put bind invoker }.reply
    (.invoker (some (invoker.name, invoker.inspect)))

def share? (state : State) (invoker bind : String) : Option Reply := do
  let shared ← state.invokers.lookup invoker
  return { state with invokers := state.invokers.put bind shared }.reply .done

/-! Calls. -/

def complete (state : State) (target : Expr) (completion : Completion Content String) : Reply :=
  let after := { state.keepTarget target completion.target with heap := completion.heap }
  after.replyWith completion.runs (.completed completion.answer (after.snapshot completion.target))

def construct? (state : State) (invoker : String) (arguments : List Expr)
    (bind : Option String) : Option Reply := do
  let .constructor invoker ← state.invokers.lookup invoker | none
  let outcome := invoker.invoke state.heap (← state.evalAll? arguments)
  let after := { state with heap := outcome.heap }
  match outcome.answer with
  | .error error => return after.replyWith outcome.runs (.constructed (.error error))
  | .ok datum =>
      return (after.bindValue bind datum).replyWith outcome.runs
        (.constructed (.ok (after.snapshot datum)))

def assign? (state : State) (invoker : String) (target value : Expr) : Option Reply := do
  let .property invoker ← state.invokers.lookup invoker | none
  return state.complete target
    (invoker.invoke state.heap (← state.eval? target) (← state.eval? value))

def call? (state : State) (invoker : String) (target : Expr) (arguments : List Expr) :
    Option Reply := do
  let .method invoker ← state.invokers.lookup invoker | none
  return state.complete target
    (invoker.invoke state.heap (← state.eval? target) (← state.evalAll? arguments))

/-- One caller after the other makes all of its calls, each on a target of its
own to begin with. Counts the calls that succeed. -/
def repeatCall (invoker : MethodInvoker Content String) (arguments : List (Datum Content String)) :
    Nat → Heap Content → Datum Content String → Nat × Heap Content
  | 0, heap, _ => (0, heap)
  | times + 1, heap, target =>
      let completion := invoker.invoke heap target arguments
      let later := repeatCall invoker arguments times completion.heap completion.target
      ((if completion.answer.isOk then 1 else 0) + later.1, later.2)

def crowdCalls (invoker : MethodInvoker Content String) (arguments : List (Datum Content String))
    (target : Datum Content String) (times : Nat) : Nat → Heap Content → Nat × Heap Content
  | 0, heap => (0, heap)
  | callers + 1, heap =>
      let first := repeatCall invoker arguments times heap target
      let later := crowdCalls invoker arguments target times callers first.2
      (first.1 + later.1, later.2)

def crowd? (state : State) (invoker : String) (target : Expr) (arguments : List Expr)
    (callers times : Nat) : Option Reply := do
  let .method invoker ← state.invokers.lookup invoker | none
  let target ← state.eval? target
  let result := crowdCalls invoker (← state.evalAll? arguments) target times callers state.heap
  let after := { state with heap := result.2 }
  return after.reply (.crowded result.1 (after.snapshot target))

/-! Bodies without an invoker. -/

def made (creation : Creation Content) : Kind × Made :=
  (creation.kind, match creation.kind with
    | .value => .value creation.content
    | .reference => .object creation.content.native)

def construction? (state : State) (member : MemberReference) (arguments : List Expr) :
    Option Reply := do
  let .constructor member ← state.member? member | none
  let arguments ← state.evalAll? arguments
  let outcome := member.body.act state.heap (arguments.map Datum.argument)
  return { state with heap := outcome.heap }.replyWith outcome.runs
    (.made (outcome.answer.map made))

def assignment? (state : State) (member : MemberReference) (target value : Expr) :
    Option Reply := do
  let .property member ← state.member? member | none
  let setter ← member.setter
  let value ← state.eval? value
  return state.complete target (setter.set state.heap (← state.eval? target) value.argument)

def invocation? (state : State) (member : MemberReference) (target : Expr)
    (arguments : List Expr) : Option Reply := do
  let .method member ← state.member? member | none
  let body ← member.body
  let arguments ← state.evalAll? arguments
  return state.complete target
    (body.call state.heap (← state.eval? target) (arguments.map Datum.argument))

/-! Values. -/

def instantiate? (state : State) (className : String) (template : Value)
    (bind : Option String) : Option Reply := do
  let c ← state.classes.lookup className
  match c.runtimeClass.instantiate state.heap template with
  | .error error => return state.reply (.instantiated (.error error))
  | .ok (object, heap) =>
      let after := { state with heap }
      return (after.bindValue bind (.object object)).reply
        (.instantiated (.ok (after.snapshot (.object object))))

def unbox? (state : State) (value : Expr) (type : NativeType) : Option Reply := do
  let datum ← state.eval? value
  return state.reply (.unboxed (datum.unbox type) (datum.valueAs? type))

def takeOut? (state : State) (value : Expr) (type : NativeType) : Option Reply := do
  let datum ← state.eval? value
  let _ ← datum.value?
  return state.reply (.takenOut (datum.valueAs? type) (state.snapshot datum))

def overwrite? (state : State) (target : Expr) (type : NativeType) (value : Expr) :
    Option Reply := do
  let before ← state.eval? target
  let content ← (← state.eval? value).value?
  match before.overwrite? type content with
  | none => return state.reply (.overwritten false (state.snapshot before))
  | some target' =>
      return (state.keepTarget target target').reply (.overwritten true (state.snapshot target'))

def part? (state : State) (object : ObjectRef Content String) (type : NativeType) : Option Value :=
  (state.heap.content? object).bind (·.viewAs? type)

def found (state : State) (object : ObjectRef Content String) (type : NativeType) : Found :=
  ⟨object.handle, type, state.part? object type, object.same object⟩

def noted (state : State) (object : ObjectRef Content String) (type : NativeType) :
    Option String → State
  | none => state
  | some line =>
      { state with
        heap := (state.heap.modifyAs? object type (Value.note line)).getD state.heap }

/-- Looks for an object of a type behind a value. The name is bound to the object if
there is one, and otherwise, where it may be null, to null. -/
def downcast? (state : State) (value : Expr) (type : NativeType) (note bind : Option String)
    (nullable : Bool) : Option Reply := do
  let datum ← state.eval? value
  match datum.downcast? type with
  | some object =>
      let after := (state.noted object type note).bindValue bind (.object object)
      return after.reply (.downcast (some (after.found object type)) true (bind.map after.shown))
  | none =>
      let after := if nullable then state.bindValue bind .null else state
      return after.reply (.downcast none datum.object?.isSome (bind.map after.shown))

def same? (state : State) (left right : Expr) : Option Reply := do
  let left ← (← state.eval? left).object?
  let right ← (← state.eval? right).object?
  return state.reply (.same (left.same right))

def converted (state : State) (type : ParamType) (argument : Argument Content) : Converted :=
  match argument with
  | .null => .null
  | .value boxed => .value boxed
  | .object handle =>
      .reference handle type.native (state.heap.readAs? handle type.native)

def convert? (state : State) (value : Expr) (type : ParamType) : Option Reply := do
  let argument := (← state.eval? value).argument
  return state.reply
    (.converted ((type.convert argument).map (state.converted type)) argument)

/-- Looks at a bare instance as a type, then records a line on the part that is
lent as that type. -/
def view (state : State) (template : Value) (type : NativeType) : Reply :=
  let tag := (template.viewAs? type).map Value.tag
  match template.borrowAs? type with
  | none => state.reply (.viewed tag false template)
  | some loan =>
      state.reply (.viewed tag true (loan.putBack (Value.note "upcast" loan.part)))

def lend? (state : State) (receiver : Receiver Content) (target : Expr) (note : String)
    (linked : List (Position × Expr)) : Option Reply := do
  let datum ← state.eval? target
  let handles ← linked.mapM fun entry => do
    let object ← (← state.eval? entry.2).object?
    return (entry.1, object.handle)
  return state.complete target (receiver.apply state.heap datum handles fun part =>
    { answer := .ok (), heap := state.heap, runs := [], receiver := Value.note note part })

end State

/-- Runs one step. `counted` says that names of invokers are counted from the
start of the scenario. -/
def Step.run? (counted : Bool) (state : State) : Step → Option Reply
  | .register name declaration => state.register? name declaration
  | .describe className =>
      (state.classes.lookup className).map fun c => state.reply (.described c)
  | .find className query =>
      (state.classes.lookup className).map fun c => state.reply (.found (State.find c query))
  | .resolve className slot =>
      (state.classes.lookup className).map fun c =>
        state.reply (.resolved slot.fingerprint (c.runtimeClass.resolve slot.fingerprint))
  | .member reference =>
      (state.member? reference).map fun descriptor => state.reply (.member descriptor)
  | .derives className type =>
      (state.classes.lookup className).map fun c =>
        state.reply (.derives (c.runtimeClass.derivesFrom type))
  | .define name className definition => state.define? name className definition
  | .synthesize name factory reference =>
      (state.member? reference).map fun descriptor =>
        state.synthesize (counted || !factory.options.tagged) name factory descriptor
  | .custom name sort title => some (state.custom name sort title)
  | .share invoker name => state.share? invoker name
  | .bind name value =>
      (state.eval? value).map fun datum =>
        (state.bindValue (some name) datum).reply (.bound (state.snapshot datum))
  | .construct invoker arguments name => state.construct? invoker arguments name
  | .assign invoker target value => state.assign? invoker target value
  | .call invoker target arguments => state.call? invoker target arguments
  | .crowd invoker target arguments callers times =>
      state.crowd? invoker target arguments callers times
  | .construction reference arguments => state.construction? reference arguments
  | .assignment reference target value => state.assignment? reference target value
  | .invocation reference target arguments => state.invocation? reference target arguments
  | .instantiate className template name => state.instantiate? className template name
  | .inspect value =>
      (state.eval? value).map fun datum => state.reply (.inspected datum (state.snapshot datum))
  | .unbox value type => state.unbox? value type
  | .takeOut value type => state.takeOut? value type
  | .overwrite target type value => state.overwrite? target type value
  | .downcast value type note name nullable => state.downcast? value type note name nullable
  | .same left right => state.same? left right
  | .convert value type => state.convert? value type
  | .view template type => some (state.view template type)
  | .receiver shape => some (state.reply (.receiver shape))
  | .lend shape target note linked => state.lend? shape target note linked

def Step.run (counted : Bool) (state : State) (step : Step) : Reply :=
  (step.run? counted state).getD (state.reply .malformed)

def runFrom (counted : Bool) : State → List Step → List Report
  | _, [] => []
  | state, step :: rest =>
      let reply := step.run counted state
      reply.report :: runFrom counted reply.state rest

def run (counted : Bool) (steps : List Step) : List Report :=
  runFrom counted .initial steps

end LateBinding.Scenario
