import LateBinding.Invoke.Interpreted

/-!
What a call is refused for, and in which order. The obstacles of a call are
listed one by one, each a condition on the target, the arguments and the objects
that is said without a plan; the first of them that stands decides. The checks of
targets and arguments stop exactly at these.
-/

namespace LateBinding

variable {σ ε : Type}

/-- A condition on a call, and what the call is refused with if it holds. -/
structure Obstacle (ε : Type) where
  stands : Bool
  error : InvokeError ε

def ObjectRef.IsA (object : ObjectRef σ ε) (type : NativeType) : Prop :=
  ∃ ancestor ∈ object.runtimeClass.ancestors, ancestor.native = type

instance (object : ObjectRef σ ε) (type : NativeType) : Decidable (object.IsA type) :=
  inferInstanceAs (Decidable (∃ ancestor ∈ object.runtimeClass.ancestors, ancestor.native = type))

/-- Boxed values are instances of a value class of exactly their type, objects of
the reference classes that they derive from. -/
def Datum.InstanceOf (c : RuntimeClass σ ε) : Datum σ ε → Prop
  | .null => False
  | .value boxed => c.kind = .value ∧ boxed.native = c.native
  | .object ref => c.kind = .reference ∧ ref.IsA c.native

instance (c : RuntimeClass σ ε) : (target : Datum σ ε) → Decidable (target.InstanceOf c)
  | .null => .isFalse id
  | .value boxed => inferInstanceAs (Decidable (c.kind = .value ∧ boxed.native = c.native))
  | .object ref => inferInstanceAs (Decidable (c.kind = .reference ∧ ref.IsA c.native))

/-- A value parameter admits boxed values of exactly its type, a reference
parameter objects that derive from its type, and null if it is nullable. -/
def ParamType.Admits : ParamType → Datum σ ε → Prop
  | .value native _, .value boxed => boxed.native = native
  | .reference native _, .object ref => ref.IsA native
  | .reference _ nullable, .null => nullable = true
  | .value .., .null | .value .., .object _ | .reference .., .value _ => False

instance : (type : ParamType) → (datum : Datum σ ε) → Decidable (type.Admits datum)
  | .value native _, .value boxed => inferInstanceAs (Decidable (boxed.native = native))
  | .reference native _, .object ref => inferInstanceAs (Decidable (ref.IsA native))
  | .reference _ nullable, .null => inferInstanceAs (Decidable (nullable = true))
  | .value .., .null | .value .., .object _ | .reference .., .value _ => .isFalse id

def Datum.sameObject : Datum σ ε → Datum σ ε → Bool
  | .object a, .object b => a.same b
  | _, _ => false

def Method.lacksBody (m : Method σ ε) (target : Datum σ ε) : Bool :=
  match m.dispatch, target with
  | .virtual slot, .object ref => ((ref.runtimeClass.resolve slot).bind (·.body)).isNone
  | _, _ => false

/-- What a body with this receiver works on: the box itself, or what the receiver
finds in the object. -/
def Receiver.reach? (receiver : Receiver σ) (heap : Heap σ) (target : Datum σ ε) :
    Option (Loan σ) :=
  match receiver, target with
  | .value .., .value boxed => some (.ofWhole boxed)
  | .object upcast _, .object ref =>
      (heap.content? ref).bind fun whole => (upcast whole).bind (Loan.take? whole)
  | _, _ => none

namespace Obstacle

def verdict (obstacles : List (Obstacle ε)) : Except (InvokeError ε) Unit :=
  match obstacles.find? (·.stands) with
  | some obstacle => .error obstacle.error
  | none => .ok ()

def ofTarget (c : RuntimeClass σ ε) (target : Datum σ ε) : Obstacle ε :=
  ⟨decide (¬ target.InstanceOf c), .typeMismatch .target c.name target.typeName⟩

def ofCount (types : List ParamType) (arguments : List (Datum σ ε)) : Obstacle ε :=
  ⟨decide (types.length ≠ arguments.length), .arityMismatch types.length arguments.length⟩

def ofArgument (position : Position) (type : ParamType) (datum : Datum σ ε) : Obstacle ε :=
  ⟨decide (¬ type.Admits datum), .typeMismatch position type.name datum.typeName⟩

def ofArgumentsFrom (index : Nat) (types : List ParamType) (arguments : List (Datum σ ε)) :
    List (Obstacle ε) :=
  ((types.zip arguments).zipIdx index).map fun entry =>
    ofArgument (.argument entry.2) entry.1.1 entry.1.2

def ofArguments (types : List ParamType) (arguments : List (Datum σ ε)) : List (Obstacle ε) :=
  ofCount types arguments :: ofArgumentsFrom 0 types arguments

def ofSlot (m : Method σ ε) (target : Datum σ ε) : Obstacle ε :=
  ⟨m.lacksBody target, .abstractMethod m.name target.typeName⟩

def ofAlias (target : Datum σ ε) (entry : Position × Datum σ ε) : Obstacle ε :=
  ⟨target.sameObject entry.2, .aliasedTarget entry.1⟩

/-- Arguments that are the target, from left to right, then a target that does not
lend what the body works on. -/
def ofLoan (receiver : Receiver σ) (heap : Heap σ) (target : Datum σ ε)
    (entries : List (Position × Datum σ ε)) : List (Obstacle ε) :=
  entries.map (ofAlias target) ++
    [⟨(receiver.reach? heap target).isNone, .typeMismatch .target receiver.name target.typeName⟩]

theorem ofArgumentsFrom_cons (index : Nat) (type : ParamType) (types : List ParamType)
    (datum : Datum σ ε) (rest : List (Datum σ ε)) :
    ofArgumentsFrom index (type :: types) (datum :: rest) =
      ofArgument (.argument index) type datum :: ofArgumentsFrom (index + 1) types rest :=
  rfl

theorem verdict_cons (first : Obstacle ε) (rest : List (Obstacle ε)) :
    verdict (first :: rest) = if first.stands then .error first.error else verdict rest := by
  cases stands : first.stands <;> simp [verdict, stands]

theorem verdict_append (front back : List (Obstacle ε)) :
    verdict (front ++ back) = (verdict front).bind fun _ => verdict back := by
  unfold verdict
  rw [List.find?_append]
  cases front.find? (·.stands) <;> rfl

theorem verdict_cons_eq_bind (first : Obstacle ε) (rest : List (Obstacle ε)) :
    verdict (first :: rest) = (verdict [first]).bind fun _ => verdict rest :=
  verdict_append [first] rest

theorem instanceOf_of_verdict {c : RuntimeClass σ ε} {target : Datum σ ε} {rest : List (Obstacle ε)}
    (clear : verdict (ofTarget c target :: rest) = .ok ()) : target.InstanceOf c := by
  rw [verdict_cons] at clear
  split at clear
  · cases clear
  · next inside => simpa [ofTarget] using inside

theorem verdict_of_cons {first : Obstacle ε} {rest : List (Obstacle ε)}
    (clear : verdict (first :: rest) = .ok ()) : verdict rest = .ok () := by
  rw [verdict_cons] at clear
  split at clear
  · cases clear
  · exact clear

theorem mem_of_verdict {obstacles : List (Obstacle ε)} {error : InvokeError ε}
    (refused : verdict obstacles = .error error) :
    ∃ obstacle ∈ obstacles, obstacle.stands ∧ obstacle.error = error := by
  unfold verdict at refused
  split at refused
  · next obstacle found =>
      cases refused
      exact ⟨obstacle, List.mem_of_find?_eq_some found, List.find?_some found, rfl⟩
  · cases refused

theorem stands_of_verdict {obstacles : List (Obstacle ε)} (clear : verdict obstacles = .ok ())
    {obstacle : Obstacle ε} (member : obstacle ∈ obstacles) : obstacle.stands = false := by
  unfold verdict at clear
  split at clear
  · cases clear
  · next none => simpa using List.find?_eq_none.mp none obstacle member

/-- Refusals that a list of obstacles leads to, and what holds if none stands. -/
def Decides (obstacles : List (Obstacle ε)) (refused : InvokeError ε → Prop) (granted : Prop) : Prop :=
  match verdict obstacles with
  | .error error => refused error
  | .ok _ => granted

theorem decides_append (front back : List (Obstacle ε)) (refused : InvokeError ε → Prop)
    (granted : Prop) :
    Decides (front ++ back) refused granted ↔
      Decides front refused (Decides back refused granted) := by
  unfold Decides
  rw [verdict_append]
  cases verdict front <;> rfl

theorem decides_cons (first : Obstacle ε) (rest : List (Obstacle ε))
    (refused : InvokeError ε → Prop)
    (granted : Prop) :
    Decides (first :: rest) refused granted ↔
      if first.stands then refused first.error else Decides rest refused granted := by
  unfold Decides
  rw [verdict_cons]
  cases first.stands <;> rfl

theorem decides_nil (refused : InvokeError ε → Prop) (granted : Prop) :
    Decides [] refused granted ↔ granted :=
  Iff.rfl

end Obstacle

theorem ObjectRef.derivesFrom_iff (object : ObjectRef σ ε) (type : NativeType) :
    object.derivesFrom type = true ↔ object.IsA type := by
  simp [derivesFrom, RuntimeClass.derivesFrom, IsA]

namespace Interpreted

open Obstacle

theorem fits_iff (c : RuntimeClass σ ε) (target : Datum σ ε) :
    fits c target = true ↔ target.InstanceOf c := by
  cases target with
  | null => simp [fits, Datum.InstanceOf]
  | value boxed => simp [fits, Datum.InstanceOf]
  | object ref => simp [fits, Datum.InstanceOf, ref.derivesFrom_iff]

theorem checkTarget_eq_verdict (c : RuntimeClass σ ε) (target : Datum σ ε) :
    checkTarget c target = verdict [ofTarget c target] := by
  rw [verdict_cons, checkTarget]
  by_cases inside : target.InstanceOf c
  · have fit := (fits_iff c target).mpr inside
    simp [ofTarget, inside, fit, verdict]
  · have unfit : fits c target = false := by
      cases fit : fits c target with
      | false => rfl
      | true => exact absurd ((fits_iff c target).mp fit) inside
    simp [ofTarget, inside, unfit]

theorem marshal_eq_ite (type : ParamType) (position : Position) (datum : Datum σ ε) :
    marshal type position datum =
      if type.Admits datum then .ok datum.argument
      else .error (.typeMismatch position type.name datum.typeName) := by
  cases type with
  | value native declaredName =>
      cases datum with
      | null => rfl
      | value boxed =>
          by_cases same : boxed.native = native <;>
            simp [marshal, ParamType.Admits, same, Datum.argument]
      | object ref => rfl
  | reference native nullable =>
      cases datum with
      | null => cases nullable <;> rfl
      | value boxed => cases nullable <;> rfl
      | object ref =>
          have derives := ref.derivesFrom_iff native
          by_cases isA : ref.IsA native <;>
            simp [marshal, ParamType.Admits, isA, derives, Datum.argument]

theorem marshal_eq_verdict (type : ParamType) (position : Position) (datum : Datum σ ε) :
    marshal type position datum =
      (verdict [ofArgument position type datum]).map fun _ => datum.argument := by
  rw [marshal_eq_ite, verdict_cons]
  by_cases admits : type.Admits datum <;> simp [ofArgument, admits, verdict, Except.map]

theorem marshalFrom_eq_verdict (index : Nat) (types : List ParamType) (arguments : List (Datum σ ε))
    (count : types.length = arguments.length) :
    marshalFrom index types arguments =
      (verdict (ofArgumentsFrom index types arguments)).map fun _ =>
        arguments.map Datum.argument := by
  induction types generalizing index arguments with
  | nil =>
      cases arguments with
      | nil => rfl
      | cons _ _ => cases count
  | cons type types ih =>
      cases arguments with
      | nil => cases count
      | cons datum rest =>
          -- Positions are counted along, so the later arguments start one further.
          have later := ih (index + 1) rest (Nat.succ.inj count)
          rw [marshalFrom, marshal_eq_ite, later, ofArgumentsFrom_cons, verdict_cons]
          by_cases admits : type.Admits datum
          · simp only [admits, ofArgument, if_true, not_true, decide_false, Bool.false_eq_true,
              if_false]
            cases verdict (ofArgumentsFrom (index + 1) types rest) <;> rfl
          · simp [admits, ofArgument, Except.map]

theorem marshalAll_eq_verdict (types : List ParamType) (arguments : List (Datum σ ε)) :
    marshalAll types arguments =
      (verdict (ofArguments types arguments)).map fun _ => arguments.map Datum.argument := by
  rw [marshalAll, ofArguments, verdict_cons]
  by_cases count : types.length = arguments.length
  · simp [count, ofCount, marshalFrom_eq_verdict 0 types arguments count]
  · simp [count, ofCount, Except.map]

end Interpreted

end LateBinding
