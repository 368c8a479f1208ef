import LateBinding.Proofs.Invoke.Agreement
import LateBinding.Proofs.Invoke.Marshalling
import LateBinding.Proofs.Invoke.Obstacle

/-!
How a datum gets to the function behind a parameter. It is checked twice, when it is
marshalled and when the body converts it. Together the checks undo boxing: the values of
the parameter type come through as they were boxed, and nothing else does.
-/

namespace LateBinding

variable {σ ε : Type}

/-- What a function may be passed for a parameter of a type: values of exactly the native
type, references to objects that derive from it, and no object where null is admitted. -/
inductive ParamType.Value (σ ε : Type) : ParamType → Type where
  | boxed {native : NativeType} {declaredName : String} (content : Instance σ)
      (own : content.native = native) : Value σ ε (.value native declaredName)
  | object {native : NativeType} {nullable : Bool} (ref : ObjectRef σ ε) (isA : ref.IsA native) :
      Value σ ε (.reference native nullable)
  | null {native : NativeType} : Value σ ε (.reference native true)

namespace ParamType.Value

def datum {type : ParamType} : type.Value σ ε → Datum σ ε
  | .boxed content _ => .value content
  | .object ref _ => .object ref
  | .null => .null

def argument {type : ParamType} : type.Value σ ε → Argument σ
  | .boxed content _ => .value content
  | .object ref _ => .object ref.handle
  | .null => .null

theorem argument_datum {type : ParamType} (value : type.Value σ ε) :
    value.datum.argument = value.argument := by
  cases value <;> rfl

end ParamType.Value

theorem ParamType.admits_iff (type : ParamType) (datum : Datum σ ε) :
    type.Admits datum ↔ ∃ value : type.Value σ ε, datum = value.datum := by
  constructor
  · intro admits
    cases type with
    | value native declaredName =>
        cases datum with
        | null => cases admits
        | value content => exact ⟨.boxed content admits, rfl⟩
        | object ref => cases admits
    | reference native nullable =>
        cases datum with
        | null =>
            obtain rfl : nullable = true := admits
            exact ⟨.null, rfl⟩
        | value content => cases admits
        | object ref => exact ⟨.object ref admits, rfl⟩
  · rintro ⟨value, rfl⟩
    cases value with
    | boxed content own => exact own
    | object ref isA => exact isA
    | null => exact rfl

namespace Strategy

def marshal (strategy : Strategy) (type : ParamType) (position : Position) (datum : Datum σ ε) :
    Except (InvokeError ε) (Argument σ) :=
  match strategy with
  | .compiled => (Compiled.Conversion.ofType type).run position datum
  | .interpreted => Interpreted.marshal type position datum

/-- Both checks: what was marshalled is converted by the body. -/
def receive (strategy : Strategy) (type : ParamType) (position : Position) (datum : Datum σ ε) :
    Except (InvokeError ε) (Argument σ) :=
  (strategy.marshal type position datum).bind (type.convertAt position)

theorem marshal_eq_convertAt (strategy : Strategy) (type : ParamType) (position : Position)
    (datum : Datum σ ε) :
    strategy.marshal type position datum = type.convertAt position datum.argument := by
  cases strategy with
  | compiled =>
      exact (Compiled.run_ofType type position datum).trans
        (Interpreted.marshal_eq_convertAt type position datum)
  | interpreted => exact Interpreted.marshal_eq_convertAt type position datum

-- What passed the first check is the argument unchecked, so the second one is the first
-- one over again.
theorem receive_eq_marshal (strategy : Strategy) (type : ParamType) (position : Position)
    (datum : Datum σ ε) :
    strategy.receive type position datum = strategy.marshal type position datum := by
  rw [receive, marshal_eq_convertAt]
  cases checked : type.convertAt position datum.argument with
  | error error => rfl
  | ok argument =>
      obtain rfl := ParamType.eq_of_convertAt checked
      exact checked

theorem receive_eq_ite (strategy : Strategy) (type : ParamType) (position : Position)
    (datum : Datum σ ε) :
    strategy.receive type position datum =
      if type.Admits datum then .ok datum.argument
      else .error (.typeMismatch position type.name datum.typeName) := by
  rw [receive_eq_marshal, marshal_eq_convertAt, ← Interpreted.marshal_eq_convertAt,
    Interpreted.marshal_eq_ite]

theorem receive_eq_ok_iff (strategy : Strategy) (type : ParamType) (position : Position)
    (datum : Datum σ ε) (argument : Argument σ) :
    strategy.receive type position datum = .ok argument ↔
      ∃ value : type.Value σ ε, datum = value.datum ∧ argument = value.argument := by
  rw [receive_eq_ite]
  constructor
  · intro passed
    split at passed
    · next admits =>
        cases passed
        obtain ⟨value, rfl⟩ := (type.admits_iff datum).mp admits
        exact ⟨value, rfl, value.argument_datum⟩
    · cases passed
  · rintro ⟨value, rfl, rfl⟩
    rw [if_pos ((type.admits_iff _).mpr ⟨value, rfl⟩), value.argument_datum]

-- The words are those of the conversion, put at the place in the call.
theorem receive_eq_conversion_iff (strategy : Strategy) (type : ParamType) (position : Position)
    (datum : Datum σ ε) (error : InvokeError ε) :
    strategy.receive type position datum = .error error ↔
      ∃ cause, type.convert datum.argument = .error cause ∧
        error = .ofConversion position cause := by
  rw [receive_eq_marshal, marshal_eq_convertAt, ParamType.convertAt]
  cases type.convert datum.argument with
  | error cause =>
      constructor
      · intro same
        cases same
        exact ⟨cause, rfl, rfl⟩
      · rintro ⟨_, same, rfl⟩
        cases same
        rfl
  | ok argument =>
      constructor
      · intro same
        cases same
      · rintro ⟨_, same, _⟩
        cases same

theorem receive_eq_mismatch_iff (strategy : Strategy) (type : ParamType) (position : Position)
    (datum : Datum σ ε) (error : InvokeError ε) :
    strategy.receive type position datum = .error error ↔
      (¬ ∃ value : type.Value σ ε, datum = value.datum) ∧
        error = .typeMismatch position type.name datum.typeName := by
  rw [receive_eq_ite, ← type.admits_iff]
  by_cases admits : type.Admits datum <;> simp [admits, eq_comm]

end Strategy

/-- A datum gets to a function as an argument exactly if it is a value of the parameter
type, boxed; the body never refuses what was marshalled; and a datum that is no such
value is refused in the words in which the body would refuse it unchecked. -/
theorem passing_undoes_boxing (strategy : Strategy) (type : ParamType) (position : Position)
    (datum : Datum σ ε) :
    (∀ argument, strategy.receive type position datum = .ok argument ↔
      ∃ value : type.Value σ ε, datum = value.datum ∧ argument = value.argument) ∧
    strategy.receive type position datum = strategy.marshal type position datum ∧
    (∀ error, strategy.receive type position datum = .error error ↔
      ∃ cause, type.convert datum.argument = .error cause ∧
        error = .ofConversion position cause) ∧
    ∀ error, strategy.receive type position datum = .error error ↔
      (¬ ∃ value : type.Value σ ε, datum = value.datum) ∧
        error = .typeMismatch position type.name datum.typeName :=
  ⟨strategy.receive_eq_ok_iff type position datum, strategy.receive_eq_marshal type position datum,
    strategy.receive_eq_conversion_iff type position datum,
    strategy.receive_eq_mismatch_iff type position datum⟩

-- A value type keeps the name that it was declared with in what it refuses.
example : Strategy.compiled.receive (.value ⟨4, "zoo::Meters"⟩ "length") .value
    (.null : Datum Unit String) = .error (.typeMismatch .value "length" "null") := rfl

end LateBinding
