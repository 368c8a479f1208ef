import LateBinding.Invoke.Interpreted

/-!
Marshalling against the conversions of bodies. A datum is marshalled to a
parameter type exactly as a body would convert the unchecked argument, down to
the wording of a mismatch, so arguments that passed once pass again; and what
passes is the argument as it was.
-/

namespace LateBinding

variable {σ ε : Type}

theorem ObjectRef.derivesFrom_handle (object : ObjectRef σ ε) (type : NativeType) :
    object.handle.derivesFrom type = object.derivesFrom type := by
  rw [Bool.eq_iff_iff]
  simp [handle, Handle.derivesFrom, derivesFrom, RuntimeClass.derivesFrom, RuntimeClass.lineage]

namespace Interpreted

theorem marshal_eq_convertAt (type : ParamType) (position : Position) (datum : Datum σ ε) :
    marshal type position datum = type.convertAt position datum.argument := by
  cases type with
  | value native declaredName =>
      cases datum with
      | null => rfl
      | value boxed =>
          by_cases same : boxed.native = native
          · simp only [marshal, ParamType.convertAt, ParamType.convert, Datum.argument, same,
              if_true]
            rfl
          · simp only [marshal, ParamType.convertAt, ParamType.convert, Datum.argument, same,
              if_false]
            rfl
      | object ref => rfl
  | reference native nullable =>
      cases datum with
      | null => cases nullable <;> rfl
      | value boxed => cases nullable <;> rfl
      | object ref =>
          simp only [marshal, ParamType.convertAt, ParamType.convert, Datum.argument,
            ref.derivesFrom_handle]
          cases ref.derivesFrom native <;> rfl

theorem marshalFrom_eq_convertFrom (index : Nat) {types : List ParamType}
    {arguments : List (Datum σ ε)} (count : types.length = arguments.length) :
    marshalFrom index types arguments =
      ParamType.convertFrom index types (arguments.map Datum.argument) := by
  induction types generalizing index arguments with
  | nil => rfl
  | cons type types ih =>
      cases arguments with
      | nil => cases count
      | cons datum rest =>
          rw [List.map_cons, marshalFrom, ParamType.convertFrom_cons, marshal_eq_convertAt,
            ih (index + 1) (Nat.succ.inj count)]
          cases type.convertAt (.argument index) datum.argument <;> rfl

theorem marshalAll_eq_convertAll (types : List ParamType) (arguments : List (Datum σ ε)) :
    marshalAll types arguments = ParamType.convertAll types (arguments.map Datum.argument) := by
  simp only [marshalAll, ParamType.convertAll, List.length_map]
  split
  · next count => exact marshalFrom_eq_convertFrom 0 count
  · rfl

end Interpreted

theorem ParamType.eq_of_convertAt {type : ParamType} {position : Position}
    {argument converted : Argument σ}
    (accepted : type.convertAt (ε := ε) position argument = .ok converted) :
    converted = argument := by
  unfold convertAt at accepted
  cases result : type.convert argument with
  | error error =>
      rw [result] at accepted
      cases accepted
  | ok own =>
      rw [result] at accepted
      cases accepted
      exact eq_of_convert result

end LateBinding
