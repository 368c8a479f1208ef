import LateBinding.Member
import LateBinding.Proofs.Fingerprint.Identity

/-!
What the fold of parameters keeps. The seed shifts the outcome by a multiple that the number
of parameters alone fixes, and no parameter is lost among the others. So two signatures of
one length meet from every seed or from none: in their slots, in the fingerprints of their
methods on each owner, and in those of their constructors. Signatures of different lengths
are left out; they may meet from one seed and not from another.
-/

namespace LateBinding

open Digest

variable {σ ε : Type}

namespace Fingerprint

/-- The seed counts as often as the parameters behind it ask, whatever they are. -/
theorem mixFrom_eq_add (position : Nat) (seed : UInt64) (params : List Fingerprint) :
    mixFrom position seed params =
      seed * separator ^ params.length + mixFrom position 0 params := by
  induction params generalizing position seed with
  | nil => rw [mixFrom, mixFrom, List.length_nil, UInt64.pow_zero, UInt64.mul_one, UInt64.add_zero]
  | cons param rest ih =>
      -- One step from the seed and one from zero leave seeds that differ by a factor more.
      rw [mixFrom, mixFrom, ih, ih _ (0 * separator + _), List.length_cons, UInt64.pow_succ]
      grind

theorem mixFrom_meet_iff {params others : List Fingerprint}
    (sameLength : params.length = others.length) (position : Nat) (seed seed' : UInt64) :
    mixFrom position seed params = mixFrom position seed others ↔
      mixFrom position seed' params = mixFrom position seed' others := by
  have alone (seed : UInt64) : mixFrom position seed params = mixFrom position seed others ↔
      mixFrom position 0 params = mixFrom position 0 others := by
    rw [mixFrom_eq_add position seed params, mixFrom_eq_add position seed others, sameLength,
      UInt64.add_right_inj]
  exact (alone seed).trans (alone seed').symm

theorem mixFrom_param_inj (position : Nat) (seed : UInt64) (front back : List Fingerprint)
    {param other : Fingerprint} :
    mixFrom position seed (front ++ param :: back) =
        mixFrom position seed (front ++ other :: back) ↔ param = other := by
  -- What stands in front is one seed for both, what stands behind loses no seed.
  rw [mixFrom_append, mixFrom_append, mixFrom, mixFrom, mixFrom_inj, UInt64.add_right_inj,
    UInt64.xor_right_inj]
  cases param
  cases other
  rw [mk.injEq]

/-! Slots, methods and constructors. -/

-- All three are `mix` of a seed of their own.
theorem mix_param_inj (seed : UInt64) (front back : List Fingerprint) {param other : Fingerprint} :
    mk (mix seed (front ++ param :: back)) = mk (mix seed (front ++ other :: back)) ↔
      param = other := by
  rw [mk.injEq, mix, mix, mixFrom_param_inj]

theorem ofSlot_name_iff (name name' : String) (params : List Fingerprint) :
    ofSlot name params = ofSlot name' params ↔ Xxh64.ofText name = Xxh64.ofText name' := by
  rw [ofSlot, ofSlot, mk.injEq, mix, mix, mixFrom_inj, UInt64.xor_right_inj]

theorem ofSlot_iff_ofMethod (owner : Fingerprint) (name : String) {params others : List Fingerprint}
    (sameLength : params.length = others.length) :
    ofSlot name params = ofSlot name others ↔
      ofMethod owner name params = ofMethod owner name others := by
  rw [ofSlot, ofSlot, ofMethod, ofMethod, mk.injEq, mk.injEq]
  exact mixFrom_meet_iff sameLength 0 _ _

theorem nullable_ne (hash : Fingerprint) : hash.nullable ≠ hash := by
  intro same
  have words : hash.word ^^^ nullableMark = hash.word ^^^ 0 := by
    rw [UInt64.xor_zero]
    exact congrArg word same
  exact absurd ((UInt64.xor_right_inj _).mp words) (by decide)

-- The two forms of a reference type share their name, and only the mark tells them apart.
theorem slot_ne_of_nullable (method : Method σ ε) (front back : List ParamType)
    (native : NativeType) :
    { method with params := front ++ ParamType.reference native true :: back }.slot ≠
      { method with params := front ++ ParamType.reference native false :: back }.slot := by
  simp only [Method.slot, ParamType.fingerprints, List.map_append, List.map_cons]
  intro same
  exact nullable_ne _ ((mix_param_inj _ _ _).mp same)

/-- The fold of parameters in full. It is injective in its seed and in each parameter, and
whether two lists of one length meet is no matter of the seed. So to change one parameter is
to change slot, method and constructor, and a reference parameter that comes to admit null
moves its method to another slot; slots with the same parameters meet as the digests of their
names do; and overloads of one arity meet in their slot exactly if they do as methods, on each
owner. The lists may be longer than the table of markers. -/
theorem folding_keeps_each_parameter :
    (∀ params, Function.Injective fun seed => mix seed params) ∧
    (∀ seed front back, Function.Injective fun param => mix seed (front ++ param :: back)) ∧
    (∀ params others : List Fingerprint, params.length = others.length → ∀ seed seed',
      (mix seed params = mix seed others ↔ mix seed' params = mix seed' others)) ∧
    (∀ owner name front back param other, param ≠ other →
      ofSlot name (front ++ param :: back) ≠ ofSlot name (front ++ other :: back) ∧
      ofMethod owner name (front ++ param :: back) ≠ ofMethod owner name (front ++ other :: back) ∧
      ofConstructor owner (front ++ param :: back) ≠ ofConstructor owner (front ++ other :: back)) ∧
    (∀ (method : Method σ ε) front back native,
      { method with params := front ++ ParamType.reference native true :: back }.slot ≠
        { method with params := front ++ ParamType.reference native false :: back }.slot) ∧
    (∀ name name' params, ofSlot name params = ofSlot name' params ↔
      Xxh64.ofText name = Xxh64.ofText name') ∧
    (∀ owner name (params others : List Fingerprint), params.length = others.length →
      (ofSlot name params = ofSlot name others ↔
        ofMethod owner name params = ofMethod owner name others)) := by
  refine ⟨?seeds, ?single, ?lists, ?changed, slot_ne_of_nullable, ofSlot_name_iff, ?overloads⟩
  case seeds => exact fun params seed seed' same => (mixFrom_inj 0 params).mp same
  case single =>
    exact fun seed front back param other same => (mixFrom_param_inj 0 seed front back).mp same
  case lists => exact fun params others sameLength => mixFrom_meet_iff sameLength 0
  case changed =>
    intro owner name front back param other differ
    have moves (seed : UInt64) := differ ∘ (mix_param_inj seed front back).mp
    exact ⟨moves _, moves _, moves _⟩
  case overloads => exact fun owner name params others => ofSlot_iff_ofMethod owner name

-- The last parameter changes behind all markers; and two overloads of one arity are compared
-- without their owner.
theorem wide_overloads_differ :
    ofName "i32" ≠ ofName "String" ∧
    ofSlot "wide" (List.replicate 19 (ofName "T") ++ [ofName "i32"]) ≠
      ofSlot "wide" (List.replicate 19 (ofName "T") ++ [ofName "String"]) ∧
    [ofName "i32", ofName "String"].length = [ofName "String", ofName "i32"].length ∧
    (ofSlot "put" [ofName "i32", ofName "String"] = ofSlot "put" [ofName "String", ofName "i32"] ↔
      ofMethod (ofName "Point") "put" [ofName "i32", ofName "String"] =
        ofMethod (ofName "Point") "put" [ofName "String", ofName "i32"]) := by
  obtain ⟨_, _, _, changed, _, _, overloads⟩ :=
    folding_keeps_each_parameter (σ := Unit) (ε := String)
  have differ : ofName "i32" ≠ ofName "String" := by decide +kernel
  have sameLength : [ofName "i32", ofName "String"].length =
      [ofName "String", ofName "i32"].length := by
    simp only [List.length_cons, List.length_nil]
  obtain ⟨moved, _⟩ := changed (ofName "Point") "wide" (List.replicate 19 (ofName "T")) []
    (ofName "i32") (ofName "String") differ
  exact ⟨differ, moved, sameLength, overloads (ofName "Point") "put" _ _ sameLength⟩

end Fingerprint

end LateBinding
