import LateBinding.NativeType

/-!
Instances of native types. A derived instance embeds an instance of its base
type and shows it to readers; a part may hold further instances beside that one,
which it does not show. What a part lends to writers it chooses for itself: the
base that it shows, some other instance inside it, or none. To show or to lend
changes nothing. What a part keeps besides is left open as `σ`.
-/

namespace LateBinding

/-- A turn on the way into an instance: to the base that its outermost part
shows, or to one of the instances that this part holds beside it. -/
inductive Turn where
  | base
  | aside (index : Nat)
  deriving DecidableEq

abbrev Place := List Turn

structure Part (σ : Type) where
  native : NativeType
  state : σ
  /-- The place of the instance that is lent for writing, empty if there is none. -/
  lends : Place
  deriving DecidableEq

inductive Instance (σ : Type) where
  | root (part : Part σ)
  | derived (part : Part σ) (base : Instance σ)
  /-- One more instance that the outermost part of the whole holds. -/
  | holding (whole aside : Instance σ)
  deriving DecidableEq

namespace Instance

variable {σ : Type}

def outer : Instance σ → Part σ
  | .root part | .derived part _ => part
  | .holding whole _ => whole.outer

def native (whole : Instance σ) : NativeType :=
  whole.outer.native

def inspect (whole : Instance σ) : String :=
  "BoxedValue(" ++ whole.native.shortName ++ ")"

/-- The parts that readers are shown, outermost first. -/
def parts : Instance σ → List (Part σ)
  | .root part => [part]
  | .derived part base => part :: base.parts
  | .holding whole _ => whole.parts

def withOuter (part : Part σ) : Instance σ → Instance σ
  | .root _ => .root part
  | .derived _ base => .derived part base
  | .holding whole aside => .holding (whole.withOuter part) aside

def withNative (type : NativeType) (whole : Instance σ) : Instance σ :=
  whole.withOuter { whole.outer with native := type }

def mapState (f : σ → σ) (whole : Instance σ) : Instance σ :=
  whole.withOuter { whole.outer with state := f whole.outer.state }

/-- The instance seen as a type: from the first part of that type on. -/
def viewAs? (type : NativeType) : Instance σ → Option (Instance σ)
  | .root part => if part.native = type then some (.root part) else none
  | .derived part base =>
      if part.native = type then some (.derived part base) else base.viewAs? type
  | .holding whole aside =>
      if whole.native = type then some (.holding whole aside) else whole.viewAs? type

theorem native_withOuter (part : Part σ) (whole : Instance σ) :
    (whole.withOuter part).native = part.native := by
  induction whole with
  | root | derived => rfl
  | holding whole aside ih => exact ih

theorem native_withNative (type : NativeType) (whole : Instance σ) :
    (whole.withNative type).native = type :=
  native_withOuter _ whole

theorem withOuter_outer (whole : Instance σ) : whole.withOuter whole.outer = whole := by
  induction whole with
  | root | derived => rfl
  | holding whole aside ih => rw [outer, withOuter, ih]

theorem withNative_native (whole : Instance σ) : whole.withNative whole.native = whole :=
  withOuter_outer whole

theorem head?_natives (whole : Instance σ) :
    (whole.parts.map (·.native)).head? = some whole.native := by
  induction whole with
  | root | derived => rfl
  | holding whole aside ih => exact ih

theorem isSome_viewAs? (type : NativeType) (whole : Instance σ) :
    (whole.viewAs? type).isSome ↔ type ∈ whole.parts.map (·.native) := by
  induction whole with
  | root part =>
      by_cases same : part.native = type
      · simp [viewAs?, parts, same]
      · simp [viewAs?, parts, same, Ne.symm same]
  | derived part base ih =>
      by_cases same : part.native = type
      · simp [viewAs?, parts, same]
      · simpa [viewAs?, parts, same, Ne.symm same] using ih
  | holding whole aside ih =>
      by_cases same : whole.native = type
      · simpa only [viewAs?, same, ↓reduceIte, Option.isSome_some, true_iff] using
          List.mem_of_mem_head? (same ▸ head?_natives whole)
      · simpa [viewAs?, parts, same] using ih

theorem native_of_viewAs? {type : NativeType} {whole seen : Instance σ}
    (found : whole.viewAs? type = some seen) : seen.native = type := by
  induction whole with
  | root part =>
      simp only [viewAs?] at found
      split at found
      · next same => cases found; exact same
      · cases found
  | derived part base ih =>
      simp only [viewAs?] at found
      split at found
      · next same => cases found; exact same
      · exact ih found
  | holding whole aside ih =>
      simp only [viewAs?] at found
      split at found
      · next same => cases found; exact same
      · exact ih found

end Instance

end LateBinding
