/-!
Modifiers of a class. An abstract class has no instances and may leave virtual
slots empty; a sealed class is no base class.
-/

namespace LateBinding

structure Modifiers where
  isAbstract : Bool
  isSealed : Bool
  deriving DecidableEq

namespace Modifiers

def plain : Modifiers := ⟨false, false⟩

/-- Bit 0 is for abstract, bit 1 for sealed. -/
def bits (m : Modifiers) : Nat :=
  m.isAbstract.toNat + 2 * m.isSealed.toNat

def union (a b : Modifiers) : Modifiers :=
  ⟨a.isAbstract || b.isAbstract, a.isSealed || b.isSealed⟩

def inter (a b : Modifiers) : Modifiers :=
  ⟨a.isAbstract && b.isAbstract, a.isSealed && b.isSealed⟩

def diff (a b : Modifiers) : Modifiers :=
  ⟨a.isAbstract && !b.isAbstract, a.isSealed && !b.isSealed⟩

def isEmpty (m : Modifiers) : Bool :=
  m.bits == 0

def contains (a b : Modifiers) : Bool :=
  (b.diff a).isEmpty

def intersects (a b : Modifiers) : Bool :=
  !(a.inter b).isEmpty

def inspect (m : Modifiers) : String :=
  let names := (if m.isAbstract then ["ABSTRACT"] else []) ++
    (if m.isSealed then ["SEALED"] else [])
  "ClassFlags(" ++ (if names.isEmpty then "0x0" else " | ".intercalate names) ++ ")"

end Modifiers

end LateBinding
