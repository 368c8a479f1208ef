import LateBinding.Digest.Xxh64
import LateBinding.Text.Hex

/-!
64-bit identities of types and members, computed from names and signatures
alone. Every sort of entity has a domain word of its own; parameters are folded
in one by one, each with a marker for its position. Nothing here rules out
collisions of the digest itself.
-/

namespace LateBinding

open Digest

structure Fingerprint where
  word : UInt64
  deriving DecidableEq

namespace Fingerprint

def separator : UInt64 := 0x4bc94d6bd06053ad
def typeDomain : UInt64 := 0x2fac10b63a6cc57c
def slotDomain : UInt64 := 0x5ea77ffbcdf5f302
def methodDomain : UInt64 := 0x7d3c8b4a92e15f6d
def propertyDomain : UInt64 := 0x3e9f5d2a8c7b1403
def constructorDomain : UInt64 := 0x9a7f3d5e2b8c4601
def nullableMark : UInt64 := 0x6c8e9cf570932bd5

def markers : List UInt64 :=
  [0x9e3779b97f4a7c15, 0xbf58476d1ce4e5b9, 0x94d049bb133111eb, 0xd6e8feb86659fd93,
   0xe7037ed1a0b428db, 0xc6a4a7935bd1e995, 0x8648dbbc94d49b8d, 0xa2b48b2c69e0d657,
   0x7c3e9f2a5b8d1403, 0x5d8c7b4a3e9f2106, 0x3f1e9d8c7b5a4203, 0x1a2b3c4d5e6f7089,
   0x9f8e7d6c5b4a3210, 0x2468ace013579bdf, 0xfdb97531eca86420, 0x123456789abcdef0]

/-- The marker of a position. Positions past the table count on from its first word. -/
def marker (position : Nat) : UInt64 :=
  markers[position]?.getD (0x9e3779b97f4a7c15 + UInt64.ofNat position)

def mixFrom : Nat → UInt64 → List Fingerprint → UInt64
  | _, seed, [] => seed
  | position, seed, param :: rest =>
      mixFrom (position + 1) (seed * separator + (marker position ^^^ param.word)) rest

def mix (seed : UInt64) (params : List Fingerprint) : UInt64 :=
  mixFrom 0 seed params

theorem mixFrom_append (position : Nat) (seed : UInt64) (front back : List Fingerprint) :
    mixFrom position seed (front ++ back) =
      mixFrom (position + front.length) (mixFrom position seed front) back := by
  induction front generalizing position seed with
  | nil => rfl
  | cons param rest ih =>
      simp only [List.cons_append, mixFrom, ih, List.length_cons]
      rw [Nat.add_assoc, Nat.add_comm 1]

def empty : Fingerprint := ⟨0⟩

def isEmpty (hash : Fingerprint) : Bool :=
  hash.word == 0

def ofName (name : String) : Fingerprint :=
  ⟨typeDomain ^^^ Xxh64.ofText name⟩

/-- The form of a type that also admits null; taking it twice gives the type back. -/
def nullable (hash : Fingerprint) : Fingerprint :=
  ⟨hash.word ^^^ nullableMark⟩

/-- A virtual slot. The owner is left out, so that an override in a derived
class meets the declaration in its base class. -/
def ofSlot (name : String) (params : List Fingerprint) : Fingerprint :=
  ⟨mix (slotDomain ^^^ Xxh64.ofText name) params⟩

def ofMethod (owner : Fingerprint) (name : String) (params : List Fingerprint) : Fingerprint :=
  ⟨mix (methodDomain ^^^ owner.word ^^^ Xxh64.ofText name) params⟩

/-- Constructors have no name: owner and parameters identify them. -/
def ofConstructor (owner : Fingerprint) (params : List Fingerprint) : Fingerprint :=
  ⟨mix (constructorDomain ^^^ owner.word) params⟩

def ofProperty (owner : Fingerprint) (name : String) : Fingerprint :=
  ⟨propertyDomain ^^^ owner.word ^^^ Xxh64.ofText name⟩

def display (hash : Fingerprint) : String :=
  "0x" ++ Text.hex64 hash.word

def inspect (hash : Fingerprint) : String :=
  "TypeHash(" ++ hash.display ++ ")"

/-- Keeps an ascending list ascending; a fingerprint that is there already is not repeated. -/
def insertAscending (hash : Fingerprint) : List Fingerprint → List Fingerprint
  | [] => [hash]
  | first :: rest =>
      if hash.word < first.word then hash :: first :: rest
      else if hash = first then first :: rest
      else first :: insertAscending hash rest

def ascending (hashes : List Fingerprint) : List Fingerprint :=
  hashes.foldr insertAscending []

end Fingerprint

end LateBinding
