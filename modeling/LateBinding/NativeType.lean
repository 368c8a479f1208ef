/-!
Types of the host program. A type is known by its token; its full name, a path
with the segments set apart by double colons, serves people and fingerprints.
-/

namespace LateBinding

structure NativeType where
  token : Nat
  fullName : String
  deriving DecidableEq

namespace NativeType

/-- A reversed path up to the last double colon of the path. -/
def backToPathMark : List Char → List Char
  | ':' :: ':' :: _ => []
  | c :: rest => c :: backToPathMark rest
  | [] => []

def lastSegment (path : List Char) : List Char :=
  (backToPathMark path.reverse).reverse

/-- A full name without its path. A generic name stays whole, since its
arguments carry paths too. -/
def shorten (fullName : String) : String :=
  if '<' ∈ fullName.toList then fullName
  else String.ofList (lastSegment fullName.toList)

def shortName (type : NativeType) : String :=
  shorten type.fullName

end NativeType

end LateBinding
