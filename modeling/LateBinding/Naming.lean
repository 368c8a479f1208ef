import LateBinding.Digest.Xxh64
import LateBinding.Options
import LateBinding.Text.Hex

/-!
Names of invokers. A tagged name ends in 32 hexadecimal digits: a scrambled copy
of a serial, then the serial. Serials are handed out one by one, and only to
tagged names.
-/

namespace LateBinding

/-- The serial that the next tagged name gets. -/
structure Naming where
  serial : UInt64
  deriving DecidableEq

namespace Naming

def first : Naming := ⟨1⟩

def scrambleSeed : UInt64 := 0x6a09e667f3bcc909

def tag (serial : UInt64) : String :=
  Text.hex64 (Digest.Xxh64.ofWord scrambleSeed serial) ++ Text.hex64 serial

def next (naming : Naming) (options : Options) : String × Naming :=
  if options.tagged then (options.namePrefix ++ tag naming.serial, ⟨naming.serial + 1⟩)
  else (options.namePrefix, naming)

end Naming

end LateBinding
