/-!
Lower-case hexadecimal numerals of a fixed width, most significant digit first.
-/

namespace LateBinding.Text

def hexDigit (n : Nat) : Char :=
  if n % 16 < 10 then Char.ofNat (48 + n % 16) else Char.ofNat (87 + n % 16)

def hexDigits : Nat → Nat → List Char
  | 0, _ => []
  | width + 1, n => hexDigits width (n / 16) ++ [hexDigit n]

theorem hexDigits_length (width n : Nat) : (hexDigits width n).length = width := by
  induction width generalizing n with
  | zero => rfl
  | succ width ih => simp [hexDigits, ih]

def hex64 (word : UInt64) : String :=
  String.ofList (hexDigits 16 word.toNat)

def hex32 (word : UInt32) : String :=
  String.ofList (hexDigits 8 word.toNat)

/-- A code point with no leading zeros; the code point zero has no digit at all. -/
def hexCode (c : Char) : List Char :=
  (hexDigits 6 c.toNat).dropWhile (· == Char.ofNat 48)

end LateBinding.Text
