/-!
Sets of code points as tables of closed ranges. A table lists its ranges
ascending and apart, so a lookup stops at the first range that starts beyond
the code point it looks for.
-/

namespace LateBinding.Text

def inTable : List (Nat × Nat) → Nat → Bool
  | [], _ => false
  | (first, last) :: rest, code =>
      if code < first then false
      else if code ≤ last then true
      else inTable rest code

end LateBinding.Text
