/-!
The two ways in which instances of a class travel. Values are copied and convert
to their exact type only; references are shared handles and convert to every
class they derive from.
-/

namespace LateBinding

inductive Kind where
  | value
  | reference
  deriving DecidableEq

namespace Kind

def display : Kind → String
  | .value => "value"
  | .reference => "reference"

def inspect : Kind → String
  | .value => "Value"
  | .reference => "Reference"

end Kind

end LateBinding
