import LateBinding.Datum

/-!
What the parts of scenario instances hold: the scalars, texts, a wrapped number,
and records that keep a log. Arguments have a one-line text, which bodies of
scenarios report and compare.
-/

namespace LateBinding.Scenario

inductive Content where
  | bool (flag : Bool)
  | char (c : Char)
  | integer (n : Int)
  /-- A binary32 number by its bits. -/
  | single (bits : UInt32)
  /-- A binary64 number by its bits. -/
  | double (bits : UInt64)
  | text (content : String)
  | wrapped (n : Int)
  | record (sort tag : String) (log : List String)
  deriving DecidableEq

namespace Content

def line : Content → String
  | .bool flag => Text.flag flag
  | .char c => String.ofList ['\'', c, '\'']
  | .integer n => toString n
  | .single bits => "0x" ++ Text.hex32 bits
  | .double bits => "0x" ++ Text.hex64 bits
  | .text content => "\"" ++ content ++ "\""
  | .wrapped n => "fake " ++ toString n
  | .record sort tag _ => sort ++ "<" ++ tag ++ ">"

/-- Records a line in a log. A text takes it in with a semicolon behind it;
other contents keep no log. -/
def note (line : String) : Content → Content
  | .record sort tag log => .record sort tag (log ++ [line])
  | .text content => .text (content ++ line ++ ";")
  | content => content

def tag : Content → String
  | .record _ tag _ => tag
  | .text content => content
  | _ => ""

end Content

abbrev Value := Instance Content

def Value.line (value : Value) : String :=
  value.outer.state.line

def Value.note (line : String) (value : Value) : Value :=
  value.mapState (Content.note line)

def Value.tag (value : Value) : String :=
  value.outer.state.tag

/-- The text of an argument of a type. An object shows the tag of its part of
that type. -/
def heldLine (type : ParamType) : Held Content → String
  | .null => "null"
  | .value boxed => Value.line boxed
  | .object handle content =>
      let seen := content.bind (·.viewAs? type.native)
      "@" ++ ((seen.map Value.tag).getD "") ++ "/" ++ handle.className

def argumentLine : Argument Content → String
  | .null => "null"
  | .value boxed => Value.line boxed
  | .object handle => "@" ++ handle.className

end LateBinding.Scenario
