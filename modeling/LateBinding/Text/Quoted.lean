import LateBinding.Text.Extending
import LateBinding.Text.Hex
import LateBinding.Text.Printable

/-!
Quoted text and the notation for records that developers read: names, quoted
strings and nested records, on one line.
-/

namespace LateBinding.Text

/-- One character inside quotes. Quote and backslash take a backslash, four
controls have a letter, and whatever cannot be printed, or would merge with the
character before it, is written by number. -/
def escape (c : Char) : List Char :=
  if c = '"' ∨ c = '\\' then ['\\', c]
  else if c = '\t' then ['\\', 't']
  else if c = '\n' then ['\\', 'n']
  else if c = '\r' then ['\\', 'r']
  else if c.toNat = 0 then ['\\', '0']
  else if isPrintable c && !extendsPrevious c then [c]
  else ['\\', 'u', Char.ofNat 0x7b] ++ hexCode c ++ [Char.ofNat 0x7d]

def quote (text : String) : String :=
  String.ofList ('"' :: text.toList.flatMap escape ++ ['"'])

def quoteOption : Option String → String
  | none => "None"
  | some text => "Some(" ++ quote text ++ ")"

def flag : Bool → String
  | true => "true"
  | false => "false"

private def field (entry : String × String) : String :=
  entry.1 ++ ": " ++ entry.2

def record (name : String) (fields : List (String × String)) : String :=
  name ++ " \x7b " ++ ", ".intercalate (fields.map field) ++ " \x7d"

/-- A record that leaves fields out, and says so. -/
def openRecord (name : String) (fields : List (String × String)) : String :=
  name ++ " \x7b " ++ ", ".intercalate (fields.map field ++ [".."]) ++ " \x7d"

end LateBinding.Text
