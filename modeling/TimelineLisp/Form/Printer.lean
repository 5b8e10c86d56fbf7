import TimelineLisp.Form.Basic
import TimelineLisp.Text.Quoted

/-!
# The text of a form

`Form.render` writes a form the way the reader reads it: lists in round brackets with one space
between their items, quotation written out.
-/

namespace TimelineLisp

namespace Form

mutual

/-- Writes a form, in front of `tail`. -/
def write : Form → List Char → List Char
  | .symbol name, tail => name.toList ++ tail
  | .number value, tail => value.write tail
  | .text content, tail => Text.writeQuoted content.toList tail
  | .char value, tail => Text.writeCharacter value tail
  | .bool value, tail => Text.writeBool value tail
  | .list items, tail => '(' :: writeItems items (')' :: tail)

/-- Writes forms with one space between two of them, in front of `tail`. -/
def writeItems : List Form → List Char → List Char
  | [], tail => tail
  | [f], tail => f.write tail
  | f :: g :: fs, tail => f.write (' ' :: writeItems (g :: fs) tail)

end

/-- The text of a form. -/
def render (f : Form) : String :=
  String.ofList (f.write [])

end Form

end TimelineLisp
