import TimelineLisp.Text.Quoted
import TimelineLisp.Value.Basic

/-!
# The text of a value

`Value.render` writes data the way the reader reads it, and procedures and host objects between
`#<` and `>`; `void` has no text at all.  `Value.renderRaw` differs in that strings and characters
stand for themselves, without quotes and escapes.
-/

namespace TimelineLisp

/-- Writes a procedure, in front of `tail`. -/
def Procedure.write (p : Procedure) (tail : List Char) : List Char :=
  match p.name? with
  | some name => "#<procedure:".toList ++ (name.toList ++ '>' :: tail)
  | none => "#<procedure>".toList ++ tail

/-- Writes a host object, in front of `tail`. -/
def Host.write (h : Host) (tail : List Char) : List Char :=
  '#' :: '<' :: (h.name.toList ++ '>' :: tail)

namespace Value

mutual

/-- Writes a value, in front of `tail`. -/
def write : Value → List Char → List Char
  | .number value, tail => value.write tail
  | .text content, tail => Text.writeQuoted content.toList tail
  | .char value, tail => Text.writeCharacter value tail
  | .bool value, tail => Text.writeBool value tail
  | .symbol name, tail => name.toList ++ tail
  | .list items, tail => '(' :: writeItems items (')' :: tail)
  | .procedure p, tail => p.write tail
  | .void, tail => tail
  | .host h, tail => h.write tail

/-- Writes values with one space between two of them, in front of `tail`. -/
def writeItems : List Value → List Char → List Char
  | [], tail => tail
  | [v], tail => v.write tail
  | v :: u :: vs, tail => v.write (' ' :: writeItems (u :: vs) tail)

end

/-- The text of a value. -/
def render (v : Value) : String :=
  String.ofList (v.write [])

mutual

/-- Writes a value with bare strings and characters, in front of `tail`. -/
def writeRaw : Value → List Char → List Char
  | .text content, tail => content.toList ++ tail
  | .char value, tail => value :: tail
  | .list items, tail => '(' :: writeRawItems items (')' :: tail)
  | v, tail => v.write tail

/-- Writes values with bare strings and characters and one space between two of them, in front of
`tail`. -/
def writeRawItems : List Value → List Char → List Char
  | [], tail => tail
  | [v], tail => v.writeRaw tail
  | v :: u :: vs, tail => v.writeRaw (' ' :: writeRawItems (u :: vs) tail)

end

/-- The text of a value, with bare strings and characters. -/
def renderRaw (v : Value) : String :=
  String.ofList (v.writeRaw [])

end Value

end TimelineLisp
