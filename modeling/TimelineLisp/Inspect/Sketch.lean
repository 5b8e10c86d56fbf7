import TimelineLisp.Number.Literal
import TimelineLisp.Text.Hidden
import TimelineLisp.Text.Mark

/-!
# Sketches

A sketch shows how a piece of data is built: constructors with their arguments, records with named
fields, lists and quoted text.  It is meant for whoever looks into the program, not for its users.

Text is quoted so that every character can be seen: control characters have escapes, and characters
that show nothing, or attach themselves to another one, are written by code point.
-/

namespace TimelineLisp

/-- How a piece of data is built. -/
inductive Sketch
  /-- A bare word. -/
  | word (text : String)
  /-- A constructor with arguments. -/
  | call (name : String) (args : List Sketch)
  /-- A record; one that is not `complete` has further fields that are not shown. -/
  | record (name : String) (complete : Bool) (fields : List (String × Sketch))
  /-- A list. -/
  | items (elements : List Sketch)

namespace Sketch

/-! ### Quoted text -/

/-- A character by its code point. -/
def codePoint (c : Char) : List Char :=
  '\\' :: 'u' :: '\x7b' :: (Nat.toDigits 16 c.toNat ++ ['\x7d'])

/-- A character between two `quote` marks, as far as it can be seen. -/
def visible (quote : Char) (c : Char) : List Char :=
  match c with
  | '\x00' => ['\\', '0']
  | '\t' => ['\\', 't']
  | '\r' => ['\\', 'r']
  | '\n' => ['\\', 'n']
  | '\\' => ['\\', '\\']
  | c =>
    if c = quote then ['\\', c]
    else if isMark c || isHidden c then codePoint c
    else [c]

/-- A text in double quotes. -/
def quoted (text : String) : Sketch :=
  .word (String.ofList ('"' :: text.toList.flatMap (visible '"') ++ ['"']))

/-- A character in single quotes. -/
def quotedChar (c : Char) : Sketch :=
  .word (String.ofList ('\'' :: visible '\'' c ++ ['\'']))

/-! ### Small data -/

/-- A natural number. -/
def nat (n : Nat) : Sketch :=
  .word (Nat.repr n)

/-- A truth value. -/
def bool (b : Bool) : Sketch :=
  .word (if b then "true" else "false")

/-- Something that may be absent. -/
def option (f : α → Sketch) : Option α → Sketch
  | some a => .call "Some" [f a]
  | none => .word "None"

/-- An exact number as numerator and denominator. -/
def number (n : Number) : Sketch :=
  .record "Ratio" true
    [("numer", .word (String.ofList (Number.writeInt n.num []))), ("denom", nat n.den)]

/-! ### The text of a sketch -/

mutual

/-- The text of a sketch. -/
def render : Sketch → String
  | .word text => text
  | .call name args => name ++ "(" ++ renderList args ++ ")"
  | .record name complete fields =>
    name ++ " \x7b " ++ renderFields fields ++ (if complete then " \x7d" else ", .. \x7d")
  | .items elements => "[" ++ renderList elements ++ "]"

/-- The texts of sketches, separated by commas. -/
def renderList : List Sketch → String
  | [] => ""
  | [s] => s.render
  | s :: t :: rest => s.render ++ ", " ++ renderList (t :: rest)

/-- The texts of fields, separated by commas. -/
def renderFields : List (String × Sketch) → String
  | [] => ""
  | [(name, s)] => name ++ ": " ++ s.render
  | (name, s) :: t :: rest => name ++ ": " ++ s.render ++ ", " ++ renderFields (t :: rest)

end

end Sketch

end TimelineLisp
