/-!
# Written strings and characters

A string is written between double quotes, with an escape for the quote, the backslash, newline,
tab, carriage return and NUL; a character is written behind `#\`, by name if it has one.  Each
writer puts its text in front of a given tail.
-/

namespace TimelineLisp

namespace Text

/-- Writes one character of a string, in front of `tail`. -/
def writeEscaped (c : Char) (tail : List Char) : List Char :=
  match c with
  | '"' => '\\' :: '"' :: tail
  | '\\' => '\\' :: '\\' :: tail
  | '\n' => '\\' :: 'n' :: tail
  | '\t' => '\\' :: 't' :: tail
  | '\r' => '\\' :: 'r' :: tail
  | '\x00' => '\\' :: '0' :: tail
  | c => c :: tail

/-- Writes a string literal, in front of `tail`. -/
def writeQuoted (content : List Char) (tail : List Char) : List Char :=
  '"' :: content.foldr writeEscaped ('"' :: tail)

/-- Writes a character literal, in front of `tail`. -/
def writeCharacter (c : Char) (tail : List Char) : List Char :=
  '#' :: '\\' ::
    match c with
    | ' ' => "space".toList ++ tail
    | '\n' => "newline".toList ++ tail
    | '\t' => "tab".toList ++ tail
    | '\x00' => "nul".toList ++ tail
    | c => c :: tail

/-- Writes a truth value, in front of `tail`. -/
def writeBool (b : Bool) (tail : List Char) : List Char :=
  '#' :: (if b then 't' else 'f') :: tail

end Text

end TimelineLisp
