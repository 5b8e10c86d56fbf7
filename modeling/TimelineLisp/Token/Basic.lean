import TimelineLisp.Number.Literal
import TimelineLisp.Text.Position

/-!
# Tokens

A source text is a sequence of tokens with trivia between them.  This module holds the tokens and
the faults that stop the splitting of a text.
-/

namespace TimelineLisp

/-! ### Brackets -/

/-- Round and square brackets delimit lists alike, but must match. -/
inductive Bracket
  /-- `(` and `)`. -/
  | round
  /-- `[` and `]`. -/
  | square
  deriving DecidableEq, Repr

namespace Bracket

/-- The character that opens a list. -/
def opening : Bracket → Char
  | round => '('
  | square => '['

/-- The character that closes a list. -/
def closing : Bracket → Char
  | round => ')'
  | square => ']'

/-- The bracket that a character opens. -/
def ofOpening? (c : Char) : Option Bracket :=
  if c = '(' then some round else if c = '[' then some square else none

/-- The bracket that a character closes. -/
def ofClosing? (c : Char) : Option Bracket :=
  if c = ')' then some round else if c = ']' then some square else none

end Bracket

/-! ### Tokens -/

/-- What a token is, with its value. -/
inductive TokenKind
  /-- The start of a list. -/
  | opening (bracket : Bracket)
  /-- The end of a list. -/
  | closing (bracket : Bracket)
  /-- A name. -/
  | symbol (name : String)
  /-- A number literal. -/
  | number (value : Number)
  /-- A string literal, with its escapes decoded. -/
  | text (content : String)
  /-- A character literal. -/
  | char (value : Char)
  /-- `#t` or `#f`. -/
  | bool (value : Bool)
  /-- The mark `'` that quotes the datum after it. -/
  | quote
  deriving DecidableEq

/-- A token together with the text it was read from. -/
structure Token where
  /-- What the token is. -/
  kind : TokenKind
  /-- The text of the token, as written. -/
  lexeme : String
  /-- The position of its first character. -/
  position : Position
  deriving DecidableEq

/-! ### Faults -/

/-- Why a text cannot be split into tokens any further. -/
inductive ScanError
  /-- The text ends inside a list, a string, a character literal or a block comment; more text may
  complete it. -/
  | incomplete
  /-- A closing bracket with no list open. -/
  | unexpectedClose (found : Bracket) (position : Position)
  /-- A closing bracket of the wrong shape. -/
  | mismatched (expected found : Bracket) (position : Position)
  /-- A backslash in a string followed by a character that has no escape; the position is that of
  the backslash. -/
  | badEscape (found : Char) (position : Position)
  /-- An atom that starts like a number and is none. -/
  | badNumber (lexeme : String) (position : Position)
  /-- A character literal of more than one character whose name is not known. -/
  | badCharacter (name : String) (position : Position)
  /-- A literal that starts with `#` and is not known. -/
  | badHash (lexeme : String) (position : Position)
  deriving DecidableEq

/-- A message that starts with a position. -/
def Position.tell (p : Position) (message : String) : String :=
  p.render ++ ": " ++ message

/-- The message for the user. -/
def ScanError.message : ScanError → String
  | .incomplete => "input ended inside an unfinished form"
  | .unexpectedClose found p => p.tell ("unexpected '" ++ found.closing.toString ++ "'")
  | .mismatched expected found p =>
    p.tell ("expected '" ++ expected.closing.toString ++ "' but found '" ++
      found.closing.toString ++ "'")
  | .badEscape found p => p.tell ("unknown escape sequence '\\" ++ found.toString ++ "'")
  | .badNumber lexeme p => p.tell ("malformed number literal '" ++ lexeme ++ "'")
  | .badCharacter name p => p.tell ("unknown character name '" ++ name ++ "'")
  | .badHash lexeme p => p.tell ("unknown literal '" ++ lexeme ++ "'")

end TimelineLisp
