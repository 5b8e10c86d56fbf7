/-!
# Positions in a text

A position is a line and a column, both counted from one.  Only a newline starts a line; every
other character is one column wide.
-/

namespace TimelineLisp

/-- A place in a text. -/
structure Position where
  /-- The line, from one. -/
  line : Nat := 1
  /-- The column, from one. -/
  column : Nat := 1
  deriving DecidableEq, Repr

namespace Position

/-- The position of the first character of a text. -/
def start : Position := {}

/-- The position just after a character. -/
def next (p : Position) (c : Char) : Position :=
  if c = '\n' then ⟨p.line + 1, 1⟩ else ⟨p.line, p.column + 1⟩

/-- The position just after a text. -/
def advance (p : Position) (text : List Char) : Position :=
  text.foldl next p

@[simp]
theorem advance_nil (p : Position) : p.advance [] = p := rfl

@[simp]
theorem advance_cons (p : Position) (c : Char) (text : List Char) :
    p.advance (c :: text) = (p.next c).advance text := rfl

theorem advance_append (p : Position) (a b : List Char) :
    p.advance (a ++ b) = (p.advance a).advance b :=
  List.foldl_append

/-- The position as it stands in messages, `line:column`. -/
def render (p : Position) : String :=
  Nat.repr p.line ++ ":" ++ Nat.repr p.column

end Position

end TimelineLisp
