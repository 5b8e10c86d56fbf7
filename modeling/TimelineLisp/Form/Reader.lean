import TimelineLisp.Form.Basic
import TimelineLisp.Token.Cursor

/-!
# Reading forms

The reader turns the tokens of a text into forms.  It keeps the lists and quotation marks that
still wait for a datum on a stack (`Frame`); a token either adds a frame, or completes a datum that
is handed to the frame on top.

`read` gives all forms of a text up to its end or its first fault; `readAll`, `readOne` and `probe`
are views of it.
-/

namespace TimelineLisp

/-! ### Faults -/

/-- Why a text cannot be read. -/
inductive ReadError
  /-- The text ends inside a form; more text may finish it. -/
  | unfinished
  /-- The text cannot be split into tokens. -/
  | malformed (e : ScanError)
  /-- A quotation mark, at this position, in front of a closing bracket. -/
  | danglingQuote (position : Position)
  /-- More text after the one form that was wanted. -/
  | unexpectedTokens
  /-- No form where one was wanted. -/
  | unexpectedEnd
  deriving DecidableEq

namespace ReadError

/-- The fault of a text that cannot be split into tokens. -/
def ofScan : ScanError → ReadError
  | .incomplete => .unfinished
  | e => .malformed e

/-- More text may finish the form. -/
def isUnfinished : ReadError → Bool
  | .unfinished => true
  | _ => false

/-- The message for the user. -/
def message : ReadError → String
  | .unfinished => ScanError.incomplete.message
  | .malformed e => e.message
  | .danglingQuote p => p.tell "quote must be followed by a datum"
  | .unexpectedTokens => "unexpected tokens after the expression"
  | .unexpectedEnd => "unexpected end of input"

end ReadError

/-! ### The reader's stack -/

namespace Reader

/-- What waits for a datum. -/
inductive Frame
  /-- An open list with the items read so far, in reverse. -/
  | list (items : List Form)
  /-- A quotation mark at this position. -/
  | quote (position : Position)

/-- Where reading stands: the frames, innermost first, and the finished forms, in reverse. -/
structure State where
  /-- What waits for a datum. -/
  frames : List Frame := []
  /-- The finished forms, last one first. -/
  forms : List Form := []

/-- Hands a datum to the frame on top; without one it is a finished form. -/
def deliver (forms : List Form) (datum : Form) : List Frame → State
  | [] => ⟨[], datum :: forms⟩
  | .list items :: frames => ⟨.list (datum :: items) :: frames, forms⟩
  | .quote _ :: frames => deliver forms (.quoted datum) frames

/-- Takes one token. -/
def State.take (s : State) (t : Token) : Except ReadError State :=
  match t.kind with
  | .symbol name => .ok (deliver s.forms (.symbol name) s.frames)
  | .number value => .ok (deliver s.forms (.number value) s.frames)
  | .text content => .ok (deliver s.forms (.text content) s.frames)
  | .char value => .ok (deliver s.forms (.char value) s.frames)
  | .bool value => .ok (deliver s.forms (.bool value) s.frames)
  | .opening _ => .ok { s with frames := .list [] :: s.frames }
  | .quote => .ok { s with frames := .quote t.position :: s.frames }
  | .closing found =>
    match s.frames with
    | .list items :: frames => .ok (deliver s.forms (.list items.reverse) frames)
    | .quote p :: _ => .error (.danglingQuote p)
    | [] => .error (.malformed (.unexpectedClose found t.position))

/-- The fault of a text that ends with these frames waiting. -/
def faultAtEnd : List Frame → Option ReadError
  | [] => none
  | .quote _ :: _ => some .unfinished
  | .list _ :: _ => some .unexpectedEnd

end Reader

/-! ### Readings -/

/-- The forms of a text up to its end or its first fault. -/
structure Reading where
  /-- The forms, in the order of the text. -/
  forms : List Form
  /-- The fault, if one stopped the reading. -/
  fault : Option ReadError

namespace Reader

/-- The reading that ends where `s` stands. -/
def State.finish (s : State) (ending : Ending) : Reading :=
  match ending with
  | .finished _ => ⟨s.forms.reverse, faultAtEnd s.frames⟩
  | .fault e => ⟨s.forms.reverse, some (.ofScan e)⟩

/-- Takes the tokens one by one. -/
def State.run (s : State) (ending : Ending) : List Token → Reading
  | [] => s.finish ending
  | t :: ts =>
    match s.take t with
    | .ok s' => s'.run ending ts
    | .error e => ⟨s.forms.reverse, some e⟩

end Reader

/-- Reads the forms of a text up to its end or its first fault. -/
def read (source : String) : Reading :=
  let t := trace source
  Reader.State.run {} t.ending t.tokens

/-- All forms of a text, or the fault that stops the reading. -/
def readAll (source : String) : Except ReadError (List Form) :=
  let r := read source
  match r.fault with
  | none => .ok r.forms
  | some e => .error e

/-- The one form of a text.  Anything after it, readable or not, is an error. -/
def readOne (source : String) : Except ReadError Form :=
  match read source with
  | ⟨[], none⟩ => .error .unexpectedEnd
  | ⟨[], some e⟩ => .error e
  | ⟨[f], none⟩ => .ok f
  | ⟨_ :: _, _⟩ => .error .unexpectedTokens

/-- The fault that stops the reading of a text, if any.  It tells whether a text is still open. -/
def probe (source : String) : Option ReadError :=
  (read source).fault

end TimelineLisp
