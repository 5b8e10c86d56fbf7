import TimelineLisp.Token.Piece

/-!
# Splitting a text into tokens

A `Cursor` stands between two tokens of a text: it knows its position, what is left of the text and
the brackets that are open.  `Cursor.step` reads the next token, `Cursor.trace` all of them up to
the end of the text or the first fault.

Main statement: `Cursor.step_split`, **a step splits the text into trivia, a lexeme and the rest**,
so the trivia and the lexemes make up the text, and the splitting ends.
-/

namespace TimelineLisp

/-! ### Cursors -/

/-- A place between two tokens of a text. -/
structure Cursor where
  /-- The position of the next character. -/
  position : Position
  /-- What is left of the text. -/
  rest : List Char
  /-- The brackets that are open, innermost first. -/
  opened : List Bracket

/-- What comes next in a text. -/
inductive Cursor.Step
  /-- A token, and the place after it. -/
  | token (t : Token) (after : Cursor)
  /-- The end of the text, at this position. -/
  | finished (position : Position)
  /-- A fault, which stops the splitting. -/
  | fault (e : ScanError)

/-- The open brackets after a token. -/
def TokenKind.openedAfter : TokenKind → List Bracket → List Bracket
  | .opening b, opened => b :: opened
  | .closing _, opened => opened.tail
  | _, opened => opened

namespace Cursor

/-- The start of a text. -/
def ofString (source : String) : Cursor :=
  ⟨.start, source.toList, []⟩

/-- The number of brackets that are open. -/
def depth (s : Cursor) : Nat :=
  s.opened.length

/-- The place after a token that was read at position `p`. -/
def after (s : Cursor) (p : Position) (t : Piece) : Cursor :=
  ⟨p.advance t.lexeme, t.rest, t.kind.openedAfter s.opened⟩

/-- Skips trivia and reads the next token. -/
def step (s : Cursor) : Step :=
  match Trivia.skip .code s.position s.rest with
  | none => .fault .incomplete
  | some (p, []) => if s.opened.isEmpty then .finished p else .fault .incomplete
  | some (p, first :: cs) =>
    match scanToken s.opened p first cs with
    | .error e => .fault e
    | .ok t => .token ⟨t.kind, String.ofList t.lexeme, p⟩ (s.after p t)

/-- A step over a token splits the text into trivia, the lexeme and the rest, and counts the
position past the first two. -/
theorem step_split {s s' : Cursor} {t : Token} (h : s.step = .token t s') :
    ∃ gap, s.rest = gap ++ t.lexeme.toList ++ s'.rest ∧ t.lexeme.toList ≠ [] ∧
      t.position = s.position.advance gap ∧ s'.position = t.position.advance t.lexeme.toList ∧
      s'.opened = t.kind.openedAfter s.opened := by
  unfold step at h
  split at h
  · simp at h
  · split at h <;> simp at h
  · next p first cs hs =>
    split at h
    · simp at h
    · next piece hp =>
      cases h
      obtain ⟨gap, hg, hpos⟩ := Trivia.skip_split hs
      have hsplit := scanToken_split hp
      refine ⟨gap, ?_, ?_, hpos, ?_, rfl⟩
      · simp [after, hg, hsplit]
      · simp only [String.toList_ofList]
        exact scanToken_lexeme_ne_nil hp
      · simp [after]

theorem step_shorter {s s' : Cursor} {t : Token} (h : s.step = .token t s') :
    s'.rest.length < s.rest.length := by
  obtain ⟨gap, hr, hne, _⟩ := step_split h
  have := List.length_pos_iff.2 hne
  simp only [hr, List.length_append]
  omega

end Cursor

/-! ### Traces -/

/-- How the splitting of a text ends. -/
inductive Ending
  /-- At the end of the text, which is at this position. -/
  | finished (position : Position)
  /-- At a fault. -/
  | fault (e : ScanError)
  deriving DecidableEq

/-- The tokens of a text, each with the place after it, and how the splitting ends. -/
structure Trace where
  /-- The tokens, in the order of the text. -/
  steps : List (Token × Cursor)
  /-- How the splitting ends. -/
  ending : Ending

/-- The tokens of a trace. -/
def Trace.tokens (t : Trace) : List Token :=
  t.steps.map (·.1)

/-- The trace with one more token in front. -/
def Trace.cons (t : Token) (after : Cursor) (rest : Trace) : Trace :=
  ⟨(t, after) :: rest.steps, rest.ending⟩

/-- Reads tokens to the end of the text or the first fault. -/
def Cursor.trace (s : Cursor) : Trace :=
  match _h : s.step with
  | .finished p => ⟨[], .finished p⟩
  | .fault e => ⟨[], .fault e⟩
  | .token t after => .cons t after after.trace
termination_by s.rest.length
decreasing_by exact step_shorter _h

theorem Cursor.trace_of_finished {s : Cursor} {p : Position} (h : s.step = .finished p) :
    s.trace = ⟨[], .finished p⟩ := by
  rw [Cursor.trace]
  split <;> simp_all

theorem Cursor.trace_of_fault {s : Cursor} {e : ScanError} (h : s.step = .fault e) :
    s.trace = ⟨[], .fault e⟩ := by
  rw [Cursor.trace]
  split <;> simp_all

theorem Cursor.trace_of_token {s after : Cursor} {t : Token} (h : s.step = .token t after) :
    s.trace = .cons t after after.trace := by
  rw [Cursor.trace]
  split <;> simp_all

/-- Splits a source text into tokens. -/
def trace (source : String) : Trace :=
  (Cursor.ofString source).trace

/-- The number of brackets that are open where the splitting ends. -/
def Trace.finalDepth (t : Trace) : Nat :=
  match t.steps.getLast? with
  | some (_, after) => after.depth
  | none => 0

/-- All tokens of a text, or the first fault. -/
def tokenize (source : String) : Except ScanError (List Token) :=
  let t := trace source
  match t.ending with
  | .finished _ => .ok t.tokens
  | .fault e => .error e

end TimelineLisp
