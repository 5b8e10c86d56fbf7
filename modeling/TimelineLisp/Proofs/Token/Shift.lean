import Mathlib.Tactic.Common
import TimelineLisp.Proofs.Token.Newline

/-!
# Moving a text down

A text that starts some lines further down is split into the same tokens, with all positions moved
down by that many lines (`Cursor.step_down`).  Columns stay as they are.
-/

namespace TimelineLisp

/-! ### Positions and faults -/

namespace Position

/-- The position `k` lines further down, in the same column. -/
def down (p : Position) (k : ℕ) : Position :=
  ⟨p.line + k, p.column⟩

theorem next_down (p : Position) (k : ℕ) (c : Char) : (p.down k).next c = (p.next c).down k := by
  unfold next down
  split_ifs
  · rw [Nat.add_right_comm]
  · rfl

theorem advance_down (p : Position) (k : ℕ) (text : List Char) :
    (p.down k).advance text = (p.advance text).down k := by
  induction text generalizing p with
  | nil => rfl
  | cons c text ih => rw [advance_cons, next_down, ih, advance_cons]

theorem line_advance (p : Position) (text : List Char) :
    (p.advance text).line = p.line + text.count '\n' := by
  induction text generalizing p with
  | nil => rfl
  | cons c text ih =>
    rw [advance_cons, ih, List.count_cons, next]
    by_cases hc : c = '\n'
    · simp only [hc, if_true, beq_self_eq_true]
      omega
    · simp [hc]

/-- After a text and a newline comes the first column of a line of its own. -/
theorem next_advance_start (text : List Char) :
    (start.advance text).next '\n' = start.down (text.count '\n' + 1) := by
  unfold next
  rw [if_pos rfl, line_advance]
  simp only [down, start]
  rw [Nat.add_assoc]

end Position

/-- The fault with its position moved down. -/
def ScanError.down (k : ℕ) : ScanError → ScanError
  | .incomplete => .incomplete
  | .unexpectedClose found p => .unexpectedClose found (p.down k)
  | .mismatched expected found p => .mismatched expected found (p.down k)
  | .badEscape found p => .badEscape found (p.down k)
  | .badNumber lexeme p => .badNumber lexeme (p.down k)
  | .badCharacter name p => .badCharacter name (p.down k)
  | .badHash lexeme p => .badHash lexeme (p.down k)

/-- The token with its position moved down. -/
def Token.down (k : ℕ) (t : Token) : Token :=
  { t with position := t.position.down k }

/-! ### Scanners -/

theorem Trivia.skip_down (k : ℕ) (mode : Mode) (p : Position) (cs : List Char) :
    skip mode (p.down k) cs = (skip mode p cs).map fun (q, rest) => (q.down k, rest) := by
  fun_induction skip mode p cs with
  | case1 => rfl
  | case2 n p cs ih => simp only [skip, Position.next_down, ih]
  | case3 n p cs ih => simp only [skip, Position.next_down, ih]
  | case4 n p c cs hclose hopen ih =>
    rw [skip_block_char hclose hopen, Position.next_down, ih]
  | case5 p => rfl
  | case6 p c cs ih => simp only [skip, Position.next_down, ih]
  | case7 p => rfl
  | case8 p cs ih => simp only [skip, Position.next_down, ih]
  | case9 p cs hopen ih =>
    rw [skip_code_char hopen, if_pos rfl, Position.next_down, ih]
  | case10 p c cs hopen hsemi hblank ih =>
    rw [skip_code_char hopen, if_neg hsemi, if_pos hblank, Position.next_down, ih]
  | case11 p c cs hopen hsemi hblank =>
    rw [skip_code_char hopen, if_neg hsemi, if_neg hblank]
    rfl

section Scanners

variable (k : ℕ) (p : Position)

theorem scanText_down (read content cs : List Char) :
    scanText (p.down k) read content cs =
      (scanText p read content cs).mapError (ScanError.down k) := by
  fun_induction scanText p read content cs with
  | case1 => rfl
  | case2 => rfl
  | case3 p read content e cs c hc ih => simp only [scanText, hc, Position.next_down, ih]
  | case4 p read content e cs hc =>
    simp only [scanText, hc]
    rfl
  | case5 p read content cs => rfl
  | case6 p read content c cs h₁ h₂ hq ih =>
    rw [scanText.eq_4 _ _ _ _ _ h₁ h₂, if_neg hq, Position.next_down, ih]

theorem pendingOr_down (nested : Bool) (rest : List Char) (fault : ScanError) :
    pendingOr nested rest (fault.down k) = (pendingOr nested rest fault).down k := by
  unfold pendingOr
  split_ifs <;> rfl

theorem scanCharacter_down (nested : Bool) (cs : List Char) :
    scanCharacter nested (p.down k) cs =
      (scanCharacter nested p cs).mapError (ScanError.down k) := by
  cases cs with
  | nil => rfl
  | cons first cs =>
    simp only [scanCharacter]
    obtain ⟨_ | ⟨c, run⟩, rest⟩ := nameRun first cs
    · rfl
    · dsimp only
      cases characterNames.lookup (String.ofList (first :: c :: run)) with
      | some _ => rfl
      | none => exact congrArg Except.error (pendingOr_down k nested rest (.badCharacter _ p))

theorem scanHash_down (nested : Bool) (cs : List Char) :
    scanHash nested (p.down k) cs = (scanHash nested p cs).mapError (ScanError.down k) := by
  rw [scanHash.eq_def, scanHash.eq_def]
  split
  · exact scanCharacter_down k p nested _
  · dsimp only
    cases boolWords.lookup (String.ofList ('#' :: cs.takeWhile isWordChar)) with
    | some b => rfl
    | none => exact congrArg Except.error (pendingOr_down k nested _ (.badHash _ p))

theorem scanAtom_down (first : Char) (cs : List Char) :
    scanAtom (p.down k) first cs = (scanAtom p first cs).mapError (ScanError.down k) := by
  simp only [scanAtom, classifyAtom]
  split_ifs
  · cases Number.ofChars? (first :: cs.takeWhile isWordChar) <;> rfl
  · rfl

theorem scanClose_down (opened : List Bracket) (found : Bracket) (cs : List Char) :
    scanClose opened (p.down k) found cs =
      (scanClose opened p found cs).mapError (ScanError.down k) := by
  unfold scanClose
  cases opened with
  | nil => rfl
  | cons expected opened =>
    dsimp only
    split_ifs <;> rfl

theorem scanToken_down (opened : List Bracket) (first : Char) (cs : List Char) :
    scanToken opened (p.down k) first cs =
      (scanToken opened p first cs).mapError (ScanError.down k) := by
  unfold scanToken
  cases Bracket.ofOpening? first with
  | some b => rfl
  | none =>
    cases Bracket.ofClosing? first with
    | some b => exact scanClose_down k p opened b cs
    | none =>
      dsimp only
      split_ifs
      · rfl
      · rw [Position.next_down]
        exact scanText_down k (p.next first) [first] [] cs
      · exact scanHash_down k p _ cs
      · exact scanAtom_down k p first cs

end Scanners

/-! ### Cursors -/

namespace Cursor

/-- The same place in a text that starts `k` lines further down. -/
def down (k : ℕ) (s : Cursor) : Cursor :=
  { s with position := s.position.down k }

/-- What comes next in a text that starts `k` lines further down. -/
def Step.down (k : ℕ) : Step → Step
  | .token t after => .token (t.down k) (after.down k)
  | .finished p => .finished (p.down k)
  | .fault e => .fault (e.down k)

/-- **A text further down is split alike**, with all positions moved down. -/
theorem step_down (k : ℕ) (s : Cursor) : (s.down k).step = s.step.down k := by
  obtain ⟨position, rest, opened⟩ := s
  simp only [step, down, Trivia.skip_down]
  cases Trivia.skip .code position rest with
  | none => rfl
  | some found =>
    obtain ⟨p, _ | ⟨first, cs⟩⟩ := found
    · cases opened <;> rfl
    · simp only [Option.map_some, scanToken_down]
      cases scanToken opened p first cs with
      | error e => rfl
      | ok t => simp only [Except.mapError, Step.down, Token.down, down, after,
          Position.advance_down]

end Cursor

end TimelineLisp
