import TimelineLisp.Text.Blank
import TimelineLisp.Text.Position

/-!
# Trivia

Blanks, line comments (`;` up to and with the newline) and block comments (`#|` up to `|#`, which
nest) may stand between any two tokens.  `Trivia.skip` drops them from the front of a text, and
`Trivia.skip_split` says that what it drops and what it leaves make up the text.
-/

namespace TimelineLisp

namespace Trivia

/-- What the character at hand is part of. -/
inductive Mode
  /-- No comment. -/
  | code
  /-- A line comment. -/
  | line
  /-- A block comment with `enclosing` block comments around it. -/
  | block (enclosing : Nat)
  deriving DecidableEq, Repr

/-- What stands around a block comment with `enclosing` comments around it. -/
def Mode.leave : Nat → Mode
  | 0 => .code
  | enclosing + 1 => .block enclosing

/-- Drops trivia from the front of a text and tells the position where the rest starts; `none` if
the text ends inside a block comment. -/
def skip : Mode → Position → List Char → Option (Position × List Char)
  | .block _, _, [] => none
  | .block n, p, '|' :: '#' :: cs => skip (.leave n) ((p.next '|').next '#') cs
  | .block n, p, '#' :: '|' :: cs => skip (.block (n + 1)) ((p.next '#').next '|') cs
  | .block n, p, c :: cs => skip (.block n) (p.next c) cs
  | .line, p, [] => some (p, [])
  | .line, p, c :: cs => skip (if c = '\n' then .code else .line) (p.next c) cs
  | .code, p, [] => some (p, [])
  | .code, p, '#' :: '|' :: cs => skip (.block 0) ((p.next '#').next '|') cs
  | .code, p, c :: cs =>
    if c = ';' then skip .line (p.next c) cs
    else if isBlank c then skip .code (p.next c) cs
    else some (p, c :: cs)

/-- What is dropped and what is left make up the text, and the position counts what is dropped. -/
theorem skip_split {mode : Mode} {p q : Position} {cs rest : List Char}
    (h : skip mode p cs = some (q, rest)) :
    ∃ gap, cs = gap ++ rest ∧ q = p.advance gap := by
  fun_induction skip mode p cs with
  | case1 => simp at h
  | case2 n p cs ih =>
    obtain ⟨gap, rfl, rfl⟩ := ih h
    exact ⟨'|' :: '#' :: gap, rfl, rfl⟩
  | case3 n p cs ih =>
    obtain ⟨gap, rfl, rfl⟩ := ih h
    exact ⟨'#' :: '|' :: gap, rfl, rfl⟩
  | case4 n p c cs _ _ ih =>
    obtain ⟨gap, rfl, rfl⟩ := ih h
    exact ⟨c :: gap, rfl, rfl⟩
  | case5 p => exact ⟨[], by simp_all⟩
  | case6 p c cs ih =>
    obtain ⟨gap, rfl, rfl⟩ := ih h
    exact ⟨c :: gap, rfl, rfl⟩
  | case7 p => exact ⟨[], by simp_all⟩
  | case8 p cs ih =>
    obtain ⟨gap, rfl, rfl⟩ := ih h
    exact ⟨'#' :: '|' :: gap, rfl, rfl⟩
  | case9 p cs _ ih =>
    obtain ⟨gap, rfl, rfl⟩ := ih h
    exact ⟨';' :: gap, rfl, rfl⟩
  | case10 p c cs _ _ _ ih =>
    obtain ⟨gap, rfl, rfl⟩ := ih h
    exact ⟨c :: gap, rfl, rfl⟩
  | case11 p c cs => exact ⟨[], by simp_all⟩

end Trivia

end TimelineLisp
