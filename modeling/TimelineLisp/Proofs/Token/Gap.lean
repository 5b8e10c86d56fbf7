import TimelineLisp.Proofs.Token.Newline

/-!
# Gaps between tokens

`Trivia.Gap` is the grammar of what may stand between two tokens: blanks, line comments up to and
with their newline, and block comments, which nest (`Trivia.Inside`).  A line comment may go without
its newline only where the text ends.

**What is dropped from the front of a text is a gap** (`Trivia.gap_of_skip`).
-/

namespace TimelineLisp

namespace Trivia

/-! ### Comments -/

/-- The text of a block comment from behind its `#|` up to and with its own `|#`.  Marks are read
from the left, so a character stands for itself only where no mark starts. -/
inductive Inside : List Char → Prop
  | close : Inside ['|', '#']
  | nested {inner rest : List Char} (hinner : Inside inner) (hrest : Inside rest) :
    Inside ('#' :: '|' :: (inner ++ rest))
  | char {c : Char} {rest : List Char} (hclose : ¬ ['|', '#'] <+: c :: rest)
    (hopen : ¬ ['#', '|'] <+: c :: rest) (hrest : Inside rest) : Inside (c :: rest)

/-- The text of gaps.  `atEnd` says that the text ends behind it. -/
inductive Gap (atEnd : Prop) : List Char → Prop
  | nil : Gap atEnd []
  | blank {c : Char} {rest : List Char} (hblank : isBlank c = true) (hrest : Gap atEnd rest) :
    Gap atEnd (c :: rest)
  | line {comment rest : List Char} (hcomment : '\n' ∉ comment) (hrest : Gap atEnd rest) :
    Gap atEnd (';' :: (comment ++ '\n' :: rest))
  | block {inside rest : List Char} (hinside : Inside inside) (hrest : Gap atEnd rest) :
    Gap atEnd ('#' :: '|' :: (inside ++ rest))
  | unended {comment : List Char} (hend : atEnd) (hcomment : '\n' ∉ comment) :
    Gap atEnd (';' :: comment)

/-! ### What is dropped -/

section Dropped

variable {atEnd : Prop}

/-- What is dropped behind the start of a line comment. -/
def BehindLine (atEnd : Prop) (text : List Char) : Prop :=
  (∃ comment rest, text = comment ++ '\n' :: rest ∧ '\n' ∉ comment ∧ Gap atEnd rest) ∨
    (atEnd ∧ '\n' ∉ text)

/-- What is dropped behind the start of `opened` block comments. -/
def BehindBlocks (atEnd : Prop) : ℕ → List Char → Prop
  | 0, text => Gap atEnd text
  | opened + 1, text =>
    ∃ inside rest, text = inside ++ rest ∧ Inside inside ∧ BehindBlocks atEnd opened rest

/-- What is dropped from within a mode. -/
def Mode.Dropped (atEnd : Prop) : Mode → List Char → Prop
  | .code => Gap atEnd
  | .line => BehindLine atEnd
  | .block enclosing => BehindBlocks atEnd (enclosing + 1)

theorem Mode.dropped_leave (n : ℕ) : (Mode.leave n).Dropped atEnd = BehindBlocks atEnd n := by
  cases n <;> rfl

theorem BehindLine.gap {text : List Char} (h : BehindLine atEnd text) :
    Gap atEnd (';' :: text) := by
  obtain ⟨comment, rest, rfl, hcomment, hrest⟩ | ⟨hend, hcomment⟩ := h
  · exact .line hcomment hrest
  · exact .unended hend hcomment

theorem BehindLine.char {text : List Char} {c : Char} (hc : c ≠ '\n') (h : BehindLine atEnd text) :
    BehindLine atEnd (c :: text) := by
  obtain ⟨comment, rest, rfl, hcomment, hrest⟩ | ⟨hend, hcomment⟩ := h
  · exact .inl ⟨c :: comment, rest, rfl, by simp [hc.symm, hcomment], hrest⟩
  · exact .inr ⟨hend, by simp [hc.symm, hcomment]⟩

/-- A nested comment is part of the one around it. -/
theorem BehindBlocks.nested {n : ℕ} {text : List Char} (h : BehindBlocks atEnd (n + 2) text) :
    BehindBlocks atEnd (n + 1) ('#' :: '|' :: text) := by
  obtain ⟨inner, text, rfl, hinner, inside, rest, rfl, hinside, hrest⟩ := h
  exact ⟨'#' :: '|' :: (inner ++ inside), rest, by simp, .nested hinner hinside, hrest⟩

theorem not_mark_prefix {a b c : Char} {cs : List Char} (h : ∀ cs', c = a → cs = b :: cs' → False) :
    ¬ [a, b] <+: c :: cs := by
  rintro ⟨cs', he⟩
  obtain ⟨hc, hcs⟩ := List.cons.inj he
  exact h cs' hc.symm hcs.symm

/-- What is dropped from the front of a text is right for its mode, and the position counts it. -/
theorem dropped_of_skip {mode : Mode} {p q : Position} {cs rest : List Char}
    (h : skip mode p cs = some (q, rest)) :
    ∃ gap, cs = gap ++ rest ∧ q = p.advance gap ∧ mode.Dropped (rest = []) gap := by
  fun_induction skip mode p cs with
  | case1 => cases h
  | case2 n p cs ih =>
    obtain ⟨gap, rfl, rfl, hgap⟩ := ih h
    rw [Mode.dropped_leave] at hgap
    exact ⟨'|' :: '#' :: gap, rfl, rfl, ['|', '#'], gap, rfl, .close, hgap⟩
  | case3 n p cs ih =>
    obtain ⟨gap, rfl, rfl, hgap⟩ := ih h
    exact ⟨'#' :: '|' :: gap, rfl, rfl, BehindBlocks.nested hgap⟩
  | case4 n p c cs hclose hopen ih =>
    obtain ⟨gap, rfl, rfl, inside, more, rfl, hinside, hmore⟩ := ih h
    refine ⟨c :: (inside ++ more), rfl, rfl, c :: inside, more, rfl, ?_, hmore⟩
    -- a mark at the front of the comment would be one at the front of the text
    have hprefix : c :: inside <+: c :: (inside ++ more ++ rest) := by simp
    refine .char (fun hmark => ?_) (fun hmark => ?_) hinside
    · exact not_mark_prefix hclose (hmark.trans hprefix)
    · exact not_mark_prefix hopen (hmark.trans hprefix)
  | case5 p =>
    cases h
    exact ⟨[], rfl, rfl, .inr ⟨rfl, List.not_mem_nil⟩⟩
  | case6 p c cs ih =>
    obtain ⟨gap, rfl, rfl, hgap⟩ := ih h
    refine ⟨c :: gap, rfl, rfl, ?_⟩
    by_cases hc : c = '\n'
    · rw [if_pos hc] at hgap
      exact .inl ⟨[], gap, by rw [hc]; rfl, List.not_mem_nil, hgap⟩
    · rw [if_neg hc] at hgap
      exact hgap.char hc
  | case7 p =>
    cases h
    exact ⟨[], rfl, rfl, .nil⟩
  | case8 p cs ih =>
    obtain ⟨gap, rfl, rfl, inside, more, rfl, hinside, hmore⟩ := ih h
    exact ⟨'#' :: '|' :: (inside ++ more), rfl, rfl, .block hinside hmore⟩
  | case9 p cs hopen ih =>
    obtain ⟨gap, rfl, rfl, hgap⟩ := ih h
    exact ⟨';' :: gap, rfl, rfl, hgap.gap⟩
  | case10 p c cs hopen hsemi hblank ih =>
    obtain ⟨gap, rfl, rfl, hgap⟩ := ih h
    exact ⟨c :: gap, rfl, rfl, .blank hblank hgap⟩
  | case11 p c cs =>
    cases h
    exact ⟨[], rfl, rfl, .nil⟩

end Dropped

/-- **What is dropped from the front of a text is a gap**, and the position counts it. -/
theorem gap_of_skip {p q : Position} {cs rest : List Char} (h : skip .code p cs = some (q, rest)) :
    ∃ gap, cs = gap ++ rest ∧ q = p.advance gap ∧ Gap (rest = []) gap :=
  dropped_of_skip h

end Trivia

end TimelineLisp
