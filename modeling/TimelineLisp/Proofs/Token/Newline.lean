import Mathlib.Tactic.Common
import TimelineLisp.Token.Cursor

/-!
# A newline after the text

What follows a newline does not change the tokens before it.  A newline ends every symbol, number
and `#` literal, ends a line comment, and is a blank between tokens; only a string or a block
comment goes on over it, and these make a text that stops inside them incomplete.

For a cursor, **a token and a final fault are the same with more lines after the text**
(`Cursor.step_extend_token`, `Cursor.step_extend_fault`), and **where the text was finished, the
further lines are read from their own start** (`Cursor.step_extend_finished`).
-/

namespace TimelineLisp

/-! ### Runs of characters -/

theorem takeWhile_append_stop {p : Char → Bool} {d : Char} (hd : p d = false)
    (cs more : List Char) : (cs ++ d :: more).takeWhile p = cs.takeWhile p := by
  induction cs with
  | nil => simp [hd]
  | cons c cs ih =>
    simp only [List.cons_append, List.takeWhile_cons, ih]

theorem dropWhile_append_stop {p : Char → Bool} {d : Char} (hd : p d = false)
    (cs more : List Char) : (cs ++ d :: more).dropWhile p = cs.dropWhile p ++ d :: more := by
  induction cs with
  | nil => simp [hd]
  | cons c cs ih =>
    simp only [List.cons_append, List.dropWhile_cons, ih]
    split_ifs <;> rfl

theorem isWordChar_newline : isWordChar '\n' = false := by decide

theorem isNameChar_newline : isNameChar '\n' = false := by decide +kernel

/-! ### Trivia -/

namespace Trivia

/-- A mark of two characters does not come about where the text is cut at a newline. -/
theorem not_mark_append {a b c : Char} {cs more : List Char} (hb : b ≠ '\n')
    (h : ∀ cs', c = a → cs = b :: cs' → False) (cs' : List Char) (hc : c = a)
    (he : cs ++ '\n' :: more = b :: cs') : False := by
  cases cs with
  | nil => exact hb (List.cons.inj he).1.symm
  | cons d cs => exact h cs hc (by rw [(List.cons.inj he).1])

theorem skip_block_char {n : ℕ} {p : Position} {c : Char} {cs : List Char}
    (hclose : ∀ cs', c = '|' → cs = '#' :: cs' → False)
    (hopen : ∀ cs', c = '#' → cs = '|' :: cs' → False) :
    skip (.block n) p (c :: cs) = skip (.block n) (p.next c) cs :=
  skip.eq_4 p n c cs hclose hopen

theorem skip_code_char {p : Position} {c : Char} {cs : List Char}
    (hopen : ∀ cs', c = '#' → cs = '|' :: cs' → False) :
    skip .code p (c :: cs) =
      if c = ';' then skip .line (p.next c) cs
      else if isBlank c then skip .code (p.next c) cs
      else some (p, c :: cs) :=
  skip.eq_9 p c cs hopen

/-- Trivia in front of something is dropped, whatever comes after a newline. -/
theorem skip_append_cons {mode : Mode} {p q : Position} {c : Char} {cs rest : List Char}
    (h : skip mode p cs = some (q, c :: rest)) (more : List Char) :
    skip mode p (cs ++ '\n' :: more) = some (q, c :: rest ++ '\n' :: more) := by
  fun_induction skip mode p cs with
  | case1 => simp at h
  | case2 n p cs ih => exact ih h
  | case3 n p cs ih => exact ih h
  | case4 n p a cs hclose hopen ih =>
    -- the last character of the text and the newline are no mark together
    rw [List.cons_append, skip_block_char (not_mark_append (by decide) hclose)
      (not_mark_append (by decide) hopen), ih h]
  | case5 p => simp at h
  | case6 p a cs ih => exact ih h
  | case7 p => simp at h
  | case8 p cs ih => exact ih h
  | case9 p cs hopen ih =>
    rw [List.cons_append, skip_code_char (not_mark_append (by decide) hopen), if_pos rfl, ih h]
  | case10 p a cs hopen hsemi hblank ih =>
    rw [List.cons_append, skip_code_char (not_mark_append (by decide) hopen), if_neg hsemi,
      if_pos hblank, ih h]
  | case11 p a cs hopen hsemi hblank =>
    rw [List.cons_append, skip_code_char (not_mark_append (by decide) hopen), if_neg hsemi,
      if_neg hblank]
    cases h
    rfl

/-- A text of trivia alone is dropped together with a newline after it. -/
theorem skip_append_nil {mode : Mode} {p q : Position} {cs : List Char}
    (h : skip mode p cs = some (q, [])) (more : List Char) :
    skip mode p (cs ++ '\n' :: more) = skip .code (q.next '\n') more := by
  fun_induction skip mode p cs with
  | case1 => simp at h
  | case2 n p cs ih => exact ih h
  | case3 n p cs ih => exact ih h
  | case4 n p a cs hclose hopen ih =>
    rw [List.cons_append, skip_block_char (not_mark_append (by decide) hclose)
      (not_mark_append (by decide) hopen), ih h]
  | case5 p =>
    -- the newline ends the line comment
    cases h
    rfl
  | case6 p a cs ih => exact ih h
  | case7 p =>
    -- the newline is a blank
    cases h
    rw [List.nil_append, skip_code_char (by simp), if_neg (by decide), if_pos isBlank_newline]
  | case8 p cs ih => exact ih h
  | case9 p cs hopen ih =>
    rw [List.cons_append, skip_code_char (not_mark_append (by decide) hopen), if_pos rfl, ih h]
  | case10 p a cs hopen hsemi hblank ih =>
    rw [List.cons_append, skip_code_char (not_mark_append (by decide) hopen), if_neg hsemi,
      if_pos hblank, ih h]
  | case11 p a cs hopen hsemi hblank => simp at h

end Trivia

/-! ### Tokens -/

/-- The piece with more text after it. -/
def Piece.extend (t : Piece) (more : List Char) : Piece :=
  { t with rest := t.rest ++ more }

/-- Inside a string literal, a character that is no backslash stands for itself or ends it. -/
theorem scanText_char {p : Position} {read content : List Char} {c : Char} (hc : c ≠ '\\')
    (cs : List Char) :
    scanText p read content (c :: cs) =
      if c = '"' then .ok ⟨.text (String.ofList content.reverse), (c :: read).reverse, cs⟩
      else scanText (p.next c) (c :: read) (c :: content) cs :=
  scanText.eq_4 p read content c cs (fun h => absurd h hc) fun _ _ h => absurd h hc

/-- A character that starts no escape is no backslash. -/
theorem not_backslash {c : Char} {cs : List Char} (hlast : c = '\\' → cs = [] → False)
    (hescape : ∀ e cs', c = '\\' → cs = e :: cs' → False) : c ≠ '\\' := by
  rintro rfl
  cases cs with
  | nil => exact hlast rfl rfl
  | cons e cs => exact hescape e cs rfl rfl

/-- A string literal ends at its closing quote, whatever comes after it. -/
theorem scanText_append {p : Position} {read content cs : List Char}
    (h : scanText p read content cs ≠ .error .incomplete) (more : List Char) :
    scanText p read content (cs ++ more) =
      (scanText p read content cs).map (·.extend more) := by
  fun_induction scanText p read content cs with
  | case1 => exact absurd rfl h
  | case2 => exact absurd rfl h
  | case3 p read content e cs c hc ih => simp only [List.cons_append, scanText, hc, ih h]
  | case4 p read content e cs hc =>
    simp only [List.cons_append, scanText, hc]
    rfl
  | case5 p read content cs =>
    rw [List.cons_append, scanText_char (by decide), if_pos rfl]
    rfl
  | case6 p read content c cs h₁ h₂ hq ih =>
    rw [List.cons_append, scanText_char (not_backslash h₁ h₂), if_neg hq, ih h]

theorem nameRun_append_stop {d : Char} (hd : isNameChar d = false) (first : Char)
    (cs more : List Char) :
    nameRun first (cs ++ d :: more) =
      ((nameRun first cs).1, (nameRun first cs).2 ++ d :: more) := by
  unfold nameRun
  split_ifs
  · rw [takeWhile_append_stop hd, dropWhile_append_stop hd]
  · rfl

/-- With more text behind it, a `#` literal is not cut off. -/
theorem pendingOr_append {nested : Bool} {rest : List Char} {fault : ScanError}
    (h : pendingOr nested rest fault ≠ .incomplete) (d : Char) (more : List Char) :
    pendingOr nested (rest ++ d :: more) fault = pendingOr nested rest fault := by
  unfold pendingOr at h ⊢
  split_ifs at h with hc
  · exact absurd rfl h
  · rw [if_neg (by simp), if_neg hc]

theorem scanCharacter_append {nested : Bool} {p : Position} {cs : List Char}
    (h : scanCharacter nested p cs ≠ .error .incomplete) (more : List Char) :
    scanCharacter nested p (cs ++ '\n' :: more) =
      (scanCharacter nested p cs).map (·.extend ('\n' :: more)) := by
  cases cs with
  | nil => exact absurd rfl h
  | cons first cs =>
    simp only [List.cons_append, scanCharacter, nameRun_append_stop isNameChar_newline] at h ⊢
    generalize nameRun first cs = r at h ⊢
    obtain ⟨_ | ⟨c, run⟩, rest⟩ := r
    · rfl
    · dsimp only at h ⊢
      cases hn : characterNames.lookup (String.ofList (first :: c :: run)) with
      | some _ => rfl
      | none =>
        -- more letters cannot follow, so the name stays unknown
        rw [hn] at h
        simp only [pendingOr_append (fun he => h (by rw [he])) '\n' more]
        rfl

/-- A `#` literal that is no character is a word. -/
theorem scanHash_word {nested : Bool} {p : Position} {cs : List Char}
    (h : ∀ cs', cs ≠ '\\' :: cs') :
    scanHash nested p cs =
      match boolWords.lookup (String.ofList ('#' :: cs.takeWhile isWordChar)) with
      | some b => .ok ⟨.bool b, '#' :: cs.takeWhile isWordChar, cs.dropWhile isWordChar⟩
      | none => .error (pendingOr nested (cs.dropWhile isWordChar)
          (.badHash (String.ofList ('#' :: cs.takeWhile isWordChar)) p)) :=
  scanHash.eq_2 nested p cs h

/-- A newline does not bring a backslash to stand behind the mark of a `#` literal. -/
theorem not_backslash_append {cs : List Char} (h : ∀ cs', cs ≠ '\\' :: cs') (more cs' : List Char) :
    cs ++ '\n' :: more ≠ '\\' :: cs' := by
  intro he
  cases cs with
  | nil => simp at he
  | cons c cs => exact h cs (by rw [(List.cons.inj he).1])

theorem scanHash_append {nested : Bool} {p : Position} {cs : List Char}
    (h : scanHash nested p cs ≠ .error .incomplete) (more : List Char) :
    scanHash nested p (cs ++ '\n' :: more) =
      (scanHash nested p cs).map (·.extend ('\n' :: more)) := by
  by_cases hb : ∃ cs', cs = '\\' :: cs'
  · obtain ⟨cs', rfl⟩ := hb
    exact scanCharacter_append h more
  · have hw : ∀ cs', cs ≠ '\\' :: cs' := fun cs' he => hb ⟨cs', he⟩
    rw [scanHash_word hw] at h
    rw [scanHash_word hw, scanHash_word (not_backslash_append hw more),
      takeWhile_append_stop isWordChar_newline, dropWhile_append_stop isWordChar_newline]
    cases hl : boolWords.lookup (String.ofList ('#' :: cs.takeWhile isWordChar)) with
    | some b => rfl
    | none =>
      rw [hl] at h
      simp only [pendingOr_append (fun he => h (by rw [he])) '\n' more]
      rfl

theorem scanAtom_append (p : Position) (first : Char) (cs more : List Char) :
    scanAtom p first (cs ++ '\n' :: more) =
      (scanAtom p first cs).map (·.extend ('\n' :: more)) := by
  simp only [scanAtom, takeWhile_append_stop isWordChar_newline,
    dropWhile_append_stop isWordChar_newline]
  cases classifyAtom p (first :: cs.takeWhile isWordChar) <;> rfl

theorem scanClose_append (opened : List Bracket) (p : Position) (found : Bracket)
    (cs more : List Char) :
    scanClose opened p found (cs ++ more) =
      (scanClose opened p found cs).map (·.extend more) := by
  unfold scanClose
  cases opened with
  | nil => rfl
  | cons expected opened =>
    dsimp only
    split_ifs <;> rfl

/-- **A token does not look past a newline**: with more lines after the text it is the same. -/
theorem scanToken_append {opened : List Bracket} {p : Position} {first : Char} {cs : List Char}
    (h : scanToken opened p first cs ≠ .error .incomplete) (more : List Char) :
    scanToken opened p first (cs ++ '\n' :: more) =
      (scanToken opened p first cs).map (·.extend ('\n' :: more)) := by
  unfold scanToken at h ⊢
  cases ho : Bracket.ofOpening? first with
  | some b => rfl
  | none =>
    cases hc : Bracket.ofClosing? first with
    | some b => exact scanClose_append opened p b cs _
    | none =>
      simp only [ho, hc] at h ⊢
      split_ifs at h ⊢
      · rfl
      · exact scanText_append h _
      · exact scanHash_append h more
      · exact scanAtom_append p first cs more

/-! ### Cursors -/

namespace Cursor

/-- The cursor with more text after what is left. -/
def extend (s : Cursor) (more : List Char) : Cursor :=
  { s with rest := s.rest ++ more }

/-- The next token is the same with more lines after the text. -/
theorem step_extend_token {s s' : Cursor} {t : Token} (h : s.step = .token t s')
    (more : List Char) :
    (s.extend ('\n' :: more)).step = .token t (s'.extend ('\n' :: more)) := by
  unfold step at h
  split at h
  · simp at h
  · split_ifs at h
  · next p first cs hs =>
    have hs' := Trivia.skip_append_cons hs more
    split at h
    · simp at h
    · next piece hp =>
      cases h
      have hp' := scanToken_append (by rw [hp]; simp) more
      rw [hp] at hp'
      simp only [step, extend, hs', List.cons_append, hp']
      rfl

/-- A final fault is the same with more lines after the text. -/
theorem step_extend_fault {s : Cursor} {e : ScanError} (h : s.step = .fault e)
    (he : e ≠ .incomplete) (more : List Char) : (s.extend ('\n' :: more)).step = .fault e := by
  unfold step at h
  split at h
  · exact absurd (Step.fault.inj h).symm he
  · split_ifs at h
    exact absurd (Step.fault.inj h).symm he
  · next p first cs hs =>
    have hs' := Trivia.skip_append_cons hs more
    split at h
    · next e' hp =>
      cases h
      have hp' := scanToken_append (by rw [hp]; simpa using he) more
      rw [hp] at hp'
      simp only [step, extend, hs', List.cons_append, hp']
      rfl
    · simp at h

/-- Where a text is finished, trivia is all that is left, and no bracket is open. -/
theorem skip_of_step_finished {s : Cursor} {p : Position} (h : s.step = .finished p) :
    Trivia.skip .code s.position s.rest = some (p, []) ∧ s.opened = [] := by
  unfold step at h
  split at h
  · cases h
  · next q hs =>
    split_ifs at h with ho
    cases h
    exact ⟨hs, List.isEmpty_iff.1 ho⟩
  · split at h <;> cases h

theorem opened_of_step_finished {s : Cursor} {p : Position} (h : s.step = .finished p) :
    s.opened = [] :=
  (skip_of_step_finished h).2

theorem position_of_step_finished {s : Cursor} {p : Position} (h : s.step = .finished p) :
    p = s.position.advance s.rest := by
  obtain ⟨gap, hg, hp⟩ := Trivia.skip_split (skip_of_step_finished h).1
  rw [hp, hg, List.append_nil]

/-- Where the text was finished, further lines are read from their own start. -/
theorem step_extend_finished {s : Cursor} {p : Position} (h : s.step = .finished p)
    (more : List Char) :
    (s.extend ('\n' :: more)).step = (⟨p.next '\n', more, []⟩ : Cursor).step := by
  obtain ⟨hs, ho⟩ := skip_of_step_finished h
  simp only [step, extend, Trivia.skip_append_nil hs more, ho]
  rfl

end Cursor

end TimelineLisp
