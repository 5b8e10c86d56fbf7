import TimelineLisp.Proofs.Token.Newline

/-!
# Where a text is cut off

A text that is not finished stops between two tokens of a list, or inside a comment, a string or a
`#` literal (`Cursor.incomplete_cases`).  The next line comes after a newline, and not everything
goes on over one.

* A comment and a string do, and so does the text of a list: **the next line can lead on to what
  comes after them** (`Cursor.step_extend_of_open`).  The mark `#\` takes the newline for its
  character.
* A backslash in a string and every other `#` literal do not: **the newline makes their fault final,
  whatever comes after it** (`Cursor.step_extend_of_cutOff`).
-/

namespace TimelineLisp

/-! ### Comments -/

namespace Trivia

/-- A text that stops inside a block comment goes on inside it. -/
theorem skip_append_none {mode : Mode} {p : Position} {cs : List Char}
    (h : skip mode p cs = none) :
    ∃ n q, ∀ more, skip mode p (cs ++ '\n' :: more) = skip (.block n) q more := by
  fun_induction skip mode p cs with
  | case1 n p => exact ⟨n, p.next '\n', fun more => skip_block_char (by simp) (by simp)⟩
  | case2 n p cs ih => exact ih h
  | case3 n p cs ih => exact ih h
  | case4 n p a cs hclose hopen ih =>
    obtain ⟨m, q, hq⟩ := ih h
    refine ⟨m, q, fun more => ?_⟩
    rw [List.cons_append, skip_block_char (not_mark_append (by decide) hclose)
      (not_mark_append (by decide) hopen), hq]
  | case5 p => cases h
  | case6 p a cs ih => exact ih h
  | case7 p => cases h
  | case8 p cs ih => exact ih h
  | case9 p cs hopen ih =>
    obtain ⟨m, q, hq⟩ := ih h
    refine ⟨m, q, fun more => ?_⟩
    rw [List.cons_append, skip_code_char (not_mark_append (by decide) hopen), if_pos rfl, hq]
  | case10 p a cs hopen hsemi hblank ih =>
    obtain ⟨m, q, hq⟩ := ih h
    refine ⟨m, q, fun more => ?_⟩
    rw [List.cons_append, skip_code_char (not_mark_append (by decide) hopen), if_neg hsemi,
      if_pos hblank, hq]
  | case11 p a cs hopen hsemi hblank => cases h

/-- Ends a block comment and the `enclosing` ones around it. -/
def closeBlock : ℕ → List Char
  | 0 => ['|', '#']
  | enclosing + 1 => '|' :: '#' :: closeBlock enclosing

theorem newline_notMem_closeBlock (n : ℕ) : '\n' ∉ closeBlock n := by
  induction n with
  | zero => decide
  | succ n ih => simpa [closeBlock] using ih

theorem skip_closeBlock (n : ℕ) (p : Position) :
    ∃ q, ∀ more, skip (.block n) p (closeBlock n ++ more) = skip .code q more := by
  induction n generalizing p with
  | zero => exact ⟨_, fun more => rfl⟩
  | succ n ih => exact ih ((p.next '|').next '#')

end Trivia

/-! ### Strings -/

/-- The text, read from within a string, ends with a backslash that escapes nothing. -/
def endsInEscape : List Char → Bool
  | [] => false
  | ['\\'] => true
  | '\\' :: _ :: cs => endsInEscape cs
  | _ :: cs => endsInEscape cs

theorem endsInEscape_char {c : Char} (hc : c ≠ '\\') (cs : List Char) :
    endsInEscape (c :: cs) = endsInEscape cs :=
  endsInEscape.eq_4 c cs (fun h => absurd h hc) fun _ _ h => absurd h hc

/-- The text of a string that stops inside it goes on with what comes after, behind a backslash if
it ends with one. -/
theorem scanText_append_incomplete {p : Position} {read content cs : List Char}
    (h : scanText p read content cs = .error .incomplete) :
    ∃ q read' content', ∀ more,
      scanText p read content (cs ++ more) =
        scanText q read' content' (if endsInEscape cs then '\\' :: more else more) := by
  fun_induction scanText p read content cs with
  | case1 p read content => exact ⟨p, read, content, fun more => rfl⟩
  | case2 p read content => exact ⟨p, read, content, fun more => rfl⟩
  | case3 p read content e cs c hc ih =>
    obtain ⟨q, read', content', hmore⟩ := ih h
    refine ⟨q, read', content', fun more => ?_⟩
    simp only [List.cons_append, scanText, hc, hmore, endsInEscape]
  | case4 => cases h
  | case5 => cases h
  | case6 p read content c cs h₁ h₂ hq ih =>
    obtain ⟨q, read', content', hmore⟩ := ih h
    have hc := not_backslash h₁ h₂
    refine ⟨q, read', content', fun more => ?_⟩
    rw [List.cons_append, scanText_char hc, if_neg hq, hmore, endsInEscape_char hc]

/-! ### `#` literals -/

/-- The mark of a character takes the newline for its character. -/
theorem scanHash_newline (nested : Bool) (p : Position) (more : List Char) :
    scanHash nested p ('\\' :: '\n' :: more) =
      .ok ⟨.char '\n', ['#', '\\', '\n'], more⟩ := by
  have hrun : nameRun '\n' more = ([], more) := if_neg (by decide +kernel)
  simp only [scanHash, scanCharacter, hrun]

theorem pendingOr_cons (nested : Bool) (rest : List Char) (d : Char) (more : List Char)
    (fault : ScanError) : pendingOr nested (rest ++ d :: more) fault = fault :=
  if_neg (by simp)

/-- A name that no character has ends at the newline, and nothing can be added to it. -/
theorem scanCharacter_append_incomplete {nested : Bool} {p : Position} {cs : List Char}
    (h : scanCharacter nested p cs = .error .incomplete) (hname : cs ≠ []) :
    ∃ e, e ≠ .incomplete ∧ ∀ more, scanCharacter nested p (cs ++ '\n' :: more) = .error e := by
  cases cs with
  | nil => exact absurd rfl hname
  | cons first cs =>
    simp only [List.cons_append, scanCharacter, nameRun_append_stop isNameChar_newline] at h ⊢
    generalize nameRun first cs = r at h ⊢
    obtain ⟨_ | ⟨c, run⟩, rest⟩ := r
    · cases h
    · dsimp only at h ⊢
      cases hn : characterNames.lookup (String.ofList (first :: c :: run)) with
      | some _ =>
        rw [hn] at h
        cases h
      | none =>
        refine ⟨.badCharacter (String.ofList (first :: c :: run)) p, by simp, fun more => ?_⟩
        simp only [pendingOr_cons]

/-- Every `#` literal but the mark of a character ends at the newline. -/
theorem scanHash_append_incomplete {nested : Bool} {p : Position} {cs : List Char}
    (h : scanHash nested p cs = .error .incomplete) (hmark : cs ≠ ['\\']) :
    ∃ e, e ≠ .incomplete ∧ ∀ more, scanHash nested p (cs ++ '\n' :: more) = .error e := by
  by_cases hb : ∃ cs', cs = '\\' :: cs'
  · obtain ⟨cs', rfl⟩ := hb
    exact scanCharacter_append_incomplete h (by simpa using hmark)
  · have hw : ∀ cs', cs ≠ '\\' :: cs' := fun cs' he => hb ⟨cs', he⟩
    rw [scanHash_word hw] at h
    cases hl : boolWords.lookup (String.ofList ('#' :: cs.takeWhile isWordChar)) with
    | some b =>
      rw [hl] at h
      cases h
    | none =>
      refine ⟨.badHash (String.ofList ('#' :: cs.takeWhile isWordChar)) p, by simp,
        fun more => ?_⟩
      rw [scanHash_word (not_backslash_append hw more), takeWhile_append_stop isWordChar_newline,
        dropWhile_append_stop isWordChar_newline, hl]
      simp only [pendingOr_cons]

/-! ### Tokens -/

theorem scanToken_hash (opened : List Bracket) (p : Position) (cs : List Char) :
    scanToken opened p '#' cs = scanHash (!opened.isEmpty) p cs :=
  rfl

theorem scanAtom_ne_incomplete (p : Position) (first : Char) (cs : List Char) :
    scanAtom p first cs ≠ .error .incomplete := by
  intro h
  simp only [scanAtom, classifyAtom] at h
  split_ifs at h
  · cases hn : Number.ofChars? (first :: cs.takeWhile isWordChar) with
    | none =>
      rw [hn] at h
      cases h
    | some n =>
      rw [hn] at h
      cases h
  · cases h

theorem scanClose_ne_incomplete (opened : List Bracket) (p : Position) (found : Bracket)
    (cs : List Char) : scanClose opened p found cs ≠ .error .incomplete := by
  intro h
  unfold scanClose at h
  split at h
  · cases h
  · split_ifs at h
    cases h

/-- Only a string and a `#` literal can be incomplete. -/
theorem scanToken_incomplete {opened : List Bracket} {p : Position} {first : Char}
    {cs : List Char} (h : scanToken opened p first cs = .error .incomplete) :
    (first = '"' ∧ scanText (p.next '"') ['"'] [] cs = .error .incomplete) ∨
      (first = '#' ∧ scanHash (!opened.isEmpty) p cs = .error .incomplete) := by
  unfold scanToken at h
  split at h
  · cases h
  · split at h
    · exact absurd h (scanClose_ne_incomplete opened p _ cs)
    · split_ifs at h with hquote htext hhash
      · subst htext
        exact .inl ⟨rfl, h⟩
      · subst hhash
        exact .inr ⟨rfl, h⟩
      · exact absurd h (scanAtom_ne_incomplete p first cs)

/-! ### Cursors -/

/-- The text starts with a literal that does not go on over a newline at its end. -/
def endsInLiteral : List Char → Bool
  | '"' :: cs => endsInEscape cs
  | '#' :: cs => cs ≠ ['\\']
  | _ => false

namespace Cursor

variable {c : Cursor}

/-- Behind the trivia, what is left of the text is a literal that does not go on over a newline. -/
def isCutOff (c : Cursor) : Bool :=
  (Trivia.skip .code c.position c.rest).any fun (_, left) => endsInLiteral left

/-- **Where a text stops**: inside a comment, between two tokens of a list, inside a string or
inside a `#` literal. -/
theorem incomplete_cases (h : c.step = .fault .incomplete) :
    Trivia.skip .code c.position c.rest = none ∨
    (∃ p, Trivia.skip .code c.position c.rest = some (p, [])) ∨
    (∃ p cs, Trivia.skip .code c.position c.rest = some (p, '"' :: cs) ∧
      scanText (p.next '"') ['"'] [] cs = .error .incomplete) ∨
    ∃ p cs, Trivia.skip .code c.position c.rest = some (p, '#' :: cs) ∧
      scanHash (!c.opened.isEmpty) p cs = .error .incomplete := by
  unfold step at h
  split at h
  · next hskip => exact .inl hskip
  · next p hskip => exact .inr (.inl ⟨p, hskip⟩)
  · next p first cs hskip =>
    split at h
    · next e hscan =>
      cases h
      obtain ⟨rfl, htext⟩ | ⟨rfl, hhash⟩ := scanToken_incomplete hscan
      · exact .inr (.inr (.inl ⟨p, cs, hskip, htext⟩))
      · exact .inr (.inr (.inr ⟨p, cs, hskip, hhash⟩))
    · cases h

/-- A token behind the trivia, with more lines after the text. -/
theorem step_extend_cons {p : Position} {first : Char} {cs : List Char}
    (h : Trivia.skip .code c.position c.rest = some (p, first :: cs)) (more : List Char) :
    (c.extend ('\n' :: more)).step =
      match scanToken c.opened p first (cs ++ '\n' :: more) with
      | .error e => .fault e
      | .ok t => .token ⟨t.kind, String.ofList t.lexeme, p⟩ (c.after p t) := by
  simp only [step, extend, Trivia.skip_append_cons h more, List.cons_append]
  rfl

/-- **What is cut off cannot be completed**: the newline makes the fault final. -/
theorem step_extend_of_cutOff (h : c.step = .fault .incomplete) (hcut : c.isCutOff = true) :
    ∃ e, e ≠ .incomplete ∧ ∀ more, (c.extend ('\n' :: more)).step = .fault e := by
  obtain hskip | ⟨p, hskip⟩ | ⟨p, cs, hskip, htext⟩ | ⟨p, cs, hskip, hhash⟩ := incomplete_cases h
  · simp [isCutOff, hskip] at hcut
  · simp [isCutOff, hskip, endsInLiteral] at hcut
  · have hescape : endsInEscape cs = true := by simpa [isCutOff, hskip, endsInLiteral] using hcut
    obtain ⟨q, read, content, hmore⟩ := scanText_append_incomplete htext
    refine ⟨.badEscape '\n' q, by simp, fun more => ?_⟩
    have hscan : scanToken c.opened p '"' (cs ++ '\n' :: more) = .error (.badEscape '\n' q) := by
      refine (hmore ('\n' :: more)).trans ?_
      rw [if_pos hescape]
      rfl
    rw [step_extend_cons hskip, hscan]
  · have hmark : cs ≠ ['\\'] := by simpa [isCutOff, hskip, endsInLiteral] using hcut
    obtain ⟨e, he, hmore⟩ := scanHash_append_incomplete hhash hmark
    refine ⟨e, he, fun more => ?_⟩
    rw [step_extend_cons hskip, scanToken_hash, hmore]

/-- **What is open can be gone on with**: the next line can lead to the place behind a comment, a
string or a character, or starts there by itself. -/
theorem step_extend_of_open (h : c.step = .fault .incomplete) (hopen : c.isCutOff = false) :
    ∃ line q, '\n' ∉ line ∧
      ((∀ more, (c.extend ('\n' :: (line ++ more))).step = (⟨q, more, c.opened⟩ : Cursor).step) ∨
        ∃ t : Token, ((∃ text, t.kind = .text text) ∨ ∃ value, t.kind = .char value) ∧
          ∀ more, (c.extend ('\n' :: (line ++ more))).step = .token t ⟨q, more, c.opened⟩) := by
  obtain hskip | ⟨p, hskip⟩ | ⟨p, cs, hskip, htext⟩ | ⟨p, cs, hskip, hhash⟩ := incomplete_cases h
  · obtain ⟨n, q, hblock⟩ := Trivia.skip_append_none hskip
    obtain ⟨q', hclose⟩ := Trivia.skip_closeBlock n q
    refine ⟨Trivia.closeBlock n, q', Trivia.newline_notMem_closeBlock n, .inl fun more => ?_⟩
    simp only [step, extend, hblock, hclose]
    rfl
  · refine ⟨[], p.next '\n', List.not_mem_nil, .inl fun more => ?_⟩
    simp only [step, extend, List.nil_append, Trivia.skip_append_nil hskip]
    rfl
  · have hescape : endsInEscape cs = false := by simpa [isCutOff, hskip, endsInLiteral] using hopen
    obtain ⟨q, read, content, hmore⟩ := scanText_append_incomplete htext
    let text := String.ofList ('\n' :: content).reverse
    let lexeme := ('"' :: '\n' :: read).reverse
    have hscan (more : List Char) : scanToken c.opened p '"' (cs ++ '\n' :: '"' :: more) =
        .ok ⟨.text text, lexeme, more⟩ := by
      refine (hmore ('\n' :: '"' :: more)).trans ?_
      rw [if_neg (by simp [hescape])]
      rfl
    refine ⟨['"'], p.advance lexeme, by decide, .inr
      ⟨⟨.text text, String.ofList lexeme, p⟩, .inl ⟨text, rfl⟩, fun more => ?_⟩⟩
    rw [List.singleton_append, step_extend_cons hskip, hscan]
    rfl
  · have hmark : cs = ['\\'] := by simpa [isCutOff, hskip, endsInLiteral] using hopen
    subst hmark
    let lexeme := ['#', '\\', '\n']
    have hscan (more : List Char) : scanToken c.opened p '#' (['\\'] ++ '\n' :: more) =
        .ok ⟨.char '\n', lexeme, more⟩ := by
      rw [scanToken_hash]
      exact scanHash_newline (!c.opened.isEmpty) p more
    refine ⟨[], p.advance lexeme, List.not_mem_nil, .inr
      ⟨⟨.char '\n', String.ofList lexeme, p⟩, .inr ⟨'\n', rfl⟩, fun more => ?_⟩⟩
    rw [List.nil_append, step_extend_cons hskip, hscan]
    rfl

/-! ### Whole texts -/

/-- The place where the splitting of a text stops. -/
def stop (c : Cursor) : Cursor :=
  (c.trace.steps.getLast?.map (·.2)).getD c

theorem stop_of_finished {p : Position} (h : c.step = .finished p) : c.stop = c := by
  rw [stop, trace_of_finished h]
  rfl

theorem stop_of_fault {e : ScanError} (h : c.step = .fault e) : c.stop = c := by
  rw [stop, trace_of_fault h]
  rfl

theorem stop_of_token {c' : Cursor} {t : Token} (h : c.step = .token t c') : c.stop = c'.stop := by
  simp only [stop, trace_of_token h, Trace.cons, List.getLast?_cons]
  cases c'.trace.steps.getLast? <;> rfl

/-- A text that comes to its end is not cut off. -/
theorem isCutOff_of_finished {p : Position} (h : c.step = .finished p) : c.isCutOff = false := by
  obtain ⟨hskip, -⟩ := skip_of_step_finished h
  simp [isCutOff, hskip, endsInLiteral]

end Cursor

/-- The text stops inside a literal that does not go on over a newline. -/
def isCutOff (source : String) : Bool :=
  (Cursor.ofString source).stop.isCutOff

end TimelineLisp
