import TimelineLisp.Proofs.Token.Nesting

/-!
# Tokens read again

All that a token is stands in its lexeme.  **Read again from its lexeme, a token is the same**
(`Cursor.step_lexeme`), at any place and whatever comes behind it, as long as that does not go on
with it more than what was there before (`Apart`).  Only a closing bracket needs more than its
lexeme: the bracket that it closes.

So a token that is no bracket makes a text of its own (`tokenize_lexeme`).
-/

namespace TimelineLisp

/-- The text `tail` may stand behind a token in place of `rest`: it starts with nothing that could
go on with a token, or as `rest` does. -/
def Apart (rest tail : List Char) : Prop :=
  ∀ c ∈ tail.head?, c ∈ rest.head? ∨ (isWordChar c = false ∧ isNameChar c = false)

theorem apart_nil (rest : List Char) : Apart rest [] :=
  nofun

/-- A run of characters is the same in front of a text that does not go on with it. -/
theorem takeWhile_again {p : Char → Bool} {cs tail : List Char}
    (htail : ∀ c ∈ tail.head?, c ∈ (cs.dropWhile p).head? ∨ p c = false) :
    (cs.takeWhile p ++ tail).takeWhile p = cs.takeWhile p ∧
      (cs.takeWhile p ++ tail).dropWhile p = tail := by
  have hcs : ∀ c ∈ cs.takeWhile p, p c = true := List.all_eq_true.1 List.all_takeWhile
  rw [List.takeWhile_append_of_pos hcs, List.dropWhile_append_of_pos hcs]
  cases tail with
  | nil => simp
  | cons c tail =>
    have hc : p c = false := by
      rcases htail c rfl with hrest | hc
      · have hstop := List.head?_dropWhile_not p cs
        rw [Option.mem_def.1 hrest] at hstop
        exact hstop
      · exact hc
    simp [hc]

namespace Apart

variable {rest tail cs : List Char}

/-- What is left of a text when its end is cut off may stand in its place. -/
theorem of_isPrefix (h : tail <+: rest) : Apart rest tail := by
  obtain ⟨more, rfl⟩ := h
  intro c hc
  refine Or.inl ?_
  rw [List.head?_append, Option.mem_def.1 hc]
  rfl

theorem word (htail : Apart (cs.dropWhile isWordChar) tail) :
    (cs.takeWhile isWordChar ++ tail).takeWhile isWordChar = cs.takeWhile isWordChar ∧
      (cs.takeWhile isWordChar ++ tail).dropWhile isWordChar = tail :=
  takeWhile_again fun c hc => (htail c hc).imp_right And.left

theorem nameRun {first : Char} (htail : Apart (nameRun first cs).2 tail) :
    nameRun first ((nameRun first cs).1 ++ tail) = ((nameRun first cs).1, tail) := by
  unfold TimelineLisp.nameRun at htail ⊢
  split_ifs at htail ⊢
  · obtain ⟨htake, hdrop⟩ := takeWhile_again fun c hc => (htail c hc).imp_right And.right
    rw [htake, hdrop]
  · rfl

/-- A character that goes on with a word was there before. -/
theorem front (htail : Apart rest tail) {d : Char} (hd : isWordChar d = true) {cs' : List Char}
    (h : cs ++ tail = d :: cs') : ∃ more, cs ++ rest = d :: more := by
  cases cs with
  | nil =>
    rw [List.nil_append] at h
    subst h
    rcases htail d rfl with hrest | ⟨hword, -⟩
    · obtain ⟨more, hmore⟩ := List.head?_eq_some_iff.1 hrest
      exact ⟨more, hmore⟩
    · exact absurd hword (by simp [hd])
  | cons c cs => exact ⟨cs ++ rest, by rw [(List.cons.inj h).1]; rfl⟩

end Apart

/-- What a closing bracket closes is open. -/
def TokenKind.Fits (kind : TokenKind) (opened : List Bracket) : Prop :=
  ∀ b, kind = .closing b → opened.head? = some b

/-! ### Scanners -/

section Scanners

variable {p : Position} {cs : List Char} {t : Piece}

/-- A string literal ends with its lexeme. -/
theorem scanText_again {read content : List Char} (h : scanText p read content cs = .ok t) :
    ∃ more, t.lexeme = read.reverse ++ more ∧
      ∀ p' tail, scanText p' read content (more ++ tail) = .ok { t with rest := tail } := by
  fun_induction scanText p read content cs with
  | case1 => cases h
  | case2 => cases h
  | case3 p read content e cs c hc ih =>
    obtain ⟨more, hlexeme, hmore⟩ := ih h
    refine ⟨'\\' :: e :: more, by simp [hlexeme], fun p' tail => ?_⟩
    simp only [List.cons_append, scanText, hc, hmore]
  | case4 => cases h
  | case5 p read content cs =>
    cases h
    refine ⟨['"'], by simp, fun p' tail => ?_⟩
    rw [List.singleton_append, scanText_char (by decide), if_pos rfl]
  | case6 p read content c cs h₁ h₂ hq ih =>
    obtain ⟨more, hlexeme, hmore⟩ := ih h
    refine ⟨c :: more, by simp [hlexeme], fun p' tail => ?_⟩
    rw [List.cons_append, scanText_char (not_backslash h₁ h₂), if_neg hq, hmore]

theorem scanCharacter_again {nested : Bool} (h : scanCharacter nested p cs = .ok t) :
    ∃ more, t.lexeme = '#' :: '\\' :: more ∧ ∀ nested' p' tail, Apart t.rest tail →
      scanCharacter nested' p' (more ++ tail) = .ok { t with rest := tail } := by
  cases cs with
  | nil => cases h
  | cons first cs =>
    have hagain (tail : List Char) (htail : Apart (nameRun first cs).2 tail) := htail.nameRun
    rw [scanCharacter] at h
    generalize nameRun first cs = r at h hagain
    obtain ⟨_ | ⟨c, run⟩, rest⟩ := r
    · cases h
      refine ⟨[first], rfl, fun nested' p' tail htail => ?_⟩
      have hrun : nameRun first tail = ([], tail) := hagain tail htail
      rw [List.singleton_append, scanCharacter, hrun]
    · dsimp only at h
      cases hn : characterNames.lookup (String.ofList (first :: c :: run)) with
      | none =>
        rw [hn] at h
        cases h
      | some value =>
        rw [hn] at h
        cases h
        refine ⟨first :: c :: run, rfl, fun nested' p' tail htail => ?_⟩
        rw [List.cons_append, scanCharacter, hagain tail htail]
        simp only [hn]

theorem scanHash_again {nested : Bool} (h : scanHash nested p cs = .ok t) :
    ∃ more, t.lexeme = '#' :: more ∧ ∀ nested' p' tail, Apart t.rest tail →
      scanHash nested' p' (more ++ tail) = .ok { t with rest := tail } := by
  by_cases hb : ∃ cs', cs = '\\' :: cs'
  · obtain ⟨cs', rfl⟩ := hb
    obtain ⟨more, hlexeme, hmore⟩ := scanCharacter_again h
    exact ⟨'\\' :: more, hlexeme, hmore⟩
  · have hw : ∀ cs', cs ≠ '\\' :: cs' := fun cs' he => hb ⟨cs', he⟩
    rw [scanHash_word hw] at h
    cases hl : boolWords.lookup (String.ofList ('#' :: cs.takeWhile isWordChar)) with
    | none =>
      rw [hl] at h
      cases h
    | some b =>
      rw [hl] at h
      cases h
      refine ⟨cs.takeWhile isWordChar, rfl, fun nested' p' tail htail => ?_⟩
      obtain ⟨htake, hdrop⟩ := htail.word
      have hw' : ∀ cs', cs.takeWhile isWordChar ++ tail ≠ '\\' :: cs' := by
        intro cs' he
        obtain ⟨more, hmore⟩ := htail.front (by decide) he
        rw [List.takeWhile_append_dropWhile] at hmore
        exact hw more hmore
      rw [scanHash_word hw', htake, hdrop, hl]

theorem classifyAtom_again {lexeme : List Char} {kind : TokenKind}
    (h : classifyAtom p lexeme = .ok kind) (p' : Position) : classifyAtom p' lexeme = .ok kind := by
  unfold classifyAtom at h ⊢
  split_ifs at h ⊢
  · cases hn : Number.ofChars? lexeme with
    | none =>
      rw [hn] at h
      cases h
    | some n =>
      rw [hn] at h
      exact h
  · exact h

theorem scanAtom_again {first : Char} (h : scanAtom p first cs = .ok t) :
    ∃ more, t.lexeme = first :: more ∧ ∀ p' tail, Apart t.rest tail →
      scanAtom p' first (more ++ tail) = .ok { t with rest := tail } := by
  rw [scanAtom] at h
  cases hclass : classifyAtom p (first :: cs.takeWhile isWordChar) with
  | error e =>
    rw [hclass] at h
    cases h
  | ok kind =>
    rw [hclass] at h
    cases h
    refine ⟨cs.takeWhile isWordChar, rfl, fun p' tail htail => ?_⟩
    obtain ⟨htake, hdrop⟩ := htail.word
    rw [scanAtom, htake, hdrop, classifyAtom_again hclass]
    rfl

theorem scanClose_again {opened : List Bracket} {b : Bracket}
    (h : scanClose opened p b cs = .ok t) :
    t.lexeme = [b.closing] ∧ ∀ opened' p' tail, t.kind.Fits opened' →
      scanClose opened' p' b tail = .ok { t with rest := tail } := by
  unfold scanClose at h
  split at h
  · cases h
  · split_ifs at h
    cases h
    refine ⟨rfl, fun opened' p' tail hfits => ?_⟩
    obtain ⟨outer, rfl⟩ := List.head?_eq_some_iff.1 (hfits b rfl)
    rw [scanClose, if_pos rfl]

/-- A token is in its lexeme. -/
theorem scanToken_again {opened : List Bracket} {first : Char}
    (h : scanToken opened p first cs = .ok t) :
    ∃ more, t.lexeme = first :: more ∧ ∀ opened' p' tail, t.kind.Fits opened' →
      Apart t.rest tail →
      scanToken opened' p' first (more ++ tail) = .ok { t with rest := tail } := by
  unfold scanToken at h ⊢
  cases ho : Bracket.ofOpening? first with
  | some b =>
    rw [ho] at h
    cases h
    exact ⟨[], rfl, fun _ _ _ _ _ => rfl⟩
  | none =>
    cases hc : Bracket.ofClosing? first with
    | some b =>
      simp only [ho, hc] at h ⊢
      obtain ⟨hlexeme, hmore⟩ := scanClose_again h
      rw [closing_of_ofClosing? hc] at hlexeme
      exact ⟨[], hlexeme, fun opened' p' tail hfits _ => hmore opened' p' tail hfits⟩
    | none =>
      simp only [ho, hc] at h ⊢
      split_ifs at h ⊢ with hquote htext hhash
      · cases h
        exact ⟨[], rfl, fun _ _ _ _ _ => rfl⟩
      · obtain ⟨more, hlexeme, hmore⟩ := scanText_again h
        exact ⟨more, hlexeme, fun _ p' tail _ _ => hmore _ tail⟩
      · subst hhash
        obtain ⟨more, hlexeme, hmore⟩ := scanHash_again h
        exact ⟨more, hlexeme, fun _ p' tail _ htail => hmore _ p' tail htail⟩
      · obtain ⟨more, hlexeme, hmore⟩ := scanAtom_again h
        exact ⟨more, hlexeme, fun _ p' tail _ htail => hmore p' tail htail⟩

end Scanners

/-! ### Cursors -/

/-- **Read again from its lexeme, a token is the same**, where what it closes is open. -/
theorem Cursor.step_lexeme {c c' : Cursor} {t : Token} (h : c.step = .token t c')
    {tail : List Char} (htail : Apart c'.rest tail) (p : Position) {opened : List Bracket}
    (hfits : t.kind.Fits opened) :
    (⟨p, t.lexeme.toList ++ tail, opened⟩ : Cursor).step =
      .token ⟨t.kind, t.lexeme, p⟩
        ⟨p.advance t.lexeme.toList, tail, t.kind.openedAfter opened⟩ := by
  obtain ⟨q, first, cs, piece, hskip, hpiece, rfl, rfl⟩ := scan_of_step h
  obtain ⟨hblank, hsemi, hopen⟩ := Trivia.skip_front hskip
  obtain ⟨more, hlexeme, hmore⟩ := scanToken_again hpiece
  have hsplit := scanToken_split hpiece
  rw [hlexeme] at hsplit
  -- the lexeme starts no comment, for there would be one where it was read first
  have hopen' : ∀ cs', first = '#' → more ++ tail = '|' :: cs' → False := by
    intro cs' hfirst he
    obtain ⟨more', hfront⟩ := Apart.front htail (by decide) he
    exact hopen more' hfirst ((List.cons.inj hsplit).2.trans hfront)
  have hskip' : Trivia.skip .code p (first :: (more ++ tail)) =
      some (p, first :: (more ++ tail)) := by
    rw [Trivia.skip_code_char hopen', if_neg hsemi, if_neg (by simp [hblank])]
  simp only [step, String.toList_ofList, hlexeme, List.cons_append, hskip',
    hmore opened p tail hfits htail]
  rfl

/-- **A token that is no bracket makes a text of its own.** -/
theorem tokenize_lexeme {c c' : Cursor} {t : Token} (h : c.step = .token t c')
    (hbracket : t.kind.isBracket = false) :
    tokenize t.lexeme = .ok [⟨t.kind, t.lexeme, .start⟩] := by
  have hfits : t.kind.Fits [] := by
    intro b hb
    rw [hb] at hbracket
    cases hbracket
  have hstep := Cursor.step_lexeme h (apart_nil c'.rest) .start hfits
  rw [List.append_nil, TokenKind.openedAfter_of_not_bracket hbracket] at hstep
  have hend : (⟨Position.start.advance t.lexeme.toList, [], []⟩ : Cursor).step =
      .finished (Position.start.advance t.lexeme.toList) := rfl
  simp only [tokenize, trace, Cursor.ofString, Cursor.trace_of_token hstep,
    Cursor.trace_of_finished hend]
  rfl

end TimelineLisp
