import TimelineLisp.Proofs.Number.Written
import TimelineLisp.Proofs.Token.Newline
import TimelineLisp.Text.Quoted

/-!
# Written atoms

An atom that is written in front of a space, a closing bracket or the end of the text is read back
as the token it was written for (`Written`).  This needs no condition on numbers, strings,
characters and truth values; on a symbol it needs that it is one (`IsSymbol`), and **every symbol
that the splitting of a text comes upon is one** (`proper_of_step`).
-/

namespace TimelineLisp

/-! ### Characters -/

theorem isWordChar_iff {c : Char} :
    isWordChar c = true ↔
      isBlank c = false ∧ c ∉ ['(', ')', '[', ']', '"', ';', '\''] := by
  simp [isWordChar, isDelimiter]

theorem isWordChar_of_isDigit {c : Char} (h : c.isDigit) : isWordChar c = true := by
  have hrange : 48 ≤ c.toNat ∧ c.toNat ≤ 57 := by
    simpa using Char.isDigit_iff_toNat.1 h
  refine isWordChar_iff.2 ⟨?_, ?_⟩
  · rw [← Bool.not_eq_true, isBlank, CodeRange.covers_iff]
    rintro ⟨r, hr, hlo, hhi⟩
    simp only [blankRanges, List.mem_cons, List.not_mem_nil, or_false] at hr
    rcases hr with rfl | rfl | rfl | rfl | rfl | rfl | rfl | rfl | rfl | rfl <;>
      simp only at hlo hhi <;> omega
  · intro hm
    simp only [List.mem_cons, List.not_mem_nil, or_false] at hm
    rcases hm with rfl | rfl | rfl | rfl | rfl | rfl | rfl <;> cases h

theorem isWordChar_of_mem_literal {n : Number} {c : Char} (h : c ∈ n.literal) :
    isWordChar c = true := by
  rcases Number.mem_literal h with rfl | rfl | hd
  · decide
  · decide
  · exact isWordChar_of_isDigit hd

/-! ### Boundaries -/

/-- What may stand after a written atom. -/
inductive Boundary : List Char → Prop
  /-- The end of the text. -/
  | nothing : Boundary []
  /-- A space. -/
  | space (cs : List Char) : Boundary (' ' :: cs)
  /-- The end of a list. -/
  | closing (cs : List Char) : Boundary (')' :: cs)

/-- A run of characters ends at a boundary, if neither a space nor a bracket goes on with it. -/
theorem Boundary.takeWhile {p : Char → Bool} (hspace : p ' ' = false) (hclosing : p ')' = false)
    {cs tail : List Char} (hcs : ∀ c ∈ cs, p c = true) (hb : Boundary tail) :
    (cs ++ tail).takeWhile p = cs ∧ (cs ++ tail).dropWhile p = tail := by
  rw [List.takeWhile_append_of_pos hcs, List.dropWhile_append_of_pos hcs]
  cases hb with
  | nothing => simp
  | space => simp [hspace]
  | closing => simp [hclosing]

theorem Boundary.word {cs tail : List Char} (hcs : ∀ c ∈ cs, isWordChar c = true)
    (hb : Boundary tail) :
    (cs ++ tail).takeWhile isWordChar = cs ∧ (cs ++ tail).dropWhile isWordChar = tail :=
  hb.takeWhile (by decide) (by decide) hcs

theorem Boundary.nameRun {first : Char} {cs tail : List Char} (hfirst : isLetter first = true)
    (hcs : ∀ c ∈ cs, isNameChar c = true) (hb : Boundary tail) :
    nameRun first (cs ++ tail) = (cs, tail) := by
  obtain ⟨ht, hd⟩ := hb.takeWhile (by decide +kernel) (by decide +kernel) hcs
  rw [TimelineLisp.nameRun, if_pos hfirst, ht, hd]

/-! ### Written tokens -/

/-- The text is a token of this kind and then `tail`, wherever it stands. -/
def Written (kind : TokenKind) (text tail : List Char) : Prop :=
  ∀ p opened, ∃ lexeme q,
    (⟨p, text, opened⟩ : Cursor).step =
      .token ⟨kind, lexeme, p⟩ ⟨q, tail, kind.openedAfter opened⟩

theorem written_of_scanToken {kind : TokenKind} {first : Char} {cs tail : List Char}
    (hblank : isBlank first = false) (hsemi : first ≠ ';')
    (hcomment : ∀ cs', first = '#' → cs = '|' :: cs' → False)
    (h : ∀ p opened, ∃ lexeme, scanToken opened p first cs = .ok ⟨kind, lexeme, tail⟩) :
    Written kind (first :: cs) tail := by
  intro p opened
  obtain ⟨lexeme, hscan⟩ := h p opened
  have hskip : Trivia.skip .code p (first :: cs) = some (p, first :: cs) := by
    rw [Trivia.skip_code_char hcomment, if_neg hsemi, if_neg (by simp [hblank])]
  refine ⟨String.ofList lexeme, p.advance lexeme, ?_⟩
  simp only [Cursor.step, hskip, hscan]
  rfl

theorem scanToken_atom {first : Char} (hword : isWordChar first = true) (hhash : first ≠ '#')
    (opened : List Bracket) (p : Position) (cs : List Char) :
    scanToken opened p first cs = scanAtom p first cs := by
  obtain ⟨-, hmarks⟩ := isWordChar_iff.1 hword
  simp only [List.mem_cons, List.not_mem_nil, or_false, not_or] at hmarks
  simp [scanToken, Bracket.ofOpening?, Bracket.ofClosing?, hmarks, hhash]

theorem written_atom {kind : TokenKind} {first : Char} {cs tail : List Char}
    (hword : ∀ c ∈ first :: cs, isWordChar c = true) (hhash : first ≠ '#') (hb : Boundary tail)
    (h : ∀ p, classifyAtom p (first :: cs) = .ok kind) :
    Written kind (first :: (cs ++ tail)) tail := by
  have hfirst := hword first List.mem_cons_self
  obtain ⟨hblank, hmarks⟩ := isWordChar_iff.1 hfirst
  obtain ⟨ht, hd⟩ := hb.word fun c hc => hword c (List.mem_cons_of_mem _ hc)
  refine written_of_scanToken hblank ?_ (fun _ hc _ => hhash hc) fun p opened => ?_
  · rintro rfl
    simp at hmarks
  · refine ⟨first :: cs, ?_⟩
    rw [scanToken_atom hfirst hhash, scanAtom, ht, hd, h]
    rfl

/-! ### Symbols -/

/-- The characters make up a symbol: a word that no other kind of token starts like. -/
structure IsSymbol (cs : List Char) : Prop where
  /-- A symbol has characters. -/
  ne_nil : cs ≠ []
  /-- They go on with a word. -/
  word : ∀ c ∈ cs, isWordChar c = true
  /-- They do not start a `#` literal. -/
  hash : cs.head? ≠ some '#'
  /-- They do not start a number. -/
  numeric : Number.looksNumeric cs = false

theorem written_symbol {name : String} (h : IsSymbol name.toList) {tail : List Char}
    (hb : Boundary tail) : Written (.symbol name) (name.toList ++ tail) tail := by
  obtain ⟨hnil, hword, hhash, hnum⟩ := h
  have hclass : ∀ p, classifyAtom p name.toList = .ok (.symbol name) := by
    intro p
    rw [classifyAtom, if_neg (by simp [hnum]), String.ofList_toList]
  cases hcs : name.toList with
  | nil => exact absurd hcs hnil
  | cons first cs =>
    rw [hcs] at hword hhash hclass
    exact written_atom hword (by simpa using hhash) hb hclass

theorem written_number (n : Number) {tail : List Char} (hb : Boundary tail) :
    Written (.number n) (n.write tail) tail := by
  have hclass : ∀ p, classifyAtom p n.literal = .ok (.number n) := by
    intro p
    rw [classifyAtom, if_pos n.looksNumeric_literal, n.ofChars?_literal]
  have hword : ∀ c ∈ n.literal, isWordChar c = true := fun _ => isWordChar_of_mem_literal
  obtain ⟨first, cs, hcs, hfirst⟩ := n.exists_literal_eq
  rw [hcs] at hword hclass
  rw [n.write_eq, hcs]
  refine written_atom hword ?_ hb hclass
  rintro rfl
  rcases hfirst with h | h <;> cases h

/-! ### Strings -/

/-- A written character of a string is read as that character. -/
theorem scanText_writeEscaped (c : Char) (p : Position) (read content cs : List Char) :
    ∃ p' read',
      scanText p read content (Text.writeEscaped c cs) = scanText p' read' (c :: content) cs := by
  unfold Text.writeEscaped
  split
  -- six characters have an escape, every other one stands for itself
  iterate 6 exact ⟨_, _, rfl⟩
  next hquote hslash _ _ _ _ =>
    refine ⟨_, _, (scanText_char ?_ cs).trans (if_neg ?_)⟩
    · exact fun h => hslash h
    · exact fun h => hquote h

theorem scanText_written (cs tail : List Char) (p : Position) (read content : List Char) :
    ∃ lexeme,
      scanText p read content (cs.foldr Text.writeEscaped ('"' :: tail)) =
        .ok ⟨.text (String.ofList (content.reverse ++ cs)), lexeme, tail⟩ := by
  induction cs generalizing p read content with
  | nil =>
    rw [List.foldr_nil, scanText_char (by decide), if_pos rfl, List.append_nil]
    exact ⟨_, rfl⟩
  | cons c cs ih =>
    obtain ⟨p', read', hc⟩ := scanText_writeEscaped c p read content
      (cs.foldr Text.writeEscaped ('"' :: tail))
    obtain ⟨lexeme, hcs⟩ := ih p' read' (c :: content)
    refine ⟨lexeme, ?_⟩
    rw [List.foldr_cons, hc, hcs, List.reverse_cons, List.append_assoc]
    rfl

theorem written_text (content : String) (tail : List Char) :
    Written (.text content) (Text.writeQuoted content.toList tail) tail := by
  refine written_of_scanToken (by decide) (by decide) (by simp) fun p opened => ?_
  have h := scanText_written content.toList tail (p.next '"') ['"'] []
  rw [List.reverse_nil, List.nil_append, String.ofList_toList] at h
  exact h

/-! ### Characters and truth values -/

/-- A character literal is read from behind its mark. -/
theorem written_of_scanCharacter {c : Char} {cs tail : List Char}
    (h : ∀ nested p, ∃ lexeme, scanCharacter nested p cs = .ok ⟨.char c, lexeme, tail⟩) :
    Written (.char c) ('#' :: '\\' :: cs) tail := by
  refine written_of_scanToken (by decide) (by decide) (by simp) fun p opened => ?_
  exact h (!opened.isEmpty) p

/-- A character that is written by name is read back. -/
theorem written_name {first next : Char} {run : List Char} {c : Char}
    (hfirst : isLetter first = true) (hrun : (next :: run).all isNameChar = true)
    (hname : characterNames.lookup (String.ofList (first :: next :: run)) = some c)
    {tail : List Char} (hb : Boundary tail) :
    Written (.char c) ('#' :: '\\' :: first :: (next :: run ++ tail)) tail := by
  refine written_of_scanCharacter fun nested p => ?_
  rw [scanCharacter, hb.nameRun hfirst (List.all_eq_true.1 hrun)]
  simp only [hname]
  exact ⟨_, rfl⟩

/-- A character that is written as itself is read back. -/
theorem written_single (c : Char) {tail : List Char} (hb : Boundary tail) :
    Written (.char c) ('#' :: '\\' :: c :: tail) tail := by
  refine written_of_scanCharacter fun nested p => ?_
  -- a letter would start a name, but the boundary ends it at once
  have hn : nameRun c tail = ([], tail) := by
    by_cases hc : isLetter c = true
    · exact hb.nameRun hc (List.forall_mem_nil _)
    · rw [nameRun, if_neg hc]
  rw [scanCharacter, hn]
  exact ⟨_, rfl⟩

theorem written_char (c : Char) {tail : List Char} (hb : Boundary tail) :
    Written (.char c) (Text.writeCharacter c tail) tail := by
  unfold Text.writeCharacter
  split
  · exact written_name (by decide +kernel) (by decide +kernel) rfl hb
  · exact written_name (by decide +kernel) (by decide +kernel) rfl hb
  · exact written_name (by decide +kernel) (by decide +kernel) rfl hb
  · exact written_name (by decide +kernel) (by decide +kernel) rfl hb
  · exact written_single c hb

theorem written_bool (b : Bool) {tail : List Char} (hb : Boundary tail) :
    Written (.bool b) (Text.writeBool b tail) tail := by
  have hword : [if b then 't' else 'f'].all isWordChar = true := by cases b <;> decide
  obtain ⟨ht, hd⟩ := hb.word (List.all_eq_true.1 hword)
  refine written_of_scanToken (by decide) (by decide) ?_ fun p opened => ?_
  · cases b <;> simp
  · have hscan : scanHash (!opened.isEmpty) p ([if b then 't' else 'f'] ++ tail) =
        .ok ⟨.bool b, '#' :: [if b then 't' else 'f'], tail⟩ := by
      rw [scanHash_word (by cases b <;> simp), ht, hd]
      cases b <;> rfl
    exact ⟨_, hscan⟩

/-! ### Brackets -/

theorem written_opening (cs : List Char) : Written (.opening .round) ('(' :: cs) cs :=
  written_of_scanToken (by decide) (by decide) (by simp) fun _ _ => ⟨['('], rfl⟩

/-- A closing bracket is read where a list of its shape is open. -/
theorem step_closing (b : Bracket) (p : Position) (cs : List Char) (opened : List Bracket) :
    ∃ lexeme q,
      (⟨p, b.closing :: cs, b :: opened⟩ : Cursor).step =
        .token ⟨.closing b, lexeme, p⟩ ⟨q, cs, opened⟩ := by
  refine ⟨String.ofList [b.closing], p.next b.closing, ?_⟩
  cases b with
  | round =>
    rw [Cursor.step, Bracket.closing, Trivia.skip_code_char (by simp), if_neg (by decide),
      if_neg (by decide)]
    rfl
  | square =>
    rw [Cursor.step, Bracket.closing, Trivia.skip_code_char (by simp), if_neg (by decide),
      if_neg (by decide)]
    rfl

/-- A space between two tokens is dropped. -/
theorem step_space (p : Position) (cs : List Char) (opened : List Bracket) :
    (⟨p, ' ' :: cs, opened⟩ : Cursor).step = (⟨p.next ' ', cs, opened⟩ : Cursor).step := by
  simp only [Cursor.step]
  rw [Trivia.skip_code_char (by simp), if_neg (by decide), if_pos (by decide)]
  rfl

/-! ### The symbols of a text -/

/-- A symbol of this kind is one. -/
def TokenKind.Proper : TokenKind → Prop
  | .symbol name => IsSymbol name.toList
  | _ => True

/-- Trivia is dropped up to a character that starts none. -/
theorem Trivia.skip_front {mode : Mode} {p q : Position} {c : Char} {cs rest : List Char}
    (h : skip mode p cs = some (q, c :: rest)) :
    isBlank c = false ∧ c ≠ ';' ∧ ∀ rest', c = '#' → rest = '|' :: rest' → False := by
  fun_induction skip mode p cs with
  | case1 => cases h
  | case5 => cases h
  | case7 => cases h
  | case11 p c cs hopen hsemi hblank =>
    cases h
    exact ⟨by simpa using hblank, hsemi, hopen⟩
  | _ => rename_i ih; exact ih h

theorem kind_of_scanText {p : Position} {read content cs : List Char} {t : Piece}
    (h : scanText p read content cs = .ok t) : ∃ text, t.kind = .text text := by
  fun_induction scanText p read content cs with
  | case3 p read content e cs c _ ih => exact ih h
  | case5 p read content cs =>
    cases h
    exact ⟨_, rfl⟩
  | case6 p read content c cs _ _ _ ih => exact ih h
  | _ => cases h

theorem kind_of_scanHash {nested : Bool} {p : Position} {cs : List Char} {t : Piece}
    (h : scanHash nested p cs = .ok t) : (∃ c, t.kind = .char c) ∨ ∃ b, t.kind = .bool b := by
  rw [scanHash.eq_def] at h
  split at h
  · next cs =>
    unfold scanCharacter at h
    split at h
    · cases h
    · split at h
      · cases h
        exact .inl ⟨_, rfl⟩
      · dsimp only at h
        split at h <;> cases h
        exact .inl ⟨_, rfl⟩
  · dsimp only at h
    split at h <;> cases h
    exact .inr ⟨_, rfl⟩

theorem kind_of_scanAtom {p : Position} {first : Char} {cs : List Char} {t : Piece}
    (h : scanAtom p first cs = .ok t) :
    (∃ n, t.kind = .number n) ∨
      (t.kind = .symbol (String.ofList (first :: cs.takeWhile isWordChar)) ∧
        Number.looksNumeric (first :: cs.takeWhile isWordChar) = false) := by
  simp only [scanAtom, classifyAtom] at h
  split_ifs at h with hnum
  · cases hn : Number.ofChars? (first :: cs.takeWhile isWordChar) with
    | none =>
      rw [hn] at h
      cases h
    | some n =>
      rw [hn] at h
      cases h
      exact .inl ⟨n, rfl⟩
  · cases h
    exact .inr ⟨rfl, by simpa using hnum⟩

theorem proper_of_scanAtom {p : Position} {first : Char} {cs : List Char} {t : Piece}
    (hword : isWordChar first = true) (hhash : first ≠ '#') (h : scanAtom p first cs = .ok t) :
    t.kind.Proper := by
  obtain ⟨n, hkind⟩ | ⟨hkind, hnum⟩ := kind_of_scanAtom h
  · rw [hkind]
    trivial
  · rw [hkind, TokenKind.Proper, String.toList_ofList]
    refine ⟨by simp, fun c hc => ?_, by simpa using hhash, hnum⟩
    rcases List.mem_cons.1 hc with rfl | hc
    · exact hword
    · exact List.all_eq_true.1 List.all_takeWhile c hc

theorem proper_of_scanToken {opened : List Bracket} {p : Position} {first : Char} {cs : List Char}
    {t : Piece} (hblank : isBlank first = false) (hsemi : first ≠ ';')
    (h : scanToken opened p first cs = .ok t) : t.kind.Proper := by
  unfold scanToken at h
  split at h
  · cases h
    trivial
  · next hopen =>
    split at h
    · unfold scanClose at h
      split at h
      · cases h
      · split_ifs at h
        cases h
        trivial
    · next hclose =>
      split_ifs at h with hquote htext hhash
      · cases h
        trivial
      · obtain ⟨text, hkind⟩ := kind_of_scanText h
        rw [hkind]
        trivial
      · obtain ⟨c, hkind⟩ | ⟨b, hkind⟩ := kind_of_scanHash h
        · rw [hkind]
          trivial
        · rw [hkind]
          trivial
      · refine proper_of_scanAtom (isWordChar_iff.2 ⟨hblank, ?_⟩) hhash h
        -- each delimiter was tried before
        simp only [Bracket.ofOpening?] at hopen
        simp only [Bracket.ofClosing?] at hclose
        split_ifs at hopen hclose
        simp [*]

/-- A step over a token drops trivia and reads the token behind it. -/
theorem Cursor.scan_of_step {c c' : Cursor} {t : Token} (h : c.step = .token t c') :
    ∃ p first cs piece, Trivia.skip .code c.position c.rest = some (p, first :: cs) ∧
      scanToken c.opened p first cs = .ok piece ∧
      t = ⟨piece.kind, String.ofList piece.lexeme, p⟩ ∧ c' = c.after p piece := by
  unfold Cursor.step at h
  split at h
  · cases h
  · split_ifs at h
  · next p first cs hskip =>
    split at h
    · cases h
    · next piece hpiece =>
      cases h
      exact ⟨p, first, cs, piece, hskip, hpiece, rfl, rfl⟩

/-- **Every symbol that the splitting of a text comes upon is one.** -/
theorem proper_of_step {c c' : Cursor} {t : Token} (h : c.step = .token t c') : t.kind.Proper := by
  obtain ⟨p, first, cs, piece, hskip, hpiece, rfl, -⟩ := Cursor.scan_of_step h
  obtain ⟨hblank, hsemi, -⟩ := Trivia.skip_front hskip
  exact proper_of_scanToken hblank hsemi hpiece

end TimelineLisp
