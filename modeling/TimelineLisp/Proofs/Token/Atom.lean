import TimelineLisp.Proofs.Number.Grammar
import TimelineLisp.Proofs.Token.Spacing

/-!
# Atoms

A run of characters without a delimiter that does not start a `#` literal is one token or one fault,
whatever stands around it (`AtomNext.step_eq`).  Which one it is hangs on two tests that are made
apart: whether the text starts the way a number does, and whether it is a number literal.

The tests fit together, so **an atom is a number just when it is a number literal, a symbol just
when it does not start like one, and a malformed number otherwise** (`literals_and_atoms`).
-/

namespace TimelineLisp

/-- The text is one that a symbol or a number can have. -/
structure IsAtom (cs : List Char) : Prop where
  /-- An atom has characters. -/
  ne_nil : cs ≠ []
  /-- None of them ends an atom. -/
  undelimited : ∀ c ∈ cs, isDelimiter c = false
  /-- The first one does not start a `#` literal. -/
  hash : cs.head? ≠ some '#'

/-- An atom is next in the text, at position `p`: there is a gap in front of it, and it ends at a
delimiter or with the text.  `after` is the place behind it. -/
structure AtomNext (c : Cursor) (atom : List Char) (p : Position) (after : Cursor) : Prop where
  isAtom : IsAtom atom
  gap : ∃ gap, Trivia.Gap False gap ∧ c.rest = gap ++ (atom ++ after.rest) ∧
    p = c.position.advance gap
  delimited : ∀ d ∈ after.rest.head?, isDelimiter d = true
  position : after.position = p.advance atom
  opened : after.opened = c.opened

/-- A run of characters that ends at a delimiter. -/
theorem takeWhile_undelimited {cs tail : List Char} (hcs : ∀ c ∈ cs, isDelimiter c = false)
    (htail : ∀ d ∈ tail.head?, isDelimiter d = true) :
    (cs ++ tail).takeWhile isWordChar = cs ∧ (cs ++ tail).dropWhile isWordChar = tail := by
  have hword : cs.takeWhile isWordChar = cs := by
    refine List.takeWhile_eq_self_iff.2 fun c hc => ?_
    rw [isWordChar, hcs c hc]
    rfl
  have hstop : ∀ d ∈ tail.head?, d ∈ (cs.dropWhile isWordChar).head? ∨ isWordChar d = false := by
    intro d hd
    rw [isWordChar, htail d hd]
    exact .inr rfl
  have hagain := takeWhile_again hstop
  rwa [hword] at hagain

namespace AtomNext

variable {c after : Cursor} {atom : List Char} {p : Position}

/-- The next step reads the atom and nothing else. -/
theorem step_eq (h : AtomNext c atom p after) :
    c.step =
      match classifyAtom p atom with
      | .ok kind => .token ⟨kind, String.ofList atom, p⟩
          { after with opened := kind.openedAfter c.opened }
      | .error e => .fault e := by
  obtain ⟨⟨hne, hfree, hhash⟩, ⟨gap, hgap, hrest, rfl⟩, hdelimited, hposition, -⟩ := h
  obtain ⟨start, text, opened⟩ := c
  obtain ⟨q, tail, opened'⟩ := after
  obtain rfl : q = (start.advance gap).advance atom := hposition
  obtain rfl : text = gap ++ (atom ++ tail) := hrest
  obtain ⟨first, cs, rfl⟩ := List.exists_cons_of_ne_nil hne
  have hfirst : isWordChar first = true := by
    rw [isWordChar, hfree first List.mem_cons_self]
    rfl
  have hhash' : first ≠ '#' := by simpa using hhash
  obtain ⟨hblank, hmarks⟩ := isWordChar_iff.1 hfirst
  have hsemi : first ≠ ';' := by
    rintro rfl
    simp at hmarks
  obtain ⟨htake, hdrop⟩ :=
    takeWhile_undelimited (fun d hd => hfree d (List.mem_cons_of_mem _ hd)) hdelimited
  rw [Cursor.step_gap hgap, Cursor.step, List.cons_append,
    Trivia.skip_code_char (fun _ hc _ => hhash' hc), if_neg hsemi, if_neg (by simp [hblank])]
  simp only [scanToken_atom hfirst hhash', scanAtom, htake, hdrop]
  cases classifyAtom (start.advance gap) (first :: cs) <;> rfl

theorem step_of_number (h : AtomNext c atom p after) {n : Number}
    (hn : Number.ofChars? atom = some n) :
    c.step = .token ⟨.number n, String.ofList atom, p⟩ after := by
  have hlooks := (Number.ofChars?_eq_some_iff.1 hn).looksNumeric
  have hclass : classifyAtom p atom = .ok (.number n) := by rw [classifyAtom, if_pos hlooks, hn]
  rw [h.step_eq, hclass]
  simp only [TokenKind.openedAfter, ← h.opened]

theorem step_of_symbol (h : AtomNext c atom p after) (hlooks : Number.looksNumeric atom = false) :
    c.step = .token ⟨.symbol (String.ofList atom), String.ofList atom, p⟩ after := by
  have hclass : classifyAtom p atom = .ok (.symbol (String.ofList atom)) := by
    rw [classifyAtom, if_neg (by simp [hlooks])]
  rw [h.step_eq, hclass]
  simp only [TokenKind.openedAfter, ← h.opened]

theorem step_of_malformed (h : AtomNext c atom p after) (hlooks : Number.looksNumeric atom = true)
    (hn : Number.ofChars? atom = none) :
    c.step = .fault (.badNumber (String.ofList atom) p) := by
  have hclass : classifyAtom p atom = .error (.badNumber (String.ofList atom) p) := by
    rw [classifyAtom, if_pos hlooks, hn]
  rw [h.step_eq, hclass]

end AtomNext

/-- **Number literals, and what becomes of an atom.**  A text is read as a number just when the
grammar of literals derives it, with the value that it denotes there, and it starts like a number
then.  So wherever an atom is next, it is a number just when it is a literal, a symbol just when it
does not start like a number, and a fault otherwise.  Every number is read back from its text. -/
theorem literals_and_atoms :
    (∀ s n, Number.ofString? s = some n ↔ Number.Literal s.toList n) ∧
    (∀ s n, Number.ofString? s = some n → Number.looksNumeric s.toList = true) ∧
    (∀ (c : Cursor) (atom : String) (p : Position) (after : Cursor),
      AtomNext c atom.toList p after →
        (∀ n, c.step = .token ⟨.number n, atom, p⟩ after ↔ Number.ofString? atom = some n) ∧
        (c.step = .token ⟨.symbol atom, atom, p⟩ after ↔
          Number.looksNumeric atom.toList = false) ∧
        (c.step = .fault (.badNumber atom p) ↔
          Number.looksNumeric atom.toList = true ∧ Number.ofString? atom = none)) ∧
    ∀ n : Number, Number.ofString? n.render = some n := by
  refine ⟨fun s n => Number.ofChars?_eq_some_iff,
    fun s n h => (Number.ofChars?_eq_some_iff.1 h).looksNumeric, fun c atom p after h => ?_,
    fun n => ?_⟩
  · unfold Number.ofString?
    cases hn : Number.ofChars? atom.toList with
    | some n =>
      have hlooks := (Number.ofChars?_eq_some_iff.1 hn).looksNumeric
      rw [h.step_of_number hn, hlooks, String.ofList_toList]
      simp
    | none =>
      cases hlooks : Number.looksNumeric atom.toList with
      | true =>
        rw [h.step_of_malformed hlooks hn, String.ofList_toList]
        simp
      | false =>
        rw [h.step_of_symbol hlooks, String.ofList_toList]
        simp
  · rw [Number.render, Number.write_eq, List.append_nil, Number.ofString?, String.toList_ofList]
    exact Number.ofChars?_literal n

/-- Behind a blank inside a list, `-.5` is minus a half, `1.5/2` is a malformed number and `...` is
a symbol. -/
theorem atoms_in_list :
    (⟨.start, " -.5)".toList, [.round]⟩ : Cursor).step =
        .token ⟨.number (-1 / 2), "-.5", ⟨1, 2⟩⟩ ⟨⟨1, 5⟩, [')'], [.round]⟩ ∧
      (⟨.start, " 1.5/2)".toList, [.round]⟩ : Cursor).step =
        .fault (.badNumber "1.5/2" ⟨1, 2⟩) ∧
      (⟨.start, " ...)".toList, [.round]⟩ : Cursor).step =
        .token ⟨.symbol "...", "...", ⟨1, 2⟩⟩ ⟨⟨1, 5⟩, [')'], [.round]⟩ := by
  have hplace (text atom : String) (hne : atom.toList ≠ [])
      (hword : atom.toList.all isWordChar = true) (hhash : atom.toList.head? ≠ some '#')
      (htext : text.toList = ' ' :: (atom.toList ++ [')'])) :
      AtomNext ⟨.start, text.toList, [.round]⟩ atom.toList ⟨1, 2⟩
        ⟨Position.advance ⟨1, 2⟩ atom.toList, [')'], [.round]⟩ := by
    refine ⟨⟨hne, ?_, hhash⟩, ⟨[' '], .blank rfl .nil, htext, rfl⟩, ?_, rfl, rfl⟩
    · simpa [isWordChar] using hword
    · rintro d ⟨⟩
      rfl
  have hnumber := hplace " -.5)" "-.5" (by decide) (by decide) (by decide) (by decide)
  have hmalformed := hplace " 1.5/2)" "1.5/2" (by decide) (by decide) (by decide) (by decide)
  have hsymbol := hplace " ...)" "..." (by decide) (by decide) (by decide) (by decide)
  obtain ⟨-, -, hatoms, -⟩ := literals_and_atoms
  exact ⟨((hatoms _ _ _ _ hnumber).1 _).2 (by decide +kernel),
    (hatoms _ _ _ _ hmalformed).2.2.2 (by decide +kernel),
    (hatoms _ _ _ _ hsymbol).2.1.2 (by decide)⟩

end TimelineLisp
