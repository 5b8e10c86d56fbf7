import Mathlib.Data.List.TakeWhile
import TimelineLisp.Proofs.Token.Nesting
import TimelineLisp.Proofs.Token.Spacing

/-!
# A token that is cut in two

What is left of a token when the text ends inside it is read as a shorter token, or as a fault that
tells what kind of token was cut (`scanToken_cut`): a string is incomplete, a number may be
malformed for now, and a `#` literal is unknown for now, which inside a list only makes the text
incomplete.  No part of a token is read as a bracket, and no part of a string has an escape that the
string has not.

In a gap a cut does less: what is left is a gap, or stops inside a comment, or ends with the first
half of the mark `#|` (`Trivia.skip_cut`).
-/

namespace TimelineLisp

/-! ### Gaps -/

/-- **A gap that is cut** is dropped to the end of the text, or stops inside a comment, unless the
cut is in the middle of the mark of a comment. -/
theorem Trivia.skip_cut {mode : Mode} {p q : Position} {u v rest : List Char}
    (h : skip mode p (u ++ v) = some (q, rest)) (hv : rest.length ≤ v.length) :
    (∃ r, skip mode p u = some (r, [])) ∨ skip mode p u = none ∨
      ∃ r v', skip mode p u = some (r, ['#']) ∧ v = '|' :: v' := by
  generalize hcs : u ++ v = cs at h
  fun_induction skip mode p cs generalizing u with
  | case1 => cases h
  | case2 n p cs ih =>
    obtain _ | ⟨c, _ | ⟨d, u⟩⟩ := u
    · exact .inr (.inl rfl)
    · cases hcs
      exact .inr (.inl rfl)
    · cases hcs
      exact ih rfl h
  | case3 n p cs ih =>
    obtain _ | ⟨c, _ | ⟨d, u⟩⟩ := u
    · exact .inr (.inl rfl)
    · cases hcs
      exact .inr (.inl rfl)
    · cases hcs
      exact ih rfl h
  | case4 n p a cs hclose hopen ih =>
    obtain _ | ⟨c, u⟩ := u
    · exact .inr (.inl rfl)
    · cases hcs
      rw [skip_block_char (fun cs' hc hu => hclose (cs' ++ v) hc (by rw [hu]; rfl))
        (fun cs' hc hu => hopen (cs' ++ v) hc (by rw [hu]; rfl))]
      exact ih rfl h
  | case5 p =>
    obtain ⟨rfl, -⟩ := List.append_eq_nil_iff.1 hcs
    exact .inl ⟨p, rfl⟩
  | case6 p a cs ih =>
    obtain _ | ⟨c, u⟩ := u
    · exact .inl ⟨p, rfl⟩
    · cases hcs
      exact ih rfl h
  | case7 p =>
    obtain ⟨rfl, -⟩ := List.append_eq_nil_iff.1 hcs
    exact .inl ⟨p, rfl⟩
  | case8 p cs ih =>
    obtain _ | ⟨c, _ | ⟨d, u⟩⟩ := u
    · exact .inl ⟨p, rfl⟩
    · cases hcs
      exact .inr (.inr ⟨p, cs, rfl, rfl⟩)
    · cases hcs
      exact ih rfl h
  | case9 p cs hopen ih =>
    obtain _ | ⟨c, u⟩ := u
    · exact .inl ⟨p, rfl⟩
    · cases hcs
      exact ih rfl h
  | case10 p a cs hopen hsemi hblank ih =>
    obtain _ | ⟨c, u⟩ := u
    · exact .inl ⟨p, rfl⟩
    · cases hcs
      rw [skip_code_char (fun cs' hc hu => hopen (cs' ++ v) hc (by rw [hu]; rfl)), if_neg hsemi,
        if_pos hblank]
      exact ih rfl h
  | case11 p a cs hopen hsemi hblank =>
    -- nothing is dropped here, so nothing is in front of the cut
    cases h
    have hlength := congrArg List.length hcs
    rw [List.length_append] at hlength
    obtain rfl : u = [] := List.eq_nil_of_length_eq_zero (by omega)
    exact .inl ⟨_, rfl⟩

/-! ### Runs of characters -/

/-- A run that goes on behind a cut goes on up to it. -/
theorem all_of_dropWhile_shorter {p : Char → Bool} {part tail : List Char}
    (h : ((part ++ tail).dropWhile p).length < tail.length) : ∀ c ∈ part, p c = true := by
  induction part with
  | nil => exact nofun
  | cons c part ih =>
    rw [List.cons_append, List.dropWhile_cons] at h
    split_ifs at h with hc
    · intro d hd
      rcases List.mem_cons.1 hd with rfl | hd
      · exact hc
      · exact ih h d hd
    · rw [List.length_cons, List.length_append] at h
      omega

namespace Number

theorem dropSign_append {cs : List Char} (h : cs ≠ []) (more : List Char) :
    dropSign (cs ++ more) = dropSign cs ++ more := by
  fun_cases dropSign cs with
  | case1 | case2 => rfl
  | case3 cs hplus hminus =>
    obtain ⟨c, cs, rfl⟩ := List.exists_cons_of_ne_nil h
    refine dropSign.eq_3 _ (fun cs' he => ?_) (fun cs' he => ?_)
    · exact hplus cs (by rw [(List.cons.inj he).1])
    · exact hminus cs (by rw [(List.cons.inj he).1])

theorem dropPoint_append {cs : List Char} (h : cs ≠ []) (more : List Char) :
    dropPoint (cs ++ more) = dropPoint cs ++ more := by
  fun_cases dropPoint cs with
  | case1 => rfl
  | case2 cs hpoint =>
    obtain ⟨c, cs, rfl⟩ := List.exists_cons_of_ne_nil h
    exact dropPoint.eq_2 _ fun cs' he => hpoint cs (by rw [(List.cons.inj he).1])

/-- What starts like a number does so with more behind it. -/
theorem looksNumeric_append {cs : List Char} (h : looksNumeric cs = true) (more : List Char) :
    looksNumeric (cs ++ more) = true := by
  have hsign : dropSign cs ≠ [] := by
    intro he
    rw [looksNumeric, he] at h
    cases h
  have hcs : cs ≠ [] := by
    rintro rfl
    exact hsign rfl
  rw [looksNumeric, dropSign_append hcs, dropPoint_append hsign]
  rw [looksNumeric] at h
  cases hbody : dropPoint (dropSign cs) with
  | nil =>
    rw [hbody] at h
    cases h
  | cons c body =>
    rw [hbody] at h
    exact h

end Number

/-! ### Tokens -/

/-- What the part that is left of a token of this kind is read as, at a position and perhaps inside
a list. -/
inductive CutToken (nested : Bool) (p : Position) (kind : TokenKind) (part : List Char) :
    Except ScanError Piece → Prop
  /-- A shorter token. -/
  | token {kind' : TokenKind} (h : kind'.isBracket = false) :
    CutToken nested p kind part (.ok ⟨kind', part, []⟩)
  /-- Something that is not finished. -/
  | incomplete : CutToken nested p kind part (.error .incomplete)
  /-- The part of a number that is none. -/
  | number {value : Number} (h : kind = .number value) :
    CutToken nested p kind part (.error (.badNumber (String.ofList part) p))
  /-- The part of the name of a character that is none. -/
  | character {value : Char} {name : List Char} (hnested : nested = false)
    (h : kind = .char value) (hpart : part = '#' :: '\\' :: name) :
    CutToken nested p kind part (.error (.badCharacter (String.ofList name) p))
  /-- The part of a `#` literal that is none. -/
  | hash (hnested : nested = false)
    (h : (∃ value, kind = .char value) ∨ ∃ value, kind = .bool value) :
    CutToken nested p kind part (.error (.badHash (String.ofList part) p))

section Scanners

variable {p : Position} {part tail : List Char} {t : Piece}

theorem scanText_cut {read content : List Char}
    (h : scanText p read content (part ++ tail) = .ok t) (htail : t.rest.length < tail.length) :
    scanText p read content part = .error .incomplete := by
  generalize hcs : part ++ tail = cs at h
  fun_induction scanText p read content cs generalizing part with
  | case1 => cases h
  | case2 => cases h
  | case3 p read content e cs c hc ih =>
    obtain _ | ⟨a, _ | ⟨b, part⟩⟩ := part
    · rfl
    · cases hcs
      rfl
    · cases hcs
      simp only [scanText, hc]
      exact ih rfl h
  | case4 => cases h
  | case5 p read content cs =>
    -- the string ends here, so nothing of it is in front of the cut
    cases h
    have hlength := congrArg List.length hcs
    rw [List.length_append, List.length_cons] at hlength
    obtain rfl : part = [] := List.eq_nil_of_length_eq_zero (by dsimp only at htail; omega)
    rfl
  | case6 p read content c cs h₁ h₂ hq ih =>
    obtain _ | ⟨a, part⟩ := part
    · rfl
    · cases hcs
      rw [scanText_char (not_backslash h₁ h₂), if_neg hq]
      exact ih rfl h

/-- The name of a character goes on up to a cut. -/
theorem nameRun_cut {first : Char}
    (h : (nameRun first (part ++ tail)).2.length < tail.length) :
    nameRun first part = (part, []) := by
  unfold nameRun at h ⊢
  split_ifs at h ⊢
  · have hall := all_of_dropWhile_shorter h
    rw [List.takeWhile_eq_self_iff.2 hall, List.dropWhile_eq_nil_iff.2 hall]
  · rw [List.length_append] at h
    omega

/-- A character literal ends with the name of its character. -/
theorem scanCharacter_cons {nested : Bool} {first : Char} {cs : List Char}
    (h : scanCharacter nested p (first :: cs) = .ok t) :
    (∃ value, t.kind = .char value) ∧ t.rest = (nameRun first cs).2 := by
  rw [scanCharacter] at h
  generalize nameRun first cs = r at h ⊢
  obtain ⟨_ | ⟨c, run⟩, rest⟩ := r
  · cases h
    exact ⟨⟨_, rfl⟩, rfl⟩
  · dsimp only at h
    split at h <;> cases h
    exact ⟨⟨_, rfl⟩, rfl⟩

theorem scanCharacter_cut {nested : Bool} (h : scanCharacter nested p (part ++ tail) = .ok t)
    (htail : t.rest.length < tail.length) :
    CutToken nested p t.kind ('#' :: '\\' :: part) (scanCharacter nested p part) := by
  obtain _ | ⟨first, part⟩ := part
  · exact .incomplete
  · obtain ⟨⟨value, hkind⟩, hrest⟩ := scanCharacter_cons h
    rw [hrest] at htail
    rw [scanCharacter, nameRun_cut htail]
    obtain _ | ⟨c, run⟩ := part
    · exact .token rfl
    · dsimp only
      cases hn : characterNames.lookup (String.ofList (first :: c :: run)) with
      | some value => exact .token rfl
      | none =>
        cases nested with
        | true => exact .incomplete
        | false => exact .character rfl hkind rfl

theorem scanHash_cut {nested : Bool} (h : scanHash nested p (part ++ tail) = .ok t)
    (htail : t.rest.length < tail.length) :
    CutToken nested p t.kind ('#' :: part) (scanHash nested p part) := by
  have hkind := kind_of_scanHash h
  by_cases hb : ∃ part', part = '\\' :: part'
  · obtain ⟨part, rfl⟩ := hb
    exact scanCharacter_cut h htail
  · have hw : ∀ cs', part ≠ '\\' :: cs' := fun cs' he => hb ⟨cs', he⟩
    have hall : ∀ c ∈ part, isWordChar c = true := by
      obtain _ | ⟨c, part⟩ := part
      · exact nofun
      · have hw' : ∀ cs', c :: part ++ tail ≠ '\\' :: cs' :=
          fun cs' he => hw part (by rw [(List.cons.inj he).1])
        rw [scanHash_word hw'] at h
        split at h <;> cases h
        exact all_of_dropWhile_shorter htail
    rw [scanHash_word hw, List.takeWhile_eq_self_iff.2 hall, List.dropWhile_eq_nil_iff.2 hall]
    cases hl : boolWords.lookup (String.ofList ('#' :: part)) with
    | some b => exact .token rfl
    | none =>
      cases nested with
      | true => exact .incomplete
      | false => exact .hash rfl hkind

theorem scanAtom_cut {nested : Bool} {first : Char} (h : scanAtom p first (part ++ tail) = .ok t)
    (htail : t.rest.length < tail.length) :
    CutToken nested p t.kind (first :: part) (scanAtom p first part) := by
  have hkind := kind_of_scanAtom h
  have hall : ∀ c ∈ part, isWordChar c = true := by
    rw [scanAtom] at h
    cases hclass : classifyAtom p (first :: (part ++ tail).takeWhile isWordChar) with
    | error e =>
      rw [hclass] at h
      cases h
    | ok kind =>
      rw [hclass] at h
      cases h
      exact all_of_dropWhile_shorter htail
  rw [scanAtom, List.takeWhile_eq_self_iff.2 hall, List.dropWhile_eq_nil_iff.2 hall, classifyAtom]
  split_ifs with hnum
  · cases hn : Number.ofChars? (first :: part) with
    | some n => exact .token rfl
    | none =>
      obtain ⟨value, hvalue⟩ | ⟨-, hsymbol⟩ := hkind
      · exact .number hvalue
      · -- the whole word would have to be a number as well
        rw [List.takeWhile_append_of_pos hall, ← List.cons_append,
          Number.looksNumeric_append hnum] at hsymbol
        cases hsymbol
  · exact .token rfl

/-- **What is left of a token** is read as a shorter token, or as a fault of its kind. -/
theorem scanToken_cut {opened : List Bracket} {first : Char}
    (h : scanToken opened p first (part ++ tail) = .ok t) (htail : t.rest.length < tail.length) :
    CutToken (!opened.isEmpty) p t.kind (first :: part) (scanToken opened p first part) := by
  -- a token of one character has nothing behind the cut
  have hsingle (kind : TokenKind) (lexeme : List Char) :
      t ≠ ⟨kind, lexeme, part ++ tail⟩ := by
    rintro rfl
    rw [List.length_append] at htail
    omega
  unfold scanToken at h ⊢
  cases ho : Bracket.ofOpening? first with
  | some b =>
    rw [ho] at h
    exact absurd (Except.ok.inj h).symm (hsingle _ _)
  | none =>
    cases hc : Bracket.ofClosing? first with
    | some b =>
      simp only [ho, hc] at h
      unfold scanClose at h
      split at h
      · cases h
      · split_ifs at h
        exact absurd (Except.ok.inj h).symm (hsingle _ _)
    | none =>
      simp only [ho, hc] at h ⊢
      split_ifs at h ⊢ with hquote htext hhash
      · exact absurd (Except.ok.inj h).symm (hsingle _ _)
      · rw [scanText_cut h htail]
        exact .incomplete
      · subst hhash
        exact scanHash_cut h htail
      · exact scanAtom_cut h htail

end Scanners

/-- The step that comes of what is read at a position. -/
def Cursor.stepOf (c : Cursor) (p : Position) : Except ScanError Piece → Cursor.Step
  | .error e => .fault e
  | .ok piece => .token ⟨piece.kind, String.ofList piece.lexeme, p⟩ (c.after p piece)

/-- A step over a token is the same with the text cut off behind it. -/
theorem Cursor.step_whole {c c' : Cursor} {t : Token} (h : c.step = .token t c') {gap u : List Char}
    (hgap : Trivia.Gap False gap) (hrest : c.rest = gap ++ t.lexeme.toList ++ c'.rest)
    (hu : u <+: c'.rest) :
    (⟨c.position, gap ++ t.lexeme.toList ++ u, c.opened⟩ : Cursor).step =
      .token t ⟨c'.position, u, c'.opened⟩ := by
  obtain ⟨gap', hrest', -, hposition, hposition', hopened⟩ := step_split h
  obtain rfl : gap' = gap :=
    List.append_cancel_right (List.append_cancel_right (hrest'.symm.trans hrest))
  rw [List.append_assoc, step_gap hgap, ← hposition, hposition', hopened]
  exact step_lexeme h (Apart.of_isPrefix hu) t.position (head?_of_step h)

/-- **A step over a token, with the text cut off inside it**: behind the gap, the part that is left
is read. -/
theorem Cursor.step_cut {c c' : Cursor} {t : Token} (h : c.step = .token t c') :
    ∃ gap, c.rest = gap ++ t.lexeme.toList ++ c'.rest ∧ Trivia.Gap False gap ∧
      Trivia.skip .code c.position c.rest = some (t.position, t.lexeme.toList ++ c'.rest) ∧
      ∀ part more, t.lexeme.toList = part ++ more → part ≠ [] → more ≠ [] →
        ∃ r, CutToken (!c.opened.isEmpty) t.position t.kind part r ∧
          (⟨c.position, gap ++ part, c.opened⟩ : Cursor).step = c.stepOf t.position r := by
  obtain ⟨q, first, cs, piece, hskip, hpiece, rfl, rfl⟩ := scan_of_step h
  obtain ⟨hblank, hsemi, hopen⟩ := Trivia.skip_front hskip
  obtain ⟨gap, hrest, rfl, hgap⟩ := Trivia.gap_of_skip hskip
  replace hgap : Trivia.Gap False gap := by simpa using hgap
  have hsplit := scanToken_split hpiece
  refine ⟨gap, ?_, hgap, ?_, fun part more hlexeme hpart hmore => ?_⟩
  · rw [hrest, hsplit, String.toList_ofList, List.append_assoc]
    rfl
  · rw [hskip, hsplit, String.toList_ofList]
    rfl
  · obtain ⟨first', part, rfl⟩ := List.exists_cons_of_ne_nil hpart
    rw [String.toList_ofList] at hlexeme
    rw [hlexeme, List.append_assoc] at hsplit
    obtain ⟨rfl, rfl⟩ := List.cons.inj hsplit
    have htail : piece.rest.length < (more ++ piece.rest).length := by
      have hpos := List.length_pos_iff.2 hmore
      rw [List.length_append]
      omega
    refine ⟨_, scanToken_cut hpiece htail, ?_⟩
    have hopen' : ∀ cs', first = '#' → part = '|' :: cs' → False :=
      fun cs' hfirst he => hopen (cs' ++ (more ++ piece.rest)) hfirst (by rw [he]; rfl)
    rw [step_gap hgap]
    simp only [step, Trivia.skip_code_char hopen', if_neg hsemi, hblank]
    rw [stepOf.eq_def]
    rfl

end TimelineLisp
