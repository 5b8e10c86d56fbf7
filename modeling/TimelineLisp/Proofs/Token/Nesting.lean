import TimelineLisp.Proofs.Token.Written

/-!
# Brackets and their match

Tokens are balanced (`Balanced`) if every bracket among them has its match, and tokens leave
brackets open (`LeavesOpen`) if the openers among them that have none are these, innermost first.
**The brackets that are open at a place of a text are those that the tokens before it leave open**
(`LeavesOpen.step`), since a closing bracket is read only where its match is the innermost opener
(`Cursor.head?_of_step`).  So the depth is what the openers are more than the closing brackets
(`LeavesOpen.count`).
-/

namespace TimelineLisp

/-! ### Matching -/

/-- The token is an opening bracket. -/
def TokenKind.isOpening : TokenKind → Bool
  | .opening _ => true
  | _ => false

/-- The token is a closing bracket. -/
def TokenKind.isClosing : TokenKind → Bool
  | .closing _ => true
  | _ => false

@[simp] theorem TokenKind.isOpening_opening (b : Bracket) : (opening b).isOpening = true := rfl

@[simp] theorem TokenKind.isOpening_closing (b : Bracket) : (closing b).isOpening = false := rfl

@[simp] theorem TokenKind.isClosing_opening (b : Bracket) : (opening b).isClosing = false := rfl

@[simp] theorem TokenKind.isClosing_closing (b : Bracket) : (closing b).isClosing = true := rfl

/-- The token is a bracket. -/
def TokenKind.isBracket (kind : TokenKind) : Bool :=
  kind.isOpening || kind.isClosing

/-- Only a bracket changes what is open. -/
theorem TokenKind.openedAfter_of_not_bracket {kind : TokenKind} (h : kind.isBracket = false)
    (opened : List Bracket) : kind.openedAfter opened = opened := by
  cases kind with
  | opening b | closing b => cases h
  | _ => rfl

/-- Every bracket has its match. -/
inductive Balanced : List TokenKind → Prop
  | nil : Balanced []
  | single {kind : TokenKind} {rest : List TokenKind} (hkind : kind.isBracket = false)
    (hrest : Balanced rest) : Balanced (kind :: rest)
  | list {b : Bracket} {inner rest : List TokenKind} (hinner : Balanced inner)
    (hrest : Balanced rest) : Balanced (.opening b :: (inner ++ .closing b :: rest))

/-- The openers that have no match, innermost first. -/
inductive LeavesOpen : List TokenKind → List Bracket → Prop
  | none {kinds : List TokenKind} (h : Balanced kinds) : LeavesOpen kinds []
  | opener {kinds inner : List TokenKind} {b : Bracket} {opened : List Bracket}
    (outer : LeavesOpen kinds opened) (hinner : Balanced inner) :
    LeavesOpen (kinds ++ .opening b :: inner) (b :: opened)

theorem Balanced.append {kinds more : List TokenKind} (h : Balanced kinds) (hmore : Balanced more) :
    Balanced (kinds ++ more) := by
  induction h with
  | nil => exact hmore
  | single hkind _ ih => exact .single hkind ih
  | list hinner _ _ ih =>
    rw [List.cons_append, List.append_assoc, List.cons_append]
    exact .list hinner ih

theorem Balanced.count {kinds : List TokenKind} (h : Balanced kinds) :
    kinds.countP (·.isClosing) = kinds.countP (·.isOpening) := by
  induction h with
  | nil => rfl
  | @single kind rest hkind _ ih =>
    obtain ⟨hopening, hclosing⟩ := Bool.or_eq_false_iff.1 hkind
    rw [List.countP_cons_of_neg (by simp [hclosing]), List.countP_cons_of_neg (by simp [hopening]),
      ih]
  | list _ _ ihInner ihRest =>
    simp only [List.countP_cons, List.countP_append, TokenKind.isOpening_opening,
      TokenKind.isOpening_closing, TokenKind.isClosing_opening, TokenKind.isClosing_closing,
      Bool.false_eq_true, if_true, if_false]
    omega

namespace LeavesOpen

variable {kinds : List TokenKind} {opened : List Bracket}

/-- The openers are as many as those left open and the closing brackets together. -/
theorem count (h : LeavesOpen kinds opened) :
    opened.length + kinds.countP (·.isClosing) = kinds.countP (·.isOpening) := by
  induction h with
  | none h => simpa using h.count
  | opener _ hinner ih =>
    have hcount := hinner.count
    simp only [List.length_cons, List.countP_append, List.countP_cons, TokenKind.isOpening_opening,
      TokenKind.isClosing_opening, Bool.false_eq_true, if_true, if_false]
    omega

theorem append (h : LeavesOpen kinds opened) {more : List TokenKind} (hmore : Balanced more) :
    LeavesOpen (kinds ++ more) opened := by
  cases h with
  | none h => exact .none (h.append hmore)
  | opener outer hinner =>
    rw [List.append_assoc, List.cons_append]
    exact .opener outer (hinner.append hmore)

/-- A closing bracket matches the innermost opener. -/
theorem close {b : Bracket} (h : LeavesOpen kinds (b :: opened)) :
    LeavesOpen (kinds ++ [.closing b]) opened := by
  cases h with
  | @opener kinds inner _ _ outer hinner =>
    rw [List.append_assoc, List.cons_append]
    exact outer.append (.list hinner .nil)

end LeavesOpen

/-! ### The brackets of a text -/

variable {c c' : Cursor} {t : Token}

/-- A closing bracket is read only where a list of its shape is open. -/
theorem head?_of_scanToken {opened : List Bracket} {p : Position} {first : Char} {cs : List Char}
    {piece : Piece} {b : Bracket} (h : scanToken opened p first cs = .ok piece)
    (hkind : piece.kind = .closing b) : opened.head? = some b := by
  unfold scanToken at h
  split at h
  · cases h
    cases hkind
  · split at h
    · unfold scanClose at h
      split at h
      · cases h
      · split_ifs at h with hmatch
        cases h
        cases hkind
        rw [List.head?_cons, hmatch]
    · -- nothing else is a closing bracket
      split_ifs at h
      · cases h
        cases hkind
      · obtain ⟨text, htext⟩ := kind_of_scanText h
        exact absurd (htext.symm.trans hkind) nofun
      · obtain ⟨c, hchar⟩ | ⟨b, hbool⟩ := kind_of_scanHash h
        · exact absurd (hchar.symm.trans hkind) nofun
        · exact absurd (hbool.symm.trans hkind) nofun
      · obtain ⟨n, hnumber⟩ | ⟨hsymbol, -⟩ := kind_of_scanAtom h
        · exact absurd (hnumber.symm.trans hkind) nofun
        · exact absurd (hsymbol.symm.trans hkind) nofun

theorem Cursor.head?_of_step (h : c.step = .token t c') (b : Bracket) (ht : t.kind = .closing b) :
    c.opened.head? = some b := by
  obtain ⟨p, first, cs, piece, -, hpiece, rfl, -⟩ := Cursor.scan_of_step h
  exact head?_of_scanToken hpiece ht

/-- **The brackets that are open are those that the tokens leave open**: what one token does. -/
theorem LeavesOpen.step {kinds : List TokenKind} (h : LeavesOpen kinds c.opened)
    (hstep : c.step = .token t c') : LeavesOpen (kinds ++ [t.kind]) c'.opened := by
  obtain ⟨-, -, -, -, -, hopened⟩ := Cursor.step_split hstep
  have hmatch := Cursor.head?_of_step hstep
  rw [hopened]
  cases hkind : t.kind with
  | opening b => exact .opener h .nil
  | closing b =>
    obtain ⟨opened, hopen⟩ := List.head?_eq_some_iff.1 (hmatch b hkind)
    rw [hopen] at h ⊢
    exact h.close
  | _ => exact h.append (.single rfl .nil)

end TimelineLisp
