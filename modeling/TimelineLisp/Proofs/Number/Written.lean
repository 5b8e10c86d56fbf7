import Mathlib.Tactic.Common
import TimelineLisp.Number.Literal

/-!
# Written numbers

A number is written as a sign and a body, the body with digits on both sides of a slash or of no
slash at all.  **The literal that a number is written as has the value of the number**
(`ofChars?_literal`), and it starts like a number (`looksNumeric_literal`).
-/

namespace TimelineLisp

namespace Number

/-! ### The parts of a written number -/

/-- The sign in front of a written number. -/
def sign (n : Number) : List Char :=
  if n.num < 0 then ['-'] else []

/-- A written number without its sign. -/
def body (n : Number) : List Char :=
  Nat.toDigits 10 n.num.natAbs ++ if n.den = 1 then [] else '/' :: Nat.toDigits 10 n.den

/-- The literal that a number is written as. -/
def literal (n : Number) : List Char :=
  sign n ++ body n

theorem write_eq (n : Number) (tail : List Char) : write n tail = literal n ++ tail := by
  unfold write literal sign body writeInt writeNat
  split_ifs <;> simp

/-! ### Digits -/

theorem isDigit_of_mem_toDigits {n : ℕ} {c : Char} (h : c ∈ Nat.toDigits 10 n) : c.isDigit :=
  Nat.isDigit_of_mem_toDigits (by decide) (by decide) h

theorem not_mem_toDigits {n : ℕ} {mark : Char} (h : mark.isDigit = false) :
    mark ∉ Nat.toDigits 10 n := by
  intro hm
  rw [isDigit_of_mem_toDigits hm] at h
  cases h

theorem digits?_toDigits (n : ℕ) : digits? (Nat.toDigits 10 n) = some n := by
  unfold digits?
  rw [if_neg (by simp), if_pos (List.all_eq_true.2 fun c hc => isDigit_of_mem_toDigits hc),
    Nat.ofDigitChars_ten_toDigits]

/-- The body of a written number starts with a digit. -/
theorem exists_body_eq (n : Number) : ∃ c cs, body n = c :: cs ∧ c.isDigit := by
  unfold body
  cases hd : Nat.toDigits 10 n.num.natAbs with
  | nil => exact absurd hd Nat.toDigits_ne_nil
  | cons c cs =>
    refine ⟨c, _, rfl, ?_⟩
    exact isDigit_of_mem_toDigits (hd ▸ List.mem_cons_self)

/-! ### Cuts -/

theorem cut?_of_not_mem {mark : Char} {cs : List Char} (h : mark ∉ cs) : cut? mark cs = none := by
  induction cs with
  | nil => rfl
  | cons c cs ih =>
    rw [List.mem_cons, not_or] at h
    rw [cut?, if_neg (Ne.symm h.1), ih h.2]
    rfl

theorem cut?_append {mark : Char} {before : List Char} (h : mark ∉ before) (after : List Char) :
    cut? mark (before ++ mark :: after) = some (before, after) := by
  induction before with
  | nil => simp [cut?]
  | cons c before ih =>
    rw [List.mem_cons, not_or] at h
    rw [List.cons_append, cut?, if_neg (Ne.symm h.1), ih h.2]
    rfl

/-! ### The value of a literal -/

theorem unsigned?_body (n : Number) : unsigned? (body n) = some (mkRat n.num.natAbs n.den) := by
  have hslash : '/' ∉ Nat.toDigits 10 n.num.natAbs := not_mem_toDigits (by decide)
  have hpoint : '.' ∉ Nat.toDigits 10 n.num.natAbs := not_mem_toDigits (by decide)
  unfold body unsigned?
  split_ifs with hden
  -- without a slash there is no point either, so the digits are a whole number
  · rw [List.append_nil, cut?_of_not_mem hslash, hden, Rat.mkRat_one]
    simp only [cut?_of_not_mem hpoint, digits?_toDigits]
    rfl
  · rw [cut?_append hslash]
    simp only [fraction?, digits?_toDigits, Option.bind_eq_bind, Option.bind_some,
      if_neg n.den_nz]

/-! A text that starts with a digit has neither sign nor point in front. -/

section Digit

variable {c : Char} (hc : c.isDigit) (cs : List Char)

include hc

theorem ofChars?_digit : ofChars? (c :: cs) = unsigned? (c :: cs) := by
  unfold ofChars?
  split
  · next heq =>
    cases heq
    cases hc
  · next heq =>
    cases heq
    cases hc
  · rfl

theorem dropSign_digit : dropSign (c :: cs) = c :: cs := by
  unfold dropSign
  split
  · next heq =>
    cases heq
    cases hc
  · next heq =>
    cases heq
    cases hc
  · rfl

theorem dropPoint_digit : dropPoint (c :: cs) = c :: cs := by
  unfold dropPoint
  split
  · next heq =>
    cases heq
    cases hc
  · rfl

end Digit

/-- **The literal that a number is written as has the value of the number.** -/
theorem ofChars?_literal (n : Number) : ofChars? (literal n) = some n := by
  unfold literal sign
  split_ifs with hneg
  · have hnum : -(n.num.natAbs : Int) = n.num := by omega
    rw [List.singleton_append, ofChars?, unsigned?_body, Option.map_some, Rat.neg_mkRat, hnum,
      Rat.mkRat_self]
  · have hnum : (n.num.natAbs : Int) = n.num := by omega
    obtain ⟨c, cs, hb, hc⟩ := exists_body_eq n
    rw [List.nil_append, hb, ofChars?_digit hc, ← hb, unsigned?_body, hnum, Rat.mkRat_self]

theorem looksNumeric_literal (n : Number) : looksNumeric (literal n) = true := by
  obtain ⟨c, cs, hb, hc⟩ := exists_body_eq n
  have hsign : dropSign (literal n) = c :: cs := by
    unfold literal sign
    split_ifs
    · rw [List.singleton_append, dropSign, hb]
    · rw [List.nil_append, hb, dropSign_digit hc]
  rw [looksNumeric, hsign, dropPoint_digit hc]
  exact hc

/-! ### The characters of a literal -/

theorem mem_body {n : Number} {c : Char} (h : c ∈ body n) : c = '/' ∨ c.isDigit := by
  unfold body at h
  rcases List.mem_append.1 h with h | h
  · exact .inr (isDigit_of_mem_toDigits h)
  · split_ifs at h
    · cases h
    · rcases List.mem_cons.1 h with rfl | h
      · exact .inl rfl
      · exact .inr (isDigit_of_mem_toDigits h)

theorem mem_literal {n : Number} {c : Char} (h : c ∈ literal n) :
    c = '-' ∨ c = '/' ∨ c.isDigit := by
  unfold literal sign at h
  rcases List.mem_append.1 h with h | h
  · split_ifs at h
    · exact .inl (List.mem_singleton.1 h)
    · cases h
  · exact .inr (mem_body h)

theorem exists_literal_eq (n : Number) : ∃ c cs, literal n = c :: cs ∧ (c = '-' ∨ c.isDigit) := by
  obtain ⟨c, cs, hb, hc⟩ := exists_body_eq n
  unfold literal sign
  split_ifs
  · exact ⟨'-', body n, rfl, .inl rfl⟩
  · exact ⟨c, cs, hb, .inr hc⟩

end Number

end TimelineLisp
