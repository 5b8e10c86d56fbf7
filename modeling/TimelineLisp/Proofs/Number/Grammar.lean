import Mathlib
import TimelineLisp.Proofs.Number.Written

/-!
# The grammar of number literals

`Number.Literal` says which texts are number literals and what each of them denotes: digits, two
runs of digits around a slash, or two runs of digits around a point of which one may be missing, and
a sign or none in front of it all.  It does not speak of where a text is cut.

**A text is read as a number just when it is a literal that denotes it** (`ofChars?_eq_some_iff`),
and every literal starts the way a number does (`Literal.looksNumeric`), so no literal is a symbol.
-/

namespace TimelineLisp

namespace Number

/-! ### The grammar -/

/-- One or more decimal digits, and the natural number that they denote. -/
inductive Digits : List Char → ℕ → Prop
  | single {c : Char} (hc : c.isDigit) : Digits [c] (c.toNat - '0'.toNat)
  | snoc {cs : List Char} {n : ℕ} {c : Char} (hcs : Digits cs n) (hc : c.isDigit) :
    Digits (cs ++ [c]) (10 * n + (c.toNat - '0'.toNat))

/-- Decimal digits or nothing, which denotes zero. -/
inductive DigitsOrNone : List Char → ℕ → Prop
  | none : DigitsOrNone [] 0
  | digits {cs : List Char} {n : ℕ} (h : Digits cs n) : DigitsOrNone cs n

/-- A literal without a sign, and the number that it denotes.  The digits behind a point count
tenths, hundredths and so on. -/
inductive Unsigned : List Char → Number → Prop
  | whole {cs : List Char} {n : ℕ} (h : Digits cs n) : Unsigned cs n
  | fraction {numer denom : List Char} {n d : ℕ} (hn : Digits numer n) (hd : Digits denom d)
    (hzero : d ≠ 0) : Unsigned (numer ++ '/' :: denom) (n / d)
  | decimal {whole frac : List Char} {w f : ℕ} (hw : DigitsOrNone whole w)
    (hf : DigitsOrNone frac f) (hdigit : whole ≠ [] ∨ frac ≠ []) :
    Unsigned (whole ++ '.' :: frac) (w + f / 10 ^ frac.length)

/-- A number literal, and the number that it denotes. -/
inductive Literal : List Char → Number → Prop
  | plain {cs : List Char} {n : Number} (h : Unsigned cs n) : Literal cs n
  | plus {cs : List Char} {n : Number} (h : Unsigned cs n) : Literal ('+' :: cs) n
  | minus {cs : List Char} {n : Number} (h : Unsigned cs n) : Literal ('-' :: cs) (-n)

/-! ### Digits -/

theorem Digits.ne_nil {cs : List Char} {n : ℕ} (h : Digits cs n) : cs ≠ [] := by
  cases h <;> simp

theorem Digits.isDigit {cs : List Char} {n : ℕ} (h : Digits cs n) : ∀ c ∈ cs, c.isDigit := by
  induction h with
  | single hc => simpa using hc
  | snoc _ hc ih =>
    intro c hmem
    rcases List.mem_append.1 hmem with hmem | hmem
    · exact ih c hmem
    · rwa [List.mem_singleton.1 hmem]

theorem DigitsOrNone.isDigit {cs : List Char} {n : ℕ} (h : DigitsOrNone cs n) :
    ∀ c ∈ cs, c.isDigit := by
  cases h with
  | none => exact List.forall_mem_nil _
  | digits h => exact h.isDigit

/-- A mark is no digit. -/
theorem not_mem_of_isDigit {mark : Char} {cs : List Char} (hmark : mark.isDigit = false)
    (h : ∀ c ∈ cs, c.isDigit) : mark ∉ cs := by
  intro hmem
  rw [h mark hmem] at hmark
  cases hmark

/-- Digits denote what they amount to from the left. -/
theorem digits_iff {cs : List Char} {n : ℕ} :
    Digits cs n ↔ cs ≠ [] ∧ (∀ c ∈ cs, c.isDigit) ∧ Nat.ofDigitChars 10 cs 0 = n := by
  constructor
  · intro h
    refine ⟨h.ne_nil, h.isDigit, ?_⟩
    induction h with
    | single => simp [Nat.ofDigitChars_cons]
    | snoc _ _ ih => rw [Nat.ofDigitChars_append, ih, Nat.ofDigitChars_cons, Nat.ofDigitChars_nil]
  · rintro ⟨hne, hdigit, rfl⟩
    induction cs using List.reverseRecOn with
    | nil => exact absurd rfl hne
    | append_singleton cs c ih =>
      have hc : c.isDigit := hdigit c (by simp)
      rw [Nat.ofDigitChars_append, Nat.ofDigitChars_cons, Nat.ofDigitChars_nil]
      by_cases hnil : cs = []
      · subst hnil
        simpa using Digits.single hc
      · exact .snoc (ih hnil fun d hd => hdigit d (List.mem_append_left _ hd)) hc

theorem digits?_eq_some_iff {cs : List Char} {n : ℕ} : digits? cs = some n ↔ Digits cs n := by
  rw [digits_iff]
  unfold digits?
  split_ifs with hnil hall
  · simp [List.isEmpty_iff.1 hnil]
  · have hne : cs ≠ [] := fun h => hnil (List.isEmpty_iff.2 h)
    have hdigit : ∀ c ∈ cs, c.isDigit := List.all_eq_true.1 hall
    simp only [hne, ne_eq, not_false_eq_true, true_and, Option.some.injEq, and_iff_right hdigit]
  · have hdigit : ¬ ∀ c ∈ cs, c.isDigit := fun h => hall (List.all_eq_true.2 h)
    simp [hdigit]

theorem digitsOrNone?_eq_some_iff {cs : List Char} {n : ℕ} :
    digitsOrNone? cs = some n ↔ DigitsOrNone cs n := by
  unfold digitsOrNone?
  split_ifs with hnil
  · obtain rfl := List.isEmpty_iff.1 hnil
    constructor
    · rintro ⟨⟩
      exact .none
    · rintro (_ | h)
      · rfl
      · exact absurd rfl h.ne_nil
  · rw [digits?_eq_some_iff]
    constructor
    · exact .digits
    · rintro (_ | h)
      · exact absurd rfl hnil
      · exact h

/-! ### Cuts -/

theorem cut?_eq_some_iff {mark : Char} {cs before after : List Char} :
    cut? mark cs = some (before, after) ↔ cs = before ++ mark :: after ∧ mark ∉ before := by
  constructor
  · intro h
    induction cs generalizing before with
    | nil => cases h
    | cons c cs ih =>
      rw [cut?] at h
      split_ifs at h with hc
      · cases h
        exact ⟨by rw [hc]; rfl, List.not_mem_nil⟩
      · obtain ⟨⟨before', after'⟩, hcut, heq⟩ := Option.map_eq_some_iff.1 h
        cases heq
        obtain ⟨rfl, hmem⟩ := ih hcut
        exact ⟨rfl, by simp [Ne.symm hc, hmem]⟩
  · rintro ⟨rfl, hmem⟩
    exact cut?_append hmem after

/-! ### Literals without a sign -/

theorem fraction?_eq_some_iff {numer denom : List Char} {r : Number} :
    fraction? numer denom = some r ↔
      ∃ n d, Digits numer n ∧ Digits denom d ∧ d ≠ 0 ∧ r = n / d := by
  simp only [fraction?, ← digits?_eq_some_iff, Option.bind_eq_bind, Option.bind_eq_some_iff]
  constructor
  · rintro ⟨d, hd, h⟩
    split_ifs at h with hzero
    obtain ⟨n, hn, heq⟩ := Option.bind_eq_some_iff.1 h
    cases heq
    exact ⟨n, d, hn, hd, hzero, Rat.mkRat_eq_div _ _⟩
  · rintro ⟨n, d, hn, hd, hzero, rfl⟩
    refine ⟨d, hd, ?_⟩
    rw [if_neg hzero, hn, Option.bind_some, Rat.mkRat_eq_div]
    rfl

/-- A number of tenths, hundredths and so on is a whole number and a part of one. -/
theorem mkRat_scale (w f k : ℕ) :
    mkRat (w * Nat.pow 10 k + f : ℕ) (Nat.pow 10 k) = (w : ℚ) + f / 10 ^ k := by
  have hpow : ((Nat.pow 10 k : ℕ) : ℚ) = 10 ^ k := by
    rw [Nat.pow_eq, Nat.cast_pow]
    rfl
  rw [Rat.mkRat_eq_div]
  push_cast
  rw [hpow]
  field_simp

theorem decimal?_eq_some_iff {whole frac : List Char} {r : Number} :
    decimal? whole frac = some r ↔
      ∃ w f, DigitsOrNone whole w ∧ DigitsOrNone frac f ∧ (whole ≠ [] ∨ frac ≠ []) ∧
        r = w + f / 10 ^ frac.length := by
  unfold decimal?
  simp only [← digitsOrNone?_eq_some_iff]
  split_ifs with hnil
  · obtain ⟨rfl, rfl⟩ : whole = [] ∧ frac = [] := by simpa using hnil
    simp
  · have hdigit : whole ≠ [] ∨ frac ≠ [] := by
      simpa [Classical.or_iff_not_imp_left] using hnil
    simp only [Option.bind_eq_bind, Option.bind_eq_some_iff]
    constructor
    · rintro ⟨w, hw, f, hf, heq⟩
      cases heq
      exact ⟨w, f, hw, hf, hdigit, mkRat_scale w f _⟩
    · rintro ⟨w, f, hw, hf, -, rfl⟩
      exact ⟨w, hw, f, hf, congrArg some (mkRat_scale w f _)⟩

/-- What is cut at the first slash, or else at the first point, is read part by part. -/
theorem unsigned?_eq_some_iff {body : List Char} {n : Number} :
    unsigned? body = some n ↔ Unsigned body n := by
  constructor
  · intro h
    unfold unsigned? at h
    split at h
    · next numer denom hcut =>
      obtain ⟨rfl, -⟩ := cut?_eq_some_iff.1 hcut
      obtain ⟨n, d, hn, hd, hzero, rfl⟩ := fraction?_eq_some_iff.1 h
      exact .fraction hn hd hzero
    · split at h
      · next whole frac hcut =>
        obtain ⟨rfl, -⟩ := cut?_eq_some_iff.1 hcut
        obtain ⟨w, f, hw, hf, hdigit, rfl⟩ := decimal?_eq_some_iff.1 h
        exact .decimal hw hf hdigit
      · cases hn : digits? body with
        | none =>
          rw [hn] at h
          cases h
        | some n =>
          rw [hn] at h
          cases h
          exact .whole (digits?_eq_some_iff.1 hn)
  · intro h
    unfold unsigned?
    cases h with
    | whole h =>
      have hslash : '/' ∉ body := not_mem_of_isDigit rfl h.isDigit
      have hpoint : '.' ∉ body := not_mem_of_isDigit rfl h.isDigit
      simp only [cut?_of_not_mem hslash, cut?_of_not_mem hpoint, digits?_eq_some_iff.2 h]
      rfl
    | @fraction numer denom n d hn hd hzero =>
      have hslash : '/' ∉ numer := not_mem_of_isDigit rfl hn.isDigit
      simp only [cut?_append hslash]
      exact fraction?_eq_some_iff.2 ⟨n, d, hn, hd, hzero, rfl⟩
    | @decimal whole frac w f hw hf hdigit =>
      have hslash : '/' ∉ whole ++ '.' :: frac := by
        have hwhole : '/' ∉ whole := not_mem_of_isDigit rfl hw.isDigit
        have hfrac : '/' ∉ frac := not_mem_of_isDigit rfl hf.isDigit
        simp [hwhole, hfrac]
      have hpoint : '.' ∉ whole := not_mem_of_isDigit rfl hw.isDigit
      simp only [cut?_of_not_mem hslash, cut?_append hpoint]
      exact decimal?_eq_some_iff.2 ⟨w, f, hw, hf, hdigit, rfl⟩

/-! ### How a literal starts -/

theorem Digits.exists_cons {cs : List Char} {n : ℕ} (h : Digits cs n) :
    ∃ c rest, cs = c :: rest ∧ c.isDigit := by
  obtain ⟨c, rest, rfl⟩ := List.exists_cons_of_ne_nil h.ne_nil
  exact ⟨c, rest, rfl, h.isDigit c List.mem_cons_self⟩

/-- A literal without a sign starts with a digit, or with a point and a digit. -/
theorem Unsigned.start {cs : List Char} {n : Number} (h : Unsigned cs n) :
    ∃ c rest, c.isDigit ∧ (cs = c :: rest ∨ cs = '.' :: c :: rest) := by
  cases h with
  | whole h =>
    obtain ⟨c, rest, rfl, hc⟩ := h.exists_cons
    exact ⟨c, rest, hc, .inl rfl⟩
  | fraction hn =>
    obtain ⟨c, rest, rfl, hc⟩ := hn.exists_cons
    exact ⟨c, _, hc, .inl rfl⟩
  | decimal hw hf hdigit =>
    cases hw with
    | digits hw =>
      obtain ⟨c, rest, rfl, hc⟩ := hw.exists_cons
      exact ⟨c, _, hc, .inl rfl⟩
    | none =>
      cases hf with
      | digits hf =>
        obtain ⟨c, rest, rfl, hc⟩ := hf.exists_cons
        exact ⟨c, rest, hc, .inr rfl⟩
      | none => simp at hdigit

theorem Unsigned.ofChars? {cs : List Char} {n : Number} (h : Unsigned cs n) :
    Number.ofChars? cs = unsigned? cs := by
  obtain ⟨c, rest, hc, rfl | rfl⟩ := h.start
  · exact ofChars?_digit hc rest
  · rfl

theorem Unsigned.dropSign {cs : List Char} {n : Number} (h : Unsigned cs n) :
    Number.dropSign cs = cs := by
  obtain ⟨c, rest, hc, rfl | rfl⟩ := h.start
  · exact dropSign_digit hc rest
  · rfl

/-! ### Literals -/

/-- **A text is read as a number just when it is a literal that denotes it.** -/
theorem ofChars?_eq_some_iff {cs : List Char} {n : Number} :
    ofChars? cs = some n ↔ Literal cs n := by
  constructor
  · intro h
    unfold ofChars? at h
    split at h
    · obtain ⟨m, hm, rfl⟩ := Option.map_eq_some_iff.1 h
      exact .minus (unsigned?_eq_some_iff.1 hm)
    · exact .plus (unsigned?_eq_some_iff.1 h)
    · exact .plain (unsigned?_eq_some_iff.1 h)
  · rintro (h | h | h)
    · rw [h.ofChars?, unsigned?_eq_some_iff.2 h]
    · exact unsigned?_eq_some_iff.2 h
    · rw [ofChars?, unsigned?_eq_some_iff.2 h]
      rfl

/-- **A literal starts the way a number does.** -/
theorem Literal.looksNumeric {cs : List Char} {n : Number} (h : Literal cs n) :
    Number.looksNumeric cs = true := by
  obtain ⟨body, hsign, hbody⟩ : ∃ body, Number.dropSign cs = body ∧ ∃ n, Unsigned body n := by
    cases h with
    | plain h => exact ⟨_, h.dropSign, _, h⟩
    | plus h => exact ⟨_, rfl, _, h⟩
    | minus h => exact ⟨_, rfl, _, h⟩
  obtain ⟨m, hm⟩ := hbody
  rw [Number.looksNumeric, hsign]
  obtain ⟨c, rest, hc, rfl | rfl⟩ := hm.start
  · rw [dropPoint_digit hc]
    exact hc
  · exact hc

end Number

end TimelineLisp
