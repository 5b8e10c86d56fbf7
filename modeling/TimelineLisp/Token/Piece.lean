import TimelineLisp.Text.Letter
import TimelineLisp.Text.Numeral
import TimelineLisp.Token.Basic
import TimelineLisp.Token.Trivia

/-!
# One token at the front of a text

`scanToken` cuts the token that starts with a given character off the front of a text.  Its lexeme
is not empty (`scanToken_lexeme_ne_nil`), and the lexeme and what is left make up the text
(`scanToken_split`).
-/

namespace TimelineLisp

/-- The character ends a symbol, a number or a `#` literal. -/
def isDelimiter (c : Char) : Bool :=
  isBlank c || c ∈ ['(', ')', '[', ']', '"', ';', '\'']

/-- The character can stand inside a symbol, a number or a `#` literal. -/
def isWordChar (c : Char) : Bool :=
  !isDelimiter c

/-- The character can go on with the name of a character. -/
def isNameChar (c : Char) : Bool :=
  isLetter c || isNumeral c

/-- A token cut off the front of a text. -/
structure Piece where
  /-- What the token is. -/
  kind : TokenKind
  /-- The text of the token. -/
  lexeme : List Char
  /-- What is left of the text. -/
  rest : List Char

/-- The character that an escape in a string stands for. -/
def unescape? (c : Char) : Option Char :=
  match c with
  | 'n' => some '\n'
  | 't' => some '\t'
  | 'r' => some '\r'
  | '0' => some '\x00'
  | '\\' => some '\\'
  | '"' => some '"'
  | _ => none

/-- Reads a string literal from within.  `p` is the position of the next character, `read` holds
the lexeme so far and `content` the decoded characters so far, both in reverse. -/
def scanText (p : Position) (read content : List Char) : List Char → Except ScanError Piece
  | [] => .error .incomplete
  | ['\\'] => .error .incomplete
  | '\\' :: e :: cs =>
    match unescape? e with
    | some c => scanText ((p.next '\\').next e) (e :: '\\' :: read) (c :: content) cs
    | none => .error (.badEscape e p)
  | c :: cs =>
    if c = '"' then .ok ⟨.text (String.ofList content.reverse), (c :: read).reverse, cs⟩
    else scanText (p.next c) (c :: read) (c :: content) cs

/-- The characters that are written by name. -/
def characterNames : List (String × Char) :=
  [("space", ' '), ("newline", '\n'), ("tab", '\t'), ("nul", '\x00')]

/-- A `#` literal that the end of the text cuts off inside a list may be completed by more text, so
its fault is not final. -/
def pendingOr (nested : Bool) (rest : List Char) (fault : ScanError) : ScanError :=
  if rest.isEmpty && nested then .incomplete else fault

/-- The characters after `first` that belong to the same character name, and the rest: a name
starts with a letter. -/
def nameRun (first : Char) (cs : List Char) : List Char × List Char :=
  if isLetter first then (cs.takeWhile isNameChar, cs.dropWhile isNameChar) else ([], cs)

/-- Reads a character literal from behind its `#\`.  `p` is the position of the literal. -/
def scanCharacter (nested : Bool) (p : Position) : List Char → Except ScanError Piece
  | [] => .error .incomplete
  | first :: cs =>
    match nameRun first cs with
    | ([], rest) => .ok ⟨.char first, ['#', '\\', first], rest⟩
    | (run, rest) =>
      let name := String.ofList (first :: run)
      match characterNames.lookup name with
      | some c => .ok ⟨.char c, '#' :: '\\' :: first :: run, rest⟩
      | none => .error (pendingOr nested rest (.badCharacter name p))

/-- The truth values by the words that stand for them. -/
def boolWords : List (String × Bool) :=
  [("#t", true), ("#true", true), ("#f", false), ("#false", false)]

/-- Reads a literal from behind its `#`.  `p` is the position of the literal. -/
def scanHash (nested : Bool) (p : Position) : List Char → Except ScanError Piece
  | '\\' :: cs => scanCharacter nested p cs
  | cs =>
    let lexeme := '#' :: cs.takeWhile isWordChar
    let rest := cs.dropWhile isWordChar
    match boolWords.lookup (String.ofList lexeme) with
    | some b => .ok ⟨.bool b, lexeme, rest⟩
    | none => .error (pendingOr nested rest (.badHash (String.ofList lexeme) p))

/-- What an atom is: a symbol, unless it starts like a number. -/
def classifyAtom (p : Position) (lexeme : List Char) : Except ScanError TokenKind :=
  if Number.looksNumeric lexeme then
    match Number.ofChars? lexeme with
    | some n => .ok (.number n)
    | none => .error (.badNumber (String.ofList lexeme) p)
  else .ok (.symbol (String.ofList lexeme))

/-- Reads a symbol or a number that starts with `first`. -/
def scanAtom (p : Position) (first : Char) (cs : List Char) : Except ScanError Piece := do
  let lexeme := first :: cs.takeWhile isWordChar
  let kind ← classifyAtom p lexeme
  .ok ⟨kind, lexeme, cs.dropWhile isWordChar⟩

/-- Reads a closing bracket, which has to match the innermost open one. -/
def scanClose (opened : List Bracket) (p : Position) (found : Bracket) (cs : List Char) :
    Except ScanError Piece :=
  match opened with
  | [] => .error (.unexpectedClose found p)
  | expected :: _ =>
    if expected = found then .ok ⟨.closing found, [found.closing], cs⟩
    else .error (.mismatched expected found p)

/-- Reads the token that starts with `first`, at position `p` and inside the brackets `opened`. -/
def scanToken (opened : List Bracket) (p : Position) (first : Char) (cs : List Char) :
    Except ScanError Piece :=
  match Bracket.ofOpening? first with
  | some b => .ok ⟨.opening b, [first], cs⟩
  | none =>
    match Bracket.ofClosing? first with
    | some b => scanClose opened p b cs
    | none =>
      if first = '\'' then .ok ⟨.quote, [first], cs⟩
      else if first = '"' then scanText (p.next first) [first] [] cs
      else if first = '#' then scanHash (!opened.isEmpty) p cs
      else scanAtom p first cs

/-! ### Every token is cut off the front of the text -/

theorem scanText_split {p : Position} {read content cs : List Char} {t : Piece}
    (h : scanText p read content cs = .ok t) :
    ∃ more, t.lexeme = read.reverse ++ more ∧ cs = more ++ t.rest := by
  fun_induction scanText p read content cs with
  | case1 => simp at h
  | case2 => simp at h
  | case3 p read content e cs c _ ih =>
    obtain ⟨more, hl, hr⟩ := ih h
    exact ⟨'\\' :: e :: more, by simp [hl], by simp [hr]⟩
  | case4 => simp at h
  | case5 p read content cs =>
    cases h
    exact ⟨['"'], by simp⟩
  | case6 p read content c cs _ _ _ ih =>
    obtain ⟨more, hl, hr⟩ := ih h
    exact ⟨c :: more, by simp [hl], by simp [hr]⟩

theorem nameRun_append (first : Char) (cs : List Char) :
    (nameRun first cs).1 ++ (nameRun first cs).2 = cs := by
  unfold nameRun
  split <;> simp

theorem scanCharacter_split {nested : Bool} {p : Position} {cs : List Char} {t : Piece}
    (h : scanCharacter nested p cs = .ok t) :
    '#' :: '\\' :: cs = t.lexeme ++ t.rest := by
  cases cs with
  | nil => simp [scanCharacter] at h
  | cons first cs =>
    have hr := nameRun_append first cs
    simp only [scanCharacter] at h
    split at h
    · next rest hn =>
      cases h
      simpa [hn] using hr.symm
    · next run rest _ hn =>
      split at h
      · cases h
        simpa [hn] using hr.symm
      · simp at h

theorem scanHash_split {nested : Bool} {p : Position} {cs : List Char} {t : Piece}
    (h : scanHash nested p cs = .ok t) : '#' :: cs = t.lexeme ++ t.rest := by
  rw [scanHash.eq_def] at h
  split at h
  · exact scanCharacter_split h
  · dsimp only at h
    split at h
    · cases h
      simp
    · simp at h

theorem scanAtom_split {p : Position} {first : Char} {cs : List Char} {t : Piece}
    (h : scanAtom p first cs = .ok t) : first :: cs = t.lexeme ++ t.rest := by
  simp only [scanAtom, bind, Except.bind] at h
  split at h
  · simp at h
  · cases h
    simp

theorem closing_of_ofClosing? {c : Char} {b : Bracket} (h : Bracket.ofClosing? c = some b) :
    b.closing = c := by
  unfold Bracket.ofClosing? at h
  split at h
  · next hc => cases h; exact hc.symm
  · split at h
    · next hc => cases h; exact hc.symm
    · simp at h

theorem scanHash_lexeme_ne_nil {nested : Bool} {p : Position} {cs : List Char} {t : Piece}
    (h : scanHash nested p cs = .ok t) : t.lexeme ≠ [] := by
  rw [scanHash.eq_def] at h
  split at h
  · next cs =>
    cases cs with
    | nil => simp [scanCharacter] at h
    | cons first cs =>
      simp only [scanCharacter] at h
      split at h
      · cases h
        simp
      · split at h
        · cases h
          simp
        · simp at h
  · dsimp only at h
    split at h
    · cases h
      simp
    · simp at h

/-- The lexeme and what is left make up the text. -/
theorem scanToken_split {opened : List Bracket} {p : Position} {first : Char} {cs : List Char}
    {t : Piece} (h : scanToken opened p first cs = .ok t) :
    first :: cs = t.lexeme ++ t.rest := by
  unfold scanToken at h
  split at h
  · cases h
    rfl
  · split at h
    · next b hb =>
      rw [← closing_of_ofClosing? hb]
      unfold scanClose at h
      split at h
      · simp at h
      · split at h
        · cases h
          rfl
        · simp at h
    · split at h
      · cases h
        rfl
      · split at h
        · next hq =>
          obtain ⟨more, hl, hr⟩ := scanText_split h
          simp [hl, hr]
        · split at h
          · next hh =>
            rw [hh]
            exact scanHash_split h
          · exact scanAtom_split h

theorem scanToken_lexeme_ne_nil {opened : List Bracket} {p : Position} {first : Char}
    {cs : List Char} {t : Piece} (h : scanToken opened p first cs = .ok t) : t.lexeme ≠ [] := by
  unfold scanToken at h
  split at h
  · cases h
    simp
  · split at h
    · unfold scanClose at h
      split at h
      · simp at h
      · split at h
        · cases h
          simp
        · simp at h
    · split at h
      · cases h
        simp
      · split at h
        · obtain ⟨more, hl, _⟩ := scanText_split h
          simp [hl]
        · split at h
          · exact scanHash_lexeme_ne_nil h
          · simp only [scanAtom, bind, Except.bind] at h
            split at h
            · simp at h
            · cases h
              simp

end TimelineLisp
