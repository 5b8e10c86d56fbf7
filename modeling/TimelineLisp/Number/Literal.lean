/-!
# Number literals

Numbers are exact rationals.  A literal is an optional sign followed by

* digits (`42`),
* digits, a slash and digits that are not all zero (`30000/1001`), or
* digits on at least one side of a point (`29.97`, `.5`, `2.`),

with ASCII digits only.  `Number.ofChars?` reads a literal and `Number.write` writes a number in
lowest terms, the denominator one left out.
-/

namespace TimelineLisp

/-- The numbers of the language: rationals of any size. -/
abbrev Number := Rat

namespace Number

/-! ### Reading -/

/-- The value of a text of one or more decimal digits. -/
def digits? (cs : List Char) : Option Nat :=
  if cs.isEmpty then none
  else if cs.all Char.isDigit then some (Nat.ofDigitChars 10 cs 0)
  else none

/-- The parts of a text before and after the first `mark`. -/
def cut? (mark : Char) : List Char → Option (List Char × List Char)
  | [] => none
  | c :: cs =>
    if c = mark then some ([], cs)
    else (cut? mark cs).map fun (before, after) => (c :: before, after)

/-- The value of digits that may be absent, in which case it is zero. -/
def digitsOrNone? (cs : List Char) : Option Nat :=
  if cs.isEmpty then some 0 else digits? cs

/-- The value of `numer/denom`; the denominator may not be zero. -/
def fraction? (numer denom : List Char) : Option Number := do
  let d ← digits? denom
  if d = 0 then none
  else
    let n ← digits? numer
    some (mkRat n d)

/-- The value of `whole.frac`; not both sides of the point may be empty. -/
def decimal? (whole frac : List Char) : Option Number := do
  if whole.isEmpty && frac.isEmpty then none
  else
    let w ← digitsOrNone? whole
    let f ← digitsOrNone? frac
    let scale := Nat.pow 10 frac.length
    some (mkRat (w * scale + f : Nat) scale)

/-- The value of a literal without its sign. -/
def unsigned? (body : List Char) : Option Number :=
  match cut? '/' body with
  | some (numer, denom) => fraction? numer denom
  | none =>
    match cut? '.' body with
    | some (whole, frac) => decimal? whole frac
    | none => (digits? body).map fun n => (n : Number)

/-- Reads a number literal; `none` for any other text. -/
def ofChars? : List Char → Option Number
  | '-' :: body => (unsigned? body).map fun n => -n
  | '+' :: body => unsigned? body
  | body => unsigned? body

/-- Reads a number literal; `none` for any other text. -/
def ofString? (s : String) : Option Number :=
  ofChars? s.toList

/-- The text without a sign in front. -/
def dropSign : List Char → List Char
  | '+' :: cs => cs
  | '-' :: cs => cs
  | cs => cs

/-- The text without a point in front. -/
def dropPoint : List Char → List Char
  | '.' :: cs => cs
  | cs => cs

/-- The text starts the way a literal does: an optional sign, an optional point, a digit.  Such a
text is a literal or a mistake, and never a symbol. -/
def looksNumeric (cs : List Char) : Bool :=
  match dropPoint (dropSign cs) with
  | c :: _ => c.isDigit
  | [] => false

/-! ### Writing -/

/-- Writes a natural number in decimal, in front of `tail`. -/
def writeNat (n : Nat) (tail : List Char) : List Char :=
  Nat.toDigits 10 n ++ tail

/-- Writes an integer in decimal, in front of `tail`. -/
def writeInt (i : Int) (tail : List Char) : List Char :=
  if i < 0 then '-' :: writeNat i.natAbs tail else writeNat i.natAbs tail

/-- Writes a number in lowest terms, in front of `tail`. -/
def write (n : Number) (tail : List Char) : List Char :=
  if n.den = 1 then writeInt n.num tail else writeInt n.num ('/' :: writeNat n.den tail)

/-- The number in lowest terms, the denominator one left out. -/
def render (n : Number) : String :=
  String.ofList (write n [])

end Number

end TimelineLisp
