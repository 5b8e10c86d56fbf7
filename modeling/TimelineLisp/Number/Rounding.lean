import TimelineLisp.Number.Literal

/-!
# Rounding and indices

Rounding to the nearest integer takes a half away from zero.  An index is a number that a 64-bit
word can hold.
-/

namespace TimelineLisp

namespace Number

/-- The nearest integer; a half goes away from zero. -/
def round (n : Number) : Int :=
  if 0 ≤ n then (n + 1 / 2).floor else -((-n + 1 / 2).floor)

/-- The distance from zero. -/
def magnitude (n : Number) : Number :=
  if n < 0 then -n else n

/-- Indices lie below this bound, the sixty-fourth power of two. -/
def indexBound : Nat := 18446744073709551616

/-- The number as an index: an integer from zero up to, and without, `indexBound`. -/
def toIndex? (n : Number) : Option Nat :=
  if n.den = 1 ∧ 0 ≤ n.num ∧ n.num.toNat < indexBound then some n.num.toNat else none

end Number

end TimelineLisp
