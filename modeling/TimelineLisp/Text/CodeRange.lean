/-!
# Ranges of code points

A character class is a list of closed ranges of code points.  `CodeRange.covers` tests membership.
-/

namespace TimelineLisp

/-- All code points from `lo` to `hi`, both included. -/
structure CodeRange where
  /-- The least code point of the range. -/
  lo : Nat
  /-- The greatest code point of the range. -/
  hi : Nat
  deriving DecidableEq, Repr

namespace CodeRange

/-- The range holds the character. -/
def contains (r : CodeRange) (c : Char) : Bool :=
  r.lo ≤ c.toNat && c.toNat ≤ r.hi

/-- Some range of the list holds the character. -/
def covers (rs : List CodeRange) (c : Char) : Bool :=
  rs.any (·.contains c)

theorem covers_iff {rs : List CodeRange} {c : Char} :
    covers rs c = true ↔ ∃ r ∈ rs, r.lo ≤ c.toNat ∧ c.toNat ≤ r.hi := by
  simp [covers, contains]

end CodeRange

end TimelineLisp
