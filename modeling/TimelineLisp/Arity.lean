/-!
# Arities

How many arguments a procedure takes: at least so many, and perhaps at most so many.
-/

namespace TimelineLisp

/-- The numbers of arguments that a procedure takes. -/
structure Arity where
  /-- The least number of arguments. -/
  min : Nat
  /-- The greatest number of arguments, if there is one. -/
  max : Option Nat
  deriving DecidableEq, Repr

namespace Arity

/-- Exactly `n` arguments. -/
def exactly (n : Nat) : Arity := ⟨n, some n⟩

/-- `n` arguments or more. -/
def atLeast (n : Nat) : Arity := ⟨n, none⟩

/-- From `lo` to `hi` arguments. -/
def between (lo hi : Nat) : Arity := ⟨lo, some hi⟩

/-- A procedure of this arity takes `n` arguments. -/
def accepts (a : Arity) (n : Nat) : Bool :=
  a.min ≤ n && a.max.all (n ≤ ·)

theorem accepts_iff {a : Arity} {n : Nat} :
    a.accepts n = true ↔ a.min ≤ n ∧ ∀ hi, a.max = some hi → n ≤ hi := by
  rcases a with ⟨lo, _ | hi⟩ <;> simp [accepts]

@[simp]
theorem accepts_exactly {n k : Nat} : (exactly n).accepts k = true ↔ k = n := by
  rw [accepts_iff]
  simp [exactly]
  omega

@[simp]
theorem accepts_atLeast {n k : Nat} : (atLeast n).accepts k = true ↔ n ≤ k := by
  rw [accepts_iff]
  simp [atLeast]

@[simp]
theorem accepts_between {lo hi k : Nat} : (between lo hi).accepts k = true ↔ lo ≤ k ∧ k ≤ hi := by
  rw [accepts_iff]
  simp [between]

/-- The arity in words. -/
def render (a : Arity) : String :=
  match a.max with
  | none => "at least " ++ Nat.repr a.min
  | some max => if max = a.min then Nat.repr max else Nat.repr a.min ++ " to " ++ Nat.repr max

end Arity

end TimelineLisp
