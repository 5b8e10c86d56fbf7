import TimelineLisp.Evaluation.Fault
import TimelineLisp.Native.Apply
import TimelineLisp.Store.Basic

/-!
# Computations of the evaluator

An evaluation starts from a `World`, the store of scopes and the text shown so far, and has an
`Outcome`: a value or a fault, each with the world it leaves, or no answer within the fuel.  The
world is kept by a fault, since what came before it has taken effect.
-/

namespace TimelineLisp

/-- What an evaluation reads and changes. -/
structure World where
  /-- All scopes. -/
  store : Store := {}
  /-- The text shown so far. -/
  shown : String := ""

/-- The world with more text shown. -/
def World.show (w : World) (text : String) : World :=
  { w with shown := w.shown ++ text }

/-- How a computation ends. -/
inductive Outcome (α : Type)
  /-- With a value. -/
  | value (a : α) (w : World)
  /-- With a fault. -/
  | error (e : EvalError) (w : World)
  /-- It does not end within the fuel. -/
  | outOfFuel

/-- A computation of the evaluator. -/
def EvalM (α : Type) : Type :=
  World → Outcome α

namespace EvalM

/-- Ends with a value and leaves the world alone. -/
@[always_inline, inline]
protected def pure (a : α) : EvalM α :=
  fun w => .value a w

/-- Goes on with the value of a computation, if it has one. -/
@[always_inline, inline]
protected def bind (x : EvalM α) (f : α → EvalM β) : EvalM β :=
  fun w =>
    match x w with
    | .value a w' => f a w'
    | .error e w' => .error e w'
    | .outOfFuel => .outOfFuel

instance : Monad EvalM where
  pure := EvalM.pure
  bind := EvalM.bind

/-- Ends with a fault and leaves the world alone. -/
@[always_inline, inline]
def fail (e : EvalError) : EvalM α :=
  fun w => .error e w

/-- Ends with a fault of form and leaves the world alone. -/
@[always_inline, inline]
def illFormed (cause : IllFormed) : EvalM α :=
  fail (.illFormed cause)

/-- Changes the store. -/
@[always_inline, inline]
def updates (f : Store → α × Store) : EvalM α :=
  fun w =>
    match w with
    | ⟨store, shown⟩ =>
      match f store with
      | (a, store) => .value a ⟨store, shown⟩

/-- Calls a native procedure and shows what it displays. -/
def call (n : Native) (args : List Value) : EvalM Value :=
  fun w =>
    match n.apply args with
    | .ok reply => .value reply.value (w.show reply.shown)
    | .error e => .error e w

/-! ### Equations -/

@[simp]
theorem pure_apply (a : α) (w : World) : (pure a : EvalM α) w = .value a w := rfl

theorem bind_apply (x : EvalM α) (f : α → EvalM β) (w : World) :
    (x >>= f) w =
      match x w with
      | .value a w' => f a w'
      | .error e w' => .error e w'
      | .outOfFuel => .outOfFuel := rfl

@[simp]
theorem bind_value {x : EvalM α} {f : α → EvalM β} {w w' : World} {a : α}
    (h : x w = .value a w') : (x >>= f) w = f a w' := by
  rw [bind_apply, h]

@[simp]
theorem bind_error {x : EvalM α} {f : α → EvalM β} {w w' : World} {e : EvalError}
    (h : x w = .error e w') : (x >>= f) w = .error e w' := by
  rw [bind_apply, h]

@[simp]
theorem bind_outOfFuel {x : EvalM α} {f : α → EvalM β} {w : World}
    (h : x w = .outOfFuel) : (x >>= f) w = .outOfFuel := by
  rw [bind_apply, h]

@[simp]
theorem fail_apply (e : EvalError) (w : World) : (fail e : EvalM α) w = .error e w := rfl

@[simp]
theorem illFormed_apply (cause : IllFormed) (w : World) :
    (illFormed cause : EvalM α) w = .error (.illFormed cause) w := rfl

@[simp]
theorem updates_apply (f : Store → α × Store) (w : World) :
    updates f w = .value (f w.store).1 { w with store := (f w.store).2 } := rfl

theorem call_apply (n : Native) (args : List Value) (w : World) :
    call n args w =
      match n.apply args with
      | .ok reply => .value reply.value (w.show reply.shown)
      | .error e => .error e w := rfl

instance : LawfulMonad EvalM :=
  LawfulMonad.mk' EvalM
    (fun x => by
      funext w
      change (x >>= fun a => pure (id a)) w = x w
      rw [bind_apply]
      cases x w <;> rfl)
    (fun _ _ => rfl)
    (fun x f g => by
      funext w
      simp only [bind_apply]
      cases x w <;> rfl)

end EvalM

end TimelineLisp
