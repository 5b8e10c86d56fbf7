import TimelineLisp.Evaluation.Basic
import TimelineLisp.Proofs.Store.WellFormed

/-!
# Computations that let the store grow

The evaluator changes the store in four ways: it makes a scope, gives out an identity, binds a name
and assigns to one.  Each of them lets the store grow (`EvalM.grows_updates`), and a computation
that is put together of such computations does so, too (`EvalM.Grows.bind`), whether it has a value
or fails.  Nothing is asked of the store that it starts from.
-/

namespace TimelineLisp

variable {α β : Type}

/-- The world at the end of a computation. -/
def Outcome.world? : Outcome α → Option World
  | .value _ w => some w
  | .error _ w => some w
  | .outOfFuel => none

/-- The store at the end of a computation, if it ends, has grown out of `s`. -/
def Outcome.GrownFrom (s : Store) (o : Outcome α) : Prop :=
  ∀ w, o.world? = some w → s.Grows w.store

namespace Outcome.GrownFrom

variable {s t : Store} {w : World}

theorem value (a : α) (h : s.Grows w.store) : (Outcome.value a w).GrownFrom s := by
  intro u hu
  obtain rfl : w = u := Option.some.inj hu
  exact h

theorem error (e : EvalError) (h : s.Grows w.store) :
    (Outcome.error e w : Outcome α).GrownFrom s := by
  intro u hu
  obtain rfl : w = u := Option.some.inj hu
  exact h

theorem outOfFuel (s : Store) : (Outcome.outOfFuel : Outcome α).GrownFrom s :=
  nofun

theorem trans {o : Outcome α} (hst : s.Grows t) (h : o.GrownFrom t) : o.GrownFrom s :=
  fun w hw => hst.trans (h w hw)

end Outcome.GrownFrom

namespace EvalM

/-- The store grows while the computation runs. -/
def Grows (x : EvalM α) : Prop :=
  ∀ w, (x w).GrownFrom w.store

theorem grows_pure (a : α) : (pure a : EvalM α).Grows :=
  fun _ => .value a (.refl _)

theorem grows_fail (e : EvalError) : (fail e : EvalM α).Grows :=
  fun _ => .error e (.refl _)

theorem grows_updates {f : Store → α × Store} (h : ∀ s : Store, s.Grows (f s).2) : (updates f).Grows :=
  fun w => .value _ (h w.store)

/-- What is shown is no part of the store. -/
theorem grows_call (n : Native) (args : List Value) : (call n args).Grows := by
  intro w
  rw [call_apply]
  cases n.apply args with
  | ok reply => exact .value _ (.refl _)
  | error e => exact .error e (.refl _)

theorem Grows.bind {x : EvalM α} {f : α → EvalM β} (hx : x.Grows) (hf : ∀ a, (f a).Grows) :
    (x >>= f).Grows := by
  intro w
  have hw := hx w
  rw [bind_apply]
  cases hend : x w with
  | value a u =>
    rw [hend] at hw
    exact .trans (hw u rfl) (hf a u)
  | error e u =>
    rw [hend] at hw
    exact .error e (hw u rfl)
  | outOfFuel => exact .outOfFuel _

theorem grows_ite {c : Prop} [Decidable c] {x y : EvalM α} (hx : x.Grows) (hy : y.Grows) :
    (if c then x else y).Grows := by
  split_ifs
  · exact hx
  · exact hy

end EvalM

namespace Evaluation

open EvalM

theorem grows_evalSymbol (name : String) (scope : ScopeId) : (evalSymbol name scope).Grows := by
  intro w
  unfold evalSymbol
  cases w.store.get? scope name with
  | some v => exact .value v (.refl _)
  | none => exact .error _ (.refl _)

theorem grows_makeClosure (name : Option String) (params : Form) (body : List Form)
    (scope : ScopeId) : (makeClosure name params body scope).Grows := by
  unfold makeClosure
  refine grows_ite (grows_fail _) ?_
  cases Parameters.ofForm params with
  | error cause => exact grows_fail _
  | ok p => exact (grows_updates Store.grows_newIdentity).bind fun _ => grows_pure _

theorem grows_bindName (scope : ScopeId) (name : String) (v : Value) :
    (bindName scope name v).Grows :=
  (grows_updates fun s => s.grows_define scope name v).bind fun _ => grows_pure _

theorem grows_assign (scope : ScopeId) (name : String) (v : Value) :
    (EvalM.updates fun s => s.assign scope name v).Grows :=
  grows_updates fun s => s.grows_assign scope name v

/-- The scope of a call or of local bindings. -/
theorem grows_newScope (parent : ScopeId) (b : Bindings) :
    (EvalM.updates fun s => s.newScope (some parent) b).Grows :=
  grows_updates fun s => s.grows_newScope (some parent) b

end Evaluation

end TimelineLisp
