import TimelineLisp.Proofs.Evaluation.Depth

/-!
# Evaluations at a depth, part by part

`EndsAt` tells what an evaluation at a depth ends with.  Here this is derived for a construct from
what its parts end with, so that no proof about a program has to count fuel.  The parts of a list
are one level deeper than the list (`endsAt_apply`), and what is in tail position is as deep as the
list (`endsAt_if`, `CallsAt.closure`).  **Beyond the limit everything is nested too deep**
(`endsAt_tooDeep`), and so is a list whose parts are beyond it (`endsAt_apply_tooDeep`).
-/

namespace TimelineLisp

namespace Evaluation

open Filter

/-! ### Computations with enough fuel -/

section Settles

variable {α β : Type} {w w₁ : World} {x : ℕ → EvalM α} {f : ℕ → α → EvalM β}

/-- With enough fuel, the computation has this outcome. -/
def Settles (x : ℕ → EvalM α) (w : World) (o : Outcome α) : Prop :=
  ∀ᶠ fuel in atTop, x fuel w = o

theorem Settles.bind {a : α} {o : Outcome β} (hx : Settles x w (.value a w₁))
    (hf : Settles (fun fuel => f fuel a) w₁ o) : Settles (fun fuel => x fuel >>= f fuel) w o := by
  filter_upwards [hx, hf] with fuel hx hf
  rw [EvalM.bind_value hx, hf]

theorem Settles.bind_error {e : EvalError} (hx : Settles x w (.error e w₁)) :
    Settles (fun fuel => x fuel >>= f fuel) w (.error e w₁) := by
  filter_upwards [hx] with fuel hx
  exact EvalM.bind_error hx

end Settles

variable {depth : ℕ} {scope : ScopeId} {w w₁ w₂ : World}

/-- `EndsAt`, as a computation with enough fuel. -/
theorem endsAt_iff {form : Form} {o : Outcome Value} :
    EndsAt depth form scope w o ↔ Settles (fun fuel => evalAt fuel depth form scope) w o :=
  eventually_atTop.symm

/-- An evaluation has one outcome, whatever the fuel. -/
theorem EndsAt.eq_of_evalAt {form : Form} {o o' : Outcome Value} (h : EndsAt depth form scope w o)
    {fuel : ℕ} (h' : evalAt fuel depth form scope w = o') (ho' : o' ≠ .outOfFuel) : o' = o := by
  obtain ⟨enough, henough⟩ := h
  obtain ⟨enough', henough'⟩ := endsAt_of_evalAt fuel h' ho'
  rw [← henough _ (le_max_left enough enough'), ← henough' _ (le_max_right enough enough')]

/-! ### Atoms -/

/-- **Beyond the limit, everything is nested too deep.** -/
theorem endsAt_tooDeep (h : depthLimit < depth) (form : Form) (scope : ScopeId) (w : World) :
    EndsAt depth form scope w (.error .tooDeep w) := by
  refine endsAt_of_evalAt 1 ?_ nofun
  exact evalAt_of_limit_lt h 0 form scope w

theorem evalAt_symbol (hdepth : depth ≤ depthLimit) {name : String} {v : Value}
    (h : w.store.get? scope name = some v) (fuel : ℕ) :
    evalAt (fuel + 1) depth (.symbol name) scope w = .value v w := by
  simp only [evalAt, if_neg (Nat.not_lt.2 hdepth), evalSymbol, h]

theorem endsAt_symbol (hdepth : depth ≤ depthLimit) {name : String} {v : Value}
    (h : w.store.get? scope name = some v) :
    EndsAt depth (.symbol name) scope w (.value v w) :=
  endsAt_of_evalAt 1 (evalAt_symbol hdepth h 0) nofun

theorem endsAt_number (hdepth : depth ≤ depthLimit) (n : Number) (scope : ScopeId) (w : World) :
    EndsAt depth (.number n) scope w (.value (.number n) w) := by
  refine endsAt_of_evalAt 1 ?_ nofun
  simp only [evalAt, if_neg (Nat.not_lt.2 hdepth)]

theorem endsAt_bool (hdepth : depth ≤ depthLimit) (b : Bool) (scope : ScopeId) (w : World) :
    EndsAt depth (.bool b) scope w (.value (.bool b) w) := by
  refine endsAt_of_evalAt 1 ?_ nofun
  simp only [evalAt, if_neg (Nat.not_lt.2 hdepth)]

/-! ### Lists -/

/-- A list ends with what its step and the form in tail position lead to. -/
theorem endsAt_list (hdepth : depth ≤ depthLimit) {items : List Form} {o : Outcome Value}
    (h : Settles (fun fuel => complete (evalAt fuel) depth (step (evalAt fuel) depth scope items))
      w o) :
    EndsAt depth (.list items) scope w o := by
  obtain ⟨enough, henough⟩ := eventually_atTop.1 h
  refine ⟨enough + 1, fun fuel hfuel => ?_⟩
  obtain ⟨fuel, rfl⟩ := Nat.exists_eq_add_of_le' (Nat.le_trans (Nat.le_add_left 1 enough) hfuel)
  rw [evalAt_list, if_neg (Nat.not_lt.2 hdepth)]
  exact henough fuel (Nat.le_of_succ_le_succ hfuel)

section Conditional

variable {test consequent alternative : Form}

theorem complete_step_if (ev : Evaluator) (depth : ℕ) (scope : ScopeId)
    (test consequent alternative : Form) :
    complete ev depth (step ev depth scope [.symbol "if", test, consequent, alternative]) = (do
      let v ← ev (depth + 1) test scope
      ev depth (if v.isTrue then consequent else alternative) scope) := by
  have hif : step ev depth scope [.symbol "if", test, consequent, alternative] =
      evalIf ev depth scope [test, consequent, alternative] := rfl
  rw [hif, evalIf, complete_bind]
  congr 1
  funext v
  split_ifs <;> rfl

/-- A conditional goes on with one of its branches, at the same depth. -/
theorem endsAt_if (hdepth : depth ≤ depthLimit) {v : Value} {o : Outcome Value}
    (htest : EndsAt (depth + 1) test scope w (.value v w₁))
    (hnext : EndsAt depth (if v.isTrue then consequent else alternative) scope w₁ o) :
    EndsAt depth (.list [.symbol "if", test, consequent, alternative]) scope w o := by
  refine endsAt_list hdepth ?_
  simp only [complete_step_if]
  exact (endsAt_iff.1 htest).bind (endsAt_iff.1 hnext)

theorem endsAt_if_error (hdepth : depth ≤ depthLimit) {e : EvalError}
    (htest : EndsAt (depth + 1) test scope w (.error e w₁)) :
    EndsAt depth (.list [.symbol "if", test, consequent, alternative]) scope w
      (.error e w₁) := by
  refine endsAt_list hdepth ?_
  simp only [complete_step_if]
  exact (endsAt_iff.1 htest).bind_error

end Conditional

/-! ### Operands -/

/-- With enough fuel, the operands of a list at this depth have this outcome. -/
def EachAt (depth : ℕ) (operands : List Form) (scope : ScopeId) (w : World)
    (o : Outcome (List Value)) : Prop :=
  Settles (fun fuel => evalEach (evalAt fuel) depth scope operands) w o

namespace EachAt

variable {f : Form} {fs : List Form} {v : Value} {vs : List Value} {e : EvalError}

theorem nil (depth : ℕ) (scope : ScopeId) (w : World) : EachAt depth [] scope w (.value [] w) :=
  .of_forall fun _ => rfl

theorem cons (hf : EndsAt (depth + 1) f scope w (.value v w₁))
    (hfs : EachAt depth fs scope w₁ (.value vs w₂)) :
    EachAt depth (f :: fs) scope w (.value (v :: vs) w₂) :=
  (endsAt_iff.1 hf).bind (hfs.bind (.of_forall fun _ => rfl))

theorem here (hf : EndsAt (depth + 1) f scope w (.error e w₁)) :
    EachAt depth (f :: fs) scope w (.error e w₁) :=
  (endsAt_iff.1 hf).bind_error

theorem later (hf : EndsAt (depth + 1) f scope w (.value v w₁))
    (hfs : EachAt depth fs scope w₁ (.error e w₂)) :
    EachAt depth (f :: fs) scope w (.error e w₂) :=
  (endsAt_iff.1 hf).bind hfs.bind_error

end EachAt

/-! ### Calls -/

/-- With enough fuel, the call of a value at this depth has this outcome. -/
def CallsAt (depth : ℕ) (op : Value) (args : List Value) (w : World) (o : Outcome Value) : Prop :=
  Settles (fun fuel => complete (evalAt fuel) depth (invoke (evalAt fuel) depth op args)) w o

/-- A native procedure that shows nothing leaves the world alone. -/
theorem CallsAt.native {n : Native} {args : List Value} {v : Value}
    (harity : n.arity.accepts args.length = true) (happly : n.apply args = .ok ⟨v, ""⟩)
    (depth : ℕ) (w : World) : CallsAt depth (.procedure (.native n)) args w (.value v w) := by
  refine .of_forall fun fuel => ?_
  have hshow : w.show "" = w := by rw [World.show, String.append_empty]
  simp only [invoke, Procedure.arity, harity, if_true, complete_bind, complete_done, bind_pure,
    EvalM.call_apply, happly, hshow]

/-- The body of a closure is as deep as the call. -/
theorem CallsAt.closure {c : Closure} {args : List Value} {body : Form} {o : Outcome Value}
    (harity : c.arity.accepts args.length = true) (hbody : c.body = [body])
    (h : EndsAt depth body w.store.scopes.size (w.enter c.scope (argumentBindings c args)) o) :
    CallsAt depth (.procedure (.closure c)) args w o := by
  filter_upwards [endsAt_iff.1 h] with fuel h
  simp only [invoke, Procedure.arity, harity, if_true, complete_bind]
  rw [EvalM.bind_value (EvalM.updates_apply _ _), hbody]
  exact h

section Application

variable {head : Form} {operands : List Form} {op : Value} {args : List Value}
  (hhead : SpecialForm.ofHead? head = none)
include hhead

/-- An application calls its head with its operands, which are one level deeper. -/
theorem endsAt_apply (hdepth : depth ≤ depthLimit) {o : Outcome Value}
    (hop : EndsAt (depth + 1) head scope w (.value op w₁))
    (hargs : EachAt depth operands scope w₁ (.value args w₂)) (hcall : CallsAt depth op args w₂ o) :
    EndsAt depth (.list (head :: operands)) scope w o := by
  refine endsAt_list hdepth ?_
  simp only [step, hhead, evalApplication, complete_bind]
  exact (endsAt_iff.1 hop).bind (hargs.bind hcall)

theorem endsAt_apply_operand_error (hdepth : depth ≤ depthLimit) {e : EvalError}
    (hop : EndsAt (depth + 1) head scope w (.value op w₁))
    (hargs : EachAt depth operands scope w₁ (.error e w₂)) :
    EndsAt depth (.list (head :: operands)) scope w (.error e w₂) := by
  refine endsAt_list hdepth ?_
  simp only [step, hhead, evalApplication, complete_bind]
  exact (endsAt_iff.1 hop).bind hargs.bind_error

/-- At the limit, the head of an application is nested too deep. -/
theorem endsAt_apply_tooDeep (h : depthLimit < depth + 1) (operands : List Form) (scope : ScopeId)
    (w : World) : EndsAt depth (.list (head :: operands)) scope w (.error .tooDeep w) := by
  by_cases hdepth : depthLimit < depth
  · exact endsAt_tooDeep hdepth _ scope w
  · refine endsAt_list (Nat.le_of_not_lt hdepth) ?_
    simp only [step, hhead, evalApplication, complete_bind]
    exact (endsAt_iff.1 (endsAt_tooDeep h head scope w)).bind_error

end Application

end Evaluation

end TimelineLisp
