import TimelineLisp.Evaluation.Step

/-!
# The evaluator

`evalAt` evaluates a form at a depth of nesting.  The form that a step leaves in tail position is
evaluated at the same depth, so loops written as tail calls may run as long as they like, while
evaluations that nest deeper than `depthLimit` end with `EvalError.tooDeep`.

Programs need not end, so the evaluator takes fuel: one unit for every step that leads from a form
to a form inside it or to the form in tail position.
-/

namespace TimelineLisp

namespace Evaluation

/-- The value that a symbol is bound to. -/
def evalSymbol (name : String) (scope : ScopeId) : EvalM Value :=
  fun w =>
    match w.store.get? scope name with
    | some v => .value v w
    | none => .error (.unbound name) w

/-- Evaluates a form in a scope, at a depth of nesting and with so much fuel. -/
def evalAt : Nat → Evaluator
  | 0, _, _, _, _ => .outOfFuel
  | fuel + 1, depth, form, scope, w =>
    if depthLimit < depth then .error .tooDeep w
    else
      match form with
      | .symbol name => evalSymbol name scope w
      | .number value => .value (.number value) w
      | .text content => .value (.text content) w
      | .char value => .value (.char value) w
      | .bool value => .value (.bool value) w
      | .list items =>
        match step (evalAt fuel) depth scope items w with
        | .value (.done v) w' => .value v w'
        | .value (.tail next inner) w' => evalAt fuel depth next inner w'
        | .error e w' => .error e w'
        | .outOfFuel => .outOfFuel

/-- Evaluates a form in a scope. -/
def eval (fuel : Nat) (form : Form) (scope : ScopeId) : EvalM Value :=
  evalAt fuel 0 form scope

/-- Calls a value with arguments. -/
def apply (fuel : Nat) (op : Value) (args : List Value) : EvalM Value := do
  match ← invoke (evalAt fuel) 0 op args with
  | .done v => pure v
  | .tail form scope => eval fuel form scope

/-- Evaluates forms in order; the value is that of the last one. -/
def evalForms (fuel : Nat) (scope : ScopeId) (last : Value) : List Form → EvalM Value
  | [] => pure last
  | f :: fs => do
    let v ← eval fuel f scope
    evalForms fuel scope v fs

end Evaluation

end TimelineLisp
