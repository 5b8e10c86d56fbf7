import TimelineLisp.Evaluation.Outcome
import TimelineLisp.Evaluation.SpecialForm

/-!
# One step of evaluation

A step evaluates the parts of a list that are not in tail position and says what is left: a value,
or the form in tail position with the scope to evaluate it in (`Next`).  The evaluation of the
parts is a parameter (`Evaluator`), so a step is defined without recursion on forms.

Every part is evaluated one level deeper than the list itself.
-/

namespace TimelineLisp

/-- Evaluates a form in a scope, at a depth of nesting. -/
abbrev Evaluator := Nat → Form → ScopeId → EvalM Value

/-- What is left to do after a step. -/
inductive Next
  /-- Nothing, this is the value. -/
  | done (v : Value)
  /-- The form in tail position. -/
  | tail (form : Form) (scope : ScopeId)

namespace Evaluation

variable (ev : Evaluator) (depth : Nat)

/-! ### Sequences -/

/-- Evaluates forms from the left. -/
def evalEach (scope : ScopeId) : List Form → EvalM (List Value)
  | [] => pure []
  | f :: fs => do
    let v ← ev (depth + 1) f scope
    let vs ← evalEach scope fs
    pure (v :: vs)

/-- Evaluates all forms but the last for their effect. -/
def evalBody (scope : ScopeId) : List Form → EvalM Next
  | [] => pure (.done .void)
  | [last] => pure (.tail last scope)
  | f :: g :: fs => do
    let _ ← ev (depth + 1) f scope
    evalBody scope (g :: fs)

/-- Evaluates forms up to the first that is false. -/
def evalAnd (scope : ScopeId) : List Form → EvalM Next
  | [] => pure (.done (.bool true))
  | [last] => pure (.tail last scope)
  | f :: g :: fs => do
    let v ← ev (depth + 1) f scope
    if v.isTrue then evalAnd scope (g :: fs) else pure (.done v)

/-- Evaluates forms up to the first that is true. -/
def evalOr (scope : ScopeId) : List Form → EvalM Next
  | [] => pure (.done (.bool false))
  | [last] => pure (.tail last scope)
  | f :: g :: fs => do
    let v ← ev (depth + 1) f scope
    if v.isTrue then pure (.done v) else evalOr scope (g :: fs)

/-! ### Procedures -/

/-- Makes a closure of a scope. -/
def makeClosure (name : Option String) (params : Form) (body : List Form) (scope : ScopeId) :
    EvalM Value :=
  if body.isEmpty then .illFormed .lambdaBody
  else
    match Parameters.ofForm params with
    | .error cause => .illFormed cause
    | .ok p => do
      let identity ← EvalM.updates Store.newIdentity
      pure (.procedure (.closure ⟨identity, name, p.required, p.rest, body, scope⟩))

/-- The bindings of the parameters of a closure to as many arguments as it takes. -/
def argumentBindings (c : Closure) (args : List Value) : Bindings :=
  c.params.zip args ++
    match c.rest with
    | some name => [(name, .list (args.drop c.params.length))]
    | none => []

/-- The fault of a procedure that does not take `received` arguments. -/
def arityError (p : Procedure) (received : Nat) : EvalError :=
  .arity (p.name?.getD "#<procedure>") p.arity received

/-- Calls a value with arguments.  The body of a closure is evaluated in a new scope inside that of
the closure. -/
def invoke (op : Value) (args : List Value) : EvalM Next :=
  match op with
  | .procedure p =>
    if p.arity.accepts args.length then
      match p with
      | .native n => do
        let v ← EvalM.call n args
        pure (.done v)
      | .closure c => do
        let scope ← EvalM.updates fun s => s.newScope (some c.scope) (argumentBindings c args)
        evalBody ev depth scope c.body
    else .fail (arityError p args.length)
  | v => .fail (.notCallable v.render)

/-! ### Special forms -/

/-- The list starts with `lambda` and something that can be its parameters. -/
def lambdaParts? : Form → Option (Form × List Form)
  | .list (.symbol name :: params :: body) =>
    if name = "lambda" then some (params, body) else none
  | _ => none

/-- The value of a definition; a procedure that is defined at once gets the name. -/
def evalDefined (scope : ScopeId) (name : String) (form : Form) : EvalM Value :=
  match lambdaParts? form with
  | some (params, body) => makeClosure (some name) params body scope
  | none => ev (depth + 1) form scope

/-- Binds a name in a scope. -/
def bindName (scope : ScopeId) (name : String) (value : Value) : EvalM Next := do
  EvalM.updates fun s => ((), s.define scope name value)
  pure (.done .void)

/-- `(define name value)` and `(define (name param ...) body ...)`. -/
def evalDefine (scope : ScopeId) : List Form → EvalM Next
  | [.symbol name, form] => do
    let v ← evalDefined ev depth scope name form
    bindName scope name v
  | .list (.symbol name :: params) :: body => do
    let v ← makeClosure (some name) (.list params) body scope
    bindName scope name v
  | .list _ :: _ => .illFormed .defineProcedure
  | .symbol _ :: _ => .illFormed .defineCount
  | [] => .illFormed .defineCount
  | _ :: _ => .illFormed .defineName

/-- `(set! name value)`. -/
def evalSet (scope : ScopeId) : List Form → EvalM Next
  | [.symbol name, form] => do
    let v ← ev (depth + 1) form scope
    let bound ← EvalM.updates fun s => s.assign scope name v
    if bound then pure (.done .void) else .fail (.setUnbound name)
  | [_, _] => .illFormed .setName
  | _ => .illFormed .setCount

/-- `(if test consequent alternative)`; without an alternative it is void. -/
def evalIf (scope : ScopeId) : List Form → EvalM Next
  | [test, consequent] => do
    let v ← ev (depth + 1) test scope
    if v.isTrue then pure (.tail consequent scope) else pure (.done .void)
  | [test, consequent, alternative] => do
    let v ← ev (depth + 1) test scope
    if v.isTrue then pure (.tail consequent scope) else pure (.tail alternative scope)
  | _ => .illFormed .ifCount

/-- Evaluates the bindings of a `let`, all in the scope around it, and adds them to `done`. -/
def evalBindings (scope : ScopeId) (done : Bindings) : List Form → EvalM Bindings
  | [] => pure done
  | .list [.symbol name, init] :: more => do
    let v ← ev (depth + 1) init scope
    evalBindings scope (.insert name v done) more
  | .list _ :: _ => .illFormed .letPair
  | _ :: _ => .illFormed .letBinding

/-- `(let ((name init) ...) body ...)`. -/
def evalLet (scope : ScopeId) : List Form → EvalM Next
  | .list bindings :: body => do
    let vars ← evalBindings ev depth scope [] bindings
    if body.isEmpty then .illFormed .letBody
    else
      let inner ← EvalM.updates fun s => s.newScope (some scope) vars
      evalBody ev depth inner body
  | _ => .illFormed .letBindings

/-- Evaluates a special form with these operands. -/
def evalSpecial (scope : ScopeId) (operands : List Form) : SpecialForm → EvalM Next
  | .define => evalDefine ev depth scope operands
  | .set => evalSet ev depth scope operands
  | .cond => evalIf ev depth scope operands
  | .lambda =>
    match operands with
    | [] => .illFormed .lambdaAlone
    | params :: body => do
      let v ← makeClosure none params body scope
      pure (.done v)
  | .begin => evalBody ev depth scope operands
  | .bind => evalLet ev depth scope operands
  | .and => evalAnd ev depth scope operands
  | .or => evalOr ev depth scope operands
  | .quote =>
    match operands with
    | [datum] => pure (.done (.ofForm datum))
    | _ => .illFormed .quoteCount

/-! ### Lists -/

/-- Evaluates the head and the operands of an application, from the left, and calls. -/
def evalApplication (scope : ScopeId) (head : Form) (operands : List Form) : EvalM Next := do
  let op ← ev (depth + 1) head scope
  let args ← evalEach ev depth scope operands
  invoke ev depth op args

/-- One step of the evaluation of a list. -/
def step (scope : ScopeId) : List Form → EvalM Next
  | [] => .illFormed .emptyApplication
  | head :: operands =>
    match SpecialForm.ofHead? head with
    | some form => evalSpecial ev depth scope operands form
    | none => evalApplication ev depth scope head operands

end Evaluation

end TimelineLisp
