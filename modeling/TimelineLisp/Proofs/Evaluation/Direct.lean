import TimelineLisp.Evaluation.Basic

/-!
# The direct semantics of forms

The evaluator takes steps that hand the form in tail position back, and counts how deep
evaluations are nested.  Here the language is read directly: rules say which outcome a form has in
a scope and a world.

* `Direct.Evaluates` : the outcome of a form;
* `Direct.Performs` : the outcome of a special form with its operands;
* `Direct.EvaluatesEach`, `Direct.EvaluatesBindings` : the outcome of operands, and of the bindings
  of a `let`, from the left to the right;
* `Direct.Calls` : the outcome of a call with arguments.

A form in tail position is evaluated by the same rules as every other form, and **nothing limits
how deep a derivation is**.  The first fault of a part, a request to exit included, is the outcome
of the whole, with the world as that part left it.
-/

namespace TimelineLisp

/-! ### Changes of the world -/

namespace World

/-- The world with a name bound in a scope. -/
def define (w : World) (scope : ScopeId) (name : String) (value : Value) : World :=
  { w with store := w.store.define scope name value }

/-- The world with a new scope inside `parent`, whose number is `w.store.scopes.size`. -/
def enter (w : World) (parent : ScopeId) (bindings : Bindings) : World :=
  { w with store := (w.store.newScope (some parent) bindings).2 }

/-- The world with the next identity given out, which is `w.store.nextIdentity`. -/
def identify (w : World) : World :=
  { w with store := w.store.newIdentity.2 }

end World

namespace Direct

/-! ### Rules -/

/-- The outcome of making a procedure with these parameters and this body. -/
inductive Makes (name : Option String) (scope : ScopeId) (w : World) :
    Form → List Form → Outcome Value → Prop
  | closure {params : Form} {body : List Form} {p : Parameters} :
    body ≠ [] → Parameters.ofForm params = .ok p →
    Makes name scope w params body
      (.value (.procedure (.closure ⟨w.store.nextIdentity, name, p.required, p.rest, body, scope⟩))
        w.identify)
  | parameters {params : Form} {body : List Form} {cause : IllFormed} :
    body ≠ [] → Parameters.ofForm params = .error cause →
    Makes name scope w params body (.error (.illFormed cause) w)
  | body {params : Form} : Makes name scope w params [] (.error (.illFormed .lambdaBody) w)

mutual

/-- The form has this outcome. -/
inductive Evaluates : Form → ScopeId → World → Outcome Value → Prop
  | symbol {name : String} {scope : ScopeId} {w : World} {v : Value} :
    w.store.get? scope name = some v → Evaluates (.symbol name) scope w (.value v w)
  | unbound {name : String} {scope : ScopeId} {w : World} :
    w.store.get? scope name = none →
    Evaluates (.symbol name) scope w (.error (.unbound name) w)
  | number {n : Number} {scope : ScopeId} {w : World} :
    Evaluates (.number n) scope w (.value (.number n) w)
  | text {content : String} {scope : ScopeId} {w : World} :
    Evaluates (.text content) scope w (.value (.text content) w)
  | char {c : Char} {scope : ScopeId} {w : World} :
    Evaluates (.char c) scope w (.value (.char c) w)
  | bool {b : Bool} {scope : ScopeId} {w : World} :
    Evaluates (.bool b) scope w (.value (.bool b) w)
  | empty {scope : ScopeId} {w : World} :
    Evaluates (.list []) scope w (.error (.illFormed .emptyApplication) w)
  | special {head : Form} {form : SpecialForm} {operands : List Form} {scope : ScopeId} {w : World}
    {o : Outcome Value} :
    SpecialForm.ofHead? head = some form → Performs form operands scope w o →
    Evaluates (.list (head :: operands)) scope w o
  | apply {head : Form} {operands : List Form} {scope : ScopeId} {w w₁ w₂ : World} {op : Value}
    {args : List Value} {o : Outcome Value} :
    SpecialForm.ofHead? head = none → Evaluates head scope w (.value op w₁) →
    EvaluatesEach operands scope w₁ (.value args w₂) → Calls op args w₂ o →
    Evaluates (.list (head :: operands)) scope w o
  | applyHead {head : Form} {operands : List Form} {scope : ScopeId} {w w₁ : World}
    {e : EvalError} :
    SpecialForm.ofHead? head = none → Evaluates head scope w (.error e w₁) →
    Evaluates (.list (head :: operands)) scope w (.error e w₁)
  | applyOperand {head : Form} {operands : List Form} {scope : ScopeId} {w w₁ w₂ : World}
    {op : Value} {e : EvalError} :
    SpecialForm.ofHead? head = none → Evaluates head scope w (.value op w₁) →
    EvaluatesEach operands scope w₁ (.error e w₂) →
    Evaluates (.list (head :: operands)) scope w (.error e w₂)

/-- The operands have these values, or one of them fails. -/
inductive EvaluatesEach : List Form → ScopeId → World → Outcome (List Value) → Prop
  | nil {scope : ScopeId} {w : World} : EvaluatesEach [] scope w (.value [] w)
  | cons {f : Form} {fs : List Form} {scope : ScopeId} {w w₁ w₂ : World} {v : Value}
    {vs : List Value} :
    Evaluates f scope w (.value v w₁) → EvaluatesEach fs scope w₁ (.value vs w₂) →
    EvaluatesEach (f :: fs) scope w (.value (v :: vs) w₂)
  | here {f : Form} {fs : List Form} {scope : ScopeId} {w w₁ : World} {e : EvalError} :
    Evaluates f scope w (.error e w₁) → EvaluatesEach (f :: fs) scope w (.error e w₁)
  | later {f : Form} {fs : List Form} {scope : ScopeId} {w w₁ w₂ : World} {v : Value}
    {e : EvalError} :
    Evaluates f scope w (.value v w₁) → EvaluatesEach fs scope w₁ (.error e w₂) →
    EvaluatesEach (f :: fs) scope w (.error e w₂)

/-- The bindings of a `let`, all evaluated in the scope around it, added to those before them. -/
inductive EvaluatesBindings :
    Bindings → List Form → ScopeId → World → Outcome Bindings → Prop
  | nil {done : Bindings} {scope : ScopeId} {w : World} :
    EvaluatesBindings done [] scope w (.value done w)
  | cons {done : Bindings} {name : String} {init : Form} {more : List Form} {scope : ScopeId}
    {w w₁ : World} {v : Value} {o : Outcome Bindings} :
    Evaluates init scope w (.value v w₁) →
    EvaluatesBindings (.insert name v done) more scope w₁ o →
    EvaluatesBindings done (.list [.symbol name, init] :: more) scope w o
  | init {done : Bindings} {name : String} {init : Form} {more : List Form} {scope : ScopeId}
    {w w₁ : World} {e : EvalError} :
    Evaluates init scope w (.error e w₁) →
    EvaluatesBindings done (.list [.symbol name, init] :: more) scope w (.error e w₁)
  | pair {done : Bindings} {items more : List Form} {scope : ScopeId} {w : World} :
    (∀ name init, items ≠ [.symbol name, init]) →
    EvaluatesBindings done (.list items :: more) scope w (.error (.illFormed .letPair) w)
  | binding {done : Bindings} {f : Form} {more : List Form} {scope : ScopeId} {w : World} :
    (∀ items, f ≠ .list items) →
    EvaluatesBindings done (f :: more) scope w (.error (.illFormed .letBinding) w)

/-- The call of a value with arguments has this outcome. -/
inductive Calls : Value → List Value → World → Outcome Value → Prop
  | native {n : Native} {args : List Value} {w : World} {reply : Reply} :
    n.arity.accepts args.length = true → n.apply args = .ok reply →
    Calls (.procedure (.native n)) args w (.value reply.value (w.show reply.shown))
  | refusal {n : Native} {args : List Value} {w : World} {e : EvalError} :
    n.arity.accepts args.length = true → n.apply args = .error e →
    Calls (.procedure (.native n)) args w (.error e w)
  | closure {c : Closure} {args : List Value} {w : World} {o : Outcome Value} :
    c.arity.accepts args.length = true →
    Performs .begin c.body w.store.scopes.size
      (w.enter c.scope (Evaluation.argumentBindings c args)) o →
    Calls (.procedure (.closure c)) args w o
  | arity {p : Procedure} {args : List Value} {w : World} :
    p.arity.accepts args.length = false →
    Calls (.procedure p) args w
      (.error (.arity (p.name?.getD "#<procedure>") p.arity args.length) w)
  | notCallable {v : Value} {args : List Value} {w : World} :
    (∀ p, v ≠ .procedure p) → Calls v args w (.error (.notCallable v.render) w)

/-- The special form has this outcome on these operands. -/
inductive Performs : SpecialForm → List Form → ScopeId → World → Outcome Value → Prop
  /- Definitions.  A procedure that is written out gets the name it is defined under. -/
  | define {name : String} {form : Form} {scope : ScopeId} {w w₁ : World} {v : Value} :
    (∀ params body, form ≠ .list (.symbol "lambda" :: params :: body)) →
    Evaluates form scope w (.value v w₁) →
    Performs .define [.symbol name, form] scope w (.value .void (w₁.define scope name v))
  | defineValue {name : String} {form : Form} {scope : ScopeId} {w w₁ : World} {e : EvalError} :
    (∀ params body, form ≠ .list (.symbol "lambda" :: params :: body)) →
    Evaluates form scope w (.error e w₁) →
    Performs .define [.symbol name, form] scope w (.error e w₁)
  | defineLambda {name : String} {params : Form} {body : List Form} {scope : ScopeId}
    {w w₁ : World} {v : Value} :
    Makes (some name) scope w params body (.value v w₁) →
    Performs .define [.symbol name, .list (.symbol "lambda" :: params :: body)] scope w
      (.value .void (w₁.define scope name v))
  | defineLambdaShape {name : String} {params : Form} {body : List Form} {scope : ScopeId}
    {w w₁ : World} {e : EvalError} :
    Makes (some name) scope w params body (.error e w₁) →
    Performs .define [.symbol name, .list (.symbol "lambda" :: params :: body)] scope w
      (.error e w₁)
  | defineProcedure {name : String} {params body : List Form} {scope : ScopeId} {w w₁ : World}
    {v : Value} :
    Makes (some name) scope w (.list params) body (.value v w₁) →
    Performs .define (.list (.symbol name :: params) :: body) scope w
      (.value .void (w₁.define scope name v))
  | defineProcedureShape {name : String} {params body : List Form} {scope : ScopeId}
    {w w₁ : World} {e : EvalError} :
    Makes (some name) scope w (.list params) body (.error e w₁) →
    Performs .define (.list (.symbol name :: params) :: body) scope w (.error e w₁)
  | defineSignature {signature body : List Form} {scope : ScopeId} {w : World} :
    (∀ name params, signature ≠ .symbol name :: params) →
    Performs .define (.list signature :: body) scope w (.error (.illFormed .defineProcedure) w)
  | defineNothing {scope : ScopeId} {w : World} :
    Performs .define [] scope w (.error (.illFormed .defineCount) w)
  | defineCount {name : String} {more : List Form} {scope : ScopeId} {w : World} :
    more.length ≠ 1 →
    Performs .define (.symbol name :: more) scope w (.error (.illFormed .defineCount) w)
  | defineName {f : Form} {more : List Form} {scope : ScopeId} {w : World} :
    (∀ name, f ≠ .symbol name) → (∀ items, f ≠ .list items) →
    Performs .define (f :: more) scope w (.error (.illFormed .defineName) w)
  /- Assignments, to the nearest scope that binds the name. -/
  | set {name : String} {form : Form} {scope target : ScopeId} {w w₁ : World} {v old : Value} :
    Evaluates form scope w (.value v w₁) → w₁.store.find? scope name = some (target, old) →
    Performs .set [.symbol name, form] scope w (.value .void (w₁.define target name v))
  | setUnbound {name : String} {form : Form} {scope : ScopeId} {w w₁ : World} {v : Value} :
    Evaluates form scope w (.value v w₁) → w₁.store.find? scope name = none →
    Performs .set [.symbol name, form] scope w (.error (.setUnbound name) w₁)
  | setValue {name : String} {form : Form} {scope : ScopeId} {w w₁ : World} {e : EvalError} :
    Evaluates form scope w (.error e w₁) →
    Performs .set [.symbol name, form] scope w (.error e w₁)
  | setName {f form : Form} {scope : ScopeId} {w : World} :
    (∀ name, f ≠ .symbol name) →
    Performs .set [f, form] scope w (.error (.illFormed .setName) w)
  | setCount {operands : List Form} {scope : ScopeId} {w : World} :
    operands.length ≠ 2 → Performs .set operands scope w (.error (.illFormed .setCount) w)
  /- Conditionals. -/
  | condTrue {test consequent : Form} {rest : List Form} {scope : ScopeId} {w w₁ : World}
    {v : Value} {o : Outcome Value} :
    rest.length ≤ 1 → Evaluates test scope w (.value v w₁) → v.isTrue = true →
    Evaluates consequent scope w₁ o →
    Performs .cond (test :: consequent :: rest) scope w o
  | condFalse {test consequent alternative : Form} {scope : ScopeId} {w w₁ : World} {v : Value}
    {o : Outcome Value} :
    Evaluates test scope w (.value v w₁) → v.isTrue = false →
    Evaluates alternative scope w₁ o →
    Performs .cond [test, consequent, alternative] scope w o
  | condVoid {test consequent : Form} {scope : ScopeId} {w w₁ : World} {v : Value} :
    Evaluates test scope w (.value v w₁) → v.isTrue = false →
    Performs .cond [test, consequent] scope w (.value .void w₁)
  | condTest {test consequent : Form} {rest : List Form} {scope : ScopeId} {w w₁ : World}
    {e : EvalError} :
    rest.length ≤ 1 → Evaluates test scope w (.error e w₁) →
    Performs .cond (test :: consequent :: rest) scope w (.error e w₁)
  | condCount {operands : List Form} {scope : ScopeId} {w : World} :
    operands.length ≠ 2 → operands.length ≠ 3 →
    Performs .cond operands scope w (.error (.illFormed .ifCount) w)
  /- Procedures and data. -/
  | lambda {params : Form} {body : List Form} {scope : ScopeId} {w : World} {o : Outcome Value} :
    Makes none scope w params body o → Performs .lambda (params :: body) scope w o
  | lambdaAlone {scope : ScopeId} {w : World} :
    Performs .lambda [] scope w (.error (.illFormed .lambdaAlone) w)
  | quote {datum : Form} {scope : ScopeId} {w : World} :
    Performs .quote [datum] scope w (.value (.ofForm datum) w)
  | quoteCount {operands : List Form} {scope : ScopeId} {w : World} :
    operands.length ≠ 1 → Performs .quote operands scope w (.error (.illFormed .quoteCount) w)
  /- Sequences. -/
  | beginNil {scope : ScopeId} {w : World} : Performs .begin [] scope w (.value .void w)
  | beginLast {f : Form} {scope : ScopeId} {w : World} {o : Outcome Value} :
    Evaluates f scope w o → Performs .begin [f] scope w o
  | beginCons {f g : Form} {fs : List Form} {scope : ScopeId} {w w₁ : World} {v : Value}
    {o : Outcome Value} :
    Evaluates f scope w (.value v w₁) → Performs .begin (g :: fs) scope w₁ o →
    Performs .begin (f :: g :: fs) scope w o
  | beginFault {f g : Form} {fs : List Form} {scope : ScopeId} {w w₁ : World} {e : EvalError} :
    Evaluates f scope w (.error e w₁) → Performs .begin (f :: g :: fs) scope w (.error e w₁)
  | andNil {scope : ScopeId} {w : World} : Performs .and [] scope w (.value (.bool true) w)
  | andLast {f : Form} {scope : ScopeId} {w : World} {o : Outcome Value} :
    Evaluates f scope w o → Performs .and [f] scope w o
  | andTrue {f g : Form} {fs : List Form} {scope : ScopeId} {w w₁ : World} {v : Value}
    {o : Outcome Value} :
    Evaluates f scope w (.value v w₁) → v.isTrue = true → Performs .and (g :: fs) scope w₁ o →
    Performs .and (f :: g :: fs) scope w o
  | andFalse {f g : Form} {fs : List Form} {scope : ScopeId} {w w₁ : World} {v : Value} :
    Evaluates f scope w (.value v w₁) → v.isTrue = false →
    Performs .and (f :: g :: fs) scope w (.value v w₁)
  | andFault {f g : Form} {fs : List Form} {scope : ScopeId} {w w₁ : World} {e : EvalError} :
    Evaluates f scope w (.error e w₁) → Performs .and (f :: g :: fs) scope w (.error e w₁)
  | orNil {scope : ScopeId} {w : World} : Performs .or [] scope w (.value (.bool false) w)
  | orLast {f : Form} {scope : ScopeId} {w : World} {o : Outcome Value} :
    Evaluates f scope w o → Performs .or [f] scope w o
  | orFalse {f g : Form} {fs : List Form} {scope : ScopeId} {w w₁ : World} {v : Value}
    {o : Outcome Value} :
    Evaluates f scope w (.value v w₁) → v.isTrue = false → Performs .or (g :: fs) scope w₁ o →
    Performs .or (f :: g :: fs) scope w o
  | orTrue {f g : Form} {fs : List Form} {scope : ScopeId} {w w₁ : World} {v : Value} :
    Evaluates f scope w (.value v w₁) → v.isTrue = true →
    Performs .or (f :: g :: fs) scope w (.value v w₁)
  | orFault {f g : Form} {fs : List Form} {scope : ScopeId} {w w₁ : World} {e : EvalError} :
    Evaluates f scope w (.error e w₁) → Performs .or (f :: g :: fs) scope w (.error e w₁)
  /- Local bindings.  That the body is missing is noticed after the bindings are evaluated. -/
  | bind {bindings body : List Form} {scope : ScopeId} {w w₁ : World} {vars : Bindings}
    {o : Outcome Value} :
    EvaluatesBindings [] bindings scope w (.value vars w₁) → body ≠ [] →
    Performs .begin body w₁.store.scopes.size (w₁.enter scope vars) o →
    Performs .bind (.list bindings :: body) scope w o
  | bindBody {bindings : List Form} {scope : ScopeId} {w w₁ : World} {vars : Bindings} :
    EvaluatesBindings [] bindings scope w (.value vars w₁) →
    Performs .bind [.list bindings] scope w (.error (.illFormed .letBody) w₁)
  | bindFault {bindings body : List Form} {scope : ScopeId} {w w₁ : World} {e : EvalError} :
    EvaluatesBindings [] bindings scope w (.error e w₁) →
    Performs .bind (.list bindings :: body) scope w (.error e w₁)
  | bindShape {operands : List Form} {scope : ScopeId} {w : World} :
    (∀ bindings body, operands ≠ .list bindings :: body) →
    Performs .bind operands scope w (.error (.illFormed .letBindings) w)

end

end Direct

end TimelineLisp
