import TimelineLisp.Evaluation.Fault
import TimelineLisp.Number.Timebase
import TimelineLisp.Value.Printer

/-!
# What native procedures compute

`Native.apply` gives the value of a native procedure on a list of arguments and the text that it
displays.  It is a function of the arguments alone and checks their number itself; where a
procedure takes any number of arguments it also has a value for none.
-/

namespace TimelineLisp

/-- The value of a call and the text that it displays. -/
structure Reply where
  /-- The value. -/
  value : Value
  /-- The text that is shown. -/
  shown : String := ""

namespace Native

/-! ### Arguments -/

/-- The fault of an argument that a procedure does not take. -/
def refuse (n : Native) (expected : Expectation) (found : Value) : EvalError :=
  .wrongType n expected found.render

/-- The one argument. -/
def one (n : Native) : List Value → Except EvalError Value
  | [a] => .ok a
  | args => .error (.arity n.name (.exactly 1) args.length)

/-- The two arguments. -/
def two (n : Native) : List Value → Except EvalError (Value × Value)
  | [a, b] => .ok (a, b)
  | args => .error (.arity n.name (.exactly 2) args.length)

/-- An argument as a number. -/
def number (n : Native) : Value → Except EvalError Number
  | .number value => .ok value
  | v => .error (n.refuse .number v)

/-- An argument as a list. -/
def items (n : Native) : Value → Except EvalError (List Value)
  | .list items => .ok items
  | v => .error (n.refuse .list v)

/-- An argument as a string. -/
def content (n : Native) : Value → Except EvalError String
  | .text content => .ok content
  | v => .error (n.refuse .text v)

/-- An argument as a frame rate, which is positive. -/
def rate (n : Native) (v : Value) : Except EvalError Number :=
  match v with
  | .number value => if 0 < value then .ok value else .error (n.refuse .positiveTimebase v)
  | _ => .error (n.refuse .positiveTimebase v)

/-- An argument as an index. -/
def index? : Value → Option Nat
  | .number value => value.toIndex?
  | _ => none

/-- An argument as a provider of levels. -/
def provider (v : Value) : Except EvalError LevelTable :=
  match v with
  | .host { levels := some table, .. } => .ok table
  | _ => .error (.levels (.notAProvider v.render))

/-- Every argument by `f`, from the left; the first refusal counts. -/
def each (f : Value → Except EvalError α) : List Value → Except EvalError (List α)
  | [] => .ok []
  | v :: vs => do
    let a ← f v
    let as ← each f vs
    .ok (a :: as)

/-! ### Arithmetic -/

/-- The first number less all others; a single one is negated. -/
def difference : List Number → Number
  | [] => 0
  | [a] => -a
  | a :: rest => rest.foldl (· - ·) a

/-- Divides by each divisor in turn. -/
def divideAll (acc : Number) : List Number → Except EvalError Number
  | [] => .ok acc
  | d :: ds => if d = 0 then .error (.divisionByZero .divide) else divideAll (acc / d) ds

/-- The first number divided by all others; a single one is inverted. -/
def quotient : List Number → Except EvalError Number
  | [] => .ok 1
  | [a] => divideAll 1 [a]
  | a :: rest => divideAll a rest

/-- Every number is related to the one after it. -/
def adjacent (r : Number → Number → Bool) : List Number → Bool
  | a :: b :: rest => r a b && adjacent r (b :: rest)
  | _ => true

/-- Compares all arguments, which are numbers. -/
def compare (n : Native) (r : Number → Number → Bool) (args : List Value) :
    Except EvalError Value := do
  let ns ← each n.number args
  .ok (.bool (adjacent r ns))

/-- Applies `f` to the one argument, a number. -/
def unary (n : Native) (f : Number → Number) (args : List Value) : Except EvalError Value := do
  let a ← n.one args
  let x ← n.number a
  .ok (.number (f x))

/-- Tests the one argument. -/
def test (n : Native) (p : Value → Bool) (args : List Value) : Except EvalError Value := do
  let a ← n.one args
  .ok (.bool (p a))

/-! ### Lists -/

/-- The head and the tail of the one argument, a list that is not empty. -/
def uncons (n : Native) (args : List Value) : Except EvalError (Value × List Value) := do
  let a ← n.one args
  match a with
  | .list (v :: vs) => .ok (v, vs)
  | _ => .error (n.refuse .nonEmptyList a)

/-- The value is `#t`. -/
def isTrueBool : Value → Bool
  | .bool b => b
  | _ => false

/-! ### The timeline -/

/-- The status that `exit` ends with; none given is zero. -/
def exitStatus (args : List Value) : Except EvalError UInt8 :=
  match args with
  | [] => .ok 0
  | [code] =>
    match index? code with
    | some i => if i < 256 then .ok (UInt8.ofNat i) else .error (exit.refuse .exitCode code)
    | none => .error (exit.refuse .exitCode code)
  | _ => .error (.arity exit.name (.between 0 1) args.length)

/-- Provider, kind and number of the stream that `levels` asks for; none given is zero. -/
def streamQuery (args : List Value) : Except EvalError (Value × Value × Nat) :=
  match args with
  | [p, k] => .ok (p, k, 0)
  | [p, k, s] =>
    match index? s with
    | some i => .ok (p, k, i)
    | none => .error (levels.refuse .streamIndex s)
  | _ => .error (.arity levels.name (.between 2 3) args.length)

/-- The name of a kind of levels, given as a symbol or a string. -/
def kindName (v : Value) : Except EvalError String :=
  match v with
  | .symbol name => .ok name
  | .text name => .ok name
  | _ => .error (levels.refuse .kindName v)

/-- The levels that the arguments ask for. -/
def lookUpLevels (args : List Value) : Except EvalError Value := do
  let (p, k, i) ← streamQuery args
  let kind ← kindName k
  let table ← provider p
  match table.stream kind i with
  | .ok found => .ok (.ofLevels found)
  | .error e => .error (.levels e)

/-! ### All natives -/

/-- The value of a call; `display` has none of interest, and `exit` never has one.  Every procedure
names itself where it looks at its arguments. -/
def compute (n : Native) (args : List Value) : Except EvalError Value :=
  match n with
  | .not => test .not (fun a => !a.isTrue) args
  | .same => do
    let (a, b) ← two .same args
    .ok (.bool (a.same b))
  | .isNumber => test .isNumber (fun | .number _ => true | _ => false) args
  | .isText => test .isText (fun | .text _ => true | _ => false) args
  | .isSymbol => test .isSymbol (fun | .symbol _ => true | _ => false) args
  | .isList => test .isList (fun | .list _ => true | _ => false) args
  | .isProcedure => test .isProcedure (fun | .procedure _ => true | _ => false) args
  | .display => do
    let _ ← one .display args
    .ok .void
  | .exit => do
    let status ← exitStatus args
    .error (.exit status)
  | .add => do
    let ns ← each (number .add) args
    .ok (.number (ns.foldl (· + ·) 0))
  | .subtract => do
    let ns ← each (number .subtract) args
    .ok (.number (difference ns))
  | .multiply => do
    let ns ← each (number .multiply) args
    .ok (.number (ns.foldl (· * ·) 1))
  | .divide => do
    let ns ← each (number .divide) args
    let q ← quotient ns
    .ok (.number q)
  | .equal => compare .equal (fun a b => a = b) args
  | .less => compare .less (fun a b => a < b) args
  | .greater => compare .greater (fun a b => b < a) args
  | .lessOrEqual => compare .lessOrEqual (fun a b => a ≤ b) args
  | .greaterOrEqual => compare .greaterOrEqual (fun a b => b ≤ a) args
  | .round => unary .round (fun x => (x.round : Number)) args
  | .floor => unary .floor (fun x => (x.floor : Number)) args
  | .ceiling => unary .ceiling (fun x => (x.ceil : Number)) args
  | .magnitude => unary .magnitude Number.magnitude args
  | .list => .ok (.list args)
  | .cons => do
    let (a, b) ← two .cons args
    let vs ← items .cons b
    .ok (.list (a :: vs))
  | .head => do
    let (v, _) ← uncons .head args
    .ok v
  | .tail => do
    let (_, vs) ← uncons .tail args
    .ok (.list vs)
  | .isEmpty => test .isEmpty (fun | .list [] => true | _ => false) args
  | .length => do
    let a ← one .length args
    let vs ← items .length a
    .ok (.number vs.length)
  | .append => do
    let lists ← each (items .append) args
    .ok (.list lists.flatten)
  | .countTrue => do
    let a ← one .countTrue args
    let vs ← items .countTrue a
    .ok (.number (vs.countP isTrueBool))
  | .textAppend => do
    let parts ← each (content .textAppend) args
    .ok (.text (parts.foldl (· ++ ·) ""))
  | .numberText => do
    let a ← one .numberText args
    let x ← number .numberText a
    .ok (.text x.render)
  | .secondsToFrames => do
    let (s, r) ← two .secondsToFrames args
    let seconds ← number .secondsToFrames s
    let perSecond ← rate .secondsToFrames r
    .ok (.number (Timebase.framesAt perSecond seconds))
  | .framesToSeconds => do
    let (f, r) ← two .framesToSeconds args
    let frames ← number .framesToSeconds f
    let perSecond ← rate .framesToSeconds r
    .ok (.number (Timebase.secondsAt perSecond frames))
  | .levels => lookUpLevels args
  | .levelsLength => do
    let p ← one .levelsLength args
    let table ← provider p
    .ok (.number table.length)
  | .levelsTimebase => do
    let p ← one .levelsTimebase args
    let table ← provider p
    .ok (.number table.rate)

/-- The text that a call shows: `display` shows its argument with bare strings and characters. -/
def shown (n : Native) (args : List Value) : String :=
  match n, args with
  | .display, [a] => a.renderRaw
  | _, _ => ""

/-- Calls a native procedure. -/
def apply (n : Native) (args : List Value) : Except EvalError Reply := do
  let value ← n.compute args
  .ok ⟨value, n.shown args⟩

end Native

end TimelineLisp
