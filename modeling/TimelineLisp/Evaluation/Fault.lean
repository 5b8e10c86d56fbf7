import TimelineLisp.Levels
import TimelineLisp.Native.Basic

/-!
# Faults of evaluation

Why an evaluation ends without a value.  Each cause is a constructor, and the wording for the user
is in `EvalError.message`.
-/

namespace TimelineLisp

/-- Evaluations that are not in tail position nest at most this deep. -/
def depthLimit : Nat := 10000

/-! ### Ill-formed special forms -/

/-- What is wrong with the shape of a list that is to be evaluated. -/
inductive IllFormed
  /-- The empty list has nothing to apply. -/
  | emptyApplication
  /-- `lambda` without anything. -/
  | lambdaAlone
  /-- A procedure without a body. -/
  | lambdaBody
  /-- The parameters are neither a list nor a symbol. -/
  | lambdaParameters
  /-- A parameter is not a symbol. -/
  | lambdaParameter
  /-- The point of a parameter list is not followed by exactly one symbol. -/
  | lambdaRest
  /-- Two parameters have the same name. -/
  | lambdaDuplicate
  /-- The signature in a procedure definition does not start with a symbol. -/
  | defineProcedure
  /-- `define` with a name and not exactly one value, or with nothing. -/
  | defineCount
  /-- `define` of something that is not a symbol. -/
  | defineName
  /-- `set!` without exactly a name and a value. -/
  | setCount
  /-- `set!` of something that is not a symbol. -/
  | setName
  /-- `if` without two or three operands. -/
  | ifCount
  /-- `let` without a list of bindings. -/
  | letBindings
  /-- A binding is not a list. -/
  | letBinding
  /-- A binding is not a name and an expression. -/
  | letPair
  /-- `let` without a body. -/
  | letBody
  /-- `quote` without exactly one datum. -/
  | quoteCount
  deriving DecidableEq, Repr

namespace IllFormed

/-- The special form at fault. -/
def form : IllFormed → String
  | emptyApplication => "()"
  | lambdaAlone | lambdaBody | lambdaParameters | lambdaParameter | lambdaRest
  | lambdaDuplicate => "lambda"
  | defineProcedure | defineCount | defineName => "define"
  | setCount | setName => "set!"
  | ifCount => "if"
  | letBindings | letBinding | letPair | letBody => "let"
  | quoteCount => "quote"

/-- What is wrong with it. -/
def reason : IllFormed → String
  | emptyApplication => "empty application"
  | lambdaAlone => "missing parameter list"
  | lambdaBody => "empty body"
  | lambdaParameters => "expected a parameter list"
  | lambdaParameter => "parameter must be a symbol"
  | lambdaRest => "expected exactly one rest parameter after `.`"
  | lambdaDuplicate => "duplicate parameter"
  | defineProcedure => "expected a procedure name"
  | defineCount => "expected a name and a value"
  | defineName => "expected an identifier"
  | setCount => "expected a name and a value"
  | setName => "expected an identifier"
  | ifCount => "expected a test, a consequent and an optional alternative"
  | letBindings => "expected a binding list"
  | letBinding => "binding must be a list"
  | letPair => "binding must be (name expr)"
  | letBody => "empty body"
  | quoteCount => "expected exactly one datum"

end IllFormed

/-! ### Arguments of native procedures -/

/-- What a native procedure wants of an argument. -/
inductive Expectation
  | number
  | list
  | nonEmptyList
  | text
  | exitCode
  | positiveTimebase
  | streamIndex
  | kindName
  deriving DecidableEq, Repr

/-- The expectation in words. -/
def Expectation.words : Expectation → String
  | number => "a number"
  | list => "a list"
  | nonEmptyList => "a non-empty list"
  | text => "a string"
  | exitCode => "an exit code from 0 to 255"
  | positiveTimebase => "a positive timebase"
  | streamIndex => "a stream index"
  | kindName => "a kind name"

/-! ### Faults -/

/-- Why an evaluation ends without a value. -/
inductive EvalError
  /-- No scope binds the symbol. -/
  | unbound (name : String)
  /-- A procedure of this name and arity was given another number of arguments. -/
  | arity (name : String) (expected : Arity) (received : Nat)
  /-- The value, with this text, is not a procedure. -/
  | notCallable (found : String)
  /-- `set!` of a symbol that no scope binds. -/
  | setUnbound (name : String)
  /-- A list that cannot be evaluated. -/
  | illFormed (cause : IllFormed)
  /-- A native procedure does not take the value with this text. -/
  | wrongType (native : Native) (expected : Expectation) (found : String)
  /-- A native procedure was to divide by zero. -/
  | divisionByZero (native : Native)
  /-- More than `depthLimit` evaluations are nested. -/
  | tooDeep
  /-- Levels cannot be looked up. -/
  | levels (e : LevelsError)
  /-- The program asks to end with this status. -/
  | exit (status : UInt8)
  deriving DecidableEq

namespace EvalError

/-- The message for the user. -/
def message : EvalError → String
  | .unbound name => "unbound symbol: " ++ name
  | .arity name expected received =>
    name ++ ": arity mismatch, expected " ++ expected.render ++ " argument(s), received " ++
      Nat.repr received
  | .notCallable found => "not a procedure: " ++ found
  | .setUnbound name => "set!: cannot mutate unbound symbol: " ++ name
  | .illFormed cause => cause.form ++ ": ill-formed special form: " ++ cause.reason
  | .wrongType native expected found =>
    native.name ++ ": expected " ++ expected.words ++ ", got " ++ found
  | .divisionByZero native => native.name ++ ": division by zero"
  | .tooDeep =>
    "recursion too deep: more than " ++ Nat.repr depthLimit ++ " nested evaluations"
  | .levels e => e.message
  | .exit status => "exit requested with status " ++ Nat.repr status.toNat

/-- The status with which the program asks to end, if it does. -/
def exitStatus? : EvalError → Option UInt8
  | .exit status => some status
  | _ => none

end EvalError

end TimelineLisp
