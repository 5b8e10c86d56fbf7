import TimelineLisp.Arity

/-!
# Native procedures

The procedures that every root scope holds from the start, by name and arity.  What they compute is
in `TimelineLisp.Native.Apply`.
-/

namespace TimelineLisp

/-- A native procedure. -/
inductive Native
  | not
  | same
  | isNumber
  | isText
  | isSymbol
  | isList
  | isProcedure
  | display
  | exit
  | add
  | subtract
  | multiply
  | divide
  | equal
  | less
  | greater
  | lessOrEqual
  | greaterOrEqual
  | round
  | floor
  | ceiling
  | magnitude
  | list
  | cons
  | head
  | tail
  | isEmpty
  | length
  | append
  | countTrue
  | textAppend
  | numberText
  | secondsToFrames
  | framesToSeconds
  | levels
  | levelsLength
  | levelsTimebase
  deriving DecidableEq, Repr

namespace Native

/-- All native procedures. -/
def all : List Native :=
  [not, same, isNumber, isText, isSymbol, isList, isProcedure, display, exit, add, subtract,
    multiply, divide, equal, less, greater, lessOrEqual, greaterOrEqual, round, floor, ceiling,
    magnitude, list, cons, head, tail, isEmpty, length, append, countTrue, textAppend, numberText,
    secondsToFrames, framesToSeconds, levels, levelsLength, levelsTimebase]

/-- The symbol that a native procedure is bound to. -/
def name : Native → String
  | not => "not"
  | same => "eq?"
  | isNumber => "number?"
  | isText => "string?"
  | isSymbol => "symbol?"
  | isList => "list?"
  | isProcedure => "procedure?"
  | display => "display"
  | exit => "exit"
  | add => "+"
  | subtract => "-"
  | multiply => "*"
  | divide => "/"
  | equal => "="
  | less => "<"
  | greater => ">"
  | lessOrEqual => "<="
  | greaterOrEqual => ">="
  | round => "round"
  | floor => "floor"
  | ceiling => "ceiling"
  | magnitude => "abs"
  | list => "list"
  | cons => "cons"
  | head => "car"
  | tail => "cdr"
  | isEmpty => "null?"
  | length => "length"
  | append => "append"
  | countTrue => "count-true"
  | textAppend => "string-append"
  | numberText => "number->string"
  | secondsToFrames => "seconds->frames"
  | framesToSeconds => "frames->seconds"
  | levels => "levels"
  | levelsLength => "levels-length"
  | levelsTimebase => "levels-timebase"

/-- The arity that is checked before a native procedure is called. -/
def arity : Native → Arity
  | add | multiply | list | append | textAppend => .atLeast 0
  | subtract | divide | equal | less | greater | lessOrEqual | greaterOrEqual => .atLeast 1
  | exit => .between 0 1
  | levels => .between 2 3
  | same | cons | secondsToFrames | framesToSeconds => .exactly 2
  | not | isNumber | isText | isSymbol | isList | isProcedure | display | round | floor | ceiling
  | magnitude | head | tail | isEmpty | length | countTrue | numberText | levelsLength
  | levelsTimebase => .exactly 1

theorem mem_all (n : Native) : n ∈ all := by
  cases n <;> decide

end Native

end TimelineLisp
