import TimelineLisp.Inspect.Sketch
import TimelineLisp.Script

/-!
# Sketches of the language's data

How tokens, forms, values, scopes and failures are built.
-/

namespace TimelineLisp

/-- How a position is built. -/
def Position.sketch (p : Position) : Sketch :=
  .record "Pos" true [("line", .nat p.line), ("col", .nat p.column)]

/-- How a kind of token is built. -/
def TokenKind.sketch : TokenKind → Sketch
  | .opening b => .call "Open" [.quotedChar b.opening]
  | .closing b => .call "Close" [.quotedChar b.closing]
  | .symbol name => .call "Symbol" [.quoted name]
  | .number value => .call "Number" [.number value]
  | .text content => .call "Str" [.quoted content]
  | .char value => .call "Char" [.quotedChar value]
  | .bool value => .call "Bool" [.bool value]
  | .quote => .word "Quote"

namespace Form

mutual

/-- How a form is built. -/
def sketch : Form → Sketch
  | .symbol name => .call "Symbol" [.quoted name]
  | .number value => .call "Number" [.number value]
  | .text content => .call "Str" [.quoted content]
  | .char value => .call "Char" [.quotedChar value]
  | .bool value => .call "Bool" [.bool value]
  | .list items => .call "List" [.items (sketchItems items)]

/-- How forms are built. -/
def sketchItems : List Form → List Sketch
  | [] => []
  | f :: fs => f.sketch :: sketchItems fs

end

end Form

/-- How an arity is built. -/
def Arity.sketch (a : Arity) : Sketch :=
  .record "Arity" true [("min", .nat a.min), ("max", .option .nat a.max)]

/-- How a procedure is built; the scope of a closure is left out. -/
def Procedure.sketch : Procedure → Sketch
  | .native n => .call "Native" [.call "Native" [.word n.name]]
  | .closure c =>
    .call "Closure" [.record "Closure" false
      [("name", .option .quoted c.name), ("params", .items (c.params.map .quoted)),
        ("rest", .option .quoted c.rest), ("body", .items (c.body.map Form.sketch))]]

namespace Value

mutual

/-- How a value is built. -/
def sketch : Value → Sketch
  | .number value => .call "Number" [.number value]
  | .text content => .call "Str" [.quoted content]
  | .char value => .call "Char" [.quotedChar value]
  | .bool value => .call "Bool" [.bool value]
  | .symbol name => .call "Symbol" [.quoted name]
  | .list items => .call "List" [.items (sketchItems items)]
  | .procedure p => .call "Procedure" [p.sketch]
  | .void => .word "Void"
  | .host h => .call "Opaque" [.call "Host" [.word h.name]]

/-- How values are built. -/
def sketchItems : List Value → List Sketch
  | [] => []
  | v :: vs => v.sketch :: sketchItems vs

end

end Value

/-- How a fault of tokens is built. -/
def ScanError.sketch : ScanError → Sketch
  | .incomplete => .word "Incomplete"
  | .unexpectedClose found p =>
    .record "UnexpectedClose" true [("found", .quotedChar found.closing), ("pos", p.sketch)]
  | .mismatched expected found p =>
    .record "Mismatched" true
      [("expected", .quotedChar expected.closing), ("found", .quotedChar found.closing),
        ("pos", p.sketch)]
  | .badEscape found p =>
    .record "BadEscape" true [("found", .quotedChar found), ("pos", p.sketch)]
  | .badNumber lexeme p => .record "BadNumber" true [("lexeme", .quoted lexeme), ("pos", p.sketch)]
  | .badCharacter name p => .record "BadChar" true [("name", .quoted name), ("pos", p.sketch)]
  | .badHash lexeme p => .record "BadHash" true [("lexeme", .quoted lexeme), ("pos", p.sketch)]

/-- How a fault of reading is built. -/
def ReadError.sketch : ReadError → Sketch
  | .unfinished => .word "Closing"
  | .malformed e => .call "Syntax" [e.sketch]
  | .danglingQuote p => .call "DanglingQuote" [p.sketch]
  | .unexpectedTokens => .word "UnexpectedTokens"
  | .unexpectedEnd => .word "UnexpectedEOF"

/-- How a fault of levels is built. -/
def LevelsError.sketch : LevelsError → Sketch
  | .unknownKind kind => .call "UnknownKind" [.quoted kind]
  | .noStream kind stream =>
    .record "NoStream" true [("kind", .quoted kind), ("stream", .nat stream)]
  | .notAProvider found => .call "NotAProvider" [.quoted found]

/-- How a fault of evaluation is built. -/
def EvalError.sketch : EvalError → Sketch
  | .unbound name => .call "UnboundSymbol" [.quoted name]
  | .arity name expected received =>
    .record "Arity" true
      [("name", .quoted name), ("expected", expected.sketch), ("received", .nat received)]
  | .notCallable found => .call "NotCallable" [.quoted found]
  | .setUnbound name => .call "SetUnbound" [.quoted name]
  | .illFormed cause =>
    .record "IllFormed" true [("form", .quoted cause.form), ("reason", .quoted cause.reason)]
  | .wrongType native expected found =>
    .record "WrongType" true
      [("name", .quoted native.name), ("expected", .quoted expected.words),
        ("found", .quoted found)]
  | .divisionByZero native => .call "DivisionByZero" [.quoted native.name]
  | .tooDeep => .call "TooDeep" [.nat depthLimit]
  | .levels e => .call "Levels" [e.sketch]
  | .exit status => .call "Signal" [.call "ExitSignal" [.nat status.toNat]]

/-- How a failure is built. -/
def Failure.sketch : Failure → Sketch
  | .read e => .call "ParseErr" [e.sketch]
  | .eval e => .call "EvalErr" [e.sketch]
  | .input e => .call "IOErr" [.quoted e.message]

/-- How a scope is built: its names, in order, and whether it is a root. -/
def Store.sketch (s : Store) (id : ScopeId) : Sketch :=
  .record "Env" true
    [("names", .items ((s.names id).map .quoted)), ("root", .bool (s.isRoot id))]

end TimelineLisp
