import TimelineLisp.Evaluation.Basic
import TimelineLisp.Form.Reader
import TimelineLisp.Store.Standard

/-!
# Scripts

A script is a text of forms that are evaluated in order in one scope.  The first failure ends it:
nothing after it is read or evaluated, and everything before it has taken effect.

* `interpret` gives an entry for every form up to the first failure;
* `run` gives the value of the last form, or the failure;
* `runEager` reads the whole text before it evaluates anything.

Each of them takes fuel for the evaluator and has no answer when the fuel runs out.
-/

namespace TimelineLisp

/-! ### Failures -/

/-- Why a source cannot be had as a text. -/
inductive InputError
  /-- The bytes are not UTF-8. -/
  | notText
  /-- There is no file of this name. -/
  | noFile
  /-- The name is that of a directory. -/
  | directory
  /-- The name leads through a file as if it were a directory. -/
  | notDirectory
  /-- The name is longer than a name can be. -/
  | nameTooLong
  /-- The system says why. -/
  | other (message : String)
  deriving DecidableEq

/-- The message for the user. -/
def InputError.message : InputError → String
  | .notText => "stream did not contain valid UTF-8"
  | .noFile => "No such file or directory (os error 2)"
  | .directory => "Is a directory (os error 21)"
  | .notDirectory => "Not a directory (os error 20)"
  | .nameTooLong => "File name too long (os error 36)"
  | .other message => message

/-- Why a script ends without a value. -/
inductive Failure
  /-- The text cannot be read. -/
  | read (e : ReadError)
  /-- A form cannot be evaluated. -/
  | eval (e : EvalError)
  /-- There is no text. -/
  | input (e : InputError)
  deriving DecidableEq

namespace Failure

/-- The message for the user. -/
def message : Failure → String
  | .read e => e.message
  | .eval e => e.message
  | .input e => e.message

/-- The text ends inside a form, and more text may finish it. -/
def isUnfinished : Failure → Bool
  | .read e => e.isUnfinished
  | _ => false

/-- The status with which the script asks to end, if it does. -/
def exitStatus? : Failure → Option UInt8
  | .eval e => e.exitStatus?
  | _ => none

end Failure

/-! ### Worlds -/

/-- A world with one standard root scope. -/
def World.standard : World := ⟨.standard, ""⟩

/-- The text shown since an earlier world. -/
def World.shownSince (before after : World) : String :=
  String.ofList (after.shown.toList.drop before.shown.length)

namespace Script

/-! ### One entry per form -/

/-- What became of one form. -/
structure Entry where
  /-- The form; none if no form could be read. -/
  form : Option Form
  /-- Its value or why it has none. -/
  result : Except Failure Value
  /-- The text shown by its evaluation. -/
  shown : String

/-- The entry of a text that cannot be read any further. -/
def faultEntry (e : ReadError) : Entry :=
  ⟨none, .error (.read e), ""⟩

/-- Evaluates forms up to the first failure; the fault of the reading comes last. -/
def interpretForms (fuel : Nat) (scope : ScopeId) (fault : Option ReadError) :
    List Form → World → Option (List Entry × World)
  | [], w => some (fault.toList.map faultEntry, w)
  | f :: fs, w =>
    match Evaluation.eval fuel f scope w with
    | .outOfFuel => none
    | .error e w' => some ([⟨some f, .error (.eval e), w.shownSince w'⟩], w')
    | .value v w' =>
      match interpretForms fuel scope fault fs w' with
      | none => none
      | some (entries, w'') => some (⟨some f, .ok v, w.shownSince w'⟩ :: entries, w'')

/-- Evaluates the forms of a text one by one, up to the first failure. -/
def interpret (fuel : Nat) (scope : ScopeId) (source : String) (w : World) :
    Option (List Entry × World) :=
  let r := read source
  interpretForms fuel scope r.fault r.forms w

/-! ### The value of a script -/

/-- The result of the last entry; a script without forms is void. -/
def lastResult (entries : List Entry) : Except Failure Value :=
  match entries.getLast? with
  | some entry => entry.result
  | none => .ok .void

/-- Evaluates a text; the value is that of its last form. -/
def run (fuel : Nat) (scope : ScopeId) (source : String) (w : World) :
    Option (Except Failure Value × World) :=
  match interpret fuel scope source w with
  | none => none
  | some (entries, w') => some (lastResult entries, w')

/-- The text that bytes encode in UTF-8. -/
def decode (bytes : ByteArray) : Except Failure String :=
  match String.fromUTF8? bytes with
  | some source => .ok source
  | none => .error (.input .notText)

/-- Evaluates the text that bytes encode in UTF-8. -/
def runBytes (fuel : Nat) (scope : ScopeId) (bytes : ByteArray) (w : World) :
    Option (Except Failure Value × World) :=
  match decode bytes with
  | .ok source => run fuel scope source w
  | .error e => some (.error e, w)

/-- Reads a whole text, and evaluates its forms only if there is no fault in it. -/
def runEager (fuel : Nat) (scope : ScopeId) (source : String) (w : World) :
    Option (Except Failure Value × World) :=
  match readAll source with
  | .error e => some (.error (.read e), w)
  | .ok forms =>
    match Evaluation.evalForms fuel scope .void forms w with
    | .value v w' => some (.ok v, w')
    | .error e w' => some (.error (.eval e), w')
    | .outOfFuel => none

end Script

end TimelineLisp
