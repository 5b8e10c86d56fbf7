import TimelineLisp.CommandLine.Request
import TimelineLisp.Inspect.Data
import TimelineLisp.Session.Basic

/-!
# What a command line does

`CommandLine.run` answers a request: the exit status and what goes to the standard output and to
the standard error.  Files are given as a function from paths to bytes and the standard input as
bytes.
-/

namespace TimelineLisp

namespace CommandLine

/-- What a command leaves. -/
structure Report where
  /-- The exit status. -/
  status : UInt8 := 0
  /-- What is written to the standard output. -/
  stdout : String := ""
  /-- What is written to the standard error. -/
  stderr : String := ""
  deriving DecidableEq

/-- Where the bytes of a file come from. -/
abbrev Files := String → Except InputError ByteArray

/-- The answer to a request for the version number. -/
def version : String := "reel-cli 0.1.0"

/-- What a session says before the first prompt. -/
def greeting : String := "Reel 0.1.0"

/-- A message on the standard error. -/
def complaint (message : String) : String :=
  "error: " ++ message ++ "\n"

/-- A standard world, in which a given frame rate is bound together with a provider of levels that
has no streams. -/
def worldFor (timebase : Option Number) : World :=
  match timebase with
  | some rate => ⟨Store.standard.bindLevels rootScope { rate }, ""⟩
  | none => .standard

/-! ### Scripts -/

/-- The report on a script: its value, unless it is void, or its failure. -/
def reportOn (result : Except Failure Value) (w : World) : Report :=
  match result with
  | .ok v => { stdout := if v.isVoid then w.shown else w.shown ++ v.render ++ "\n" }
  | .error failure =>
    match failure.exitStatus? with
    | some status => { status, stdout := w.shown }
    | none => { status := 1, stdout := w.shown, stderr := complaint failure.message }

/-- Evaluates a script. -/
def runScript (fuel : Nat) (settings : Settings) (bytes : Except InputError ByteArray) :
    Option Report :=
  let w := worldFor settings.timebase
  match bytes with
  | .error e => some (reportOn (.error (.input e)) w)
  | .ok bytes =>
    match Script.runBytes fuel rootScope bytes w with
    | some (result, w') => some (reportOn result w')
    | none => none

/-! ### Forms and tokens -/

/-- The text without any occurrence of `mark`, found from the left. -/
def erase (mark : List Char) : List Char → List Char
  | [] => []
  | c :: cs =>
    if mark ≠ [] ∧ mark.isPrefixOf (c :: cs) then erase mark (cs.drop (mark.length - 1))
    else c :: erase mark cs
termination_by cs => cs.length
decreasing_by
  · simp only [List.length_drop, List.length_cons]
    omega
  · simp

/-- A token as a line: its position and how its kind is built.  The mark `TokenKind::` never shows,
not even where the source itself has it. -/
def tokenLine (t : Token) : String :=
  String.ofList
    (erase "TokenKind::".toList (t.position.render ++ " " ++ t.kind.sketch.render).toList)

/-- The lines of a text's forms or tokens, or why there are none. -/
def listing (action : Action) (source : String) : Except String (List String) :=
  match action with
  | .lex =>
    match tokenize source with
    | .ok tokens => .ok (tokens.map tokenLine)
    | .error e => .error e.message
  | _ =>
    match readAll source with
    | .ok forms => .ok (forms.map Form.render)
    | .error e => .error e.message

/-- The lines of a file's forms or tokens, or why there are none. -/
def listingOfBytes (action : Action) (bytes : Except InputError ByteArray) :
    Except String (List String) :=
  match bytes with
  | .error e => .error e.message
  | .ok bytes =>
    match Script.decode bytes with
    | .error e => .error e.message
    | .ok source => listing action source

/-- Lists the forms or tokens of a file.  The status is zero also where that fails. -/
def list (action : Action) (bytes : Except InputError ByteArray) : Report :=
  match listingOfBytes action bytes with
  | .ok lines => { stdout := "\n".intercalate lines ++ "\n" }
  | .error message => { stderr := complaint message }

/-! ### Sessions -/

/-- The lines of a byte stream: each ends at a newline, before which one carriage return is
dropped, and a last line may do without. -/
def splitLines (line : List UInt8) : List UInt8 → List (List UInt8)
  | [] => if line.isEmpty then [] else [line.reverse]
  | b :: bs =>
    if b = 10 then
      let ended := match line with
        | 13 :: line => line
        | line => line
      ended.reverse :: splitLines [] bs
    else splitLines (b :: line) bs

/-- A line of bytes as the input of a session. -/
def inputOfLine (bytes : List UInt8) : Session.Input :=
  match Script.decode ⟨bytes.toArray⟩ with
  | .ok text => .line text
  | .error e => .failure e.message

/-- Runs a session on a stream of bytes. -/
def runSession (fuel : Nat) (settings : Settings) (style : Style) (stdin : ByteArray) :
    Option Report :=
  let session : Session := { debug := settings.debugReader, style }
  let inputs := (splitLines [] stdin.toList).map inputOfLine
  match Session.run fuel (fun _ => .reliable) 0 session inputs (worldFor settings.timebase) with
  | none => none
  | some t =>
    let stdout := t.world.shown ++ "\n"
    match t.result with
    | .ok status => some { status, stdout, stderr := greeting ++ "\n" }
    | .error e =>
      some { status := 1, stdout, stderr := greeting ++ "\n" ++ complaint e.message }

/-! ### Requests -/

/-- Answers a request, with a standard input that is not a terminal. -/
def run (fuel : Nat) (files : Files) (stdin : ByteArray) : Request → Option Report
  | .version => some { stdout := version ++ "\n" }
  | .standardInput settings => runScript fuel settings (.ok stdin)
  | .file settings .run path => runScript fuel settings (files path)
  | .file _ action path => some (list action (files path))

end CommandLine

end TimelineLisp
