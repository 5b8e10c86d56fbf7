import TimelineLisp.Form.Printer
import TimelineLisp.Script
import TimelineLisp.Session.Style

/-!
# Sessions

A session takes lines one by one.  Lines are collected until they make up a finished text
(`Session.buffer`); then its forms are evaluated, each value is written on a line of its own, and
the symbol `_` is bound to it.

What a session writes goes to a sink that may fail at any write (`Sink`).  A failed write ends the
submission, but not the effect of what was evaluated before it.
-/

namespace TimelineLisp

/-- The writes of one submission: the message with which the write of this number fails, or none if
it succeeds. -/
abbrev Sink := Nat → Option String

/-- A sink that takes everything. -/
def Sink.reliable : Sink := fun _ => none

/-- Writes a line to a sink, as write number `k`; the message is that of a failed write. -/
def Sink.writeLine (sink : Sink) (k : Nat) (text : String) (w : World) : Option String × World :=
  match sink k with
  | some message => (some message, w)
  | none => (none, w.show (text ++ "\n"))

/-- A session of lines. -/
structure Session where
  /-- The lines of an unfinished submission, joined by newlines. -/
  buffer : Option String := none
  /-- Every form is written before it is evaluated. -/
  debug : Bool := false
  /-- How prompts and errors look. -/
  style : Style := .plain
  /-- The scope in which forms are evaluated, a root. -/
  scope : ScopeId := rootScope

namespace Session

/-- Where a session stands after a line. -/
inductive Step
  /-- It waits for a fresh submission. -/
  | ready
  /-- The submission is unfinished, and it waits for more lines. -/
  | more
  /-- It is to end with this status. -/
  | exit (status : UInt8)
  deriving DecidableEq, Repr

/-- Why a session cannot go on. -/
inductive Fault
  /-- A write failed, with this message. -/
  | write (message : String)
  /-- A read failed, with this message. -/
  | read (message : String)
  deriving DecidableEq

/-- The message for the user. -/
def Fault.message : Fault → String
  | .write message => message
  | .read message => message

/-- The session is in the middle of a submission. -/
def isAccumulating (s : Session) : Bool :=
  s.buffer.isSome

/-- The prompt in the middle of a submission. -/
def continuationPrompt : String := "   "

/-- The prompt for the next line. -/
def prompt (s : Session) : String :=
  if s.isAccumulating then continuationPrompt else s.style.prompt

/-! ### Submissions -/

/-- Ends a submission with a failure: a request to exit ends the session, anything else is written
as an error, as write number `k`. -/
def report (s : Session) (sink : Sink) (k : Nat) (failure : Failure) (w : World) :
    Except Fault Step × World :=
  match failure.exitStatus? with
  | some status => (.ok (.exit status), w)
  | none =>
    match sink.writeLine k (s.style.errorLabel ++ ": " ++ failure.message) w with
    | (some message, w') => (.error (.write message), w')
    | (none, w') => (.ok .ready, w')

/-- Writes a form that is about to be evaluated, if the session shows forms; gives the message of a
failed write and the number of the next write. -/
def echo (s : Session) (sink : Sink) (k : Nat) (form : Form) (w : World) :
    Option String × Nat × World :=
  if s.debug then
    let (failed, w') := sink.writeLine k ("parser: " ++ form.render) w
    (failed, k + 1, w')
  else (none, k, w)

/-- Binds `_` to a value. -/
def remember (s : Session) (value : Value) (w : World) : World :=
  { w with store := w.store.define s.scope lastResultSymbol value }

/-- Evaluates forms and writes their values, from write number `k` on.  A failed echo is noticed
only after its form has been evaluated. -/
def evaluate (s : Session) (fuel : Nat) (sink : Sink) (fault : Option ReadError) :
    Nat → List Form → World → Option (Except Fault Step × World)
  | k, [], w =>
    match fault with
    | none => some (.ok .ready, w)
    | some e => some (s.report sink k (.read e) w)
  | k, f :: fs, w =>
    let (failed, k, w) := s.echo sink k f w
    match Evaluation.eval fuel f s.scope w, failed with
    | .outOfFuel, _ => none
    | .value _ w', some message => some (.error (.write message), w')
    | .error _ w', some message => some (.error (.write message), w')
    | .error e w', none => some (s.report sink k (.eval e) w')
    | .value v w', none =>
      if v.isVoid then s.evaluate fuel sink fault k fs w'
      else
        match sink.writeLine k v.render w' with
        | (some message, w'') => some (.error (.write message), w'')
        | (none, w'') => s.evaluate fuel sink fault (k + 1) fs (s.remember v w'')

/-- The text that a line completes or starts. -/
def source (s : Session) (line : String) : String :=
  match s.buffer with
  | some buffer => buffer ++ "\n" ++ line
  | none => line

/-- Takes a line.  Nothing is evaluated before the whole submission is finished. -/
def submit (s : Session) (fuel : Nat) (sink : Sink) (line : String) (w : World) :
    Option (Except Fault Step × Session × World) :=
  let r := read (s.source line)
  if r.fault = some .unfinished then
    some (.ok .more, { s with buffer := some (s.source line) }, w)
  else
    match s.evaluate fuel sink r.fault 0 r.forms w with
    | none => none
    | some (result, w') => some (result, { s with buffer := none }, w')

/-- An interrupt drops an unfinished submission, and ends a session without one. -/
def interrupt (s : Session) : Step × Session :=
  match s.buffer with
  | some _ => (.ready, { s with buffer := none })
  | none => (.exit 0, s)

/-! ### Whole sessions -/

/-- What a read gives. -/
inductive Input
  /-- A line. -/
  | line (text : String)
  /-- An interrupt by the user. -/
  | interrupt
  /-- The end of the input. -/
  | eof
  /-- A failure, with this message. -/
  | failure (message : String)
  deriving DecidableEq

/-- A result, unless what was written cannot be delivered: `flush` is the message of a flush that
fails. -/
def delivered {α : Type} (flush : Option String) : Except Fault α → Except Fault α
  | .error e => .error e
  | .ok result =>
    match flush with
    | some message => .error (.write message)
    | none => .ok result

/-- Acts on what a read gives. -/
def take (s : Session) (fuel : Nat) (sink : Sink) (input : Input) (w : World) :
    Option (Except Fault Step × Session × World) :=
  match input with
  | .line text => s.submit fuel sink text w
  | .interrupt => some (.ok s.interrupt.1, s.interrupt.2, w)
  | .eof => some (.ok (.exit 0), s, w)
  | .failure message => some (.error (.read message), s, w)

/-- One round of a session: acts on what a read gives, and delivers what was written. -/
def round (s : Session) (fuel : Nat) (sink : Sink) (flush : Option String) (input : Input)
    (w : World) : Option (Except Fault Step × Session × World) :=
  (s.take fuel sink input w).map fun (result, s', w') => (delivered flush result, s', w')

/-- How a session ends with a round, if it does. -/
def ending? : Except Fault Step → Option (Except Fault UInt8)
  | .error e => some (.error e)
  | .ok (.exit status) => some (.ok status)
  | .ok .ready => none
  | .ok .more => none

/-- How a session went. -/
structure Transcript where
  /-- The exit status, or why the session could not go on. -/
  result : Except Fault UInt8
  /-- The prompt of every read. -/
  prompts : List String
  /-- The number of inputs that were never read. -/
  unread : Nat
  /-- The session at its end. -/
  session : Session
  /-- The world at its end. -/
  world : World

/-- The transcript with one more prompt in front. -/
def Transcript.after (prompt : String) (t : Transcript) : Transcript :=
  { t with prompts := prompt :: t.prompts }

/-- Reads and evaluates until the input ends, an interrupt comes between two submissions, the
program exits or something fails.  `sinks` gives the sink for each of the lines, by number, and
`flushes` the message of a flush that fails after the input of this number. -/
def run (fuel : Nat) (sinks : Nat → Sink) (n : Nat) (s : Session) (inputs : List Input) (w : World)
    (flushes : Nat → Option String := fun _ => none) : Option Transcript :=
  match inputs with
  | [] => some ⟨delivered (flushes n) (.ok 0), [s.prompt], 0, s, w⟩
  | input :: rest =>
    match s.round fuel (sinks n) (flushes n) input w with
    | none => none
    | some (result, s', w') =>
      match ending? result with
      | some status => some ⟨status, [s.prompt], rest.length, s', w'⟩
      | none => (run fuel sinks (n + 1) s' rest w' flushes).map (.after s.prompt)

end Session

end TimelineLisp
