import TimelineLisp.CommandLine.Run

/-!
# The program

Reads the arguments, the file or the standard input, and hands them to `CommandLine.run`.  At a
terminal it holds a session of lines instead.
-/

namespace TimelineLisp

namespace Program

/-- Enough fuel for any program that is meant to end. -/
def fuel : Nat := 1000000000000000

/-- The bytes of a file, or why they cannot be had. -/
def readFile (path : String) : IO (Except InputError ByteArray) := do
  try
    return .ok (← IO.FS.readBinFile path)
  catch e =>
    match e with
    | .noFileOrDirectory .. => return .error .noFile
    | .inappropriateType _ 20 _ => return .error .notDirectory
    | .inappropriateType .. => return .error .directory
    | .invalidArgument _ 36 _ => return .error .nameTooLong
    | e => return .error (.other (toString e))

/-- All bytes of a stream, after those read so far. -/
partial def readAll (stream : IO.FS.Stream) (sofar : ByteArray) : IO ByteArray := do
  let chunk ← stream.read 65536
  if chunk.isEmpty then return sofar else readAll stream (sofar ++ chunk)

/-- Writes a report and gives its status. -/
def deliver (report : Option CommandLine.Report) : IO UInt32 := do
  match report with
  | some r =>
    IO.print r.stdout
    IO.eprint r.stderr
    return r.status.toUInt32
  | none =>
    IO.eprintln "error: out of fuel"
    return 1

/-- Holds a session at a terminal. -/
partial def converse (s : Session) (w : World) : IO UInt32 := do
  IO.print s.prompt
  (← IO.getStdout).flush
  let line ← (← IO.getStdin).getLine
  if line.isEmpty then
    IO.println ""
    return 0
  let text := String.ofList (line.toList.filter (· ≠ '\n'))
  match s.submit fuel .reliable text { w with shown := "" } with
  | none =>
    IO.eprintln "error: out of fuel"
    return 1
  | some (result, s', w') =>
    IO.print w'.shown
    match result with
    | .ok (.exit status) =>
      IO.println ""
      return status.toUInt32
    | .ok _ => converse s' w'
    | .error e =>
      IO.eprint (CommandLine.complaint e.message)
      return 1

/-- The environment variables that a style depends on. -/
def styleVariables : IO (List (String × String)) := do
  let mut found := []
  for name in Style.refusals do
    if let some value ← IO.getEnv name then
      found := (name, value) :: found
  return found

/-- Holds a session at a terminal with these settings. -/
def interact (settings : CommandLine.Settings) : IO UInt32 := do
  IO.eprintln CommandLine.greeting
  let isTerminal ← (← IO.getStdout).isTty
  let style := Style.detect settings.noColor isTerminal (← styleVariables)
  converse { debug := settings.debugReader, style } (CommandLine.worldFor settings.timebase)

/-- Answers a request. -/
def serve (request : CommandLine.Request) : IO UInt32 := do
  match request with
  | .version => deliver (CommandLine.run fuel (fun _ => .error .noFile) .empty request)
  | .file _ _ path =>
    let bytes ← readFile path
    deliver (CommandLine.run fuel (fun _ => bytes) .empty request)
  | .standardInput settings =>
    let stdin ← IO.getStdin
    if ← stdin.isTty then interact settings
    else
      let bytes ← readAll stdin .empty
      deliver (CommandLine.run fuel (fun _ => .error .noFile) bytes request)

end Program

end TimelineLisp

/-- The program: reads the command line and answers it. -/
def main (arguments : List String) : IO UInt32 := do
  match TimelineLisp.CommandLine.Request.ofArguments? arguments with
  | some request => TimelineLisp.Program.serve request
  | none =>
    IO.eprintln ("usage: [--debug-parser] [--timebase NUM] [--no-color] " ++
      "[run FILE | parse FILE | lex FILE]")
    return 2
