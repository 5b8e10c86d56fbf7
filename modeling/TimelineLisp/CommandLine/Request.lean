import TimelineLisp.Number.Timebase

/-!
# What a command line asks for

A command line has options in any order, each at most once, and then perhaps a command with the
name of one file.  `Request.ofArguments?` reads it from the left; the first mistake makes it no
request at all, and the option for the version number settles it.
-/

namespace TimelineLisp

namespace CommandLine

/-- The settings that the options make. -/
structure Settings where
  /-- A session writes every form before it is evaluated. -/
  debugReader : Bool := false
  /-- The frame rate to bind. -/
  timebase : Option Number := none
  /-- A session uses no colour. -/
  noColor : Bool := false

/-- What is done with a file. -/
inductive Action
  /-- Evaluate it. -/
  | run
  /-- Write its forms. -/
  | parse
  /-- Write its tokens. -/
  | lex
  deriving DecidableEq, Repr

/-- What a command line asks for. -/
inductive Request
  /-- The version number. -/
  | version
  /-- To evaluate the standard input, or a session of lines if it is a terminal. -/
  | standardInput (settings : Settings)
  /-- To do something with a file. -/
  | file (settings : Settings) (action : Action) (path : String)

namespace Request

/-- The actions by name. -/
def actions : List (String × Action) :=
  [("run", .run), ("parse", .parse), ("lex", .lex)]

/-- The settings with a frame rate, which may be given once. -/
def withTimebase? (s : Settings) (text : String) : Option Settings :=
  match s.timebase, Timebase.ofString text with
  | none, .ok rate => some { s with timebase := some rate }
  | _, _ => none

/-- The text after `mark`, if the argument starts with it. -/
def after? (mark argument : String) : Option String :=
  if mark.toList.isPrefixOf argument.toList then
    some (String.ofList (argument.toList.drop mark.length))
  else none

/-- The frame rate that an argument gives behind an equals sign. -/
def attachedTimebase? (argument : String) : Option String :=
  (after? "--timebase=" argument).orElse fun _ => after? "--tb=" argument

/-- The argument looks like an option; a lone dash does not. -/
def isOption (argument : String) : Bool :=
  (after? "-" argument).any (!·.isEmpty)

/-- The path of the one file that an action takes; after `--` it may look like an option. -/
def path? : List String → Option String
  | ["--", path] => if path.isEmpty then none else some path
  | [path] => if path.isEmpty || isOption path then none else some path
  | [path, "--"] => if path.isEmpty || isOption path then none else some path
  | _ => none

/-- Reads arguments from the left, on top of the settings made so far. -/
def ofArgumentsFrom? (s : Settings) : List String → Option Request
  | [] => some (.standardInput s)
  | "--version" :: _ => some .version
  | "--debug-parser" :: more =>
    if s.debugReader then none else ofArgumentsFrom? { s with debugReader := true } more
  | "--no-color" :: more =>
    if s.noColor then none else ofArgumentsFrom? { s with noColor := true } more
  | ["--"] => some (.standardInput s)
  | argument :: more =>
    if (after? "-V" argument).isSome then some .version
    else if argument = "--timebase" || argument = "--tb" then
      match more with
      | value :: more =>
        if isOption value then none
        else
          match withTimebase? s value with
          | some s' => ofArgumentsFrom? s' more
          | none => none
      | [] => none
    else
      match attachedTimebase? argument with
      | some value =>
        match withTimebase? s value with
        | some s' => ofArgumentsFrom? s' more
        | none => none
      | none =>
        match actions.lookup argument with
        | some action => (path? more).map (.file s action)
        | none => none

/-- Reads a command line. -/
def ofArguments? (arguments : List String) : Option Request :=
  ofArgumentsFrom? {} arguments

end Request

end CommandLine

end TimelineLisp
