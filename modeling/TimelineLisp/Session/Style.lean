/-!
# Styles of a session

Prompts and error labels carry colour on a terminal, unless the user asked for none.
-/

namespace TimelineLisp

/-- How a session presents itself. -/
structure Style where
  /-- Prompts and error labels carry colour. -/
  color : Bool
  deriving DecidableEq, Repr

namespace Style

/-- No colour. -/
def plain : Style := ⟨false⟩

/-- Colour. -/
def colored : Style := ⟨true⟩

/-- The environment variables that ask for no colour when they are not empty. -/
def refusals : List String := ["NO_COLOR", "AV_LOG_FORCE_NOCOLOR"]

/-- Colour on a terminal, unless `noColor` is set or an environment variable refuses it. -/
def detect (noColor isTerminal : Bool) (environment : List (String × String)) : Style :=
  let refused := refusals.any fun name =>
    match environment.lookup name with
    | some value => !value.isEmpty
    | none => false
  ⟨isTerminal && !noColor && !refused⟩

/-- The text in a colour, given by its terminal code. -/
def paint (s : Style) (code text : String) : String :=
  if s.color then "\x1b[" ++ code ++ "m" ++ text ++ "\x1b[0m" else text

/-- The prompt for a fresh submission. -/
def prompt (s : Style) : String :=
  s.paint "1;95" ">" ++ " "

/-- The label in front of an error message. -/
def errorLabel (s : Style) : String :=
  s.paint "1;31" "error"

end Style

end TimelineLisp
