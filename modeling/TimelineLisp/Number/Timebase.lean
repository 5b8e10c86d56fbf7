import TimelineLisp.Number.Rounding
import TimelineLisp.Text.Blank

/-!
# Timebases

A timebase is the number of frames in a second, exact and positive.  `framesAt` and `secondsAt`
convert between the two units of time without drift: a frame converted to seconds and back is the
same frame.
-/

namespace TimelineLisp

/-- Why a text is not a timebase. -/
inductive TimebaseError
  /-- The text is neither a number literal nor the name of a rate. -/
  | invalid (text : String)
  /-- The rate is zero or negative. -/
  | notPositive (rate : Number)
  deriving DecidableEq

/-- The message for the user. -/
def TimebaseError.message : TimebaseError → String
  | .invalid text => "invalid timebase: '" ++ text ++ "'"
  | .notPositive rate => "timebase must be positive, got " ++ rate.render

namespace Timebase

/-- The text without blanks at either end. -/
def trim (cs : List Char) : List Char :=
  ((cs.dropWhile isBlank).reverse.dropWhile isBlank).reverse

/-- The rates that have a name. -/
def named : List (String × Number) :=
  [("ntsc", 30000 / 1001), ("ntsc_film", 24000 / 1001), ("pal", 25), ("film", 24)]

/-- The rate that a name or a literal stands for. -/
def rate? (text : List Char) : Option Number :=
  match named.lookup (String.ofList text) with
  | some rate => some rate
  | none => Number.ofChars? text

/-- Reads a timebase: the name of a rate or a number literal, between blanks. -/
def ofString (s : String) : Except TimebaseError Number :=
  match rate? (trim s.toList) with
  | none => .error (.invalid s)
  | some rate => if 0 < rate then .ok rate else .error (.notPositive rate)

/-- The frame nearest to a time in seconds; half a frame goes away from zero. -/
def framesAt (rate seconds : Number) : Int :=
  (seconds * rate).round

/-- The time in seconds at which a frame starts.  It means something only for a rate that is not
zero, see `secondsAt?`. -/
def secondsAt (rate frames : Number) : Number :=
  frames / rate

/-- The time in seconds at which a frame starts; `none` at the rate zero. -/
def secondsAt? (rate frames : Number) : Option Number :=
  if rate = 0 then none else some (secondsAt rate frames)

end Timebase

end TimelineLisp
