import TimelineLisp.Number.Literal

/-!
# Levels

Levels are the results of an analysis of a timeline, one value per frame: silence as truth values,
motion as numbers, and so on.  A `LevelTable` holds the streams of each kind of analysis in the
order in which they were added, at one frame rate.
-/

namespace TimelineLisp

/-- One value per frame. -/
inductive Levels
  /-- A yes or no per frame. -/
  | bools (values : List Bool)
  /-- A number per frame. -/
  | numbers (values : List Number)
  deriving DecidableEq

/-- The number of frames. -/
def Levels.length : Levels → Nat
  | .bools values => values.length
  | .numbers values => values.length

/-- Why levels cannot be looked up. -/
inductive LevelsError
  /-- There is no stream of this kind at all. -/
  | unknownKind (kind : String)
  /-- There are fewer streams of this kind. -/
  | noStream (kind : String) (stream : Nat)
  /-- The value, with this text, holds no levels. -/
  | notAProvider (found : String)
  deriving DecidableEq

/-- The message for the user. -/
def LevelsError.message : LevelsError → String
  | .unknownKind kind => "levels: unknown kind '" ++ kind ++ "'"
  | .noStream kind stream => "levels: " ++ kind ++ " has no stream " ++ Nat.repr stream
  | .notAProvider found => "levels: expected a levels provider, got " ++ found

/-- The streams of a timeline. -/
structure LevelTable where
  /-- Frames per second of every stream. -/
  rate : Number
  /-- The number of frames of the longest stream. -/
  length : Nat := 0
  /-- The streams of each kind, in the order in which they were added. -/
  kinds : List (String × List Levels) := []
  deriving DecidableEq

namespace LevelTable

/-- The kinds with one more stream of `kind` at the end of its list. -/
def insertStream (kind : String) (stream : Levels) :
    List (String × List Levels) → List (String × List Levels)
  | [] => [(kind, [stream])]
  | (k, streams) :: more =>
    if k = kind then (k, streams ++ [stream]) :: more
    else (k, streams) :: insertStream kind stream more

/-- Adds the next stream of a kind. -/
def addStream (t : LevelTable) (kind : String) (stream : Levels) : LevelTable :=
  { t with
    length := max t.length stream.length
    kinds := insertStream kind stream t.kinds }

/-- The stream of a kind by its number, from zero. -/
def stream (t : LevelTable) (kind : String) (index : Nat) : Except LevelsError Levels :=
  match t.kinds.lookup kind with
  | none => .error (.unknownKind kind)
  | some streams =>
    match streams[index]? with
    | some levels => .ok levels
    | none => .error (.noStream kind index)

end LevelTable

end TimelineLisp
