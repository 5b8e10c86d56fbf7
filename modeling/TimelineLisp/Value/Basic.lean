import TimelineLisp.Form.Basic
import TimelineLisp.Levels
import TimelineLisp.Native.Basic

/-!
# Values

What forms evaluate to: the data that forms can write down, procedures, the objects of the host
program, and `void`, the result of forms that are evaluated for their effect.

A closure knows its scope by number and not by content, and closures and host objects carry an
identity, a number that no other closure or object of the same store has.
-/

namespace TimelineLisp

/-- Scopes are numbered in the order in which they are made. -/
abbrev ScopeId := Nat

/-- A procedure of the program. -/
structure Closure where
  /-- Tells this closure from every other one. -/
  identity : Nat
  /-- The name it was defined under, if any. -/
  name : Option String
  /-- The names of the arguments. -/
  params : List String
  /-- The name of the list of all further arguments, if it takes any number of them. -/
  rest : Option String
  /-- The forms that are evaluated when it is called. -/
  body : List Form
  /-- The scope it was made in. -/
  scope : ScopeId

/-- The arity that follows from the parameters. -/
def Closure.arity (c : Closure) : Arity :=
  match c.rest with
  | some _ => .atLeast c.params.length
  | none => .exactly c.params.length

/-- Something that can be called. -/
inductive Procedure
  /-- A procedure of the program. -/
  | closure (c : Closure)
  /-- A native procedure. -/
  | native (n : Native)

namespace Procedure

/-- The name of a procedure, if it has one. -/
def name? : Procedure → Option String
  | .closure c => c.name
  | .native n => some n.name

/-- The arity of a procedure. -/
def arity : Procedure → Arity
  | .closure c => c.arity
  | .native n => n.arity

end Procedure

/-- An object of the host program.  The language passes it around and looks inside only for
levels. -/
structure Host where
  /-- What the object calls itself. -/
  name : String
  /-- Tells this object from every other one. -/
  identity : Nat
  /-- The levels that the object provides, if it does. -/
  levels : Option LevelTable := none

/-- The result of an evaluation. -/
inductive Value
  /-- An exact number. -/
  | number (value : Number)
  /-- A string. -/
  | text (content : String)
  /-- A character. -/
  | char (value : Char)
  /-- A truth value. -/
  | bool (value : Bool)
  /-- A symbol as a datum. -/
  | symbol (name : String)
  /-- A list. -/
  | list (items : List Value)
  /-- A procedure. -/
  | procedure (p : Procedure)
  /-- Nothing to speak of. -/
  | void
  /-- An object of the host program. -/
  | host (h : Host)

namespace Value

instance : Inhabited Value := ⟨.void⟩

/-- Only `#f` is false. -/
def isTrue : Value → Bool
  | .bool false => false
  | _ => true

/-- The value is `void`. -/
def isVoid : Value → Bool
  | .void => true
  | _ => false

/-- The name of the kind of value; a host object names itself. -/
def typeName : Value → String
  | .number _ => "number"
  | .text _ => "string"
  | .char _ => "char"
  | .bool _ => "bool"
  | .symbol _ => "symbol"
  | .list _ => "list"
  | .procedure _ => "procedure"
  | .void => "void"
  | .host h => h.name

mutual

/-- The datum that a form writes down. -/
def ofForm : Form → Value
  | .symbol name => .symbol name
  | .number value => .number value
  | .text content => .text content
  | .char value => .char value
  | .bool value => .bool value
  | .list items => .list (ofForms items)

/-- The data that forms write down. -/
def ofForms : List Form → List Value
  | [] => []
  | f :: fs => ofForm f :: ofForms fs

end

/-- Levels as a list. -/
def ofLevels : Levels → Value
  | .bools values => .list (values.map .bool)
  | .numbers values => .list (values.map .number)

end Value

/-- Procedures are the same if they are the same closure or the same native. -/
def Procedure.same : Procedure → Procedure → Bool
  | .closure a, .closure b => a.identity == b.identity
  | .native a, .native b => a == b
  | _, _ => false

namespace Value

mutual

/-- Data are the same if they are equal, procedures and host objects if they are identical. -/
def same : Value → Value → Bool
  | .number a, .number b => a == b
  | .text a, .text b => a == b
  | .char a, .char b => a == b
  | .bool a, .bool b => a == b
  | .symbol a, .symbol b => a == b
  | .list a, .list b => sameItems a b
  | .procedure a, .procedure b => a.same b
  | .void, .void => true
  | .host a, .host b => a.identity == b.identity
  | _, _ => false

/-- The lists have the same items in the same order. -/
def sameItems : List Value → List Value → Bool
  | [], [] => true
  | a :: as, b :: bs => same a b && sameItems as bs
  | _, _ => false

end

end Value

end TimelineLisp
