import TimelineLisp.Evaluation.Fault
import TimelineLisp.Value.Basic

/-!
# Special forms and parameters

A list headed by one of nine names is not an application but a special form, whatever the name is
bound to.  `Parameters.ofForm` reads the parameters of a procedure: a symbol that takes all
arguments, or a list of symbols in which a point introduces the name for all further arguments.
-/

namespace TimelineLisp

/-- The special forms. -/
inductive SpecialForm
  | define
  | set
  | cond
  | lambda
  | begin
  | bind
  | and
  | or
  | quote
  deriving DecidableEq, Repr

namespace SpecialForm

/-- The special forms by name. -/
def named : List (String × SpecialForm) :=
  [("define", define), ("set!", set), ("if", cond), ("lambda", lambda), ("begin", begin),
    ("let", bind), ("and", and), ("or", or), ("quote", quote)]

/-- The special form of this name. -/
def ofName? (name : String) : Option SpecialForm :=
  named.lookup name

/-- The special form that a list with this head is. -/
def ofHead? : Form → Option SpecialForm
  | .symbol name => ofName? name
  | _ => none

end SpecialForm

/-- The parameters of a procedure. -/
structure Parameters where
  /-- The names of the arguments. -/
  required : List String
  /-- The name of the list of all further arguments, if any number of them is taken. -/
  rest : Option String
  deriving DecidableEq

namespace Parameters

/-- All names. -/
def names (p : Parameters) : List String :=
  p.required ++ p.rest.toList

/-- Reads a parameter list. -/
def ofForms : List Form → Except IllFormed Parameters
  | [] => .ok ⟨[], none⟩
  | .symbol name :: more =>
    if name = "." then
      match more with
      | [.symbol rest] => .ok ⟨[], some rest⟩
      | _ => .error .lambdaRest
    else
      match ofForms more with
      | .ok p => .ok ⟨name :: p.required, p.rest⟩
      | .error e => .error e
  | _ :: _ => .error .lambdaParameter

/-- Reads the parameters of a procedure, whose names have to differ. -/
def ofForm (f : Form) : Except IllFormed Parameters := do
  let p ← match f with
    | .symbol rest => .ok ⟨[], some rest⟩
    | .list items => ofForms items
    | _ => .error .lambdaParameters
  if p.names.Nodup then .ok p else .error .lambdaDuplicate

end Parameters

end TimelineLisp
