import TimelineLisp.Number.Literal

/-!
# Forms

A form is a piece of source as data: an atom or a list of forms.  The reader builds forms and the
evaluator takes them.
-/

namespace TimelineLisp

/-- A piece of source. -/
inductive Form
  /-- A name. -/
  | symbol (name : String)
  /-- An exact number. -/
  | number (value : Number)
  /-- A string. -/
  | text (content : String)
  /-- A character. -/
  | char (value : Char)
  /-- A truth value. -/
  | bool (value : Bool)
  /-- A list, in brackets of either shape. -/
  | list (items : List Form)

namespace Form

instance : Inhabited Form := ⟨.list []⟩

/-- The form `(quote datum)`, which `'datum` is short for. -/
def quoted (datum : Form) : Form :=
  .list [.symbol "quote", datum]

end Form

end TimelineLisp
