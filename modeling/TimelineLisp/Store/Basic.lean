import TimelineLisp.Value.Basic

/-!
# Scopes

A scope binds names to values and, unless it is a root, is enclosed by another scope.  A `Store`
holds all scopes by number; a scope is made after the one that encloses it, so its number is
greater and following the enclosing scopes ends (`Store.find?`).

Looking a name up (`Store.get?`) and assigning to it (`Store.assign`) each go outwards to the nearest
scope that binds it.
-/

namespace TimelineLisp

/-! ### Bindings -/

/-- The names of one scope with their values; no name occurs twice. -/
abbrev Bindings := List (String × Value)

namespace Bindings

/-- The value of a name. -/
def get? (b : Bindings) (name : String) : Option Value :=
  b.lookup name

/-- Binds a name, in place of the value that it had. -/
def insert (name : String) (value : Value) : Bindings → Bindings
  | [] => [(name, value)]
  | (n, v) :: more =>
    if n = name then (n, value) :: more else (n, v) :: insert name value more

/-- Binds a name and tells the value that it had. -/
def exchange (name : String) (value : Value) : Bindings → Option Value × Bindings
  | [] => (none, [(name, value)])
  | (n, v) :: more =>
    if n = name then (some v, (n, value) :: more)
    else
      let (old, more) := exchange name value more
      (old, (n, v) :: more)

/-- Binds a name that is not bound yet. -/
def register (b : Bindings) (name : String) (value : Value) : Bindings :=
  match b.get? name with
  | some _ => b
  | none => b ++ [(name, value)]

@[simp]
theorem get?_nil (name : String) : get? [] name = none := rfl

theorem get?_cons (n name : String) (v : Value) (b : Bindings) :
    get? ((n, v) :: b) name = if n = name then some v else get? b name := by
  by_cases h : n = name
  · simp [get?, h]
  · have h' : (name == n) = false := by simpa using fun e => h e.symm
    simp [get?, h, List.lookup_cons, h']

@[simp]
theorem get?_insert (b : Bindings) (n m : String) (v : Value) :
    get? (insert n v b) m = if n = m then some v else get? b m := by
  induction b with
  | nil => simp [insert, get?_cons]
  | cons p more ih =>
    obtain ⟨k, u⟩ := p
    simp only [insert]
    split
    · next hk =>
      subst hk
      simp only [get?_cons]
      split <;> rfl
    · next hk =>
      simp only [get?_cons, ih]
      split
      · next hkm =>
        subst hkm
        simp [Ne.symm hk]
      · rfl

end Bindings

/-! ### Stores -/

/-- A scope. -/
structure Scope where
  /-- The scope around it; none for a root. -/
  parent : Option ScopeId
  /-- The names it binds itself. -/
  bindings : Bindings

/-- All scopes by number, and the identity that the next closure or host object gets. -/
structure Store where
  /-- The scopes, in the order in which they were made. -/
  scopes : Array Scope := #[]
  /-- Greater than every identity given so far. -/
  nextIdentity : Nat := 0

namespace Store

/-- The scope with this number. -/
def scope? (s : Store) (id : ScopeId) : Option Scope :=
  s.scopes[id]?

/-- Makes a scope. -/
def newScope (s : Store) (parent : Option ScopeId) (bindings : Bindings) : ScopeId × Store :=
  (s.scopes.size, { s with scopes := s.scopes.push ⟨parent, bindings⟩ })

/-- Gives out an identity. -/
def newIdentity (s : Store) : Nat × Store :=
  (s.nextIdentity, { s with nextIdentity := s.nextIdentity + 1 })

/-- The nearest scope that binds a name, from a scope outwards, and the value there. -/
def find? (s : Store) (id : ScopeId) (name : String) : Option (ScopeId × Value) :=
  match s.scopes[id]? with
  | none => none
  | some scope =>
    match scope.bindings.get? name with
    | some value => some (id, value)
    | none =>
      match scope.parent with
      | none => none
      | some parent => if parent < id then s.find? parent name else none
termination_by id

/-- The value of a name, seen from a scope. -/
def get? (s : Store) (id : ScopeId) (name : String) : Option Value :=
  (s.find? id name).map (·.2)

/-- Changes the bindings of one scope. -/
def modifyBindings (s : Store) (id : ScopeId) (f : Bindings → Bindings) : Store :=
  { s with scopes := s.scopes.modify id fun scope => { scope with bindings := f scope.bindings } }

/-- Binds a name in one scope, in place of the value that it had there. -/
def define (s : Store) (id : ScopeId) (name : String) (value : Value) : Store :=
  s.modifyBindings id (.insert name value)

/-- The value that a name has in one scope itself. -/
def local? (s : Store) (id : ScopeId) (name : String) : Option Value :=
  (s.scope? id).bind (·.bindings.get? name)

/-- Binds a name in one scope and tells the value that it had there. -/
def exchange (s : Store) (id : ScopeId) (name : String) (value : Value) : Option Value × Store :=
  ((s.scope? id).bind fun scope => (scope.bindings.exchange name value).1,
    s.modifyBindings id fun b => (b.exchange name value).2)

/-- Gives a new value to the nearest binding of a name, from a scope outwards, and tells whether
there is one. -/
def assign (s : Store) (id : ScopeId) (name : String) (value : Value) : Bool × Store :=
  match s.scopes[id]? with
  | none => (false, s)
  | some scope =>
    match scope.bindings.get? name with
    | some _ => (true, s.define id name value)
    | none =>
      match scope.parent with
      | none => (false, s)
      | some parent => if parent < id then s.assign parent name value else (false, s)
termination_by id

/-- Binds the names that one scope does not bind yet. -/
def register (s : Store) (id : ScopeId) (more : Bindings) : Store :=
  s.modifyBindings id fun b => more.foldl (fun b (name, value) => b.register name value) b

/-- The scope has none around it. -/
def isRoot (s : Store) (id : ScopeId) : Bool :=
  (s.scope? id).all (·.parent.isNone)

/-- The names that a scope binds itself, in the order of their code points. -/
def names (s : Store) (id : ScopeId) : List String :=
  match s.scope? id with
  | some scope => (scope.bindings.map (·.1)).mergeSort (fun a b => !decide (b < a))
  | none => []

end Store

end TimelineLisp
