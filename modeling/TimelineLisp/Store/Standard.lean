import TimelineLisp.Store.Basic
import TimelineLisp.Value.Printer

/-!
# Root scopes

A standard root scope holds all native procedures.  A host program adds objects of its own, above
all a provider of levels, under `@levels`, with its frame rate under `timebase`.
-/

namespace TimelineLisp

/-- The native procedures by name. -/
def standardBindings : Bindings :=
  Native.all.map fun n => (n.name, .procedure (.native n))

/-- The symbol that the provider of levels is bound to. -/
def levelsSymbol : String := "@levels"

/-- The symbol that the frame rate of the levels is bound to. -/
def timebaseSymbol : String := "timebase"

/-- The symbol that a session binds to the last value it printed. -/
def lastResultSymbol : String := "_"

/-- The number of the first scope of a store, which is its root. -/
def rootScope : ScopeId := 0

namespace Store

/-- A store of one root scope that holds the native procedures. -/
def standard : Store :=
  { scopes := #[⟨none, standardBindings⟩] }

/-- Makes a host object and binds it. -/
def bindHost (s : Store) (id : ScopeId) (symbol name : String) (levels : Option LevelTable) :
    Store :=
  let (identity, s) := s.newIdentity
  s.define id symbol (.host ⟨name, identity, levels⟩)

/-- Binds a provider of levels and its frame rate. -/
def bindLevels (s : Store) (id : ScopeId) (table : LevelTable) : Store :=
  (s.define id timebaseSymbol (.number table.rate)).bindHost id levelsSymbol "levels" (some table)

/-- The binding is that of a native procedure to its own name. -/
def isStandardBinding (name : String) : Value → Bool
  | .procedure (.native n) => n.name == name
  | _ => false

/-- What a scope binds itself beyond the native procedures. -/
def ownBindings (s : Store) (id : ScopeId) : Bindings :=
  match s.scope? id with
  | some scope => scope.bindings.filter fun (name, value) => !isStandardBinding name value
  | none => []

end Store

end TimelineLisp
