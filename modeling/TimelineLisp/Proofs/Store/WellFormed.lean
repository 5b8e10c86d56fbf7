import TimelineLisp.Proofs.Store.Scopes
import TimelineLisp.Proofs.Value.Related
import TimelineLisp.Store.Standard

/-!
# Well-formed stores

A scope is made inside a scope that is there already, so the scopes of a store form trees: **from
every scope one comes to a root** (`Store.WellFormed.endsInRoot`), and so looking a name up comes
to an end, wherever the enclosing scopes lead (`Store.WellFormed.resolves`).  A closure belongs to a
scope that is there, has something to evaluate and has distinct parameters.

A store *grows* (`Store.Grows`): no scope goes away or comes to stand inside another one, and no
scope loses a name.  Every operation on a well-formed store leads to a well-formed store that has
grown.

A store gives out an identity for every closure, so that the closures it holds have smaller
identities than those that are still to be made (`Store.Numbered`).
-/

namespace TimelineLisp

variable {s t u : Store} {id : ScopeId} {name : String} {v : Value}

/-! ### Growth -/

namespace Store

/-- What a store keeps: its scopes, what encloses them and the names that they bind. -/
structure Grows (s t : Store) : Prop where
  size : s.scopes.size ≤ t.scopes.size
  /-- A scope stays inside the scope that it was made in. -/
  parent : ∀ id < s.scopes.size, t.parent? id = s.parent? id
  /-- A name stays bound. -/
  bound : ∀ id name, (s.local? id name).isSome → (t.local? id name).isSome

theorem Grows.refl (s : Store) : s.Grows s :=
  ⟨Nat.le_refl _, fun _ _ => rfl, fun _ _ h => h⟩

theorem Grows.trans (h : s.Grows t) (h' : t.Grows u) : s.Grows u where
  size := Nat.le_trans h.size h'.size
  parent id hid := (h'.parent id (Nat.lt_of_lt_of_le hid h.size)).trans (h.parent id hid)
  bound id name hbound := h'.bound id name (h.bound id name hbound)

theorem grows_define (s : Store) (id : ScopeId) (name : String) (v : Value) :
    s.Grows (s.define id name v) where
  size := Nat.le_of_eq (size_define s id name v).symm
  parent id' _ := parent?_define s id id' name v
  bound id' name' hbound := by
    rw [local?_define]
    split_ifs
    · rfl
    · exact hbound

theorem grows_newScope (s : Store) (parent : Option ScopeId) (b : Bindings) :
    s.Grows (s.newScope parent b).2 where
  size := by simp
  parent id hid := by rw [parent?_newScope, if_neg (Nat.ne_of_lt hid)]
  bound id name hbound := by
    obtain ⟨v, hv⟩ := Option.isSome_iff_exists.1 hbound
    rw [local?_newScope, if_neg (Nat.ne_of_lt (lt_size_of_local? hv))]
    exact hbound

theorem grows_newIdentity (s : Store) : s.Grows s.newIdentity.2 :=
  ⟨Nat.le_refl _, fun _ _ => rfl, fun _ _ h => h⟩

theorem grows_assign (s : Store) (id : ScopeId) (name : String) (v : Value) :
    s.Grows (s.assign id name v).2 := by
  rw [assign_eq]
  cases s.find? id name with
  | none => exact .refl s
  | some found => exact grows_define s found.1 name v

end Store

/-! ### Closures -/

/-- The closure belongs to a scope of the store, has a body, and no two of its parameters have the
same name. -/
structure Closure.WellFormed (s : Store) (c : Closure) : Prop where
  scope : c.scope < s.scopes.size
  body : c.body ≠ []
  params : (c.params ++ c.rest.toList).Nodup

theorem Closure.WellFormed.grows {c : Closure} (h : c.WellFormed s) (hst : s.Grows t) :
    c.WellFormed t :=
  ⟨Nat.lt_of_lt_of_le h.scope hst.size, h.body, h.params⟩

/-- All closures that the value holds are well formed. -/
def Value.WellFormed (s : Store) (v : Value) : Prop :=
  ∀ c, v.Holds c → c.WellFormed s

theorem Value.WellFormed.grows (h : v.WellFormed s) (hst : s.Grows t) : v.WellFormed t :=
  fun c hc => (h c hc).grows hst

/-! ### Stores -/

namespace Store

/-- Every scope is inside an older one. -/
def IsTree (s : Store) : Prop :=
  ∀ {id parent : ScopeId}, s.parent? id = some parent → parent < id

/-- Every scope is inside an older one, and all closures are well formed. -/
structure WellFormed (s : Store) : Prop where
  parent : s.IsTree
  value : ∀ {id : ScopeId} {name : String} {v : Value}, s.local? id name = some v →
    v.WellFormed s

/-- Going outwards from the scope ends in a root. -/
inductive EndsInRoot (s : Store) : ScopeId → Prop
  | root {id : ScopeId} : id < s.scopes.size → s.parent? id = none → EndsInRoot s id
  | inside {id parent : ScopeId} : s.parent? id = some parent → EndsInRoot s parent →
    EndsInRoot s id

/-- What comes of looking for a name in one scope after the other, outwards. -/
inductive Resolves (s : Store) (name : String) : ScopeId → Option (ScopeId × Value) → Prop
  | here {id : ScopeId} {v : Value} : s.local? id name = some v →
    Resolves s name id (some (id, v))
  | outside {id parent : ScopeId} {r : Option (ScopeId × Value)} : s.local? id name = none →
    s.parent? id = some parent → Resolves s name parent r → Resolves s name id r
  | unbound {id : ScopeId} : s.local? id name = none → s.parent? id = none →
    Resolves s name id none

namespace WellFormed

theorem parent_exists (h : s.WellFormed) {parent : ScopeId} (hp : s.parent? id = some parent) :
    parent < s.scopes.size :=
  Nat.lt_trans (h.parent hp) (lt_size_of_parent? hp)

/-- **From every scope one comes to a root.** -/
theorem endsInRoot (h : s.WellFormed) (hid : id < s.scopes.size) : s.EndsInRoot id := by
  induction id using Nat.strongRecOn with
  | ind id ih =>
    cases hp : s.parent? id with
    | none => exact .root hid hp
    | some parent => exact .inside hp (ih parent (h.parent hp) (h.parent_exists hp))

/-- **Looking a name up comes to an end**, with what is found. -/
theorem resolves (h : s.WellFormed) (name : String) (id : ScopeId) :
    s.Resolves name id (s.find? id name) := by
  induction id using Nat.strongRecOn with
  | ind id ih =>
    rw [find?_eq]
    cases hl : s.local? id name with
    | some v => exact .here hl
    | none =>
      cases hp : s.parent? id with
      | none => exact .unbound hl hp
      | some parent =>
        have hlt : parent < id := h.parent hp
        simp only [hlt, if_true]
        exact .outside hl hp (ih parent hlt)

theorem get? (h : s.WellFormed) (hv : s.get? id name = some v) : v.WellFormed s := by
  obtain ⟨⟨target, u⟩, hfind, rfl⟩ := Option.map_eq_some_iff.1 hv
  exact h.value (local?_of_find? hfind)

theorem define (h : s.WellFormed) (hv : v.WellFormed s) (id : ScopeId) (name : String) :
    (s.define id name v).WellFormed where
  parent hp := by
    rw [parent?_define] at hp
    exact h.parent hp
  value hl := by
    rw [local?_define] at hl
    split_ifs at hl
    · cases hl
      exact hv.grows (grows_define s id name v)
    · exact (h.value hl).grows (grows_define s id name v)

theorem assign (h : s.WellFormed) (hv : v.WellFormed s) (id : ScopeId) (name : String) :
    (s.assign id name v).2.WellFormed := by
  rw [Store.assign_eq]
  cases s.find? id name with
  | none => exact h
  | some found => exact h.define hv found.1 name

theorem newScope (h : s.WellFormed) {parent : ScopeId} (hparent : parent < s.scopes.size)
    {b : Bindings} (hb : ∀ name v, b.get? name = some v → v.WellFormed s) :
    (s.newScope (some parent) b).2.WellFormed where
  parent {id parent'} hp := by
    rw [parent?_newScope] at hp
    split_ifs at hp with hid
    · cases hp
      exact hid ▸ hparent
    · exact h.parent hp
  value {id name v} hl := by
    have hgrows := grows_newScope s (some parent) b
    rw [local?_newScope] at hl
    split_ifs at hl
    · exact (hb name v hl).grows hgrows
    · exact (h.value hl).grows hgrows

theorem newIdentity (h : s.WellFormed) : s.newIdentity.2.WellFormed where
  parent hp := h.parent hp
  value hl := (h.value hl).grows (grows_newIdentity s)

end WellFormed

/-! ### Identities -/

/-- Every closure that the store holds has an identity that the store has given out. -/
def Numbered (s : Store) : Prop :=
  ∀ id name v c, s.local? id name = some v → v.Holds c → c.identity < s.nextIdentity

namespace Numbered

theorem get? (h : s.Numbered) (hv : s.get? id name = some v) {c : Closure} (hc : v.Holds c) :
    c.identity < s.nextIdentity := by
  obtain ⟨⟨target, u⟩, hfind, rfl⟩ := Option.map_eq_some_iff.1 hv
  exact h target name u c (local?_of_find? hfind) hc

theorem define (h : s.Numbered) (hv : ∀ c, v.Holds c → c.identity < s.nextIdentity)
    (id : ScopeId) (name : String) : (s.define id name v).Numbered := by
  intro id' name' u c hl hc
  rw [local?_define] at hl
  split_ifs at hl
  · cases hl
    exact hv c hc
  · exact h id' name' u c hl hc

theorem assign (h : s.Numbered) (hv : ∀ c, v.Holds c → c.identity < s.nextIdentity)
    (id : ScopeId) (name : String) : (s.assign id name v).2.Numbered := by
  rw [Store.assign_eq]
  cases s.find? id name with
  | none => exact h
  | some found => exact h.define hv found.1 name

theorem newScope (h : s.Numbered) (parent : Option ScopeId) {b : Bindings}
    (hb : ∀ name v, b.get? name = some v → ∀ c, v.Holds c → c.identity < s.nextIdentity) :
    (s.newScope parent b).2.Numbered := by
  intro id name v c hl hc
  rw [local?_newScope] at hl
  split_ifs at hl
  · exact hb name v hl c hc
  · exact h id name v c hl hc

theorem newIdentity (h : s.Numbered) : s.newIdentity.2.Numbered :=
  fun id name v c hl hc => Nat.lt_succ_of_lt (h id name v c hl hc)

end Numbered

/-! ### Root scopes -/

/-- The store of a program at its start: a root scope with the native procedures, and perhaps
levels. -/
inductive Initial : Store → Prop
  | standard : Initial .standard
  | levels (table : LevelTable) : Initial (Store.standard.bindLevels rootScope table)

theorem scope?_standard {scope : Scope} (h : Store.standard.scope? id = some scope) :
    scope = ⟨none, standardBindings⟩ := by
  cases id with
  | zero => exact (Option.some.inj h).symm
  | succ id => cases h

/-- A standard root scope binds native procedures only. -/
theorem local?_standard (h : Store.standard.local? id name = some v) :
    ∃ n : Native, v = .procedure (.native n) := by
  obtain ⟨scope, hscope, hget⟩ := Option.bind_eq_some_iff.1 h
  obtain rfl := scope?_standard hscope
  have hlookup : standardBindings.lookup name = some v := hget
  obtain ⟨before, after, hmap, -⟩ := List.lookup_eq_some_iff.1 hlookup
  have hmem : (name, v) ∈ standardBindings := by simp [hmap]
  obtain ⟨n, -, hn⟩ := List.mem_map.1 hmem
  cases hn
  exact ⟨n, rfl⟩

/-- Every native procedure is bound to its name from the start. -/
theorem Initial.local?_native (h : s.Initial) (n : Native) :
    s.local? rootScope n.name = some (.procedure (.native n)) := by
  have hstandard : Store.standard.local? rootScope n.name = some (.procedure (.native n)) := by
    cases n <;> rfl
  cases h with
  | standard => exact hstandard
  | levels table =>
    have htimebase : timebaseSymbol ≠ n.name := by cases n <;> decide
    have hlevels : levelsSymbol ≠ n.name := by cases n <;> decide
    rw [bindLevels, bindHost, local?_define, if_neg fun hname => hlevels hname.2.2,
      local?_newIdentity, local?_define, if_neg fun hname => htimebase hname.2.2, hstandard]

theorem wellFormed_standard : Store.standard.WellFormed where
  parent hp := by
    obtain ⟨scope, hscope, hnone⟩ := Option.bind_eq_some_iff.1 hp
    obtain rfl := scope?_standard hscope
    cases hnone
  value hl := by
    obtain ⟨n, rfl⟩ := local?_standard hl
    exact nofun

theorem Initial.wellFormed (h : s.Initial) : s.WellFormed := by
  cases h with
  | standard => exact wellFormed_standard
  | levels table =>
    have hrate : (Value.number table.rate).WellFormed .standard := nofun
    have htimebase := wellFormed_standard.define hrate rootScope timebaseSymbol
    refine htimebase.newIdentity.define ?_ rootScope levelsSymbol
    exact nofun

theorem numbered_standard : Store.standard.Numbered := by
  intro id name v c hl hc
  obtain ⟨n, rfl⟩ := local?_standard hl
  cases hc

theorem Initial.numbered (h : s.Initial) : s.Numbered := by
  cases h with
  | standard => exact numbered_standard
  | levels table =>
    have htimebase :
        (Store.standard.define rootScope timebaseSymbol (.number table.rate)).Numbered :=
      numbered_standard.define (by rintro c ⟨⟩) rootScope timebaseSymbol
    exact htimebase.newIdentity.define (by rintro c ⟨⟩) rootScope levelsSymbol

end Store

end TimelineLisp
