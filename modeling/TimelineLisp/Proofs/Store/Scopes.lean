import Mathlib.Tactic.Common
import TimelineLisp.Store.Basic

/-!
# A store as scopes that bind names

All that can be seen of a store is how many scopes it has (`scopes.size`), which scope is around
which (`Store.parent?`), what each scope binds itself (`Store.local?`) and the next identity.  Here
every operation is given by what it does to these views, and looking a name up by what it does along
the enclosing scopes (`Store.find?_eq`), so that no later proof goes back to arrays.
-/

namespace TimelineLisp

namespace Store

variable {s t : Store} {id id' : ScopeId} {name name' : String} {v : Value}

/-- The scope around a scope. -/
def parent? (s : Store) (id : ScopeId) : Option ScopeId :=
  (s.scope? id).bind (·.parent)

theorem local?_eq_none_of_size_le (h : s.scopes.size ≤ id) (name : String) :
    s.local? id name = none := by
  simp [local?, scope?, h]

theorem lt_size_of_local? (h : s.local? id name = some v) : id < s.scopes.size := by
  by_contra hid
  rw [local?_eq_none_of_size_le (Nat.le_of_not_lt hid)] at h
  cases h

theorem lt_size_of_parent? {parent : ScopeId} (h : s.parent? id = some parent) :
    id < s.scopes.size := by
  by_contra hid
  have hnone : s.scope? id = none := by simp [scope?, hid]
  rw [parent?, hnone] at h
  cases h

/-! ### Binding a name -/

@[simp]
theorem size_define (s : Store) (id : ScopeId) (name : String) (v : Value) :
    (s.define id name v).scopes.size = s.scopes.size := by
  simp [define, modifyBindings]

@[simp]
theorem nextIdentity_define (s : Store) (id : ScopeId) (name : String) (v : Value) :
    (s.define id name v).nextIdentity = s.nextIdentity := rfl

/-- What a scope binds has nothing to do with what is around it. -/
theorem parent?_modifyBindings (s : Store) (id id' : ScopeId) (f : Bindings → Bindings) :
    (s.modifyBindings id f).parent? id' = s.parent? id' := by
  simp only [parent?, scope?, modifyBindings, Array.getElem?_modify]
  split_ifs with h
  · subst h
    cases s.scopes[id]? <;> rfl
  · rfl

@[simp]
theorem parent?_define (s : Store) (id id' : ScopeId) (name : String) (v : Value) :
    (s.define id name v).parent? id' = s.parent? id' :=
  parent?_modifyBindings s id id' _

/-- A definition changes one name in one scope, if there is such a scope. -/
theorem local?_define (s : Store) (id id' : ScopeId) (name name' : String) (v : Value) :
    (s.define id name v).local? id' name' =
      if id < s.scopes.size ∧ id = id' ∧ name = name' then some v else s.local? id' name' := by
  simp only [local?, scope?, define, modifyBindings, Array.getElem?_modify]
  by_cases hid : id = id'
  · subst hid
    by_cases hlt : id < s.scopes.size
    · simp [hlt, Bindings.get?_insert]
    · simp [hlt]
  · simp [hid]

/-- A definition changes one scope. -/
theorem scope?_define_of_ne (h : id ≠ id') (s : Store) (name : String) (v : Value) :
    (s.define id name v).scope? id' = s.scope? id' := by
  simp only [scope?, define, modifyBindings, Array.getElem?_modify, if_neg h]

/-! ### New scopes and identities -/

@[simp]
theorem size_newScope (s : Store) (parent : Option ScopeId) (b : Bindings) :
    (s.newScope parent b).2.scopes.size = s.scopes.size + 1 := by
  simp [newScope]

@[simp]
theorem nextIdentity_newScope (s : Store) (parent : Option ScopeId) (b : Bindings) :
    (s.newScope parent b).2.nextIdentity = s.nextIdentity := rfl

/-- The new scope has the next number, and all others are what they were. -/
theorem parent?_newScope (s : Store) (parent : Option ScopeId) (b : Bindings) (id : ScopeId) :
    (s.newScope parent b).2.parent? id = if id = s.scopes.size then parent else s.parent? id := by
  simp only [parent?, scope?, newScope, Array.getElem?_push]
  split_ifs <;> rfl

theorem local?_newScope (s : Store) (parent : Option ScopeId) (b : Bindings) (id : ScopeId)
    (name : String) :
    (s.newScope parent b).2.local? id name =
      if id = s.scopes.size then b.get? name else s.local? id name := by
  simp only [local?, scope?, newScope, Array.getElem?_push]
  split_ifs <;> rfl

theorem scope?_newScope_of_ne (h : id ≠ s.scopes.size) (parent : Option ScopeId) (b : Bindings) :
    (s.newScope parent b).2.scope? id = s.scope? id := by
  simp only [scope?, newScope, Array.getElem?_push, if_neg h]

@[simp]
theorem size_newIdentity (s : Store) : s.newIdentity.2.scopes.size = s.scopes.size := rfl

@[simp]
theorem nextIdentity_newIdentity (s : Store) :
    s.newIdentity.2.nextIdentity = s.nextIdentity + 1 := rfl

@[simp]
theorem parent?_newIdentity (s : Store) (id : ScopeId) :
    s.newIdentity.2.parent? id = s.parent? id := rfl

@[simp]
theorem local?_newIdentity (s : Store) (id : ScopeId) (name : String) :
    s.newIdentity.2.local? id name = s.local? id name := rfl

/-! ### Looking up -/

/-- A name is looked for in the scope itself, and then in the one around it. -/
theorem find?_eq (s : Store) (id : ScopeId) (name : String) :
    s.find? id name =
      match s.local? id name with
      | some v => some (id, v)
      | none =>
        match s.parent? id with
        | none => none
        | some parent => if parent < id then s.find? parent name else none := by
  rw [find?]
  simp only [local?, parent?, scope?]
  cases s.scopes[id]? with
  | none => rfl
  | some scope =>
    cases hget : scope.bindings.get? name with
    | some v => simp only [Option.bind_some, hget]
    | none =>
      cases hparent : scope.parent with
      | none => simp only [Option.bind_some, hget, hparent]
      | some parent => simp only [Option.bind_some, hget, hparent]

/-- A name that the scope itself binds is found there. -/
theorem get?_of_local? (h : s.local? id name = some v) : s.get? id name = some v := by
  rw [get?, find?_eq, h]
  rfl

/-- **Assigning resolves a name as looking it up does.** -/
theorem assign_eq (s : Store) (id : ScopeId) (name : String) (v : Value) :
    s.assign id name v =
      match s.find? id name with
      | some (target, _) => (true, s.define target name v)
      | none => (false, s) := by
  induction id using Nat.strongRecOn with
  | ind id ih =>
    rw [assign, find?]
    cases s.scopes[id]? with
    | none => rfl
    | some scope =>
      cases hget : scope.bindings.get? name with
      | some u => simp only [hget]
      | none =>
        cases hparent : scope.parent with
        | none => simp only [hget, hparent]
        | some parent =>
          simp only [hget, hparent]
          split_ifs with hlt
          · exact ih parent hlt
          · rfl

/-- What is found stands in the scope where it is found. -/
theorem local?_of_find? {target : ScopeId} (h : s.find? id name = some (target, v)) :
    s.local? target name = some v := by
  induction id using Nat.strongRecOn with
  | ind id ih =>
    rw [find?_eq] at h
    split at h
    · next hl =>
      cases h
      exact hl
    · split at h
      · cases h
      · split_ifs at h with hlt
        exact ih _ hlt h

/-- Stores whose scopes are enclosed alike and bind a name alike look it up alike. -/
theorem find?_congr (hp : ∀ id, s.parent? id = t.parent? id)
    (hl : ∀ id, s.local? id name = t.local? id name) (id : ScopeId) :
    s.find? id name = t.find? id name := by
  induction id using Nat.strongRecOn with
  | ind id ih =>
    rw [find?_eq, find?_eq t, hl, hp]
    split
    · rfl
    · split
      · rfl
      · next parent _ =>
        split_ifs with hlt
        · exact ih parent hlt
        · rfl

/-- A new scope changes nothing for those that were there. -/
theorem get?_newScope_of_lt (parent : Option ScopeId) (b : Bindings) (h : id < s.scopes.size)
    (name : String) : (s.newScope parent b).2.get? id name = s.get? id name := by
  have hfind : (s.newScope parent b).2.find? id name = s.find? id name := by
    induction id using Nat.strongRecOn with
    | ind id ih =>
      have hne : id ≠ s.scopes.size := Nat.ne_of_lt h
      rw [find?_eq, find?_eq s, local?_newScope, parent?_newScope, if_neg hne, if_neg hne]
      split
      · rfl
      · split
        · rfl
        · split_ifs with hlt
          · exact ih _ hlt (Nat.lt_trans hlt h)
          · rfl
  rw [get?, get?, hfind]

/-- In a new scope, a name has its value there, or else the value that it has outside. -/
theorem get?_newScope_self {outer : ScopeId} (b : Bindings) (h : outer < s.scopes.size)
    (name : String) :
    (s.newScope (some outer) b).2.get? s.scopes.size name =
      (b.get? name).or (s.get? outer name) := by
  have houter := get?_newScope_of_lt (some outer) b h name
  rw [get?, find?_eq, local?_newScope, parent?_newScope, if_pos rfl, if_pos rfl]
  cases b.get? name with
  | some v => rfl
  | none =>
    simp only [h, if_true]
    exact houter

end Store

end TimelineLisp
