import TimelineLisp.Proofs.Store.Scopes

/-!
# Stores that agree but for hidden bindings

Two stores agree except on some bindings (`Store.AgreeExcept`) if they have the same scopes, inside
each other alike, and every binding that is not hidden is the same in both.  A name that is hidden
nowhere is looked up alike in the two, and what is done to both keeps them in agreement.

A store keeps the hidden bindings of an earlier one (`Store.Keeps`) if nothing is done to them, and
it spares some of its scopes (`Store.Spares`) if nothing is done to any binding of theirs.
-/

namespace TimelineLisp

namespace Store

variable {hidden : ScopeId → String → Prop} {s t u : Store} {name : String}

/-! ### Agreement -/

/-- The stores differ at most in their hidden bindings. -/
structure AgreeExcept (hidden : ScopeId → String → Prop) (s t : Store) : Prop where
  size : s.scopes.size = t.scopes.size
  identity : s.nextIdentity = t.nextIdentity
  parent : ∀ id, s.parent? id = t.parent? id
  bound : ∀ id name, ¬ hidden id name → s.local? id name = t.local? id name

namespace AgreeExcept

theorem refl (hidden : ScopeId → String → Prop) (s : Store) : s.AgreeExcept hidden s :=
  ⟨rfl, rfl, fun _ => rfl, fun _ _ _ => rfl⟩

theorem trans (h : s.AgreeExcept hidden t) (h' : t.AgreeExcept hidden u) :
    s.AgreeExcept hidden u where
  size := h.size.trans h'.size
  identity := h.identity.trans h'.identity
  parent id := (h.parent id).trans (h'.parent id)
  bound id name hid := (h.bound id name hid).trans (h'.bound id name hid)

/-- A name that is not hidden is found in the same scope. -/
theorem find? (h : s.AgreeExcept hidden t) (hname : ∀ id, ¬ hidden id name) (id : ScopeId) :
    s.find? id name = t.find? id name :=
  find?_congr h.parent (fun id' => h.bound id' name (hname id')) id

theorem get? (h : s.AgreeExcept hidden t) (hname : ∀ id, ¬ hidden id name) (id : ScopeId) :
    s.get? id name = t.get? id name := by
  rw [Store.get?, Store.get?, h.find? hname]

theorem define (h : s.AgreeExcept hidden t) (id : ScopeId) (name : String) (v : Value) :
    (s.define id name v).AgreeExcept hidden (t.define id name v) where
  size := by simpa using h.size
  identity := h.identity
  parent id' := by simpa using h.parent id'
  bound id' name' hid := by rw [local?_define, local?_define, h.size, h.bound id' name' hid]

/-- A hidden binding may be changed on one side alone. -/
theorem define_hidden {id : ScopeId} (hid : hidden id name) (s : Store) (v : Value) :
    s.AgreeExcept hidden (s.define id name v) where
  size := (size_define s id name v).symm
  identity := rfl
  parent id' := (parent?_define s id id' name v).symm
  bound id' name' hid' := by
    rw [local?_define, if_neg]
    rintro ⟨-, rfl, rfl⟩
    exact hid' hid

theorem assign (h : s.AgreeExcept hidden t) (hname : ∀ id, ¬ hidden id name) (id : ScopeId)
    (v : Value) :
    (s.assign id name v).1 = (t.assign id name v).1 ∧
      (s.assign id name v).2.AgreeExcept hidden (t.assign id name v).2 := by
  rw [Store.assign_eq, Store.assign_eq, h.find? hname]
  cases t.find? id name with
  | none => exact ⟨rfl, h⟩
  | some found => exact ⟨rfl, h.define found.1 name v⟩

theorem newScope (h : s.AgreeExcept hidden t) (parent : Option ScopeId) (b : Bindings) :
    (s.newScope parent b).2.AgreeExcept hidden (t.newScope parent b).2 where
  size := by simpa using h.size
  identity := h.identity
  parent id := by rw [parent?_newScope, parent?_newScope, h.size, h.parent]
  bound id name hid := by rw [local?_newScope, local?_newScope, h.size, h.bound id name hid]

theorem newIdentity (h : s.AgreeExcept hidden t) :
    s.newIdentity.2.AgreeExcept hidden t.newIdentity.2 :=
  ⟨h.size, by simpa using h.identity, h.parent, h.bound⟩

end AgreeExcept

/-! ### Hidden bindings that stay -/

/-- The hidden bindings of the first store are the same in the second one, which may have more
scopes. -/
structure Keeps (hidden : ScopeId → String → Prop) (s t : Store) : Prop where
  size : s.scopes.size ≤ t.scopes.size
  bound : ∀ id name, hidden id name → id < s.scopes.size → t.local? id name = s.local? id name

namespace Keeps

theorem refl (hidden : ScopeId → String → Prop) (s : Store) : s.Keeps hidden s :=
  ⟨Nat.le_refl _, fun _ _ _ _ => rfl⟩

theorem define (h : s.Keeps hidden t) {id : ScopeId} (hid : ¬ hidden id name) (v : Value) :
    s.Keeps hidden (t.define id name v) where
  size := by simpa using h.size
  bound id' name' hid' hlt := by
    rw [local?_define, if_neg, h.bound id' name' hid' hlt]
    rintro ⟨-, rfl, rfl⟩
    exact hid hid'

theorem assign (h : s.Keeps hidden t) (hname : ∀ id, ¬ hidden id name) (id : ScopeId) (v : Value) :
    s.Keeps hidden (t.assign id name v).2 := by
  rw [Store.assign_eq]
  cases t.find? id name with
  | none => exact h
  | some found => exact h.define (hname found.1) v

theorem newScope (h : s.Keeps hidden t) (parent : Option ScopeId) (b : Bindings) :
    s.Keeps hidden (t.newScope parent b).2 where
  size := by
    rw [size_newScope]
    exact Nat.le_succ_of_le h.size
  bound id name hid hlt := by
    have hne : id ≠ t.scopes.size := Nat.ne_of_lt (Nat.lt_of_lt_of_le hlt h.size)
    rw [local?_newScope, if_neg hne, h.bound id name hid hlt]

theorem newIdentity (h : s.Keeps hidden t) : s.Keeps hidden t.newIdentity.2 :=
  ⟨h.size, h.bound⟩

end Keeps

/-! ### Scopes that are spared -/

variable {spared : ScopeId → Prop} {id : ScopeId}

/-- The second store has come of the first one, and the spared scopes of the first are in it as they
were. -/
structure Spares (spared : ScopeId → Prop) (s t : Store) : Prop where
  size : s.scopes.size ≤ t.scopes.size
  identity : s.nextIdentity ≤ t.nextIdentity
  scope : ∀ id < s.scopes.size, spared id → t.scope? id = s.scope? id

namespace Spares

theorem refl (spared : ScopeId → Prop) (s : Store) : s.Spares spared s :=
  ⟨Nat.le_refl _, Nat.le_refl _, fun _ _ _ => rfl⟩

theorem define (h : s.Spares spared t) (hid : id < s.scopes.size → ¬ spared id) (name : String)
    (v : Value) : s.Spares spared (t.define id name v) where
  size := by simpa using h.size
  identity := h.identity
  scope id' hlt hspared := by
    have hne : id ≠ id' := by
      rintro rfl
      exact hid hlt hspared
    rw [scope?_define_of_ne hne, h.scope id' hlt hspared]

theorem newScope (h : s.Spares spared t) (parent : Option ScopeId) (b : Bindings) :
    s.Spares spared (t.newScope parent b).2 where
  size := by
    rw [size_newScope]
    exact Nat.le_succ_of_le h.size
  identity := h.identity
  scope id hlt hspared := by
    have hne : id ≠ t.scopes.size := Nat.ne_of_lt (Nat.lt_of_lt_of_le hlt h.size)
    rw [scope?_newScope_of_ne hne, h.scope id hlt hspared]

theorem newIdentity (h : s.Spares spared t) : s.Spares spared t.newIdentity.2 :=
  ⟨h.size, Nat.le_succ_of_le h.identity, h.scope⟩

end Spares

end Store

end TimelineLisp
