import TimelineLisp.Proofs.Store.WellFormed

/-!
# Names along enclosing scopes

Scopes share what is around them, so what is bound in one scope is seen from many.  A scope is seen
from another one (`Store.Sees`) if going outwards leads to it and nothing nearer binds the name.

**What an operation on one scope does to every other scope** is told by this relation alone
(`Store.scope_chain_laws`): a definition changes the name for the scopes that see the scope where it
is made, an assignment for those that resolve the name to the same scope.
-/

namespace TimelineLisp

/-- Binding a name and telling its old value is looking it up and binding it. -/
theorem Bindings.exchange_eq (name : String) (v : Value) (b : Bindings) :
    b.exchange name v = (b.get? name, b.insert name v) := by
  induction b with
  | nil => rfl
  | cons p more ih =>
    obtain ⟨n, u⟩ := p
    rw [exchange, insert, get?_cons]
    split_ifs with hn
    · rfl
    · rw [ih]

namespace Store

variable {s : Store} {a b target : ScopeId} {m n : String} {u v : Value}

theorem exchange_eq (s : Store) (id : ScopeId) (name : String) (v : Value) :
    s.exchange id name v = (s.local? id name, s.define id name v) := by
  simp only [exchange, Bindings.exchange_eq]
  rfl

/-! ### What is seen from a scope -/

/-- Going outwards from the scope `b` one comes to the scope `target`, and no scope in front of it
binds the name. -/
inductive Sees (s : Store) (name : String) : ScopeId → ScopeId → Prop
  | here {id : ScopeId} : Sees s name id id
  | outside {id parent target : ScopeId} (hlocal : s.local? id name = none)
    (hparent : s.parent? id = some parent) (hsees : Sees s name parent target) :
    Sees s name id target

/-- The two scopes resolve the name to the same scope. -/
def ResolveAlike (s : Store) (name : String) (a b : ScopeId) : Prop :=
  ∃ target, (s.local? target name).isSome ∧ s.Sees name a target ∧ s.Sees name b target

/-- A name is found in a scope that is seen and binds it. -/
theorem Sees.find? (h : s.Sees n b target) (htree : s.IsTree) (hv : s.local? target n = some v) :
    s.find? b n = some (target, v) := by
  induction h with
  | here => rw [find?_eq, hv]
  | outside hlocal hparent _ ih =>
    have hlt := htree hparent
    rw [find?_eq, hlocal, hparent]
    simp only [hlt, if_true]
    exact ih hv

/-- What is found is seen. -/
theorem sees_of_find? (h : s.find? b n = some (target, v)) : s.Sees n b target := by
  induction b using Nat.strongRecOn with
  | ind b ih =>
    rw [find?_eq] at h
    split at h
    · cases h
      exact .here
    · next hlocal =>
      split at h
      · cases h
      · next parent hparent =>
        split_ifs at h with hlt
        exact .outside hlocal hparent (ih parent hlt h)

/-! ### Definitions -/

/-- A definition does not hide the scope where it is made. -/
theorem Sees.define (h : s.Sees n b a) (v : Value) : (s.define a n v).Sees n b a := by
  induction h with
  | here => exact .here
  | @outside id parent a hlocal hparent _ ih =>
    by_cases hid : a = id
    · rw [hid]
      exact .here
    · refine .outside ?_ ?_ ih
      · rw [local?_define, if_neg (fun h => hid h.2.1), hlocal]
      · rw [parent?_define, hparent]

/-- A definition is found where the scope is seen. -/
theorem get?_define_of_sees (htree : s.IsTree) (ha : a < s.scopes.size) (h : s.Sees n b a)
    (v : Value) : (s.define a n v).get? b n = some v := by
  have htree' : (s.define a n v).IsTree := by
    intro id parent hparent
    rw [parent?_define] at hparent
    exact htree hparent
  have hlocal : (s.define a n v).local? a n = some v := by
    rw [local?_define, if_pos ⟨ha, rfl, rfl⟩]
  rw [get?, (h.define v).find? htree' hlocal]
  rfl

/-- A definition changes nothing where the scope is not seen. -/
theorem find?_define_of_not_sees (h : ¬ s.Sees n b a) (v : Value) :
    (s.define a n v).find? b n = s.find? b n := by
  induction b using Nat.strongRecOn with
  | ind b ih =>
    have hne : a ≠ b := by
      rintro rfl
      exact h .here
    have hlocal : (s.define a n v).local? b n = s.local? b n := by
      rw [local?_define, if_neg fun h => hne h.2.1]
    rw [find?_eq, find?_eq s, hlocal, parent?_define]
    cases hb : s.local? b n with
    | some u => rfl
    | none =>
      cases hparent : s.parent? b with
      | none => rfl
      | some parent =>
        dsimp only
        split_ifs with hlt
        · exact ih parent hlt fun hsees => h (.outside hb hparent hsees)
        · rfl

/-- A definition changes one name, for the scopes that see where it is made. -/
theorem get?_define_of_not (h : ¬ (m = n ∧ s.Sees n b a)) (v : Value) :
    (s.define a n v).get? b m = s.get? b m := by
  by_cases hm : m = n
  · subst hm
    rw [get?, get?, find?_define_of_not_sees fun hsees => h ⟨rfl, hsees⟩]
  · rw [get?, get?, find?_congr (fun id => parent?_define s a id n v) fun id => ?_]
    rw [local?_define, if_neg fun h => hm h.2.2.symm]

/-! ### Assignments -/

/-- An assignment is made if the name has a value. -/
theorem assign_fst (s : Store) (a : ScopeId) (n : String) (v : Value) :
    (s.assign a n v).1 = (s.get? a n).isSome := by
  rw [assign_eq, get?, Option.isSome_map]
  cases s.find? a n <;> rfl

/-- An assignment that is not made changes nothing. -/
theorem assign_snd_of_false (h : (s.assign a n v).1 = false) : (s.assign a n v).2 = s := by
  rw [assign_eq] at h ⊢
  cases hfind : s.find? a n with
  | none => rfl
  | some found =>
    rw [hfind] at h
    cases h

/-- An assignment is a definition in the scope that the name is resolved to. -/
theorem assign_snd_of_true (h : (s.assign a n v).1 = true) :
    ∃ target, (s.local? target n).isSome ∧ s.Sees n a target ∧
      (s.assign a n v).2 = s.define target n v := by
  rw [assign_eq] at h ⊢
  cases hfind : s.find? a n with
  | none =>
    rw [hfind] at h
    cases h
  | some found =>
    obtain ⟨target, u⟩ := found
    exact ⟨target, by rw [local?_of_find? hfind, Option.isSome_some], sees_of_find? hfind, rfl⟩

/-- A name is resolved to one scope. -/
theorem Sees.unique {target' : ScopeId} (h : s.Sees n b target) (h' : s.Sees n b target')
    (htree : s.IsTree) (hbound : (s.local? target n).isSome)
    (hbound' : (s.local? target' n).isSome) : target = target' := by
  obtain ⟨u, hu⟩ := Option.isSome_iff_exists.1 hbound
  obtain ⟨u', hu'⟩ := Option.isSome_iff_exists.1 hbound'
  have hfind := (h.find? htree hu).symm.trans (h'.find? htree hu')
  cases hfind
  rfl

/-- Scopes that resolve the name alike see the scope that one of them resolves it to. -/
theorem ResolveAlike.sees (h : s.ResolveAlike n a b) (htree : s.IsTree)
    (hbound : (s.local? target n).isSome) (hsees : s.Sees n a target) : s.Sees n b target := by
  obtain ⟨target', hbound', ha, hb⟩ := h
  obtain rfl := ha.unique hsees htree hbound' hbound
  exact hb

/-! ### Laws -/

/-- **How the scopes of a tree act on each other.**  An assignment from `a` is made if the name has
a value there; it changes the name for the scopes that resolve it to the same scope.  A definition
in `a` tells the value that the name had in `a` itself; it changes the name for the scopes that see
`a`.  Nothing else is changed, and no scope comes to stand inside another one. -/
theorem scope_chain_laws (htree : s.IsTree) (ha : a < s.scopes.size) (b : ScopeId) (m n : String)
    (v : Value) :
    ((s.assign a n v).1 = true ↔ ∃ u, s.get? a n = some u) ∧
    ((s.assign a n v).1 = false → (s.assign a n v).2 = s) ∧
    ((s.assign a n v).1 = true →
      (m = n ∧ s.ResolveAlike n a b → (s.assign a n v).2.get? b m = some v) ∧
      (¬ (m = n ∧ s.ResolveAlike n a b) → (s.assign a n v).2.get? b m = s.get? b m)) ∧
    (s.exchange a n v).1 = s.local? a n ∧
    (m = n ∧ s.Sees n b a → (s.exchange a n v).2.get? b m = some v) ∧
    (¬ (m = n ∧ s.Sees n b a) → (s.exchange a n v).2.get? b m = s.get? b m) ∧
    (∀ id, (s.assign a n v).2.parent? id = s.parent? id ∧
      (s.exchange a n v).2.parent? id = s.parent? id ∧
      (∀ more, (s.register a more).parent? id = s.parent? id) ∧
      (id < s.scopes.size → ∀ outer bindings,
        (s.newScope outer bindings).2.parent? id = s.parent? id)) := by
  rw [exchange_eq]
  refine ⟨?_, assign_snd_of_false, fun htrue => ?_, rfl, ?_, fun hnot => get?_define_of_not hnot v,
    fun id => ⟨?_, parent?_define s a id n v, fun more => parent?_modifyBindings s a id _,
      fun hid outer bindings => ?_⟩⟩
  · rw [assign_fst, Option.isSome_iff_exists]
  · obtain ⟨target, hbound, hsees, hassign⟩ := assign_snd_of_true htrue
    obtain ⟨u, hu⟩ := Option.isSome_iff_exists.1 hbound
    rw [hassign]
    constructor
    · rintro ⟨rfl, halike⟩
      exact get?_define_of_sees htree (lt_size_of_local? hu) (halike.sees htree hbound hsees) v
    · intro hnot
      refine get?_define_of_not ?_ v
      rintro ⟨rfl, hb⟩
      exact hnot ⟨rfl, target, hbound, hsees, hb⟩
  · rintro ⟨rfl, hsees⟩
    exact get?_define_of_sees htree ha hsees v
  · rw [assign_eq]
    cases s.find? a n with
    | none => rfl
    | some found => exact parent?_define s found.1 id n v
  · exact (grows_newScope s outer bindings).parent id hid

/-- A root that binds a name and two scopes inside it: what is assigned from one of them is seen
from the other. -/
theorem siblings_share_root :
    let s : Store := { scopes := #[⟨none, [("x", .number 1)]⟩, ⟨some 0, []⟩, ⟨some 0, []⟩] }
    s.IsTree ∧ 1 < s.scopes.size ∧ s.ResolveAlike "x" 1 2 ∧
      (s.assign 1 "x" (.number 2)).2.get? 2 "x" = some (.number 2) := by
  intro s
  have htree : s.IsTree := by
    intro id parent hparent
    obtain _ | _ | _ | id := id <;> cases hparent <;> decide
  have halike : s.ResolveAlike "x" 1 2 :=
    ⟨0, rfl, .outside rfl rfl .here, .outside rfl rfl .here⟩
  have htrue : (s.assign 1 "x" (.number 2)).1 = true := by
    rw [assign_fst, get?, Sees.find? (.outside rfl rfl .here) htree rfl]
    rfl
  obtain ⟨-, -, hassign, -⟩ := scope_chain_laws htree (a := 1) (by decide) 2 "x" "x" (.number 2)
  exact ⟨htree, by decide, halike, (hassign htrue).1 ⟨rfl, halike⟩⟩

end Store

end TimelineLisp
