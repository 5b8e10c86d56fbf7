import Mathlib.Data.Option.Basic
import TimelineLisp.Proofs.Store.Agreement
import TimelineLisp.Proofs.Store.WellFormed

/-!
# Stores that differ in the numbers of what is new

Scopes and closures are numbered as they are made, so two runs that make the same things from
different starts give them different numbers.  A `Renaming` moves all numbers from some point on up
by a fixed amount, for scopes and for identities, and **two stores are renamed to each other**
(`Store.Renamed`) if they are the same but for these numbers: scopes lie inside each other alike and
bind the same names to values that differ in their closures' numbers alone.

Looking names up, binding them and making scopes and identities commute with a renaming.  The moved
numbers keep their order and stay distinct, and this is all that is asked of them: that a scope is
older than the scopes inside it, and that two closures are told apart by their identities.

A store that is renamed to itself and more (`Store.renamed_of_spares`) needs to know its own numbers
from those to come: its closures belong to scopes of its own and have identities that it has given
out (`Store.Numbered`).
-/

namespace TimelineLisp

/-! ### Numbers that are moved up -/

/-- The number, moved up by `offset` unless it is less than `start`. -/
def moveUp (start offset n : ℕ) : ℕ :=
  if n < start then n else n + offset

section MoveUp

variable {start offset m n : ℕ}

theorem moveUp_of_lt (h : n < start) : moveUp start offset n = n :=
  if_pos h

theorem moveUp_of_le (h : start ≤ n) : moveUp start offset n = n + offset :=
  if_neg (Nat.not_lt_of_le h)

theorem moveUp_lt_iff : moveUp start offset m < moveUp start offset n ↔ m < n := by
  unfold moveUp
  split_ifs <;> omega

theorem moveUp_inj : moveUp start offset m = moveUp start offset n ↔ m = n := by
  unfold moveUp
  split_ifs <;> omega

theorem moveUp_zero : moveUp start 0 n = n := by
  unfold moveUp
  split_ifs <;> omega

end MoveUp

/-! ### Renamings -/

/-- Which numbers are moved up, and how far. -/
structure Renaming where
  /-- The first scope that is moved. -/
  firstScope : ScopeId
  /-- How far scopes are moved. -/
  scopeOffset : ℕ
  /-- The first identity that is moved. -/
  firstIdentity : ℕ
  /-- How far identities are moved. -/
  identityOffset : ℕ

namespace Renaming

/-- The number that a scope has after the renaming. -/
def scope (r : Renaming) (id : ScopeId) : ScopeId :=
  moveUp r.firstScope r.scopeOffset id

/-- The identity that a closure has after the renaming. -/
def identity (r : Renaming) (n : ℕ) : ℕ :=
  moveUp r.firstIdentity r.identityOffset n

/-- The second closure is the first one, renamed. -/
structure Closures (r : Renaming) (c d : Closure) : Prop extends c.Alike d where
  scope : d.scope = r.scope c.scope
  identity : d.identity = r.identity c.identity

/-- The second value is the first one, with its closures renamed. -/
abbrev Values (r : Renaming) : Value → Value → Prop :=
  Value.Related (fun _ => True) r.Closures

theorem correspondence (r : Renaming) : Closure.Correspondence r.Closures where
  alike h := h.toAlike
  identity hc hd := by rw [hc.identity, hd.identity, identity, identity, moveUp_inj]

/-- A value is renamed to itself if all its closures have numbers that are not moved. -/
theorem values_self {r : Renaming} {v : Value}
    (h : ∀ c, v.Holds c → c.scope < r.firstScope ∧ c.identity < r.firstIdentity) :
    r.Values v v := by
  refine Value.related_self (fun c hc => ?_) fun _ _ => trivial
  obtain ⟨hscope, hidentity⟩ := h c hc
  exact ⟨⟨rfl, rfl, rfl, rfl⟩, (moveUp_of_lt hscope).symm, (moveUp_of_lt hidentity).symm⟩

end Renaming

/-! ### Renamed stores -/

namespace Store

/-- The second store is the first one, renamed: what is not moved is in both, and both have come
equally far beyond it. -/
structure Renamed (r : Renaming) (s t : Store) : Prop where
  scopes : r.firstScope ≤ s.scopes.size
  identities : r.firstIdentity ≤ s.nextIdentity
  size : t.scopes.size = r.scope s.scopes.size
  identity : t.nextIdentity = r.identity s.nextIdentity
  parent : ∀ id, t.parent? (r.scope id) = (s.parent? id).map r.scope
  bound : ∀ id name, Option.Rel r.Values (s.local? id name) (t.local? (r.scope id) name)

namespace Renamed

variable {r : Renaming} {s t : Store} {id : ScopeId} {name : String} {v u : Value}

/-- A name is found in the same scope, renamed. -/
theorem find? (h : s.Renamed r t) (id : ScopeId) (name : String) :
    Option.Rel (fun x y => y.1 = r.scope x.1 ∧ r.Values x.2 y.2) (s.find? id name)
      (t.find? (r.scope id) name) := by
  -- outwards along the enclosing scopes, whose numbers get smaller on both sides
  induction id using Nat.strongRecOn with
  | ind id ih =>
    rw [find?_eq, find?_eq t, h.parent id]
    have hbound := h.bound id name
    generalize s.local? id name = here at hbound ⊢
    generalize t.local? (r.scope id) name = there at hbound ⊢
    cases hbound with
    | some hv => exact .some ⟨rfl, hv⟩
    | none =>
      cases s.parent? id with
      | none => exact .none
      | some parent =>
        simp only [Option.map_some, Renaming.scope, moveUp_lt_iff]
        split_ifs with hlt
        · exact ih parent hlt
        · exact .none

theorem get? (h : s.Renamed r t) (id : ScopeId) (name : String) :
    Option.Rel r.Values (s.get? id name) (t.get? (r.scope id) name) := by
  have hfind := h.find? id name
  unfold Store.get?
  generalize s.find? id name = here at hfind ⊢
  generalize t.find? (r.scope id) name = there at hfind ⊢
  cases hfind with
  | some hv => exact .some hv.2
  | none => exact .none

theorem define (h : s.Renamed r t) (id : ScopeId) (name : String) (hv : r.Values v u) :
    (s.define id name v).Renamed r (t.define (r.scope id) name u) where
  scopes := by simpa using h.scopes
  identities := h.identities
  size := by simpa using h.size
  identity := h.identity
  parent id' := by simpa using h.parent id'
  bound id' name' := by
    have hplace : r.scope id < t.scopes.size ∧ r.scope id = r.scope id' ∧ name = name' ↔
        id < s.scopes.size ∧ id = id' ∧ name = name' := by
      rw [h.size, Renaming.scope, Renaming.scope, Renaming.scope, moveUp_lt_iff, moveUp_inj]
    rw [local?_define, local?_define, if_congr hplace rfl rfl]
    split_ifs
    · exact .some hv
    · exact h.bound id' name'

theorem assign (h : s.Renamed r t) (id : ScopeId) (name : String) (hv : r.Values v u) :
    (s.assign id name v).1 = (t.assign (r.scope id) name u).1 ∧
      (s.assign id name v).2.Renamed r (t.assign (r.scope id) name u).2 := by
  have hfind := h.find? id name
  rw [Store.assign_eq, Store.assign_eq]
  generalize s.find? id name = here at hfind ⊢
  generalize t.find? (r.scope id) name = there at hfind ⊢
  cases hfind with
  | none => exact ⟨rfl, h⟩
  | @some x y hxy =>
    obtain ⟨target, old⟩ := x
    obtain ⟨target', old'⟩ := y
    obtain ⟨rfl, -⟩ := hxy
    exact ⟨rfl, h.define target name hv⟩

theorem scope_eq_size_iff (h : s.Renamed r t) (id : ScopeId) :
    r.scope id = t.scopes.size ↔ id = s.scopes.size := by
  rw [h.size, Renaming.scope, Renaming.scope, moveUp_inj]

/-- Two scopes that are made at the same point have numbers that are renamed to each other. -/
theorem newScope (h : s.Renamed r t) (parent : ScopeId) {b b' : Bindings}
    (hb : ∀ name, Option.Rel r.Values (b.get? name) (b'.get? name)) :
    (s.newScope (some parent) b).2.Renamed r (t.newScope (some (r.scope parent)) b').2 where
  scopes := by
    rw [size_newScope]
    exact Nat.le_succ_of_le h.scopes
  identities := h.identities
  size := by
    rw [size_newScope, size_newScope, h.size, Renaming.scope, Renaming.scope,
      moveUp_of_le h.scopes, moveUp_of_le (Nat.le_succ_of_le h.scopes)]
    omega
  identity := h.identity
  parent id := by
    rw [parent?_newScope, parent?_newScope, if_congr (h.scope_eq_size_iff id) rfl rfl]
    split_ifs
    · rfl
    · exact h.parent id
  bound id name := by
    rw [local?_newScope, local?_newScope, if_congr (h.scope_eq_size_iff id) rfl rfl]
    split_ifs
    · exact hb name
    · exact h.bound id name

theorem newIdentity (h : s.Renamed r t) : s.newIdentity.2.Renamed r t.newIdentity.2 where
  scopes := h.scopes
  identities := Nat.le_succ_of_le h.identities
  size := h.size
  identity := by
    rw [nextIdentity_newIdentity, nextIdentity_newIdentity, h.identity, Renaming.identity,
      Renaming.identity, moveUp_of_le h.identities, moveUp_of_le (Nat.le_succ_of_le h.identities)]
    omega
  parent := h.parent
  bound := h.bound

end Renamed

/-! ### A store and what it grows into -/

/-- Leaves alone what is in the first store, and moves what is made from it to what is made from the
second one. -/
def renamingTo (s t : Store) : Renaming where
  firstScope := s.scopes.size
  scopeOffset := t.scopes.size - s.scopes.size
  firstIdentity := s.nextIdentity
  identityOffset := t.nextIdentity - s.nextIdentity

/-- **A store is renamed to what it has grown into**, if its scopes are in there as they were. -/
theorem renamed_of_spares {s t : Store} (hs : s.WellFormed) (hn : s.Numbered)
    (h : s.Spares (fun _ => True) t) : s.Renamed (s.renamingTo t) t := by
  have hsize := h.size
  have hidentity := h.identity
  have hscope : ∀ id < s.scopes.size, (s.renamingTo t).scope id = id := fun id hid =>
    moveUp_of_lt hid
  have hbeyond : ∀ id, s.scopes.size ≤ id → t.scopes.size ≤ (s.renamingTo t).scope id := by
    intro id hid
    simp only [Renaming.scope, renamingTo, moveUp_of_le hid]
    omega
  refine ⟨Nat.le_refl _, Nat.le_refl _, ?_, ?_, fun id => ?_, fun id name => ?_⟩
  · simp only [Renaming.scope, renamingTo, moveUp_of_le (Nat.le_refl _)]
    omega
  · simp only [Renaming.identity, renamingTo, moveUp_of_le (Nat.le_refl _)]
    omega
  · rcases Nat.lt_or_ge id s.scopes.size with hid | hid
    · have hparent : t.parent? id = s.parent? id := by
        rw [parent?, parent?, h.scope id hid trivial]
      rw [hscope id hid, hparent]
      cases hp : s.parent? id with
      | none => rfl
      | some parent =>
        have hlt : parent < s.scopes.size := hs.parent_exists hp
        rw [Option.map_some, hscope parent hlt]
    · -- there is no such scope yet, on either side
      have hnone : s.parent? id = none := by simp [parent?, scope?, hid]
      have hnone' : t.parent? ((s.renamingTo t).scope id) = none := by
        simp [parent?, scope?, hbeyond id hid]
      rw [hnone, hnone']
      rfl
  · rcases Nat.lt_or_ge id s.scopes.size with hid | hid
    · have hlocal : t.local? id name = s.local? id name := by
        rw [local?, local?, h.scope id hid trivial]
      rw [hscope id hid, hlocal]
      cases hl : s.local? id name with
      | none => exact .none
      | some v =>
        refine .some (Renaming.values_self fun c hc => ?_)
        exact ⟨(hs.value hl c hc).scope, hn id name v c hl hc⟩
    · rw [local?_eq_none_of_size_le hid, local?_eq_none_of_size_le (hbeyond id hid)]
      exact .none

/-- No scope is moved where none was made. -/
theorem scope_renamingTo_newIdentity (s : Store) (id : ScopeId) :
    (s.renamingTo s.newIdentity.2).scope id = id := by
  have hoffset : s.newIdentity.2.scopes.size - s.scopes.size = 0 := Nat.sub_self _
  simp only [Renaming.scope, renamingTo, hoffset, moveUp_zero]

/-- **A store is renamed to itself with one more identity given out**, if its closures have
identities that it has given out before. -/
theorem renamed_newIdentity {s : Store} (hn : s.Numbered) :
    s.Renamed (s.renamingTo s.newIdentity.2) s.newIdentity.2 := by
  have hscope := s.scope_renamingTo_newIdentity
  refine ⟨Nat.le_refl _, Nat.le_refl _, ?_, ?_, fun id => ?_, fun id name => ?_⟩
  · rw [hscope, size_newIdentity]
  · simp only [Renaming.identity, renamingTo, moveUp_of_le (Nat.le_refl _),
      nextIdentity_newIdentity]
    omega
  · rw [hscope, parent?_newIdentity]
    cases s.parent? id with
    | none => rfl
    | some parent => rw [Option.map_some, hscope]
  · rw [hscope, local?_newIdentity]
    cases hl : s.local? id name with
    | none => exact .none
    | some v =>
      refine .some (Value.related_self (fun c hc => ?_) fun _ _ => trivial)
      have hidentity : c.identity < s.nextIdentity := hn id name v c hl hc
      exact ⟨⟨rfl, rfl, rfl, rfl⟩, (hscope c.scope).symm, (moveUp_of_lt hidentity).symm⟩

end Store

end TimelineLisp
