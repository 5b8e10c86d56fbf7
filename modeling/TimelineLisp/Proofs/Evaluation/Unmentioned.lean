import Mathlib
import TimelineLisp.Proofs.Evaluation.Lockstep
import TimelineLisp.Proofs.Store.WellFormed

/-!
# Unmentioned names

What a scope binds a name to does not matter to a form that does not mention the name, as long as no
closure of the store mentions it either: **with the name bound to another value, or not bound at
all, the form has the same value or fault and shows the same text** (`eval_rebind_agrees`), and the
two stores still differ in that one binding at most.
-/

namespace TimelineLisp

/-! ### Changing one binding -/

/-- The bindings without a name. -/
def Bindings.erase (name : String) (b : Bindings) : Bindings :=
  b.filter (·.1 ≠ name)

theorem Bindings.get?_erase (b : Bindings) (n m : String) :
    get? (erase n b) m = if n = m then none else get? b m := by
  induction b with
  | nil => simp [erase]
  | cons p b ih =>
    obtain ⟨k, v⟩ := p
    by_cases hk : k = n
    · have hgone : erase n ((k, v) :: b) = erase n b := by simp [erase, hk]
      rw [hgone, ih, get?_cons, hk]
      split_ifs <;> rfl
    · have hstays : erase n ((k, v) :: b) = (k, v) :: erase n b := by simp [erase, hk]
      rw [hstays, get?_cons, get?_cons, ih]
      split_ifs with hkm hnm
      · exact absurd (hkm.trans hnm.symm) hk
      · rfl
      · rfl
      · rfl

namespace Store

/-- The store in which a scope binds a name to this value, or does not bind it. -/
def rebind (s : Store) (id : ScopeId) (name : String) : Option Value → Store
  | some v => s.define id name v
  | none => s.modifyBindings id (.erase name)

/-- The two stores differ at most in what the scope binds the name to. -/
abbrev DifferAt (id : ScopeId) (name : String) : Store → Store → Prop :=
  AgreeExcept fun id' name' => id' = id ∧ name' = name

theorem parent?_rebind (s : Store) (id id' : ScopeId) (name : String) (bound : Option Value) :
    (s.rebind id name bound).parent? id' = s.parent? id' := by
  cases bound with
  | some v => exact parent?_define s id id' name v
  | none =>
    simp only [parent?, scope?, rebind, modifyBindings, Array.getElem?_modify]
    split_ifs with hid
    · subst hid
      cases s.scopes[id]? <;> rfl
    · rfl

/-- One name in one scope changes, if there is such a scope. -/
theorem local?_rebind (s : Store) (id id' : ScopeId) (name name' : String) (bound : Option Value) :
    (s.rebind id name bound).local? id' name' =
      if id < s.scopes.size ∧ id = id' ∧ name = name' then bound else s.local? id' name' := by
  cases bound with
  | some v => exact local?_define s id id' name name' v
  | none =>
    simp only [local?, scope?, rebind, modifyBindings, Array.getElem?_modify]
    by_cases hid : id = id'
    · subst hid
      by_cases hlt : id < s.scopes.size
      · simp [hlt, Bindings.get?_erase]
      · simp [hlt]
    · simp [hid]

theorem differAt_rebind (s : Store) (id : ScopeId) (name : String) (bound : Option Value) :
    DifferAt id name s (s.rebind id name bound) where
  size := by cases bound <;> simp [rebind, modifyBindings]
  identity := by cases bound <;> rfl
  parent id' := (s.parent?_rebind id id' name bound).symm
  bound id' name' hother := by
    rw [local?_rebind, if_neg]
    rintro ⟨-, rfl, rfl⟩
    exact hother ⟨rfl, rfl⟩

end Store

/-! ### Evaluation -/

/-- The outcomes have the same value or fault and the same text shown, and leave stores that differ
at most in what the scope binds the name to. -/
inductive Outcome.DifferAt (id : ScopeId) (name : String) : Outcome Value → Outcome Value → Prop
  | value {v : Value} {u u' : World} (shown : u.shown = u'.shown)
    (stores : u.store.DifferAt id name u'.store) : DifferAt id name (.value v u) (.value v u')
  | error {e : EvalError} {u u' : World} (shown : u.shown = u'.shown)
    (stores : u.store.DifferAt id name u'.store) : DifferAt id name (.error e u) (.error e u')
  | outOfFuel : DifferAt id name .outOfFuel .outOfFuel

/-- **What a scope binds an unmentioned name to does not matter.**  A form that does not mention the
name has the same outcome whatever the name is bound to in a scope, and if it is not bound there, as
long as no closure that the store holds mentions it in its body. -/
theorem eval_rebind_agrees (name : String) (form : Form) (hform : ¬ form.Mentions name) (w : World)
    (hclosures : ∀ id n v c, w.store.local? id n = some v → v.Holds c →
      ∀ f ∈ c.body, ¬ f.Mentions name)
    (fuel : ℕ) (scope id : ScopeId) (bound : Option Value) :
    Outcome.DifferAt id name (Evaluation.eval fuel form scope w)
      (Evaluation.eval fuel form scope { w with store := w.store.rebind id name bound }) := by
  let w' : World := { w with store := w.store.rebind id name bound }
  have hagree : w.store.AgreeExcept (Fragment.without name id).hidden w'.store :=
    w.store.differAt_rebind id name bound
  have hwithin : w.store.Within (.without name id) := fun id' n v _ hv =>
    ⟨fun c hc => hclosures id' n v c hv hc, fun _ _ => trivial⟩
  have halike := (Fragment.without name id).eval_alike hagree hwithin hform fuel scope
  -- both runs have added the same text to the same text
  have hshown : ∀ {u u' : World}, (∃ text, u.shown = w.shown ++ text ∧ u'.shown = w.shown ++ text) →
      u.shown = u'.shown := by
    rintro u u' ⟨text, hu, hu'⟩
    rw [hu, hu']
  change Outcome.DifferAt id name _ (Evaluation.eval fuel form scope w')
  generalize Evaluation.eval fuel form scope w = o at halike ⊢
  generalize Evaluation.eval fuel form scope w' = o' at halike ⊢
  cases halike with
  | value h _ => exact .value (hshown h.text) h.agree
  | error h => exact .error (hshown h.text) h.agree
  | outOfFuel => exact .outOfFuel

/-- A call of a closure after a native procedure that nothing mentions has been taken away. -/
theorem call_without_car :
    ∃ w u u' : World,
      w.store.local? rootScope "car" = some (.procedure (.native .head)) ∧
      (w.store.rebind rootScope "car" none).local? rootScope "car" = none ∧
      Evaluation.eval 9 (.list [.symbol "f", .number 2]) rootScope w =
        .value (.list [.number 2, .number 2]) u ∧
      Evaluation.eval 9 (.list [.symbol "f", .number 2]) rootScope
        { w with store := w.store.rebind rootScope "car" none } =
        .value (.list [.number 2, .number 2]) u' ∧
      u.store.DifferAt rootScope "car" u'.store := by
  let body : Form := .list [.symbol "list", .symbol "x", .symbol "x"]
  let c : Closure := ⟨Store.standard.nextIdentity, some "f", ["x"], none, [body], rootScope⟩
  let w : World := ⟨Store.standard.newIdentity.2.define rootScope "f" (.procedure (.closure c)), ""⟩
  let u : World :=
    { w with store := (w.store.newScope (some rootScope) [("x", .number 2)]).2 }
  have hclosures : ∀ id n v d, w.store.local? id n = some v → v.Holds d →
      ∀ f ∈ d.body, ¬ f.Mentions "car" := by
    intro id n v d hv hd
    rw [Store.local?_define] at hv
    split_ifs at hv
    · cases hv
      cases hd
      simp [c, body]
    · obtain ⟨native, rfl⟩ := Store.local?_standard hv
      cases hd
  have hcall : Evaluation.eval 9 (.list [.symbol "f", .number 2]) rootScope w =
      .value (.list [.number 2, .number 2]) u := by cbv
  have hagrees := eval_rebind_agrees "car" (.list [.symbol "f", .number 2]) (by simp) w hclosures 9
    rootScope rootScope none
  rw [hcall] at hagrees
  generalize hrun : Evaluation.eval 9 (.list [.symbol "f", .number 2]) rootScope
    { w with store := w.store.rebind rootScope "car" none } = o at hagrees
  cases hagrees with
  | @value _ _ u' _ stores =>
    refine ⟨w, u, u', by cbv, ?_, hcall, hrun, stores⟩
    rw [Store.local?_rebind, if_pos ⟨by decide, rfl, rfl⟩]

end TimelineLisp
