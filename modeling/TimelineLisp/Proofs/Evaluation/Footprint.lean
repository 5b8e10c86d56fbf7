import Mathlib
import TimelineLisp.Proofs.Evaluation.Lockstep
import TimelineLisp.Proofs.Evaluation.Reached

/-!
# What an evaluation changes

Two special forms change a scope that is there already.  `set!` reaches out to the nearest scope
that binds the name, which may be any scope around the current one; `define` writes into the current
scope.  Where no `set!` is written, neither in the form nor in the body of a closure, **an
evaluation changes the scope it takes place in and no other** (`evalAt_changes_own_scope`): calls
and local bindings have scopes of their own, and what is defined there stays there.  If no `define`
is written in the form either, it changes nothing that was there, whatever the procedures that it
calls define.

The invariant that carries this is that no form with a `define` in it is evaluated in a scope that
is to be spared (`Simulation.sparing`).
-/

namespace TimelineLisp

/-! ### Special forms that are written in a form -/

/-- A list headed by the name is the form or is inside the lists that it is made of. -/
inductive Form.Heads (name : String) : Form → Prop
  | here {operands : List Form} : Heads name (.list (.symbol name :: operands))
  | item {items : List Form} {f : Form} : f ∈ items → Heads name f → Heads name (.list items)

theorem Form.heads_list_iff {name : String} {items : List Form} :
    (Form.list items).Heads name ↔
      items.head? = some (.symbol name) ∨ ∃ f ∈ items, f.Heads name := by
  constructor
  · rintro (_ | ⟨hf, hheads⟩)
    · exact .inl rfl
    · exact .inr ⟨_, hf, hheads⟩
  · rintro (hhead | ⟨f, hf, hheads⟩)
    · obtain ⟨operands, rfl⟩ := List.head?_eq_some_iff.1 hhead
      exact .here
    · exact .item hf hheads

@[simp]
theorem Form.not_heads_symbol {name n : String} : ¬ (Form.symbol n).Heads name :=
  nofun

@[simp]
theorem Form.not_heads_number {name : String} {n : Number} : ¬ (Form.number n).Heads name :=
  nofun

@[simp]
theorem Form.not_heads_text {name content : String} : ¬ (Form.text content).Heads name :=
  nofun

/-- The forms in which no list is headed by the name. -/
def Fragment.unheaded (name : String) : Fragment where
  forms f := ¬ f.Heads name
  symbols _ := True
  hidden _ _ := False
  items h hf hheads := h (.item hf hheads)
  datum _ := trivial
  apart _ _ h := h

/-! ### Evaluations that spare scopes -/

namespace Simulation

/-- A run beside itself that started from `s₀`: nothing is assigned, and definitions are made in
scopes that need not be spared, or that were not there in `s₀`. -/
def sparing (s₀ : Store) (spared : ScopeId → Prop) : Simulation where
  Stage := Unit
  order := Fragment.oneStage
  stores _ s t := s = t ∧ s.Within (.unheaded "set!") ∧ s₀.Spares spared s
  texts := Eq
  symbols := (Fragment.unheaded "set!").symbols
  closures _ c d := c = d ∧ c.Within (.unheaded "set!")
  jobs _ f p q := p = q ∧ ¬ f.Heads "set!" ∧ (f.Heads "define" → p < s₀.scopes.size → ¬ spared p)
  texts_append := append_eq_append
  correspondence _ := Closure.correspondence_self (Closure.Within (.unheaded "set!"))
  closures_mono _ h := h
  jobs_mono _ h := h
  items h hf := ⟨h.1, fun hheads => h.2.1 (.item hf hheads), fun hheads => h.2.2 (.item hf hheads)⟩
  datum _ := trivial
  find := by
    rintro - s t name p q ⟨rfl, hwithin, -⟩ ⟨rfl, hset, -⟩
    cases hget : s.get? p name with
    | none => exact .none
    | some v =>
      exact .some (Fragment.faces_iff.2 ⟨rfl, hwithin.get? hset hget⟩)
  close := by
    rintro - s t p q name params body ⟨rfl, hwithin, hspares⟩ - hbody hjobs
    obtain ⟨f, hf⟩ := List.exists_mem_of_ne_nil body hbody
    obtain ⟨rfl, -⟩ := hjobs f hf
    exact ⟨(), trivial, ⟨rfl, hwithin.newIdentity, hspares.newIdentity⟩, rfl,
      fun g hg => (hjobs g hg).2.1⟩
  define := by
    rintro - s t name operands v u p q ⟨rfl, hwithin, hspares⟩ ⟨rfl, -, hdefine⟩ - hv
    obtain ⟨rfl, hvalue⟩ := Fragment.faces_iff.1 hv
    exact ⟨(), trivial, rfl, hwithin.define hvalue p name, hspares.define (hdefine .here) name v⟩
  assign := by
    rintro - s t name operands v u p q - ⟨-, hset, -⟩
    exact absurd .here hset
  call := by
    rintro - s t c d b b' ⟨rfl, hwithin, hspares⟩ ⟨rfl, hc⟩ hb
    obtain ⟨rfl, hvalues⟩ := Fragment.bindings_of_faces hb
    refine ⟨(), trivial, ⟨rfl, hwithin.newScope _ hvalues, hspares.newScope _ b⟩, fun f hf => ?_⟩
    exact ⟨rfl, hc f hf, fun _ hlt => absurd hlt (Nat.not_lt_of_le hspares.size)⟩
  enter := by
    rintro - s t b b' body p q ⟨rfl, hwithin, hspares⟩ hb hbody hjobs
    obtain ⟨f, hf⟩ := List.exists_mem_of_ne_nil body hbody
    obtain ⟨rfl, -⟩ := hjobs f hf
    obtain ⟨rfl, hvalues⟩ := Fragment.bindings_of_faces hb
    refine ⟨(), trivial, ⟨rfl, hwithin.newScope _ hvalues, hspares.newScope _ b⟩, fun g hg => ?_⟩
    exact ⟨rfl, (hjobs g hg).2.1, fun _ hlt => absurd hlt (Nat.not_lt_of_le hspares.size)⟩

end Simulation

namespace Evaluation

/-- No list headed by the name is in the body of a closure of the store. -/
def UnheadedClosures (name : String) (s : Store) : Prop :=
  ∀ id n v c, s.local? id n = some v → v.Holds c → ∀ f ∈ c.body, ¬ f.Heads name

/-- **Scopes without definitions are spared.**  If a form is evaluated that makes no definition in
the spared scopes, they are what they were when it ends. -/
theorem spares_of_evalAt (spared : ScopeId → Prop) {fuel depth : ℕ} {form : Form}
    {scope : ScopeId} {w u : World} (hset : ¬ form.Heads "set!")
    (hclosures : UnheadedClosures "set!" w.store)
    (hdefine : form.Heads "define" → scope < w.store.scopes.size → ¬ spared scope)
    (hend : (evalAt fuel depth form scope w).world? = some u) :
    w.store.Spares spared u.store := by
  have hwithin : w.store.Within (.unheaded "set!") := fun id n v _ hv =>
    ⟨fun c hc => hclosures id n v c hv hc, fun _ _ => trivial⟩
  have hjob : (Simulation.sparing w.store spared).jobs () form scope scope := ⟨rfl, hset, hdefine⟩
  have hworlds : (Simulation.sparing w.store spared).Worlds () w w :=
    ⟨⟨rfl, hwithin, .refl _ _⟩, rfl⟩
  have hrun := Simulation.evalAt_simulates fuel depth hjob () trivial w w hworlds
  obtain ⟨_, _, _, _, hend'⟩ := hrun.exists_worlds hend
  exact hend'.stores.2.2

/-- **Without `set!`, an evaluation changes the scope it takes place in and no other** of those that
were there, whether it ends with a value or with a fault; and if no `define` is written in the form
either, it changes none of them.  Closures that are called may define what they like. -/
theorem evalAt_changes_own_scope (form : Form) (hset : ¬ form.Heads "set!") (w : World)
    (hclosures : UnheadedClosures "set!" w.store) (fuel depth : ℕ) (scope : ScopeId) (u : World)
    (hend : (evalAt fuel depth form scope w).world? = some u) :
    (∀ id < w.store.scopes.size, id ≠ scope → u.store.scope? id = w.store.scope? id) ∧
    (¬ form.Heads "define" →
      ∀ id < w.store.scopes.size, u.store.scope? id = w.store.scope? id) := by
  constructor
  · intro id hid hne
    have hspares := spares_of_evalAt (· ≠ scope) hset hclosures
      (fun _ _ h => h rfl) hend
    exact hspares.scope id hid hne
  · intro hdefine id hid
    have hspares := spares_of_evalAt (fun _ => True) hset hclosures
      (fun h => absurd h hdefine) hend
    exact hspares.scope id hid trivial

/-- A procedure that defines a name in its body is called from a scope inside the root: the
definition `(define z (f 2))` binds `z` in that scope and leaves the root alone, and the call
`(f 2)` alone changes neither. -/
theorem call_of_defining_procedure :
    ∃ w u u' : World,
      UnheadedClosures "set!" w.store ∧ w.store.scopes.size = 2 ∧
      evalAt 9 0 (.list [.symbol "define", .symbol "z", .list [.symbol "f", .number 2]]) 1 w =
        .value .void u ∧
      u.store.local? 1 "z" = some (.number 2) ∧
      u.store.scope? rootScope = w.store.scope? rootScope ∧
      evalAt 9 0 (.list [.symbol "f", .number 2]) 1 w = .value (.number 2) u' ∧
      u'.store.scope? rootScope = w.store.scope? rootScope ∧
      u'.store.scope? 1 = w.store.scope? 1 := by
  let c : Closure := ⟨Store.standard.nextIdentity, some "f", ["x"], none,
    [.list [.symbol "define", .symbol "y", .symbol "x"], .symbol "y"], rootScope⟩
  let s : Store := Store.standard.newIdentity.2.define rootScope "f" (.procedure (.closure c))
  let w : World := ⟨(s.newScope (some rootScope) []).2, ""⟩
  let called : Store :=
    (w.store.newScope (some rootScope) [("x", .number 2)]).2.define 2 "y" (.number 2)
  let u : World := ⟨called.define 1 "z" (.number 2), ""⟩
  let u' : World := ⟨called, ""⟩
  have hclosures : UnheadedClosures "set!" w.store := by
    intro id n v d hv hd
    rw [Store.local?_newScope] at hv
    split_ifs at hv
    · cases hv
    · rw [Store.local?_define] at hv
      split_ifs at hv
      · cases hv
        cases hd
        simp [c, Form.heads_list_iff]
      · obtain ⟨native, rfl⟩ := Store.local?_standard hv
        cases hd
  have hdefinition : evalAt 9 0
      (.list [.symbol "define", .symbol "z", .list [.symbol "f", .number 2]]) 1 w =
        .value .void u := by cbv
  have hcall : evalAt 9 0 (.list [.symbol "f", .number 2]) 1 w = .value (.number 2) u' := by cbv
  obtain ⟨hother, -⟩ := evalAt_changes_own_scope
    (.list [.symbol "define", .symbol "z", .list [.symbol "f", .number 2]])
    (by simp [Form.heads_list_iff]) w hclosures 9 0 1 u (by rw [hdefinition]; rfl)
  obtain ⟨-, hnone⟩ := evalAt_changes_own_scope (.list [.symbol "f", .number 2])
    (by simp [Form.heads_list_iff]) w hclosures 9 0 1 u' (by rw [hcall]; rfl)
  have hsize : w.store.scopes.size = 2 := rfl
  have hkept := hnone (by simp [Form.heads_list_iff])
  exact ⟨w, u, u', hclosures, hsize, hdefinition, by cbv, hother rootScope (by decide) (by decide),
    hcall, hkept rootScope (by decide), hkept 1 (by decide)⟩

end Evaluation

end TimelineLisp
