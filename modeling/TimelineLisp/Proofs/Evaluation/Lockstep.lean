import TimelineLisp.Proofs.Evaluation.Simulation
import TimelineLisp.Proofs.Store.Agreement

/-!
# Runs in lockstep

A `Fragment` of the language says which forms are evaluated and which symbols stand as data, and
which bindings none of these forms can name.  **Two runs of a form of the fragment, from stores that
agree but for the hidden bindings, go in lockstep** (`Fragment.eval_alike`): they have the same
value or the same fault, they show the same text, their stores agree again, and the hidden bindings
are what they were in each of them.  All closures and symbols that come up are in the fragment.

The forms that do not mention a name are such a fragment (`Fragment.without`): what the name is
bound to in one scope is hidden from them.
-/

namespace TimelineLisp

/-! ### Fragments -/

/-- A part of the language. -/
structure Fragment where
  /-- The forms that are evaluated. -/
  forms : Form → Prop
  /-- The symbols that stand as data. -/
  symbols : String → Prop
  /-- The bindings that no form of the fragment can name. -/
  hidden : ScopeId → String → Prop
  items : ∀ {fs : List Form} {f : Form}, forms (.list fs) → f ∈ fs → forms f
  datum : ∀ {name : String}, forms (.symbol name) → symbols name
  apart : ∀ {name : String}, forms (.symbol name) → ∀ id, ¬ hidden id name

variable {F : Fragment} {s : Store} {id : ScopeId} {name : String} {v : Value}

/-- The body of the closure is in the fragment. -/
def Closure.Within (F : Fragment) (c : Closure) : Prop :=
  ∀ f ∈ c.body, F.forms f

/-- All closures and symbols of the value are in the fragment. -/
structure Value.Within (F : Fragment) (v : Value) : Prop where
  closures : ∀ c, v.Holds c → c.Within F
  symbols : ∀ name, v.Names name → F.symbols name

/-- All bindings in sight have values in the fragment. -/
def Store.Within (F : Fragment) (s : Store) : Prop :=
  ∀ id name v, ¬ F.hidden id name → s.local? id name = some v → v.Within F

namespace Store.Within

theorem get? (h : s.Within F) (hname : F.forms (.symbol name)) (hv : s.get? id name = some v) :
    v.Within F := by
  obtain ⟨⟨target, u⟩, hfind, rfl⟩ := Option.map_eq_some_iff.1 hv
  exact h target name u (F.apart hname target) (local?_of_find? hfind)

theorem define (h : s.Within F) (hv : v.Within F) (id : ScopeId) (name : String) :
    (s.define id name v).Within F := by
  intro id' name' u hid hu
  rw [local?_define] at hu
  split_ifs at hu
  · cases hu
    exact hv
  · exact h id' name' u hid hu

theorem assign (h : s.Within F) (hv : v.Within F) (id : ScopeId) (name : String) :
    (s.assign id name v).2.Within F := by
  rw [Store.assign_eq]
  cases s.find? id name with
  | none => exact h
  | some found => exact h.define hv found.1 name

theorem newScope (h : s.Within F) (parent : Option ScopeId) {b : Bindings}
    (hb : ∀ name v, b.get? name = some v → v.Within F) : (s.newScope parent b).2.Within F := by
  intro id name v hid hv
  rw [local?_newScope] at hv
  split_ifs at hv
  · exact hb name v hv
  · exact h id name v hid hv

theorem newIdentity (h : s.Within F) : s.newIdentity.2.Within F :=
  h

end Store.Within

/-! ### Lockstep -/

namespace Fragment

/-- The values that face each other in lockstep. -/
def Faces (F : Fragment) : Value → Value → Prop :=
  Value.Related F.symbols fun c d => c = d ∧ c.Within F

theorem faces_iff {u : Value} : F.Faces v u ↔ v = u ∧ v.Within F := by
  constructor
  · intro h
    obtain ⟨heq, hclosures, hsymbols⟩ := Value.related_self_iff.1 h
    exact ⟨heq, hclosures, hsymbols⟩
  · rintro ⟨heq, hv⟩
    exact Value.related_self_iff.2 ⟨heq, hv.closures, hv.symbols⟩

theorem bindings_of_faces {b b' : Bindings} (h : Bindings.Related F.Faces b b') :
    b = b' ∧ ∀ name v, b.get? name = some v → v.Within F := by
  obtain ⟨heq, hvalues⟩ := h.self
  refine ⟨heq, fun name v hv => ?_⟩
  obtain ⟨hclosures, hsymbols⟩ := hvalues name v hv
  exact ⟨hclosures, hsymbols⟩

/-- The stores `s` and `t` that two runs come to, side by side, from `s₀` and `t₀`. -/
structure Stores (F : Fragment) (s₀ t₀ s t : Store) : Prop where
  agree : s.AgreeExcept F.hidden t
  within : s.Within F
  left : s₀.Keeps F.hidden s
  right : t₀.Keeps F.hidden t

namespace Stores

variable {s₀ t₀ t : Store}

theorem define (h : F.Stores s₀ t₀ s t) (hname : F.forms (.symbol name)) (hv : v.Within F)
    (id : ScopeId) : F.Stores s₀ t₀ (s.define id name v) (t.define id name v) where
  agree := h.agree.define id name v
  within := h.within.define hv id name
  left := h.left.define (F.apart hname id) v
  right := h.right.define (F.apart hname id) v

theorem assign (h : F.Stores s₀ t₀ s t) (hname : F.forms (.symbol name)) (hv : v.Within F)
    (id : ScopeId) : F.Stores s₀ t₀ (s.assign id name v).2 (t.assign id name v).2 where
  agree := (h.agree.assign (F.apart hname) id v).2
  within := h.within.assign hv id name
  left := h.left.assign (F.apart hname) id v
  right := h.right.assign (F.apart hname) id v

theorem newScope (h : F.Stores s₀ t₀ s t) (parent : Option ScopeId) {b : Bindings}
    (hb : ∀ name v, b.get? name = some v → v.Within F) :
    F.Stores s₀ t₀ (s.newScope parent b).2 (t.newScope parent b).2 where
  agree := h.agree.newScope parent b
  within := h.within.newScope parent hb
  left := h.left.newScope parent b
  right := h.right.newScope parent b

theorem newIdentity (h : F.Stores s₀ t₀ s t) :
    F.Stores s₀ t₀ s.newIdentity.2 t.newIdentity.2 where
  agree := h.agree.newIdentity
  within := h.within.newIdentity
  left := h.left.newIdentity
  right := h.right.newIdentity

end Stores

/-- The worlds `u` and `u'` that two runs come to, side by side, from `w` and `w'`: they have shown
the same text. -/
structure Beside (F : Fragment) (w w' u u' : World) : Prop
    extends F.Stores w.store w'.store u.store u'.store where
  text : ∃ text, u.shown = w.shown ++ text ∧ u'.shown = w'.shown ++ text

/-- Two runs from `w` and `w'` have ended alike. -/
inductive Alike (F : Fragment) (w w' : World) : Outcome Value → Outcome Value → Prop
  | value {v : Value} {u u' : World} (h : F.Beside w w' u u') (hv : v.Within F) :
    Alike F w w' (.value v u) (.value v u')
  | error {e : EvalError} {u u' : World} (h : F.Beside w w' u u') :
    Alike F w w' (.error e u) (.error e u')
  | outOfFuel : Alike F w w' .outOfFuel .outOfFuel

/-- All that is known of runs in lockstep is known from the start. -/
@[reducible]
def oneStage : Preorder Unit where
  le _ _ := True
  lt _ _ := False
  lt_iff_le_not_ge _ _ := by simp
  le_refl _ := trivial
  le_trans _ _ _ _ _ := trivial

/-- Two runs of the same form in the same scopes, from `w` and `w'`. -/
def simulation (F : Fragment) (w w' : World) : Simulation where
  Stage := Unit
  order := oneStage
  stores _ := F.Stores w.store w'.store
  texts a b := ∃ text, a = w.shown ++ text ∧ b = w'.shown ++ text
  symbols := F.symbols
  closures _ c d := c = d ∧ c.Within F
  jobs _ f p q := p = q ∧ F.forms f
  texts_append more h := by
    obtain ⟨text, rfl, rfl⟩ := h
    exact ⟨text ++ more, String.append_assoc .., String.append_assoc ..⟩
  correspondence _ := Closure.correspondence_self (Closure.Within F)
  closures_mono _ h := h
  jobs_mono _ h := h
  items h hf := ⟨h.1, F.items h.2 hf⟩
  datum h := F.datum h.2
  find := by
    rintro - s t name p q hst ⟨rfl, hname⟩
    rw [← hst.agree.get? (F.apart hname)]
    cases hget : s.get? p name with
    | none => exact .none
    | some v => exact .some (faces_iff.2 ⟨rfl, hst.within.get? hname hget⟩)
  close := by
    rintro - s t p q name params body hst - hbody hjobs
    obtain ⟨f, hf⟩ := List.exists_mem_of_ne_nil body hbody
    obtain ⟨rfl, -⟩ := hjobs f hf
    refine ⟨(), trivial, hst.newIdentity, ?_, ?_⟩
    · rw [hst.agree.identity]
    · exact fun g hg => (hjobs g hg).2
  define := by
    rintro - s t name operands v u p q hst - ⟨rfl, hname⟩ hv
    obtain ⟨rfl, hwithin⟩ := faces_iff.1 hv
    exact ⟨(), trivial, hst.define hname hwithin p⟩
  assign := by
    rintro - s t name operands v u p q hst - ⟨rfl, hname⟩ hv
    obtain ⟨rfl, hwithin⟩ := faces_iff.1 hv
    obtain ⟨hbound, -⟩ := hst.agree.assign (F.apart hname) p v
    exact ⟨hbound, (), trivial, hst.assign hname hwithin p⟩
  call := by
    rintro - s t c d b b' hst ⟨rfl, hc⟩ hb
    obtain ⟨rfl, hwithin⟩ := bindings_of_faces hb
    refine ⟨(), trivial, hst.newScope (some c.scope) hwithin, fun f hf => ⟨hst.agree.size, ?_⟩⟩
    exact hc f hf
  enter := by
    rintro - s t b b' body p q hst hb hbody hjobs
    obtain ⟨f, hf⟩ := List.exists_mem_of_ne_nil body hbody
    obtain ⟨rfl, -⟩ := hjobs f hf
    obtain ⟨rfl, hwithin⟩ := bindings_of_faces hb
    refine ⟨(), trivial, hst.newScope (some p) hwithin, fun g hg => ⟨hst.agree.size, ?_⟩⟩
    exact (hjobs g hg).2

/-- **Two runs of a form of the fragment go in lockstep**, from stores that agree but for the hidden
bindings. -/
theorem eval_alike (F : Fragment) {w w' : World} (hagree : w.store.AgreeExcept F.hidden w'.store)
    (hwithin : w.store.Within F) {form : Form} (hform : F.forms form) (fuel : ℕ) (scope : ScopeId) :
    F.Alike w w' (Evaluation.eval fuel form scope w) (Evaluation.eval fuel form scope w') := by
  have hjob : (F.simulation w w').jobs () form scope scope := ⟨rfl, hform⟩
  have hworlds : (F.simulation w w').Worlds () w w' :=
    ⟨⟨hagree, hwithin, .refl _ _, .refl _ _⟩, "", by simp⟩
  have hrun := Simulation.evalAt_simulates fuel 0 hjob () trivial w w' hworlds
  unfold Evaluation.eval
  generalize Evaluation.evalAt fuel 0 form scope w = o at hrun ⊢
  generalize Evaluation.evalAt fuel 0 form scope w' = o' at hrun ⊢
  cases hrun with
  | value _ _ hw hv =>
    obtain ⟨rfl, hwithin⟩ := faces_iff.1 hv
    exact .value ⟨hw.stores, hw.texts⟩ hwithin
  | error _ _ hw => exact .error ⟨hw.stores, hw.texts⟩
  | outOfFuel => exact .outOfFuel

end Fragment

/-! ### Unmentioned names -/

/-- The symbol is the form or is inside the lists that it is made of. -/
inductive Form.Mentions (name : String) : Form → Prop
  | here : Mentions name (.symbol name)
  | item {items : List Form} {f : Form} : f ∈ items → Mentions name f → Mentions name (.list items)

@[simp]
theorem Form.mentions_symbol_iff {name n : String} :
    (Form.symbol n).Mentions name ↔ n = name := by
  constructor
  · rintro (_ | _)
    rfl
  · rintro rfl
    exact .here

@[simp]
theorem Form.mentions_list_iff {name : String} {items : List Form} :
    (Form.list items).Mentions name ↔ ∃ f ∈ items, f.Mentions name := by
  constructor
  · rintro (_ | ⟨hf, hmentions⟩)
    exact ⟨_, hf, hmentions⟩
  · rintro ⟨f, hf, hmentions⟩
    exact .item hf hmentions

@[simp]
theorem Form.not_mentions_number {name : String} {n : Number} :
    ¬ (Form.number n).Mentions name :=
  nofun

/-- The forms without a name, which cannot tell what the name is bound to in a scope. -/
def Fragment.without (name : String) (scope : ScopeId) : Fragment where
  forms f := ¬ f.Mentions name
  symbols _ := True
  hidden id n := id = scope ∧ n = name
  items h hf hmentions := h (.item hf hmentions)
  datum _ := trivial
  apart h id hid := by
    obtain ⟨-, rfl⟩ := hid
    exact h .here

end TimelineLisp
