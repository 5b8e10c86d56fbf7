import Mathlib
import TimelineLisp.Proofs.Evaluation.BreakOff
import TimelineLisp.Proofs.Evaluation.Simulation

/-!
# The stores that a run comes through

What a simulation of a run beside itself says of evaluations, it says of those that are broken off
(`Simulation.evalUntil_of_diagonal`), and so it is an invariant of every world that is passed.  Two
such invariants are used: stores are well formed (`Simulation.growthBeside`), and closures have
identities that were given out (`Simulation.numbering`).  Beside a run that shows other text, the
same simulation says that marks change no store (`Evaluation.exists_marked_world`).

**Every store that is reached from a standard root scope is well formed, and stores only grow**
(`Evaluation.reached_store_wellFormed`).
-/

namespace TimelineLisp

open Evaluation

/-! ### Runs that are broken off -/

namespace Simulation

section Points

variable {S : Simulation}

/-- The worlds at the end of runs that end alike face each other. -/
theorem Outcomes.exists_worlds {α β : Type} {i : S.Stage} {P : S.Stage → α → β → Prop}
    {o : Outcome α} {o' : Outcome β} (h : S.Outcomes i P o o') {u : World}
    (hu : o.world? = some u) : ∃ j u', i ≤ j ∧ o'.world? = some u' ∧ S.Worlds j u u' := by
  cases h with
  | @value a b w w' j hij hw hab =>
    cases hu
    exact ⟨j, w', hij, rfl, hw⟩
  | @error e w w' j hij hw =>
    cases hu
    exact ⟨j, w', hij, rfl, hw⟩
  | outOfFuel => cases hu

/-- The two runs show marks of their own, and are broken off in worlds that face each other. -/
theorem evalUntil_of_point {mark mark' : String} {stop stop' : World → Bool}
    (hpoint : ∀ i, S.Simulates i (fun _ _ _ => True) (point mark stop) (point mark' stop'))
    (fuel depth : ℕ) :
    S.Evaluators (evalUntil mark stop fuel) (evalUntil mark' stop' fuel) depth := by
  induction fuel generalizing depth with
  | zero => exact fun _ _ _ _ _ _ => .outOfFuel
  | succ fuel ih =>
    intro i f p q hjob
    refine (hpoint i).bind fun j hij _ _ _ => (evalBy ih depth (S.jobs_mono hij hjob)).bind ?_
    intro k _ v v' hv
    exact (hpoint k).bind fun l hkl _ _ _ =>
      simulates_pure fun m hlm => values_mono (hkl.trans hlm) hv

/-- What a simulation of a run beside itself says of evaluations, it says of those that are broken
off, since both sides are broken off in the same worlds. -/
theorem evalUntil_of_diagonal
    (hdiagonal : ∀ {i : S.Stage} {w w' : World}, S.Worlds i w w' → w = w') (mark : String)
    (stop : World → Bool) (fuel depth : ℕ) :
    S.Evaluators (evalUntil mark stop fuel) (evalUntil mark stop fuel) depth := by
  refine evalUntil_of_point ?_ fuel depth
  intro i j _ w w' hw
  obtain rfl := hdiagonal hw
  unfold point
  split_ifs
  · exact .error j le_rfl hw
  · exact .value j le_rfl ⟨hw.stores, S.texts_append mark hw.texts⟩ trivial

/-- A world that is passed faces itself at a later stage. -/
theorem exists_worlds_of_evalUntil
    (hdiagonal : ∀ {i : S.Stage} {w w' : World}, S.Worlds i w w' → w = w') {mark : String}
    {stop : World → Bool} {fuel : ℕ} {form : Form} {scope : ScopeId} {i : S.Stage} {w u : World}
    (hjob : S.jobs i form scope scope) (hw : S.Worlds i w w)
    (hu : (evalUntil mark stop fuel 0 form scope w).world? = some u) :
    ∃ j, i ≤ j ∧ S.Worlds j u u := by
  have hrun := evalUntil_of_diagonal hdiagonal mark stop fuel 0 hjob i le_rfl w w hw
  obtain ⟨j, _, hij, -, hend⟩ := hrun.exists_worlds hu
  obtain rfl := hdiagonal hend
  exact ⟨j, hij, hend⟩

/-- Where the texts shown do not matter, marks do not matter. -/
theorem evalUntil_of_texts (htexts : ∀ a b, S.texts a b) (mark : String) (fuel depth : ℕ) :
    S.Evaluators (evalAt fuel) (evalUntil mark (fun _ => false) fuel) depth := by
  rw [← evalUntil_never]
  refine evalUntil_of_point ?_ fuel depth
  intro i j _ w w' hw
  exact .value j le_rfl ⟨hw.stores, htexts _ _⟩ trivial

end Points

/-! ### Growth as a simulation -/

/-- Stores ordered by growth. -/
@[reducible]
def growthOrder : Preorder Store where
  le := Store.Grows
  le_refl := .refl
  le_trans _ _ _ := .trans

/-- A run beside itself, or beside one that shows other text: the store is well formed and
grows. -/
def growth (texts : String → String → Prop)
    (texts_append : ∀ {a b : String} (text : String), texts a b → texts (a ++ text) (b ++ text)) :
    Simulation where
  Stage := Store
  order := growthOrder
  stores i s t := i = s ∧ s = t ∧ s.WellFormed
  texts := texts
  symbols _ := True
  closures i c d := c = d ∧ c.WellFormed i
  jobs i _ p q := p = q ∧ p < i.scopes.size
  texts_append := texts_append
  correspondence i := Closure.correspondence_self (Closure.WellFormed i)
  closures_mono hij h := ⟨h.1, h.2.grows hij⟩
  jobs_mono hij h := ⟨h.1, Nat.lt_of_lt_of_le h.2 hij.size⟩
  items h _ := h
  datum _ := trivial
  find := by
    rintro i s t name p q ⟨rfl, rfl, hs⟩ ⟨rfl, -⟩
    cases hget : i.get? p name with
    | none => exact .none
    | some v => exact .some (Value.related_self_iff.2 ⟨rfl, hs.get? hget, fun _ _ => trivial⟩)
  close := by
    rintro i s t p q name params body ⟨rfl, rfl, hs⟩ hparams hbody hjobs
    obtain ⟨f, hf⟩ := List.exists_mem_of_ne_nil body hbody
    obtain ⟨rfl, hp⟩ := hjobs f hf
    exact ⟨i.newIdentity.2, i.grows_newIdentity, ⟨rfl, rfl, hs.newIdentity⟩, rfl,
      ⟨hp, hbody, hparams⟩⟩
  define := by
    rintro i s t name operands v u p q ⟨rfl, rfl, hs⟩ ⟨rfl, -⟩ - hv
    obtain ⟨rfl, hv, -⟩ := Value.related_self_iff.1 hv
    exact ⟨i.define p name v, i.grows_define p name v, rfl, rfl, hs.define hv p name⟩
  assign := by
    rintro i s t name operands v u p q ⟨rfl, rfl, hs⟩ ⟨rfl, -⟩ - hv
    obtain ⟨rfl, hv, -⟩ := Value.related_self_iff.1 hv
    exact ⟨rfl, (i.assign p name v).2, i.grows_assign p name v, rfl, rfl, hs.assign hv p name⟩
  call := by
    rintro i s t c d b b' ⟨rfl, rfl, hs⟩ ⟨rfl, hc⟩ hb
    obtain ⟨rfl, hvalues⟩ := hb.self
    have hscope := hs.newScope hc.scope fun name v hv => (hvalues name v hv).1
    refine ⟨_, i.grows_newScope (some c.scope) b, ⟨rfl, rfl, hscope⟩, fun f _ => ⟨rfl, ?_⟩⟩
    rw [Store.size_newScope]
    exact Nat.lt_succ_self _
  enter := by
    rintro i s t b b' body p q ⟨rfl, rfl, hs⟩ hb hbody hjobs
    obtain ⟨f, hf⟩ := List.exists_mem_of_ne_nil body hbody
    obtain ⟨rfl, hp⟩ := hjobs f hf
    obtain ⟨rfl, hvalues⟩ := hb.self
    have hscope := hs.newScope hp fun name v hv => (hvalues name v hv).1
    refine ⟨_, i.grows_newScope (some p) b, ⟨rfl, rfl, hscope⟩, fun f _ => ⟨rfl, ?_⟩⟩
    rw [Store.size_newScope]
    exact Nat.lt_succ_self _

/-- The store grows in a run beside itself. -/
def growthBeside : Simulation :=
  growth Eq append_eq_append

/-- The store grows in a run beside one that shows other text. -/
def growthUnmarked : Simulation :=
  growth (fun _ _ => True) fun _ _ => trivial

/-- Worlds that face each other are one world. -/
theorem growthBeside_worlds {i : Store} {w w' : World} (h : growthBeside.Worlds i w w') :
    w = w' ∧ i = w.store ∧ w.store.WellFormed := by
  obtain ⟨⟨rfl, hstore, hwf⟩, htext⟩ := h
  refine ⟨?_, rfl, hwf⟩
  obtain ⟨store, shown⟩ := w
  obtain ⟨store', shown'⟩ := w'
  cases hstore
  cases htext
  rfl

theorem growthBeside_worlds_self {w : World} (h : w.store.WellFormed) :
    growthBeside.Worlds w.store w w :=
  ⟨⟨rfl, rfl, h⟩, rfl⟩

/-! ### Identities as a simulation -/

/-- A run beside itself: the closures at hand have identities that the store has given out. -/
def numbering : Simulation where
  Stage := ℕ
  stores i s t := i = s.nextIdentity ∧ s = t ∧ s.Numbered
  texts := Eq
  symbols _ := True
  closures i c d := c = d ∧ c.identity < i
  jobs _ _ p q := p = q
  texts_append := append_eq_append
  correspondence i := Closure.correspondence_self (·.identity < i)
  closures_mono hij h := ⟨h.1, Nat.lt_of_lt_of_le h.2 hij⟩
  jobs_mono _ h := h
  items h _ := h
  datum _ := trivial
  find := by
    rintro i s t name p q ⟨rfl, rfl, hs⟩ rfl
    cases hget : s.get? p name with
    | none => exact .none
    | some v =>
      exact .some (Value.related_self_iff.2 ⟨rfl, fun c => hs.get? hget, fun _ _ => trivial⟩)
  close := by
    rintro i s t p q name params body ⟨rfl, rfl, hs⟩ - hbody hjobs
    obtain ⟨f, hf⟩ := List.exists_mem_of_ne_nil body hbody
    obtain rfl := hjobs f hf
    exact ⟨s.nextIdentity + 1, Nat.le_succ _, ⟨rfl, rfl, hs.newIdentity⟩, rfl, Nat.lt_succ_self _⟩
  define := by
    rintro i s t name operands v u p q ⟨rfl, rfl, hs⟩ rfl - hv
    obtain ⟨rfl, hv, -⟩ := Value.related_self_iff.1 hv
    exact ⟨s.nextIdentity, le_rfl, rfl, rfl, hs.define hv p name⟩
  assign := by
    rintro i s t name operands v u p q ⟨rfl, rfl, hs⟩ rfl - hv
    obtain ⟨rfl, hv, -⟩ := Value.related_self_iff.1 hv
    refine ⟨rfl, s.nextIdentity, le_rfl, ?_, rfl, hs.assign hv p name⟩
    rw [Store.assign_eq]
    cases s.find? p name <;> rfl
  call := by
    rintro i s t c d b b' ⟨rfl, rfl, hs⟩ ⟨rfl, -⟩ hb
    obtain ⟨rfl, hvalues⟩ := hb.self
    have hscope := hs.newScope (some c.scope) fun name v hv => (hvalues name v hv).1
    exact ⟨s.nextIdentity, le_rfl, ⟨rfl, rfl, hscope⟩, fun _ _ => rfl⟩
  enter := by
    rintro i s t b b' body p q ⟨rfl, rfl, hs⟩ hb hbody hjobs
    obtain ⟨f, hf⟩ := List.exists_mem_of_ne_nil body hbody
    obtain rfl := hjobs f hf
    obtain ⟨rfl, hvalues⟩ := hb.self
    have hscope := hs.newScope (some p) fun name v hv => (hvalues name v hv).1
    exact ⟨s.nextIdentity, le_rfl, ⟨rfl, rfl, hscope⟩, fun _ _ => rfl⟩

theorem numbering_worlds {i : ℕ} {w w' : World} (h : numbering.Worlds i w w') :
    w = w' ∧ w.store.Numbered := by
  obtain ⟨⟨rfl, hstore, hn⟩, htext⟩ := h
  obtain ⟨store, shown⟩ := w
  obtain ⟨store', shown'⟩ := w'
  cases hstore
  cases htext
  exact ⟨rfl, hn⟩

end Simulation

/-! ### Reached stores -/

namespace Evaluation

/-- An evaluation that starts from a well-formed store passes through well-formed stores only. -/
theorem Passes.wellFormed {w w' : World} (h : Passes w w') (hw : w.store.WellFormed) :
    w'.store.WellFormed := by
  obtain ⟨mark, stop, fuel, form, scope, hscope, hend⟩ := h
  have hjob : Simulation.growthBeside.jobs w.store form scope scope := ⟨rfl, hscope⟩
  obtain ⟨_, _, hworlds⟩ := Simulation.exists_worlds_of_evalUntil
    (fun h => (Simulation.growthBeside_worlds h).1) hjob (Simulation.growthBeside_worlds_self hw)
    hend
  exact (Simulation.growthBeside_worlds hworlds).2.2

theorem Reaches.wellFormed {w w' : World} (h : Reaches w w') (hw : w.store.WellFormed) :
    w'.store.WellFormed := by
  induction h with
  | refl => exact hw
  | tail _ hpass ih => exact hpass.wellFormed ih

theorem Passes.numbered {w w' : World} (h : Passes w w') (hw : w.store.Numbered) :
    w'.store.Numbered := by
  obtain ⟨mark, stop, fuel, form, scope, -, hend⟩ := h
  have hjob : Simulation.numbering.jobs w.store.nextIdentity form scope scope := rfl
  have hworlds : Simulation.numbering.Worlds w.store.nextIdentity w w := ⟨⟨rfl, rfl, hw⟩, rfl⟩
  obtain ⟨_, _, hworlds'⟩ := Simulation.exists_worlds_of_evalUntil
    (fun h => (Simulation.numbering_worlds h).1) hjob hworlds hend
  exact (Simulation.numbering_worlds hworlds').2

/-- The closures of a reached store have identities that the store has given out. -/
theorem Reaches.numbered {w w' : World} (h : Reaches w w') (hw : w.store.Numbered) :
    w'.store.Numbered := by
  induction h with
  | refl => exact hw
  | tail _ hpass ih => exact hpass.numbered ih

/-- **Marks change no store**: an evaluation that shows them ends with the same store. -/
theorem exists_marked_world {fuel : ℕ} {form : Form} {scope : ScopeId} {w w' : World}
    (hw : w.store.WellFormed) (hscope : scope < w.store.scopes.size)
    (h : (eval fuel form scope w).world? = some w') (mark : String) :
    ∃ u, (evalUntil mark (fun _ => false) fuel 0 form scope w).world? = some u ∧
      u.store = w'.store := by
  have hjob : Simulation.growthUnmarked.jobs w.store form scope scope := ⟨rfl, hscope⟩
  have hworlds : Simulation.growthUnmarked.Worlds w.store w w := ⟨⟨rfl, rfl, hw⟩, trivial⟩
  have hrun := Simulation.evalUntil_of_texts (fun _ _ => trivial) mark fuel 0 hjob w.store
    (.refl _) w w hworlds
  obtain ⟨_, u, _, hend, ⟨-, hstore, -⟩, -⟩ := hrun.exists_worlds h
  exact ⟨u, hend, hstore.symm⟩

/-- From every point that an evaluation passes through, with marks or without, the store grows up
to the end of the evaluation. -/
theorem grows_to_end {mark : String} {stop : World → Bool} {fuel : ℕ} {form : Form}
    {scope : ScopeId} {w u w' : World} (hw : w.store.WellFormed)
    (hscope : scope < w.store.scopes.size)
    (hu : (evalUntil mark stop fuel 0 form scope w).world? = some u)
    (h : (eval fuel form scope w).world? = some w') : u.store.Grows w'.store := by
  obtain ⟨v, hv, hstore⟩ := exists_marked_world hw hscope h mark
  rw [← hstore]
  exact (evalUntil_goesOn (by simp) fuel 0 form scope w).grows hu hv

/-- The value of a form holds well-formed closures only. -/
theorem wellFormed_of_eval {fuel : ℕ} {form : Form} {scope : ScopeId} {v : Value} {w w' : World}
    (hw : w.store.WellFormed) (hscope : scope < w.store.scopes.size)
    (h : eval fuel form scope w = .value v w') : v.WellFormed w'.store := by
  have hjob : Simulation.growthBeside.jobs w.store form scope scope := ⟨rfl, hscope⟩
  have hrun := Simulation.evalAt_simulates fuel 0 hjob w.store (.refl _) w w
    (Simulation.growthBeside_worlds_self hw)
  rw [eval] at h
  rw [h] at hrun
  cases hrun with
  | value j _ hw' hv =>
    obtain ⟨-, rfl, -⟩ := Simulation.growthBeside_worlds hw'
    exact (Value.related_self_iff.1 hv).2.1

/-- **Every store that is reached from a standard root scope is well formed**, in the middle of an
evaluation as well as at its end: scopes lie inside scopes of the store and going outwards ends in
a root, so that looking a name up ends.  The closures in bindings, and in the values of further
forms, have a scope of the store, a body and distinct parameters.

Whatever store follows, in the same evaluation or in a later one, has grown; and so has the store
at the end of an evaluation, from every world that is passed, with a value or a fault.  An
evaluation can be broken off in each world that it passes through, since what is left then is the
world that was picked. -/
theorem reached_store_wellFormed {s₀ : Store} (h₀ : s₀.Initial) (shown : String) {w : World}
    (hw : Reaches ⟨s₀, shown⟩ w) :
    (∀ id parent, w.store.parent? id = some parent → parent < w.store.scopes.size) ∧
    (∀ id < w.store.scopes.size, w.store.EndsInRoot id) ∧
    (∀ id name, w.store.Resolves name id (w.store.find? id name)) ∧
    (∀ w', Follows w w' → w.store.Grows w'.store) ∧
    (∀ mark stop fuel form scope u w', scope < w.store.scopes.size →
      (evalUntil mark stop fuel 0 form scope w).world? = some u →
      (eval fuel form scope w).world? = some w' → u.store.Grows w'.store) ∧
    (∀ mark stop fuel form scope,
      evalUntil mark stop fuel 0 form scope w =
          evalUntil mark (fun _ => false) fuel 0 form scope w ∨
        ∃ u, stop u ∧ evalUntil mark stop fuel 0 form scope w = .error .tooDeep u) ∧
    (∀ id name v c, w.store.local? id name = some v → v.Holds c → c.WellFormed w.store) ∧
    ∀ fuel form scope v w' c, scope < w.store.scopes.size →
      eval fuel form scope w = .value v w' → v.Holds c → c.WellFormed w'.store := by
  have hwf := hw.wellFormed h₀.wellFormed
  refine ⟨fun id parent hp => hwf.parent_exists hp, fun id hid => hwf.endsInRoot hid,
    fun id name => hwf.resolves name id, fun w' hw' => hw'.grows, ?_, ?_, ?_, ?_⟩
  · intro mark stop fuel form scope u w' hscope hu heval
    exact grows_to_end hwf hscope hu heval
  · intro mark stop fuel form scope
    exact evalUntil_eq_or mark stop fuel 0 form scope w
  · intro id name v c hlocal hc
    exact hwf.value hlocal c hc
  · intro fuel form scope v w' c hscope heval hc
    exact wellFormed_of_eval hwf hscope heval c hc

/-- In the middle of `(define g ((lambda (a) (lambda () a)) 5))` there is a new scope that binds `a`,
while `g` is not bound yet.  At the end, and after `(g)` has the value 5, the scope still binds `a`
and is still inside the root scope; and the closure that `g` is bound to belongs to it. -/
theorem reached_by_definition :
    ∃ u w x c, Reaches ⟨.standard, ""⟩ u ∧ Follows u w ∧ Reaches ⟨.standard, ""⟩ w ∧
      eval 2 (.list [.symbol "g"]) rootScope w = .value (.number 5) x ∧
      u.store.local? rootScope "g" = none ∧ u.store.local? 1 "a" = some (.number 5) ∧
      w.store.local? rootScope "g" = some (.procedure (.closure c)) ∧ c.scope = 1 ∧
      c.WellFormed w.store ∧ ∀ later ∈ [w, x], (later.store.local? 1 "a").isSome ∧
        later.store.parent? 1 = some rootScope := by
  let form : Form :=
    .list [.symbol "define", .symbol "g", .list [.list [.symbol "lambda", .list [.symbol "a"],
      .list [.symbol "lambda", .list [], .symbol "a"]], .number 5]]
  let u : World :=
    ⟨(Store.standard.newIdentity.2.newScope (some rootScope) [("a", .number 5)]).2, ""⟩
  let c : Closure := ⟨u.store.nextIdentity, none, [], none, [.symbol "a"], 1⟩
  let w : World := ⟨u.store.newIdentity.2.define rootScope "g" (.procedure (.closure c)), ""⟩
  let x : World := ⟨(w.store.newScope (some 1) []).2, ""⟩
  let stop (v : World) : Bool := 1 < v.store.scopes.size
  have hbroken : evalUntil "" stop 3 0 form rootScope ⟨.standard, ""⟩ = .error .tooDeep u := rfl
  have heval : eval 3 form rootScope ⟨.standard, ""⟩ = .value .void w := rfl
  have hcall : eval 2 (.list [.symbol "g"]) rootScope w = .value (.number 5) x := by cbv
  have hinside : Reaches ⟨.standard, ""⟩ u :=
    .single ⟨"", stop, 3, form, rootScope, by decide, congrArg Outcome.world? hbroken⟩
  have hended : Reaches ⟨.standard, ""⟩ w :=
    .single (passes_eval (by decide) (congrArg Outcome.world? heval))
  -- both are points of the evaluation that starts from the standard root scope
  have hw : Follows u w := by
    refine .single ⟨"", stop, fun _ => false, 3, form, rootScope, ⟨.standard, ""⟩,
      by simp, congrArg Outcome.world? hbroken, ?_⟩
    rw [evalUntil_never]
    exact congrArg Outcome.world? heval
  have hscope : rootScope < w.store.scopes.size := by decide
  have hx : Follows u x :=
    hw.trans (Reaches.follows (.single (passes_eval hscope (congrArg Outcome.world? hcall))))
  have hbound : w.store.local? rootScope "g" = some (.procedure (.closure c)) := by
    rw [Store.local?_define]
    rfl
  obtain ⟨-, -, -, hgrows, -⟩ := reached_store_wellFormed .standard "" hinside
  obtain ⟨-, -, -, -, -, -, hclosures, -⟩ := reached_store_wellFormed .standard "" hended
  have hkept : ∀ later ∈ [w, x], (later.store.local? 1 "a").isSome ∧
      later.store.parent? 1 = some rootScope := by
    intro later hlater
    have hfollows : Follows u later := by
      obtain rfl | rfl : later = w ∨ later = x := by simpa using hlater
      · exact hw
      · exact hx
    have hgrown := hgrows later hfollows
    exact ⟨hgrown.bound 1 "a" rfl, (hgrown.parent 1 (by decide)).trans rfl⟩
  exact ⟨u, w, x, c, hinside, hw, hended, hcall, rfl, rfl, hbound, rfl,
    hclosures rootScope "g" _ c hbound .here, hkept⟩

end Evaluation

end TimelineLisp
