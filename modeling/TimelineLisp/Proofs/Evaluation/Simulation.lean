import Mathlib.Order.Basic
import TimelineLisp.Proofs.Evaluation.Completion
import TimelineLisp.Proofs.Evaluation.Parameters
import TimelineLisp.Proofs.Native.Related
import TimelineLisp.Proofs.Store.Scopes

/-!
# Two runs side by side

A `Simulation` compares two runs of the evaluator, on two stores, by what it knows of them at each
point of the runs: its *stages* are ordered, and later stages know more.  At a stage it says

* which stores may face each other (`stores`) and which texts (`texts`),
* which closures stand for each other (`closures`) and what symbols are like (`symbols`), and so
  which values are related (`Simulation.values`),
* which forms are evaluated, and in which scopes of the two stores (`jobs`).

Its laws are about the few things that a step does to a store: looking a name up, making a closure,
binding or assigning a name, making a scope.  From these follows, construct by construct, that
**two runs of the evaluator that start from facing worlds go alike**
(`Simulation.evalAt_simulates`): they both end with related values, or both with the same fault, in
worlds that face each other at a later stage; or both run out of fuel.

Where the two runs are the same run, a simulation is an invariant of the evaluator.
-/

namespace TimelineLisp

open Evaluation

/-! ### Related bindings -/

/-- The same names in the same order, with related values. -/
def Bindings.Related (R : Value → Value → Prop) : Bindings → Bindings → Prop :=
  List.Forall₂ fun p q => p.1 = q.1 ∧ R p.2 q.2

namespace Bindings.Related

variable {R : Value → Value → Prop} {b b' : Bindings}

theorem get? (h : Related R b b') (name : String) : Option.Rel R (b.get? name) (b'.get? name) := by
  induction h with
  | nil => exact .none
  | @cons p q b b' hpq _ ih =>
    obtain ⟨n, v⟩ := p
    obtain ⟨n', v'⟩ := q
    obtain ⟨rfl, hv⟩ := hpq
    rw [get?_cons, get?_cons]
    split_ifs
    · exact .some hv
    · exact ih

theorem insert (h : Related R b b') {v v' : Value} (hv : R v v') (name : String) :
    Related R (.insert name v b) (.insert name v' b') := by
  induction h with
  | nil => exact .cons ⟨rfl, hv⟩ .nil
  | @cons p q b b' hpq hb ih =>
    obtain ⟨n, u⟩ := p
    obtain ⟨n', u'⟩ := q
    obtain ⟨rfl, hu⟩ := hpq
    simp only [Bindings.insert]
    split_ifs
    · exact .cons ⟨rfl, hv⟩ hb
    · exact .cons ⟨rfl, hu⟩ ih

theorem zip {args args' : List Value} (h : List.Forall₂ R args args') (names : List String) :
    Related R (names.zip args) (names.zip args') := by
  induction h generalizing names with
  | nil => simp [Related]
  | cons hv _ ih =>
    cases names with
    | nil => exact .nil
    | cons name names => exact .cons ⟨rfl, hv⟩ (ih names)

/-- Bindings with closures that stand for themselves alone are equal, and each value is related to
itself. -/
theorem self {symbols : String → Prop} {P : Closure → Prop}
    (h : Related (Value.Related symbols fun c c' => c = c' ∧ P c) b b') :
    b = b' ∧ ∀ name v, b.get? name = some v →
      (∀ c, v.Holds c → P c) ∧ ∀ symbol, v.Names symbol → symbols symbol := by
  obtain rfl : b = b' := by
    rw [← List.forall₂_eq_eq_eq]
    exact List.Forall₂.imp (fun p q hp => Prod.ext hp.1 (Value.related_self_iff.1 hp.2).1) h
  refine ⟨rfl, fun name v hv => ?_⟩
  have hget := h.get? name
  rw [hv] at hget
  cases hget with
  | some hv => exact (Value.related_self_iff.1 hv).2

end Bindings.Related

/-! ### Special forms by name -/

/-- The name of a special form. -/
def SpecialForm.name : SpecialForm → String
  | .define => "define"
  | .set => "set!"
  | .cond => "if"
  | .lambda => "lambda"
  | .begin => "begin"
  | .bind => "let"
  | .and => "and"
  | .or => "or"
  | .quote => "quote"

theorem SpecialForm.head_of_ofHead? {head : Form} {form : SpecialForm}
    (h : ofHead? head = some form) : head = .symbol form.name := by
  cases head with
  | symbol name =>
    obtain ⟨before, after, hnamed, -⟩ := List.lookup_eq_some_iff.1 h
    have hmem : (name, form) ∈ named := by simp [hnamed]
    have key : ∀ p ∈ named, p.1 = p.2.name := by decide
    exact congrArg Form.symbol (key _ hmem)
  | _ => cases h

theorem Value.ofForms_eq_map (fs : List Form) : Value.ofForms fs = fs.map Value.ofForm := by
  induction fs with
  | nil => rfl
  | cons f fs ih => simp only [Value.ofForms, List.map_cons, ih]

/-! ### Simulations -/

/-- A comparison of two runs. -/
structure Simulation where
  /-- What is known of the two runs at one point. -/
  Stage : Type
  /-- Later stages know more. -/
  [order : Preorder Stage]
  /-- The stores that face each other. -/
  stores : Stage → Store → Store → Prop
  /-- The texts shown by the two runs. -/
  texts : String → String → Prop
  /-- What symbols are like. -/
  symbols : String → Prop
  /-- The closures that stand for each other. -/
  closures : Stage → Closure → Closure → Prop
  /-- The forms that are evaluated, with the scopes of the two stores. -/
  jobs : Stage → Form → ScopeId → ScopeId → Prop
  texts_append : ∀ {a b : String} (text : String), texts a b → texts (a ++ text) (b ++ text)
  correspondence : ∀ i, Closure.Correspondence (closures i)
  closures_mono : ∀ {i j : Stage} {c d : Closure}, i ≤ j → closures i c d → closures j c d
  jobs_mono : ∀ {i j : Stage} {f : Form} {p q : ScopeId}, i ≤ j → jobs i f p q → jobs j f p q
  /-- The parts of a form that is evaluated may be evaluated. -/
  items : ∀ {i : Stage} {fs : List Form} {f : Form} {p q : ScopeId},
    jobs i (.list fs) p q → f ∈ fs → jobs i f p q
  /-- A symbol that is evaluated may stand as a datum. -/
  datum : ∀ {i : Stage} {name : String} {p q : ScopeId},
    jobs i (.symbol name) p q → symbols name
  /-- A symbol is looked up alike. -/
  find : ∀ {i : Stage} {s t : Store} {name : String} {p q : ScopeId}, stores i s t →
    jobs i (.symbol name) p q →
    Option.Rel (Value.Related symbols (closures i)) (s.get? p name) (t.get? q name)
  /-- Closures that are made at the same point stand for each other. -/
  close : ∀ {i : Stage} {s t : Store} {p q : ScopeId} (name : Option String)
    {params : Parameters} {body : List Form}, stores i s t → params.names.Nodup → body ≠ [] →
    (∀ f ∈ body, jobs i f p q) →
    ∃ j, i ≤ j ∧ stores j s.newIdentity.2 t.newIdentity.2 ∧
      closures j ⟨s.nextIdentity, name, params.required, params.rest, body, p⟩
        ⟨t.nextIdentity, name, params.required, params.rest, body, q⟩
  /-- A definition is made on both sides. -/
  define : ∀ {i : Stage} {s t : Store} {name : String} {operands : List Form} {v u : Value}
    {p q : ScopeId}, stores i s t → jobs i (.list (.symbol "define" :: operands)) p q →
    jobs i (.symbol name) p q → Value.Related symbols (closures i) v u →
    ∃ j, i ≤ j ∧ stores j (s.define p name v) (t.define q name u)
  /-- An assignment is made on both sides, or on none. -/
  assign : ∀ {i : Stage} {s t : Store} {name : String} {operands : List Form} {v u : Value}
    {p q : ScopeId}, stores i s t → jobs i (.list (.symbol "set!" :: operands)) p q →
    jobs i (.symbol name) p q → Value.Related symbols (closures i) v u →
    (s.assign p name v).1 = (t.assign q name u).1 ∧
      ∃ j, i ≤ j ∧ stores j (s.assign p name v).2 (t.assign q name u).2
  /-- A call makes a scope on both sides, in which the body is evaluated. -/
  call : ∀ {i : Stage} {s t : Store} {c d : Closure} {b b' : Bindings}, stores i s t →
    closures i c d → Bindings.Related (Value.Related symbols (closures i)) b b' →
    ∃ j, i ≤ j ∧ stores j (s.newScope (some c.scope) b).2 (t.newScope (some d.scope) b').2 ∧
      ∀ f ∈ c.body, jobs j f s.scopes.size t.scopes.size
  /-- Local bindings make a scope on both sides, in which the body is evaluated. -/
  enter : ∀ {i : Stage} {s t : Store} {b b' : Bindings} {body : List Form} {p q : ScopeId},
    stores i s t → Bindings.Related (Value.Related symbols (closures i)) b b' → body ≠ [] →
    (∀ f ∈ body, jobs i f p q) →
    ∃ j, i ≤ j ∧ stores j (s.newScope (some p) b).2 (t.newScope (some q) b').2 ∧
      ∀ f ∈ body, jobs j f s.scopes.size t.scopes.size

namespace Simulation

attribute [instance] Simulation.order

/-- Runs that have shown the same text show the same text when both show more. -/
theorem append_eq_append {a b : String} (text : String) (h : a = b) : a ++ text = b ++ text := by
  rw [h]

variable (S : Simulation) {α β γ δ : Type}

/-- The values that are related at a stage. -/
def values (i : S.Stage) : Value → Value → Prop :=
  Value.Related S.symbols (S.closures i)

/-- The worlds that face each other at a stage. -/
structure Worlds (i : S.Stage) (w w' : World) : Prop where
  stores : S.stores i w.store w'.store
  texts : S.texts w.shown w'.shown

/-- What steps leave to do on the two sides: related values, or the same form. -/
def nexts (i : S.Stage) : Next → Next → Prop
  | .done v, .done v' => S.values i v v'
  | .tail f p, .tail f' q => f = f' ∧ S.jobs i f p q
  | _, _ => False

/-- Both computations have ended alike, at this stage or at a later one. -/
inductive Outcomes (i : S.Stage) (P : S.Stage → α → β → Prop) : Outcome α → Outcome β → Prop
  | value {a : α} {b : β} {w w' : World} (j : S.Stage) (hij : i ≤ j) (hw : S.Worlds j w w')
    (hab : P j a b) : Outcomes i P (.value a w) (.value b w')
  | error {e : EvalError} {w w' : World} (j : S.Stage) (hij : i ≤ j) (hw : S.Worlds j w w') :
    Outcomes i P (.error e w) (.error e w')
  | outOfFuel : Outcomes i P .outOfFuel .outOfFuel

/-- From worlds that face each other, at this stage or at a later one, both computations end
alike. -/
def Simulates (i : S.Stage) (P : S.Stage → α → β → Prop) (x : EvalM α) (y : EvalM β) : Prop :=
  ∀ j, i ≤ j → ∀ w w', S.Worlds j w w' → S.Outcomes j P (x w) (y w')

/-- The two evaluators evaluate the same forms alike, at this depth. -/
def Evaluators (ev ev' : Evaluator) (depth : ℕ) : Prop :=
  ∀ {i : S.Stage} {f : Form} {p q : ScopeId}, S.jobs i f p q →
    S.Simulates i S.values (ev depth f p) (ev' depth f q)

variable {S} {i j : S.Stage}

theorem values_mono (hij : i ≤ j) {v v' : Value} (h : S.values i v v') : S.values j v v' :=
  h.mono fun _ _ hc => S.closures_mono hij hc

theorem values_list_mono (hij : i ≤ j) {vs vs' : List Value}
    (h : List.Forall₂ (S.values i) vs vs') : List.Forall₂ (S.values j) vs vs' :=
  h.imp fun _ _ => values_mono hij

theorem bindings_mono (hij : i ≤ j) {b b' : Bindings} (h : Bindings.Related (S.values i) b b') :
    Bindings.Related (S.values j) b b' :=
  h.imp fun _ _ hp => ⟨hp.1, values_mono hij hp.2⟩

theorem jobs_all_mono (hij : i ≤ j) {fs : List Form} {p q : ScopeId}
    (h : ∀ f ∈ fs, S.jobs i f p q) : ∀ f ∈ fs, S.jobs j f p q :=
  fun f hf => S.jobs_mono hij (h f hf)

/-! ### Computations -/

section Computations

variable {P : S.Stage → α → β → Prop} {Q : S.Stage → γ → δ → Prop}

theorem Outcomes.of_le (hij : i ≤ j) {o : Outcome α} {o' : Outcome β} (h : S.Outcomes j P o o') :
    S.Outcomes i P o o' := by
  cases h with
  | value k hjk hw hab => exact .value k (hij.trans hjk) hw hab
  | error k hjk hw => exact .error k (hij.trans hjk) hw
  | outOfFuel => exact .outOfFuel

theorem simulates_pure {a : α} {b : β} (h : ∀ j, i ≤ j → P j a b) :
    S.Simulates i P (pure a) (pure b) :=
  fun j hij _ _ hw => .value j le_rfl hw (h j hij)

theorem simulates_fail (e : EvalError) : S.Simulates i P (.fail e) (.fail e) :=
  fun j _ _ _ hw => .error j le_rfl hw

theorem simulates_illFormed (cause : IllFormed) :
    S.Simulates i P (.illFormed cause) (.illFormed cause) :=
  simulates_fail _

theorem Simulates.bind {x : EvalM α} {y : EvalM β} {f : α → EvalM γ} {g : β → EvalM δ}
    (h : S.Simulates i P x y)
    (hf : ∀ j, i ≤ j → ∀ a b, P j a b → S.Simulates j Q (f a) (g b)) :
    S.Simulates i Q (x >>= f) (y >>= g) := by
  intro j hij w w' hw
  have hxy := h j hij w w' hw
  rw [EvalM.bind_apply, EvalM.bind_apply]
  generalize x w = o at hxy ⊢
  generalize y w' = o' at hxy ⊢
  cases hxy with
  | @value a b v v' k hjk hv hab =>
    exact (hf k (hij.trans hjk) a b hab k le_rfl v v' hv).of_le hjk
  | error k hjk hv => exact .error k hjk hv
  | outOfFuel => exact .outOfFuel

theorem simulates_ite {c c' : Prop} [Decidable c] [Decidable c'] (hc : c ↔ c')
    {x x' : EvalM α} {y y' : EvalM β} (hx : S.Simulates i P x y) (hy : S.Simulates i P x' y') :
    S.Simulates i P (if c then x else x') (if c' then y else y') := by
  by_cases h : c
  · rw [if_pos h, if_pos (hc.1 h)]
    exact hx
  · rw [if_neg h, if_neg fun h' => h (hc.2 h')]
    exact hy

/-- A change of the store is made on both sides. -/
theorem simulates_updates {f : Store → α × Store} {g : Store → β × Store}
    (h : ∀ j, i ≤ j → ∀ s t, S.stores j s t →
      ∃ k, j ≤ k ∧ S.stores k (f s).2 (g t).2 ∧ P k (f s).1 (g t).1) :
    S.Simulates i P (EvalM.updates f) (EvalM.updates g) := by
  intro j hij w w' hw
  obtain ⟨k, hjk, hstores, hab⟩ := h j hij w.store w'.store hw.stores
  exact .value k hjk ⟨hstores, hw.texts⟩ hab

end Computations

theorem simulates_call (n : Native) {args args' : List Value}
    (h : List.Forall₂ (S.values i) args args') :
    S.Simulates i S.values (.call n args) (.call n args') := by
  intro j hij w w' hw
  have happly := n.apply_related (S.correspondence i) h
  rw [EvalM.call_apply, EvalM.call_apply]
  generalize n.apply args = r at happly ⊢
  generalize n.apply args' = r' at happly ⊢
  cases happly with
  | @ok r r' h =>
    refine .value j le_rfl ⟨hw.stores, ?_⟩ (values_mono hij h.1)
    simp only [World.show, h.2]
    exact S.texts_append r'.shown hw.texts
  | error e => exact .error j le_rfl hw

/-! ### Sequences -/

section Steps

variable {ev ev' : Evaluator} {depth : ℕ} {p q : ScopeId}

theorem evalEach (h : S.Evaluators ev ev' (depth + 1)) {fs : List Form}
    (hfs : ∀ f ∈ fs, S.jobs i f p q) :
    S.Simulates i (fun j => List.Forall₂ (S.values j)) (Evaluation.evalEach ev depth p fs)
      (Evaluation.evalEach ev' depth q fs) := by
  induction fs generalizing i with
  | nil => exact simulates_pure fun _ _ => .nil
  | cons f fs ih =>
    obtain ⟨hf, hfs⟩ := List.forall_mem_cons.1 hfs
    simp only [Evaluation.evalEach]
    refine (h hf).bind fun j hij v v' hv => ?_
    refine (ih (jobs_all_mono hij hfs)).bind fun k hjk vs vs' hvs => ?_
    exact simulates_pure fun l hkl =>
      .cons (values_mono (hjk.trans hkl) hv) (values_list_mono hkl hvs)

theorem evalBody (h : S.Evaluators ev ev' (depth + 1)) {fs : List Form}
    (hfs : ∀ f ∈ fs, S.jobs i f p q) :
    S.Simulates i S.nexts (Evaluation.evalBody ev depth p fs)
      (Evaluation.evalBody ev' depth q fs) := by
  induction fs generalizing i with
  | nil => exact simulates_pure fun _ _ => .void
  | cons f fs ih =>
    obtain ⟨hf, hrest⟩ := List.forall_mem_cons.1 hfs
    cases fs with
    | nil => exact simulates_pure fun j hij => ⟨rfl, S.jobs_mono hij hf⟩
    | cons g fs => exact (h hf).bind fun j hij _ _ _ => ih (jobs_all_mono hij hrest)

theorem evalAnd (h : S.Evaluators ev ev' (depth + 1)) {fs : List Form}
    (hfs : ∀ f ∈ fs, S.jobs i f p q) :
    S.Simulates i S.nexts (Evaluation.evalAnd ev depth p fs)
      (Evaluation.evalAnd ev' depth q fs) := by
  induction fs generalizing i with
  | nil => exact simulates_pure fun _ _ => .bool true
  | cons f fs ih =>
    obtain ⟨hf, hrest⟩ := List.forall_mem_cons.1 hfs
    cases fs with
    | nil => exact simulates_pure fun j hij => ⟨rfl, S.jobs_mono hij hf⟩
    | cons g fs =>
      simp only [Evaluation.evalAnd]
      refine (h hf).bind fun j hij v v' hv => ?_
      exact simulates_ite (by rw [hv.isTrue_eq]) (ih (jobs_all_mono hij hrest))
        (simulates_pure fun k hjk => values_mono hjk hv)

theorem evalOr (h : S.Evaluators ev ev' (depth + 1)) {fs : List Form}
    (hfs : ∀ f ∈ fs, S.jobs i f p q) :
    S.Simulates i S.nexts (Evaluation.evalOr ev depth p fs)
      (Evaluation.evalOr ev' depth q fs) := by
  induction fs generalizing i with
  | nil => exact simulates_pure fun _ _ => .bool false
  | cons f fs ih =>
    obtain ⟨hf, hrest⟩ := List.forall_mem_cons.1 hfs
    cases fs with
    | nil => exact simulates_pure fun j hij => ⟨rfl, S.jobs_mono hij hf⟩
    | cons g fs =>
      simp only [Evaluation.evalOr]
      refine (h hf).bind fun j hij v v' hv => ?_
      exact simulates_ite (by rw [hv.isTrue_eq]) (simulates_pure fun k hjk => values_mono hjk hv)
        (ih (jobs_all_mono hij hrest))

/-! ### Procedures -/

theorem argumentBindings_related {c d : Closure} (h : c.Alike d) {args args' : List Value}
    (hargs : List.Forall₂ (S.values i) args args') :
    Bindings.Related (S.values i) (argumentBindings c args) (argumentBindings d args') := by
  unfold argumentBindings
  rw [h.params, h.rest]
  refine List.rel_append (Bindings.Related.zip hargs d.params) ?_
  cases d.rest with
  | none => exact .nil
  | some name =>
    have hdrop := List.forall₂_drop d.params.length hargs
    exact .cons ⟨rfl, Value.related_list_iff.2 hdrop⟩ .nil

theorem makeClosure (name : Option String) (params : Form) {body : List Form}
    (hbody : ∀ f ∈ body, S.jobs i f p q) :
    S.Simulates i S.values (Evaluation.makeClosure name params body p)
      (Evaluation.makeClosure name params body q) := by
  unfold Evaluation.makeClosure
  by_cases hempty : body = []
  · subst hempty
    exact simulates_illFormed .lambdaBody
  · rw [if_neg (by simpa using hempty), if_neg (by simpa using hempty)]
    cases hparams : Parameters.ofForm params with
    | error cause => exact simulates_illFormed cause
    | ok ps =>
      intro j hij w w' hw
      have hnodup := (Parameters.ofForm_eq_ok_iff.1 hparams).2
      obtain ⟨k, hjk, hstores, hclosure⟩ := S.close name hw.stores hnodup hempty
        (jobs_all_mono hij hbody)
      exact .value k hjk ⟨hstores, hw.texts⟩ (.closure hclosure)

theorem invoke (h : S.Evaluators ev ev' (depth + 1)) {op op' : Value} (hop : S.values i op op')
    {args args' : List Value} (hargs : List.Forall₂ (S.values i) args args') :
    S.Simulates i S.nexts (Evaluation.invoke ev depth op args)
      (Evaluation.invoke ev' depth op' args') := by
  have hrender := hop.render_eq (S.correspondence i)
  have hlength := hargs.length_eq
  cases hop with
  | native n =>
    refine simulates_ite (by rw [hlength]) ?_ (by rw [hlength]; exact simulates_fail _)
    refine (simulates_call n hargs).bind fun j _ v v' hv => ?_
    exact simulates_pure fun k hjk => values_mono hjk hv
  | @closure c d hc =>
    have halike := (S.correspondence i).alike hc
    have harity : (Procedure.closure c).arity = (Procedure.closure d).arity := by
      simp only [Procedure.arity, Closure.arity, halike.rest, halike.params]
    have hname : (Procedure.closure c).name? = (Procedure.closure d).name? := halike.name
    simp only [Evaluation.invoke, arityError, harity, hname, hlength]
    refine simulates_ite Iff.rfl ?_ (simulates_fail _)
    rw [← halike.body]
    refine Simulates.bind (P := fun j a b => ∀ f ∈ c.body, S.jobs j f a b)
      (simulates_updates fun j hij s t hst => ?_) fun j _ a b hjobs => evalBody h hjobs
    exact S.call hst (S.closures_mono hij hc)
      (argumentBindings_related halike (values_list_mono hij hargs))
  | _ =>
    simp only [Evaluation.invoke, hrender]
    exact simulates_fail _

/-! ### Special forms -/

theorem evalDefined (h : S.Evaluators ev ev' (depth + 1)) (name : String) {form : Form}
    (hform : S.jobs i form p q) :
    S.Simulates i S.values (Evaluation.evalDefined ev depth p name form)
      (Evaluation.evalDefined ev' depth q name form) := by
  unfold Evaluation.evalDefined
  cases hparts : lambdaParts? form with
  | none => exact h hform
  | some parts =>
    obtain ⟨params, body⟩ := parts
    obtain rfl := lambdaParts?_eq_some.1 hparts
    exact makeClosure (some name) params fun f hf => S.items hform (by simp [hf])

theorem bindName {operands : List Form} (hjob : S.jobs i (.list (.symbol "define" :: operands)) p q)
    {name : String} (hname : S.jobs i (.symbol name) p q) {v v' : Value} (hv : S.values i v v') :
    S.Simulates i S.nexts (Evaluation.bindName p name v) (Evaluation.bindName q name v') := by
  unfold Evaluation.bindName
  refine Simulates.bind (P := fun _ _ _ => True) (simulates_updates fun j hij s t hst => ?_)
    fun j _ _ _ _ => simulates_pure fun _ _ => .void
  obtain ⟨k, hjk, hstores⟩ := S.define hst (S.jobs_mono hij hjob) (S.jobs_mono hij hname)
    (values_mono hij hv)
  exact ⟨k, hjk, hstores, trivial⟩

theorem evalDefine (h : S.Evaluators ev ev' (depth + 1)) {operands : List Form}
    (hjob : S.jobs i (.list (.symbol "define" :: operands)) p q) :
    S.Simulates i S.nexts (Evaluation.evalDefine ev depth p operands)
      (Evaluation.evalDefine ev' depth q operands) := by
  unfold Evaluation.evalDefine
  split
  · next name form =>
    refine (evalDefined h name (S.items hjob (by simp))).bind fun j hij v v' hv => ?_
    exact bindName (S.jobs_mono hij hjob) (S.jobs_mono hij (S.items hjob (by simp))) hv
  · next name params body =>
    have hsignature : S.jobs i (.list (.symbol name :: params)) p q := S.items hjob (by simp)
    have hbody : ∀ f ∈ body, S.jobs i f p q := fun f hf => S.items hjob (by simp [hf])
    refine (makeClosure (some name) (.list params) hbody).bind fun j hij v v' hv => ?_
    exact bindName (S.jobs_mono hij hjob) (S.jobs_mono hij (S.items hsignature (by simp))) hv
  all_goals exact simulates_illFormed _

theorem evalSet (h : S.Evaluators ev ev' (depth + 1)) {operands : List Form}
    (hjob : S.jobs i (.list (.symbol "set!" :: operands)) p q) :
    S.Simulates i S.nexts (Evaluation.evalSet ev depth p operands)
      (Evaluation.evalSet ev' depth q operands) := by
  unfold Evaluation.evalSet
  split
  · next name form =>
    have hname : S.jobs i (.symbol name) p q := S.items hjob (by simp)
    refine (h (S.items hjob (by simp))).bind fun j hij v v' hv => ?_
    refine Simulates.bind (P := fun _ a b => a = b) (simulates_updates fun k hjk s t hst => ?_)
      fun k _ bound bound' hbound => ?_
    · obtain ⟨hbound, l, hkl, hstores⟩ := S.assign hst (S.jobs_mono (hij.trans hjk) hjob)
        (S.jobs_mono (hij.trans hjk) hname) (values_mono hjk hv)
      exact ⟨l, hkl, hstores, hbound⟩
    · subst hbound
      exact simulates_ite Iff.rfl (simulates_pure fun _ _ => .void) (simulates_fail _)
  all_goals exact simulates_illFormed _

theorem evalIf (h : S.Evaluators ev ev' (depth + 1)) {operands : List Form}
    (hfs : ∀ f ∈ operands, S.jobs i f p q) :
    S.Simulates i S.nexts (Evaluation.evalIf ev depth p operands)
      (Evaluation.evalIf ev' depth q operands) := by
  unfold Evaluation.evalIf
  split
  · next test consequent =>
    refine (h (hfs test (by simp))).bind fun j hij v v' hv => ?_
    refine simulates_ite (by rw [hv.isTrue_eq]) ?_ (simulates_pure fun _ _ => .void)
    exact simulates_pure fun k hjk => ⟨rfl, S.jobs_mono (hij.trans hjk) (hfs consequent (by simp))⟩
  · next test consequent alternative =>
    refine (h (hfs test (by simp))).bind fun j hij v v' hv => ?_
    refine simulates_ite (by rw [hv.isTrue_eq]) ?_ ?_
    · exact simulates_pure fun k hjk =>
        ⟨rfl, S.jobs_mono (hij.trans hjk) (hfs consequent (by simp))⟩
    · exact simulates_pure fun k hjk =>
        ⟨rfl, S.jobs_mono (hij.trans hjk) (hfs alternative (by simp))⟩
  · exact simulates_illFormed _

theorem evalBindings (h : S.Evaluators ev ev' (depth + 1)) {bindings : List Form}
    (hfs : ∀ f ∈ bindings, S.jobs i f p q) {done done' : Bindings}
    (hdone : Bindings.Related (S.values i) done done') :
    S.Simulates i (fun j => Bindings.Related (S.values j))
      (Evaluation.evalBindings ev depth p done bindings)
      (Evaluation.evalBindings ev' depth q done' bindings) := by
  fun_induction Evaluation.evalBindings ev depth p done bindings generalizing i done' with
  | case1 done => exact simulates_pure fun j hij => bindings_mono hij hdone
  | case2 done name init more ih =>
    obtain ⟨hpair, hmore⟩ := List.forall_mem_cons.1 hfs
    refine (h (S.items hpair (by simp))).bind fun j hij v v' hv => ?_
    exact ih v (jobs_all_mono hij hmore) ((bindings_mono hij hdone).insert hv name)
  | case3 done items more hne =>
    rw [evalBindings_notPair hne]
    exact simulates_illFormed _
  | case4 done f more _ hne =>
    rw [evalBindings_notList hne]
    exact simulates_illFormed _

theorem evalLet (h : S.Evaluators ev ev' (depth + 1)) {operands : List Form}
    (hfs : ∀ f ∈ operands, S.jobs i f p q) :
    S.Simulates i S.nexts (Evaluation.evalLet ev depth p operands)
      (Evaluation.evalLet ev' depth q operands) := by
  unfold Evaluation.evalLet
  split
  · next bindings body =>
    obtain ⟨hlist, hbody⟩ := List.forall_mem_cons.1 hfs
    have hbindings : ∀ f ∈ bindings, S.jobs i f p q := fun f hf => S.items hlist hf
    refine (evalBindings h hbindings .nil).bind fun j hij vars vars' hvars => ?_
    by_cases hempty : body = []
    · subst hempty
      exact simulates_illFormed _
    · rw [if_neg (by simpa using hempty), if_neg (by simpa using hempty)]
      refine Simulates.bind (P := fun k a b => ∀ f ∈ body, S.jobs k f a b)
        (simulates_updates fun k hjk s t hst => ?_) fun k _ a b hjobs => evalBody h hjobs
      exact S.enter hst (bindings_mono hjk hvars) hempty (jobs_all_mono (hij.trans hjk) hbody)
  · exact simulates_illFormed _

/-- The datum that a form writes down is related to itself. -/
theorem values_ofForm {f : Form} (h : S.jobs i f p q) : S.values i (.ofForm f) (.ofForm f) := by
  match f with
  | .symbol name => exact .symbol (S.datum h)
  | .number n => exact .number n
  | .text content => exact .text content
  | .char c => exact .char c
  | .bool b => exact .bool b
  | .list items =>
    simp only [Value.ofForm, Value.ofForms_eq_map]
    refine Value.related_list_iff.2 (List.forall₂_same.2 fun v hv => ?_)
    obtain ⟨f, hf, rfl⟩ := List.mem_map.1 hv
    have : sizeOf f < sizeOf items := List.sizeOf_lt_of_mem hf
    exact values_ofForm (S.items h hf)
termination_by sizeOf f
decreasing_by simp only [Form.list.sizeOf_spec]; omega

theorem evalSpecial (h : S.Evaluators ev ev' (depth + 1)) {head : Form} {form : SpecialForm}
    (hhead : SpecialForm.ofHead? head = some form) {operands : List Form}
    (hjob : S.jobs i (.list (head :: operands)) p q) :
    S.Simulates i S.nexts (Evaluation.evalSpecial ev depth p operands form)
      (Evaluation.evalSpecial ev' depth q operands form) := by
  have hfs : ∀ f ∈ operands, S.jobs i f p q := fun f hf => S.items hjob (by simp [hf])
  cases form with
  | define =>
    obtain rfl := SpecialForm.head_of_ofHead? hhead
    exact evalDefine h hjob
  | set =>
    obtain rfl := SpecialForm.head_of_ofHead? hhead
    exact evalSet h hjob
  | cond => exact evalIf h hfs
  | lambda =>
    cases operands with
    | nil => exact simulates_illFormed _
    | cons params body =>
      obtain ⟨-, hbody⟩ := List.forall_mem_cons.1 hfs
      refine (makeClosure none params hbody).bind fun j _ v v' hv => ?_
      exact simulates_pure fun k hjk => values_mono hjk hv
  | begin => exact evalBody h hfs
  | bind => exact evalLet h hfs
  | and => exact evalAnd h hfs
  | or => exact evalOr h hfs
  | quote =>
    simp only [Evaluation.evalSpecial]
    split
    · next datum =>
      exact simulates_pure fun j hij => values_mono hij (values_ofForm (hfs datum (by simp)))
    · exact simulates_illFormed _

/-- **Two runs take steps alike** if they evaluate the parts of a list alike. -/
theorem step (h : S.Evaluators ev ev' (depth + 1)) {items : List Form}
    (hjob : S.jobs i (.list items) p q) :
    S.Simulates i S.nexts (Evaluation.step ev depth p items)
      (Evaluation.step ev' depth q items) := by
  cases items with
  | nil => exact simulates_illFormed _
  | cons head operands =>
    simp only [Evaluation.step]
    cases hhead : SpecialForm.ofHead? head with
    | some form => exact evalSpecial h hhead hjob
    | none =>
      refine (h (S.items hjob (by simp))).bind fun j hij op op' hop => ?_
      have hfs : ∀ f ∈ operands, S.jobs j f p q :=
        fun f hf => S.jobs_mono hij (S.items hjob (by simp [hf]))
      refine (evalEach h hfs).bind fun k hjk args args' hargs => ?_
      exact invoke h (values_mono hjk hop) hargs

/-- **Two runs evaluate a form alike** if they evaluate its parts and what its step leaves alike. -/
theorem evalBy (h : ∀ depth, S.Evaluators ev ev' depth) (depth : ℕ) :
    S.Evaluators (Evaluation.evalBy ev) (Evaluation.evalBy ev') depth := by
  intro i f p q hjob
  unfold Evaluation.evalBy
  refine simulates_ite Iff.rfl (simulates_fail _) ?_
  cases f with
  | symbol name =>
    intro j hij w w' hw
    have hfind := S.find hw.stores (S.jobs_mono hij hjob)
    simp only [evalSymbol]
    generalize w.store.get? p name = r at hfind ⊢
    generalize w'.store.get? q name = r' at hfind ⊢
    cases hfind with
    | some hv => exact .value j le_rfl hw hv
    | none => exact .error j le_rfl hw
  | number n => exact simulates_pure fun _ _ => .number n
  | text content => exact simulates_pure fun _ _ => .text content
  | char c => exact simulates_pure fun _ _ => .char c
  | bool b => exact simulates_pure fun _ _ => .bool b
  | list items =>
    refine (step (h (depth + 1)) hjob).bind fun j hij next next' hnext => ?_
    cases next with
    | done v =>
      cases next' with
      | done v' => exact simulates_pure fun k hjk => values_mono hjk hnext
      | tail f' q => exact hnext.elim
    | tail f p =>
      cases next' with
      | done v' => exact hnext.elim
      | tail f' q =>
        obtain ⟨rfl, hjob⟩ := hnext
        exact h depth hjob

end Steps

/-- **Two runs of the evaluator that start from facing worlds go alike.** -/
theorem evalAt_simulates (fuel depth : ℕ) : S.Evaluators (evalAt fuel) (evalAt fuel) depth := by
  induction fuel generalizing depth with
  | zero => exact fun _ _ _ _ _ _ => .outOfFuel
  | succ fuel ih =>
    rw [evalAt_eq_evalBy]
    exact evalBy ih depth

end Simulation

end TimelineLisp
