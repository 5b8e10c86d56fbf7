import Mathlib.Tactic.Common
import TimelineLisp.Proofs.Evaluation.Growth

/-!
# Completing a step, and steps of two evaluators

A step of the evaluator leaves a value or the form in tail position (`Next`).  `complete` goes on
with what it leaves, so `evalAt` of a list is the completion of one step (`evalAt_list`), and the
completion of each construct is the construct read directly, without `Next`.

A step uses the evaluator of its parts as a parameter.  `OutcomeRelation.step` compares the steps
of **two evaluators**: a relation between outcomes that is kept by going on from a value holds
between the steps if it holds between the evaluations of the parts.  The first use of it is
`evalAt_stable`: **more fuel never changes an answer**.
-/

namespace TimelineLisp

namespace Evaluation

/-! ### Completion -/

/-- Goes on with what a step leaves. -/
def finish (ev : Evaluator) (depth : ℕ) : Next → EvalM Value
  | .done v => pure v
  | .tail form scope => ev depth form scope

/-- A step together with the evaluation of what it leaves. -/
def complete (ev : Evaluator) (depth : ℕ) (x : EvalM Next) : EvalM Value :=
  x >>= finish ev depth

section Equations

variable {α : Type} (ev : Evaluator) (depth : ℕ)

@[simp]
theorem complete_done (v : Value) : complete ev depth (pure (.done v)) = pure v := rfl

@[simp]
theorem complete_tail (form : Form) (scope : ScopeId) :
    complete ev depth (pure (.tail form scope)) = ev depth form scope := rfl

@[simp]
theorem complete_fail (e : EvalError) : complete ev depth (.fail e) = .fail e := rfl

@[simp]
theorem complete_illFormed (cause : IllFormed) :
    complete ev depth (.illFormed cause) = .illFormed cause := rfl

@[simp]
theorem complete_bind (x : EvalM α) (f : α → EvalM Next) :
    complete ev depth (x >>= f) = x >>= fun a => complete ev depth (f a) :=
  bind_assoc x f (finish ev depth)

@[simp]
theorem complete_ite (c : Prop) [Decidable c] (x y : EvalM Next) :
    complete ev depth (if c then x else y) =
      if c then complete ev depth x else complete ev depth y := by
  split_ifs <;> rfl

end Equations

/-! ### Operands of the wrong shape -/

section Shapes

variable {ev : Evaluator} {depth : ℕ} {scope : ScopeId}

theorem evalDefine_signature {signature body : List Form}
    (h : ∀ name params, signature ≠ .symbol name :: params) :
    evalDefine ev depth scope (.list signature :: body) = .illFormed .defineProcedure :=
  evalDefine.eq_3 ev depth scope signature body h

theorem evalDefine_count {name : String} {more : List Form} (h : more.length ≠ 1) :
    evalDefine ev depth scope (.symbol name :: more) = .illFormed .defineCount := by
  rcases more with _ | ⟨f, _ | ⟨g, more⟩⟩
  · rfl
  · exact absurd rfl h
  · rfl

theorem evalDefine_name {f : Form} {more : List Form} (hs : ∀ name, f ≠ .symbol name)
    (hl : ∀ items, f ≠ .list items) :
    evalDefine ev depth scope (f :: more) = .illFormed .defineName := by
  cases f with
  | symbol name => exact absurd rfl (hs name)
  | list items => exact absurd rfl (hl items)
  | _ => rfl

theorem evalSet_name {f form : Form} (h : ∀ name, f ≠ .symbol name) :
    evalSet ev depth scope [f, form] = .illFormed .setName := by
  cases f with
  | symbol name => exact absurd rfl (h name)
  | _ => rfl

theorem evalSet_count {operands : List Form} (h : operands.length ≠ 2) :
    evalSet ev depth scope operands = .illFormed .setCount := by
  rcases operands with _ | ⟨f, _ | ⟨g, _ | ⟨k, more⟩⟩⟩
  · rfl
  · cases f <;> rfl
  · exact absurd rfl h
  · cases f <;> rfl

/-- The alternative of a conditional may be left out. -/
theorem evalIf_test {test consequent : Form} {rest : List Form} (h : rest.length ≤ 1) :
    evalIf ev depth scope (test :: consequent :: rest) = (do
      let v ← ev (depth + 1) test scope
      if v.isTrue then pure (.tail consequent scope)
      else pure (match rest with
        | [] => .done .void
        | alternative :: _ => .tail alternative scope)) := by
  rcases rest with _ | ⟨f, _ | ⟨g, rest⟩⟩
  · rfl
  · rfl
  · simp at h

theorem evalIf_count {operands : List Form} (h₂ : operands.length ≠ 2)
    (h₃ : operands.length ≠ 3) : evalIf ev depth scope operands = .illFormed .ifCount := by
  rcases operands with _ | ⟨f, _ | ⟨g, _ | ⟨k, _ | ⟨l, more⟩⟩⟩⟩
  · rfl
  · rfl
  · exact absurd rfl h₂
  · exact absurd rfl h₃
  · rfl

theorem evalBindings_notPair {done : Bindings} {items more : List Form}
    (h : ∀ name init, items ≠ [.symbol name, init]) :
    evalBindings ev depth scope done (.list items :: more) = .illFormed .letPair :=
  evalBindings.eq_3 ev depth scope done items more h

theorem evalBindings_notList {done : Bindings} {f : Form} {more : List Form}
    (h : ∀ items, f ≠ .list items) :
    evalBindings ev depth scope done (f :: more) = .illFormed .letBinding := by
  cases f with
  | list items => exact absurd rfl (h items)
  | _ => rfl

theorem evalLet_shape {operands : List Form}
    (h : ∀ bindings body, operands ≠ .list bindings :: body) :
    evalLet ev depth scope operands = .illFormed .letBindings :=
  evalLet.eq_2 ev depth scope operands h

theorem evalQuote_count {operands : List Form} (h : operands.length ≠ 1) :
    evalSpecial ev depth scope operands .quote = .illFormed .quoteCount := by
  rcases operands with _ | ⟨f, _ | ⟨g, more⟩⟩
  · rfl
  · exact absurd rfl h
  · rfl

end Shapes

/-! ### Procedures that are written out -/

theorem lambdaParts?_eq_some {form params : Form} {body : List Form} :
    lambdaParts? form = some (params, body) ↔
      form = .list (.symbol "lambda" :: params :: body) := by
  unfold lambdaParts?
  split
  · next name params' body' =>
    by_cases hn : name = "lambda"
    · simp [hn]
    · simp [hn]
  · next hne => simpa using hne "lambda" params body

theorem lambdaParts?_eq_none {form : Form} :
    lambdaParts? form = none ↔
      ∀ params body, form ≠ .list (.symbol "lambda" :: params :: body) := by
  constructor
  · intro h params body he
    rw [lambdaParts?_eq_some.2 he] at h
    simp at h
  · intro h
    cases hl : lambdaParts? form with
    | none => rfl
    | some parts => exact absurd (lambdaParts?_eq_some.1 hl) (h parts.1 parts.2)

/-! ### Completed evaluations -/

/-- The evaluation of a list is one completed step, unless it is nested too deep. -/
theorem evalAt_list (fuel depth : ℕ) (items : List Form) (scope : ScopeId) (w : World) :
    evalAt (fuel + 1) depth (.list items) scope w =
      if depthLimit < depth then .error .tooDeep w
      else complete (evalAt fuel) depth (step (evalAt fuel) depth scope items) w := by
  rw [evalAt]
  split_ifs
  · rfl
  · simp only [complete, EvalM.bind_apply]
    cases step (evalAt fuel) depth scope items w with
    | value next w' => cases next <;> rfl
    | error e w' => rfl
    | outOfFuel => rfl

/-- Evaluates a form, with its parts and the form in tail position evaluated by `ev`. -/
def evalBy (ev : Evaluator) : Evaluator :=
  fun depth form scope =>
    if depthLimit < depth then .fail .tooDeep
    else
      match form with
      | .symbol name => evalSymbol name scope
      | .number value => pure (.number value)
      | .text content => pure (.text content)
      | .char value => pure (.char value)
      | .bool value => pure (.bool value)
      | .list items => complete ev depth (step ev depth scope items)

theorem evalAt_eq_evalBy (fuel : ℕ) : evalAt (fuel + 1) = evalBy (evalAt fuel) := by
  funext depth form scope w
  unfold evalBy
  cases form with
  | list items =>
    rw [evalAt_list]
    split_ifs <;> rfl
  | _ =>
    rw [evalAt]
    split_ifs <;> rfl

end Evaluation

/-! ### Relations between outcomes -/

/-- A relation between outcomes of computations that start from the same world.  It holds between
equal ones if the store grows on the way, and is kept by going on from a value. -/
structure OutcomeRelation where
  /-- The two outcomes are related, as outcomes from this world. -/
  rel : {α : Type} → World → Outcome α → Outcome α → Prop
  refl : ∀ {α : Type} {x : EvalM α}, x.Grows → ∀ w, rel w (x w) (x w)
  bind : ∀ {α β : Type} {x y : EvalM α} {f g : α → EvalM β} {w : World},
    rel w (x w) (y w) → (∀ a u, rel u (f a u) (g a u)) → rel w ((x >>= f) w) ((y >>= g) w)

namespace OutcomeRelation

open Evaluation EvalM

variable (R : OutcomeRelation) {ev ev' : Evaluator} {depth depth' : ℕ}

/-- The parts of a list at `depth` and at `depth'` have related evaluations. -/
def Parts (ev ev' : Evaluator) (depth depth' : ℕ) : Prop :=
  ∀ form scope w, R.rel w (ev (depth + 1) form scope w) (ev' (depth' + 1) form scope w)

variable {R}

theorem ite {α : Type} {c : Prop} [Decidable c] {x x' y y' : EvalM α} {w : World}
    (hx : R.rel w (x w) (x' w)) (hy : R.rel w (y w) (y' w)) :
    R.rel w ((if c then x else y) w) ((if c then x' else y') w) := by
  split_ifs
  · exact hx
  · exact hy

theorem evalEach (h : R.Parts ev ev' depth depth') (scope : ScopeId) (forms : List Form)
    (w : World) :
    R.rel w (Evaluation.evalEach ev depth scope forms w)
      (Evaluation.evalEach ev' depth' scope forms w) := by
  induction forms generalizing w with
  | nil => exact R.refl (grows_pure []) w
  | cons f fs ih =>
    refine R.bind (h f scope w) fun v w => R.bind (ih w) fun vs w => ?_
    exact R.refl (grows_pure (v :: vs)) w

theorem evalBody (h : R.Parts ev ev' depth depth') (scope : ScopeId) (forms : List Form)
    (w : World) :
    R.rel w (Evaluation.evalBody ev depth scope forms w)
      (Evaluation.evalBody ev' depth' scope forms w) := by
  induction forms generalizing w with
  | nil => exact R.refl (grows_pure _) w
  | cons f fs ih =>
    cases fs with
    -- the last form is in tail position, and no step evaluates it
    | nil => exact R.refl (grows_pure _) w
    | cons g fs => exact R.bind (h f scope w) fun _ w => ih w

theorem evalAnd (h : R.Parts ev ev' depth depth') (scope : ScopeId) (forms : List Form)
    (w : World) :
    R.rel w (Evaluation.evalAnd ev depth scope forms w)
      (Evaluation.evalAnd ev' depth' scope forms w) := by
  induction forms generalizing w with
  | nil => exact R.refl (grows_pure _) w
  | cons f fs ih =>
    cases fs with
    | nil => exact R.refl (grows_pure _) w
    | cons g fs =>
      exact R.bind (h f scope w) fun v w => ite (ih w) (R.refl (grows_pure _) w)

theorem evalOr (h : R.Parts ev ev' depth depth') (scope : ScopeId) (forms : List Form)
    (w : World) :
    R.rel w (Evaluation.evalOr ev depth scope forms w)
      (Evaluation.evalOr ev' depth' scope forms w) := by
  induction forms generalizing w with
  | nil => exact R.refl (grows_pure _) w
  | cons f fs ih =>
    cases fs with
    | nil => exact R.refl (grows_pure _) w
    | cons g fs =>
      exact R.bind (h f scope w) fun v w => ite (R.refl (grows_pure _) w) (ih w)

theorem invoke (h : R.Parts ev ev' depth depth') (op : Value) (args : List Value) (w : World) :
    R.rel w (Evaluation.invoke ev depth op args w) (Evaluation.invoke ev' depth' op args w) := by
  cases op with
  | procedure p =>
    refine ite ?_ (R.refl (grows_fail _) w)
    cases p with
    | native n => exact R.refl ((grows_call n args).bind fun _ => grows_pure _) w
    -- the scope of the call is made before anything is evaluated in it
    | closure c =>
      exact R.bind (R.refl (grows_newScope c.scope _) w) fun inner w => evalBody h inner c.body w
  | _ => exact R.refl (grows_fail _) w

theorem evalDefine (h : R.Parts ev ev' depth depth') (scope : ScopeId) (operands : List Form)
    (w : World) :
    R.rel w (Evaluation.evalDefine ev depth scope operands w)
      (Evaluation.evalDefine ev' depth' scope operands w) := by
  unfold Evaluation.evalDefine
  split
  · next name form =>
    refine R.bind ?_ fun v w => R.refl (grows_bindName scope name v) w
    unfold evalDefined
    -- a procedure that is written out is made, not evaluated
    cases lambdaParts? form with
    | some parts => exact R.refl (grows_makeClosure _ _ _ _) w
    | none => exact h form scope w
  · exact R.refl ((grows_makeClosure _ _ _ _).bind fun v => grows_bindName scope _ v) w
  all_goals exact R.refl (grows_fail _) w

theorem evalSet (h : R.Parts ev ev' depth depth') (scope : ScopeId) (operands : List Form)
    (w : World) :
    R.rel w (Evaluation.evalSet ev depth scope operands w)
      (Evaluation.evalSet ev' depth' scope operands w) := by
  unfold Evaluation.evalSet
  split
  · next name form =>
    refine R.bind (h form scope w) fun v w => R.refl ?_ w
    exact (grows_assign scope name v).bind fun _ => grows_ite (grows_pure _) (grows_fail _)
  all_goals exact R.refl (grows_fail _) w

theorem evalIf (h : R.Parts ev ev' depth depth') (scope : ScopeId) (operands : List Form)
    (w : World) :
    R.rel w (Evaluation.evalIf ev depth scope operands w)
      (Evaluation.evalIf ev' depth' scope operands w) := by
  have hbranch : ∀ (v : Value) (next next' : Next) (w : World),
      R.rel w ((if v.isTrue then pure next else pure next' : EvalM Next) w)
        ((if v.isTrue then pure next else pure next' : EvalM Next) w) :=
    fun v next next' w => R.refl (grows_ite (grows_pure next) (grows_pure next')) w
  unfold Evaluation.evalIf
  split
  · next test _ => exact R.bind (h test scope w) fun v w => hbranch v _ _ w
  · next test _ _ => exact R.bind (h test scope w) fun v w => hbranch v _ _ w
  · exact R.refl (grows_fail _) w

theorem evalBindings (h : R.Parts ev ev' depth depth') (scope : ScopeId) (bindings : List Form)
    (done : Bindings) (w : World) :
    R.rel w (Evaluation.evalBindings ev depth scope done bindings w)
      (Evaluation.evalBindings ev' depth' scope done bindings w) := by
  fun_induction Evaluation.evalBindings ev depth scope done bindings generalizing w with
  | case1 done => exact R.refl (grows_pure done) w
  | case2 done name init more ih => exact R.bind (h init scope w) fun v w => ih v w
  | case3 done items more hne =>
    rw [evalBindings_notPair hne]
    exact R.refl (grows_fail _) w
  | case4 done f more _ hne =>
    rw [evalBindings_notList hne]
    exact R.refl (grows_fail _) w

theorem evalLet (h : R.Parts ev ev' depth depth') (scope : ScopeId) (operands : List Form)
    (w : World) :
    R.rel w (Evaluation.evalLet ev depth scope operands w)
      (Evaluation.evalLet ev' depth' scope operands w) := by
  unfold Evaluation.evalLet
  split
  · next bindings body =>
    refine R.bind (evalBindings h scope bindings [] w) fun vars w => ?_
    refine ite (R.refl (grows_fail _) w) ?_
    exact R.bind (R.refl (grows_newScope scope vars) w) fun inner w => evalBody h inner body w
  · exact R.refl (grows_fail _) w

/-- **Two evaluators take related steps** if they evaluate the parts of a list alike. -/
theorem step (h : R.Parts ev ev' depth depth') (scope : ScopeId) (items : List Form) (w : World) :
    R.rel w (Evaluation.step ev depth scope items w)
      (Evaluation.step ev' depth' scope items w) := by
  cases items with
  | nil => exact R.refl (grows_fail _) w
  | cons head operands =>
    simp only [Evaluation.step]
    cases SpecialForm.ofHead? head with
    | none =>
      refine R.bind (h head scope w) fun op w => ?_
      exact R.bind (evalEach h scope operands w) fun args w => invoke h op args w
    | some form =>
      cases form with
      | define => exact evalDefine h scope operands w
      | set => exact evalSet h scope operands w
      | cond => exact evalIf h scope operands w
      | begin => exact evalBody h scope operands w
      | bind => exact evalLet h scope operands w
      | and => exact evalAnd h scope operands w
      | or => exact evalOr h scope operands w
      | lambda =>
        cases operands with
        | nil => exact R.refl (grows_fail _) w
        | cons params body =>
          exact R.refl ((grows_makeClosure none params body scope).bind fun _ => grows_pure _) w
      | quote =>
        simp only [evalSpecial]
        split
        · exact R.refl (grows_pure _) w
        · exact R.refl (grows_fail _) w

/-- Completed steps are related if the evaluations of what they leave are, too. -/
theorem complete (h : R.Parts ev ev' depth depth')
    (ht : ∀ form scope w, R.rel w (ev depth form scope w) (ev' depth' form scope w))
    (scope : ScopeId) (items : List Form) (w : World) :
    R.rel w (Evaluation.complete ev depth (Evaluation.step ev depth scope items) w)
      (Evaluation.complete ev' depth' (Evaluation.step ev' depth' scope items) w) := by
  refine R.bind (step h scope items w) fun next w => ?_
  cases next with
  | done v => exact R.refl (grows_pure v) w
  | tail form inner => exact ht form inner w

/-- **Two evaluators that are related at every depth evaluate forms alike.** -/
theorem evalBy (h : ∀ depth form scope w, R.rel w (ev depth form scope w) (ev' depth form scope w))
    (depth : ℕ) (form : Form) (scope : ScopeId) (w : World) :
    R.rel w (Evaluation.evalBy ev depth form scope w)
      (Evaluation.evalBy ev' depth form scope w) := by
  unfold Evaluation.evalBy
  refine ite (R.refl (grows_fail _) w) ?_
  cases form with
  | symbol name => exact R.refl (grows_evalSymbol name scope) w
  | list items => exact complete (h (depth + 1)) (h depth) scope items w
  | _ => exact R.refl (grows_pure _) w

/-! ### Fuel -/

/-- The first outcome is the second one, unless the fuel ran out. -/
def moreFuel : OutcomeRelation where
  rel _ o o' := o = .outOfFuel ∨ o = o'
  refl _ _ := Or.inr rfl
  bind := by
    intro α β x y f g w hxy hfg
    rcases hxy with hx | hx
    · exact Or.inl (EvalM.bind_outOfFuel hx)
    · simp only [EvalM.bind_apply, hx]
      cases y w with
      | value a w' => exact hfg a w'
      | error e w' => exact Or.inr rfl
      | outOfFuel => exact Or.inl rfl

end OutcomeRelation

namespace Evaluation

theorem evalAt_succ (fuel depth : ℕ) (form : Form) (scope : ScopeId) (w : World) :
    OutcomeRelation.moreFuel.rel w (evalAt fuel depth form scope w)
      (evalAt (fuel + 1) depth form scope w) := by
  -- the parts and what a step leaves have one unit of fuel less, at every depth
  induction fuel generalizing depth form scope w with
  | zero => exact Or.inl rfl
  | succ fuel ih =>
    rw [evalAt_eq_evalBy, evalAt_eq_evalBy]
    exact OutcomeRelation.evalBy ih depth form scope w

/-- **More fuel never changes an answer.** -/
theorem evalAt_stable {fuel more depth : ℕ} {form : Form} {scope : ScopeId} {w : World}
    (h : evalAt fuel depth form scope w ≠ .outOfFuel) (hle : fuel ≤ more) :
    evalAt more depth form scope w = evalAt fuel depth form scope w := by
  induction hle with
  | refl => rfl
  | @step more _ ih =>
    rcases evalAt_succ more depth form scope w with hm | hm
    -- the fuel cannot run out after it was enough
    · exact absurd (ih.symm.trans hm) h
    · rw [← hm, ih]

end Evaluation

end TimelineLisp
