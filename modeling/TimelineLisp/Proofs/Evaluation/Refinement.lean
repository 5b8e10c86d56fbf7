import Mathlib.Data.List.Basic
import Mathlib.Order.Filter.AtTopBot.Basic
import TimelineLisp.Proofs.Evaluation.Completion
import TimelineLisp.Proofs.Evaluation.Direct
import TimelineLisp.Proofs.Store.Scopes
import TimelineLisp.Store.Standard

/-!
# The evaluator refines the direct semantics

The evaluator and the rules of `Direct.Evaluates` are two readings of one language.  They differ in
the limit on depth alone:

* every answer of the evaluator is derived by the rules, unless it is `EvalError.tooDeep`;
* whatever the rules derive is the answer of the evaluator, given enough fuel, unless that answer
  is `EvalError.tooDeep`.

Soundness goes by induction on the fuel: if the evaluator of the parts is sound, so is a completed
step (`Sound.step`).  Adequacy goes by induction on derivations, for all sufficiently large amounts
of fuel at once, so that the amounts for the parts need not be added up.
-/

namespace TimelineLisp

open Evaluation

variable {α β : Type}

/-! ### Answers -/

/-- The computation ended, and not because of the limit on depth. -/
def Outcome.Settled : Outcome α → Prop
  | .value _ _ => True
  | .error e _ => e ≠ .tooDeep
  | .outOfFuel => False

/-- The outcome is the expected one, or the limit on depth was hit. -/
def Outcome.Agrees (x o : Outcome α) : Prop :=
  x = o ∨ ∃ w, x = .error .tooDeep w

/-- With enough fuel, the evaluation of the form has this outcome. -/
def Evaluation.Ends (form : Form) (scope : ScopeId) (w : World) (o : Outcome Value) : Prop :=
  ∃ enough, ∀ fuel, enough ≤ fuel → eval fuel form scope w = o

/-! ### Soundness -/

/-- If the outcome is settled, it satisfies `P`. -/
def Derived (P : Outcome α → Prop) (o : Outcome α) : Prop :=
  o.Settled → P o

/-- A computation that goes on from the value of another one, by what is derived for that one. -/
theorem Derived.bind {P : Outcome α → Prop} {Q : Outcome β → Prop} {x : EvalM α}
    {f : α → EvalM β} {w : World} (hx : Derived P (x w))
    (hvalue : ∀ a w₁, P (.value a w₁) → Derived Q (f a w₁))
    (herror : ∀ e w₁, P (.error e w₁) → Q (.error e w₁)) : Derived Q ((x >>= f) w) := by
  intro hs
  rw [EvalM.bind_apply] at hs ⊢
  cases hxw : x w with
  | value a w₁ =>
    rw [hxw] at hs hx
    exact hvalue a w₁ (hx trivial) hs
  | error e w₁ =>
    rw [hxw] at hs hx
    exact herror e w₁ (hx hs)
  | outOfFuel =>
    rw [hxw] at hs
    exact hs.elim

theorem Derived.ite {P : Outcome α → Prop} {c : Prop} [Decidable c] {x y : EvalM α} {w : World}
    (hx : c → Derived P (x w)) (hy : ¬ c → Derived P (y w)) :
    Derived P ((if c then x else y) w) := by
  split_ifs with hc
  · exact hx hc
  · exact hy hc

/-- Settled evaluations are derived by the rules. -/
def Sound (ev : Evaluator) : Prop :=
  ∀ depth form scope w, Derived (Direct.Evaluates form scope w) (ev depth form scope w)

theorem derived_makeClosure (name : Option String) (params : Form) (body : List Form)
    (scope : ScopeId) (w : World) :
    Derived (Direct.Makes name scope w params body) (makeClosure name params body scope w) := by
  unfold makeClosure
  refine .ite (fun hb _ => ?_) fun hb => ?_
  · rw [List.isEmpty_iff.1 hb]
    exact .body
  · have hb' : body ≠ [] := fun he => hb (by simp [he])
    cases hp : Parameters.ofForm params with
    | error cause => exact fun _ => .parameters hb' hp
    | ok p => exact fun _ => .closure hb' hp

namespace Sound

variable {ev : Evaluator} (h : Sound ev) (depth : ℕ) (scope : ScopeId)

include h

theorem evalEach (forms : List Form) (w : World) :
    Derived (Direct.EvaluatesEach forms scope w)
      (Evaluation.evalEach ev depth scope forms w) := by
  induction forms generalizing w with
  | nil => exact fun _ => .nil
  | cons f fs ih =>
    refine .bind (h _ f scope w) (fun v w₁ hv => ?_) fun e w₁ he => .here he
    exact .bind (ih w₁) (fun vs w₂ hvs _ => .cons hv hvs) fun e w₂ he => .later hv he

theorem evalBody (forms : List Form) (w : World) :
    Derived (Direct.Performs .begin forms scope w)
      (complete ev depth (Evaluation.evalBody ev depth scope forms) w) := by
  induction forms generalizing w with
  | nil => exact fun _ => .beginNil
  | cons f fs ih =>
    cases fs with
    | nil => exact fun hs => .beginLast (h depth f scope w hs)
    | cons g fs =>
      simp only [Evaluation.evalBody, complete_bind]
      exact .bind (h _ f scope w) (fun v w₁ hv hs => .beginCons hv (ih w₁ hs))
        fun e w₁ he => .beginFault he

theorem evalAnd (forms : List Form) (w : World) :
    Derived (Direct.Performs .and forms scope w)
      (complete ev depth (Evaluation.evalAnd ev depth scope forms) w) := by
  induction forms generalizing w with
  | nil => exact fun _ => .andNil
  | cons f fs ih =>
    cases fs with
    | nil => exact fun hs => .andLast (h depth f scope w hs)
    | cons g fs =>
      simp only [Evaluation.evalAnd, complete_bind, complete_ite, complete_done]
      refine .bind (h _ f scope w) (fun v w₁ hv => ?_) fun e w₁ he => .andFault he
      exact .ite (fun ht hs => .andTrue hv ht (ih w₁ hs))
        fun ht _ => .andFalse hv (by simpa using ht)

theorem evalOr (forms : List Form) (w : World) :
    Derived (Direct.Performs .or forms scope w)
      (complete ev depth (Evaluation.evalOr ev depth scope forms) w) := by
  induction forms generalizing w with
  | nil => exact fun _ => .orNil
  | cons f fs ih =>
    cases fs with
    | nil => exact fun hs => .orLast (h depth f scope w hs)
    | cons g fs =>
      simp only [Evaluation.evalOr, complete_bind, complete_ite, complete_done]
      refine .bind (h _ f scope w) (fun v w₁ hv => ?_) fun e w₁ he => .orFault he
      exact .ite (fun ht _ => .orTrue hv ht)
        fun ht hs => .orFalse hv (by simpa using ht) (ih w₁ hs)

theorem evalIf (operands : List Form) (w : World) :
    Derived (Direct.Performs .cond operands scope w)
      (complete ev depth (Evaluation.evalIf ev depth scope operands) w) := by
  unfold Evaluation.evalIf
  split
  · next test consequent =>
    simp only [complete_bind, complete_ite, complete_tail, complete_done]
    refine .bind (h _ test scope w) (fun v w₁ hv => ?_) fun e w₁ he => .condTest (by simp) he
    exact .ite (fun ht hs => .condTrue (by simp) hv ht (h depth consequent scope w₁ hs))
      fun ht _ => .condVoid hv (by simpa using ht)
  · next test consequent alternative =>
    simp only [complete_bind, complete_ite, complete_tail]
    refine .bind (h _ test scope w) (fun v w₁ hv => ?_) fun e w₁ he => .condTest (by simp) he
    exact .ite (fun ht hs => .condTrue (by simp) hv ht (h depth consequent scope w₁ hs))
      fun ht hs => .condFalse hv (by simpa using ht) (h depth alternative scope w₁ hs)
  · next h₂ h₃ =>
    refine fun _ => .condCount (fun hl => ?_) fun hl => ?_
    · obtain ⟨a, b, rfl⟩ := List.length_eq_two.1 hl
      exact h₂ a b rfl
    · obtain ⟨a, b, c, rfl⟩ := List.length_eq_three.1 hl
      exact h₃ a b c rfl

theorem evalSet (operands : List Form) (w : World) :
    Derived (Direct.Performs .set operands scope w)
      (complete ev depth (Evaluation.evalSet ev depth scope operands) w) := by
  unfold Evaluation.evalSet
  split
  · next name form =>
    simp only [complete_bind, complete_ite, complete_done, complete_fail]
    refine .bind (h _ form scope w) (fun v w₁ hv => ?_) fun e w₁ he => .setValue he
    -- the assignment itself cannot fail: it tells whether it found the name
    simp only [EvalM.bind_value (EvalM.updates_apply _ _), Store.assign_eq]
    cases hf : w₁.store.find? scope name with
    | some found => exact fun _ => .set hv hf
    | none => exact fun _ => .setUnbound hv hf
  · next f form hne => exact fun _ => .setName fun name he => hne name he
  · next hne =>
    refine fun _ => .setCount fun hl => ?_
    obtain ⟨a, b, rfl⟩ := List.length_eq_two.1 hl
    exact hne a b rfl

theorem evalDefine (operands : List Form) (w : World) :
    Derived (Direct.Performs .define operands scope w)
      (complete ev depth (Evaluation.evalDefine ev depth scope operands) w) := by
  unfold Evaluation.evalDefine
  split
  · next name form =>
    simp only [complete_bind, evalDefined]
    cases hl : lambdaParts? form with
    | some parts =>
      obtain ⟨params, body⟩ := parts
      obtain rfl := lambdaParts?_eq_some.1 hl
      exact .bind (derived_makeClosure (some name) params body scope w)
        (fun v w₁ hv _ => .defineLambda hv) fun e w₁ he => .defineLambdaShape he
    | none =>
      exact .bind (h _ form scope w) (fun v w₁ hv _ => .define (lambdaParts?_eq_none.1 hl) hv)
        fun e w₁ he => .defineValue (lambdaParts?_eq_none.1 hl) he
  · next name params body =>
    simp only [complete_bind]
    exact .bind (derived_makeClosure (some name) (.list params) body scope w)
      (fun v w₁ hv _ => .defineProcedure hv) fun e w₁ he => .defineProcedureShape he
  · next signature body hne => exact fun _ => .defineSignature hne
  · next name more hne =>
    refine fun _ => .defineCount fun hl => ?_
    obtain ⟨form, rfl⟩ := List.length_eq_one_iff.1 hl
    exact hne form rfl
  · exact fun _ => .defineNothing
  · next f more _ hl hs => exact fun _ => .defineName hs hl

theorem evalBindings (bindings : List Form) (done : Bindings) (w : World) :
    Derived (Direct.EvaluatesBindings done bindings scope w)
      (Evaluation.evalBindings ev depth scope done bindings w) := by
  fun_induction Evaluation.evalBindings ev depth scope done bindings generalizing w with
  | case1 => exact fun _ => .nil
  | case2 done name init more ih =>
    exact .bind (h _ init scope w) (fun v w₁ hv hs => .cons hv (ih v w₁ hs))
      fun e w₁ he => .init he
  | case3 done items more hne => exact fun _ => .pair hne
  | case4 done f more _ hne => exact fun _ => .binding hne

theorem evalLet (operands : List Form) (w : World) :
    Derived (Direct.Performs .bind operands scope w)
      (complete ev depth (Evaluation.evalLet ev depth scope operands) w) := by
  unfold Evaluation.evalLet
  split
  · next bindings body =>
    simp only [complete_bind, complete_ite, complete_illFormed]
    refine .bind (h.evalBindings depth scope bindings [] w) (fun vars w₁ hv => ?_)
      fun e w₁ he => .bindFault he
    -- the scope is made only if there is a body to evaluate in it
    refine .ite (fun hb _ => ?_) fun hb hs => ?_
    · rw [List.isEmpty_iff.1 hb]
      exact .bindBody hv
    · rw [EvalM.bind_value (EvalM.updates_apply _ _)] at hs ⊢
      exact .bind hv (fun he => hb (by simp [he])) (h.evalBody depth _ body _ hs)
  · next hne => exact fun _ => .bindShape hne

theorem invoke (op : Value) (args : List Value) (w : World) :
    Derived (Direct.Calls op args w)
      (complete ev depth (Evaluation.invoke ev depth op args) w) := by
  unfold Evaluation.invoke
  split
  · next p =>
    rw [complete_ite]
    refine .ite (fun ha => ?_) fun ha _ => .arity (by simpa using ha)
    split
    · next n =>
      simp only [complete_bind, complete_done, bind_pure]
      intro hs
      rw [EvalM.call_apply] at hs ⊢
      cases hr : n.apply args with
      | ok reply => exact .native ha hr
      | error e => exact .refusal ha hr
    · next c =>
      rw [complete_bind, EvalM.bind_value (EvalM.updates_apply _ _)]
      exact fun hs => .closure ha (h.evalBody depth _ c.body _ hs)
  · next hne => exact fun _ => .notCallable hne

/-- **A completed step is sound** if the evaluator of the parts is. -/
theorem step (items : List Form) (w : World) :
    Derived (Direct.Evaluates (.list items) scope w)
      (complete ev depth (Evaluation.step ev depth scope items) w) := by
  cases items with
  | nil => exact fun _ => .empty
  | cons head operands =>
    simp only [Evaluation.step]
    cases hh : SpecialForm.ofHead? head with
    | none =>
      simp only [evalApplication, complete_bind]
      refine .bind (h _ head scope w) (fun op w₁ hop => ?_) fun e w₁ he => .applyHead hh he
      refine .bind (h.evalEach depth scope operands w₁) (fun args w₂ hargs hs => ?_)
        fun e w₂ he => .applyOperand hh hop he
      exact .apply hh hop hargs (h.invoke depth op args w₂ hs)
    | some form =>
      intro hs
      refine .special hh ?_
      cases form with
      | define => exact h.evalDefine depth scope operands w hs
      | set => exact h.evalSet depth scope operands w hs
      | cond => exact h.evalIf depth scope operands w hs
      | begin => exact h.evalBody depth scope operands w hs
      | bind => exact h.evalLet depth scope operands w hs
      | and => exact h.evalAnd depth scope operands w hs
      | or => exact h.evalOr depth scope operands w hs
      | lambda =>
        cases operands with
        | nil => exact .lambdaAlone
        | cons params body =>
          simp only [evalSpecial, complete_bind, complete_done, bind_pure] at hs ⊢
          exact .lambda (derived_makeClosure none params body scope w hs)
      | quote =>
        simp only [evalSpecial]
        split
        · exact .quote
        · next hne =>
          refine .quoteCount fun hl => ?_
          obtain ⟨datum, rfl⟩ := List.length_eq_one_iff.1 hl
          exact hne datum rfl

end Sound

theorem sound_evalAt (fuel : ℕ) : Sound (evalAt fuel) := by
  induction fuel with
  | zero => exact fun _ _ _ _ hs => hs.elim
  | succ fuel ih =>
    intro depth form scope w
    cases form with
    | list items =>
      rw [evalAt_list]
      split_ifs
      -- beyond the limit on depth there is nothing to derive
      · exact fun hs => absurd rfl hs
      · exact ih.step depth scope items w
    | symbol name =>
      rw [evalAt]
      split_ifs
      · exact fun hs => absurd rfl hs
      · simp only [evalSymbol]
        cases hg : w.store.get? scope name with
        | some v => exact fun _ => .symbol hg
        | none => exact fun _ => .unbound hg
    | _ =>
      rw [evalAt]
      split_ifs
      · exact fun hs => absurd rfl hs
      · exact fun _ => by constructor

/-! ### Adequacy -/

namespace Outcome.Agrees

theorem refl (o : Outcome α) : o.Agrees o := Or.inl rfl

theorem bind {x : EvalM α} {f : α → EvalM β} {w w₁ : World} {a : α} {o : Outcome β}
    (hx : (x w).Agrees (.value a w₁)) (hf : (f a w₁).Agrees o) : ((x >>= f) w).Agrees o := by
  rcases hx with hx | ⟨w₂, hx⟩
  · rwa [EvalM.bind_value hx]
  · exact Or.inr ⟨w₂, EvalM.bind_error hx⟩

theorem bind_error {x : EvalM α} {f : α → EvalM β} {w w₁ : World} {e : EvalError}
    (hx : (x w).Agrees (.error e w₁)) : ((x >>= f) w).Agrees (.error e w₁) := by
  rcases hx with hx | ⟨w₂, hx⟩
  · exact Or.inl (EvalM.bind_error hx)
  · exact Or.inr ⟨w₂, EvalM.bind_error hx⟩

end Outcome.Agrees

open Filter

/-- It is enough to look at the evaluation within the limit on depth. -/
theorem eventually_agrees {form : Form} {scope : ScopeId} {w : World} {depth : ℕ}
    {o : Outcome Value}
    (h : ∀ᶠ fuel in atTop, depth ≤ depthLimit →
      (evalAt (fuel + 1) depth form scope w).Agrees o) :
    ∀ᶠ fuel in atTop, (evalAt fuel depth form scope w).Agrees o := by
  obtain ⟨enough, he⟩ := eventually_atTop.1 h
  refine eventually_atTop.2 ⟨enough + 1, fun fuel hf => ?_⟩
  obtain ⟨fuel, rfl⟩ := Nat.exists_eq_add_of_le' (Nat.le_trans (Nat.le_add_left 1 enough) hf)
  by_cases hd : depthLimit < depth
  · exact Or.inr ⟨w, by rw [evalAt.eq_def]; exact if_pos hd⟩
  · exact he fuel (Nat.le_of_succ_le_succ hf) (Nat.le_of_not_lt hd)

theorem eventually_agrees_list {items : List Form} {scope : ScopeId} {w : World} {depth : ℕ}
    {o : Outcome Value}
    (h : ∀ᶠ fuel in atTop,
      (complete (evalAt fuel) depth (step (evalAt fuel) depth scope items) w).Agrees o) :
    ∀ᶠ fuel in atTop, (evalAt fuel depth (.list items) scope w).Agrees o := by
  refine eventually_agrees (h.mono fun fuel hf hd => ?_)
  rwa [evalAt_list, if_neg (Nat.not_lt.2 hd)]

theorem agrees_makeClosure {name : Option String} {scope : ScopeId} {w : World} {params : Form}
    {body : List Form} {o : Outcome Value} (h : Direct.Makes name scope w params body o) :
    (makeClosure name params body scope w).Agrees o := by
  cases h with
  | closure hb hp =>
    simp only [makeClosure, List.isEmpty_iff, hb, if_false, hp]
    exact .refl _
  | parameters hb hp =>
    simp only [makeClosure, List.isEmpty_iff, hb, if_false, hp]
    exact .refl _
  | body => exact .refl _

namespace Direct

mutual

theorem Evaluates.adequate : ∀ {form : Form} {scope : ScopeId} {w : World} {o : Outcome Value},
    Evaluates form scope w o → ∀ depth : ℕ,
      ∀ᶠ fuel in atTop, (evalAt fuel depth form scope w).Agrees o
  | _, _, _, _, .symbol hg, depth => by
    refine eventually_agrees (.of_forall fun fuel hd => ?_)
    simp only [evalAt, if_neg (Nat.not_lt.2 hd), evalSymbol, hg]
    exact .refl _
  | _, _, _, _, .unbound hg, depth => by
    refine eventually_agrees (.of_forall fun fuel hd => ?_)
    simp only [evalAt, if_neg (Nat.not_lt.2 hd), evalSymbol, hg]
    exact .refl _
  | _, _, _, _, .number, depth
  | _, _, _, _, .text, depth
  | _, _, _, _, .char, depth
  | _, _, _, _, .bool, depth => by
    refine eventually_agrees (.of_forall fun fuel hd => ?_)
    simp only [evalAt, if_neg (Nat.not_lt.2 hd)]
    exact .refl _
  | _, _, _, _, .empty, depth => eventually_agrees_list (.of_forall fun fuel => .refl _)
  | _, _, _, _, .special hh hp, depth => by
    refine eventually_agrees_list ((hp.adequate depth).mono fun fuel hf => ?_)
    simpa only [step, hh] using hf
  | _, _, _, _, .apply hh hop hargs hcall, depth => by
    refine eventually_agrees_list ?_
    filter_upwards [hop.adequate (depth + 1), hargs.adequate depth, hcall.adequate depth]
      with fuel h₁ h₂ h₃
    simp only [step, hh, evalApplication, complete_bind]
    exact h₁.bind (h₂.bind h₃)
  | _, _, _, _, .applyHead hh he, depth => by
    refine eventually_agrees_list ((he.adequate (depth + 1)).mono fun fuel hf => ?_)
    simp only [step, hh, evalApplication, complete_bind]
    exact hf.bind_error
  | _, _, _, _, .applyOperand hh hop he, depth => by
    refine eventually_agrees_list ?_
    filter_upwards [hop.adequate (depth + 1), he.adequate depth] with fuel h₁ h₂
    simp only [step, hh, evalApplication, complete_bind]
    exact h₁.bind h₂.bind_error

theorem EvaluatesEach.adequate : ∀ {forms : List Form} {scope : ScopeId} {w : World}
    {o : Outcome (List Value)}, EvaluatesEach forms scope w o → ∀ depth : ℕ,
      ∀ᶠ fuel in atTop, (evalEach (evalAt fuel) depth scope forms w).Agrees o
  | _, _, _, _, .nil, depth => .of_forall fun fuel => .refl _
  | _, _, _, _, .cons hv hvs, depth => by
    filter_upwards [hv.adequate (depth + 1), hvs.adequate depth] with fuel h₁ h₂
    exact h₁.bind (h₂.bind (.refl _))
  | _, _, _, _, .here he, depth => by
    filter_upwards [he.adequate (depth + 1)] with fuel h₁
    exact h₁.bind_error
  | _, _, _, _, .later hv he, depth => by
    filter_upwards [hv.adequate (depth + 1), he.adequate depth] with fuel h₁ h₂
    exact h₁.bind h₂.bind_error

theorem EvaluatesBindings.adequate : ∀ {done : Bindings} {bindings : List Form}
    {scope : ScopeId} {w : World} {o : Outcome Bindings},
    EvaluatesBindings done bindings scope w o → ∀ depth : ℕ,
      ∀ᶠ fuel in atTop, (evalBindings (evalAt fuel) depth scope done bindings w).Agrees o
  | _, _, _, _, _, .nil, depth => .of_forall fun fuel => .refl _
  | _, _, _, _, _, .cons hv hmore, depth => by
    filter_upwards [hv.adequate (depth + 1), hmore.adequate depth] with fuel h₁ h₂
    exact h₁.bind h₂
  | _, _, _, _, _, .init he, depth => by
    filter_upwards [he.adequate (depth + 1)] with fuel h₁
    exact h₁.bind_error
  | _, _, _, _, _, .pair hne, depth => by
    refine .of_forall fun fuel => ?_
    rw [evalBindings_notPair hne]
    exact .refl _
  | _, _, _, _, _, .binding hne, depth => by
    refine .of_forall fun fuel => ?_
    rw [evalBindings_notList hne]
    exact .refl _

theorem Calls.adequate : ∀ {op : Value} {args : List Value} {w : World} {o : Outcome Value},
    Calls op args w o → ∀ depth : ℕ, ∀ᶠ fuel in atTop,
      (complete (evalAt fuel) depth (invoke (evalAt fuel) depth op args) w).Agrees o
  | _, _, _, _, .native ha hr, depth
  | _, _, _, _, .refusal ha hr, depth => by
    refine .of_forall fun fuel => ?_
    simp only [invoke, Procedure.arity, ha, if_true, complete_bind, complete_done, bind_pure,
      EvalM.call_apply, hr]
    exact .refl _
  | _, _, _, _, .closure ha hbody, depth => by
    refine (hbody.adequate depth).mono fun fuel hf => ?_
    simp only [invoke, Procedure.arity, ha, if_true, complete_bind]
    rw [EvalM.bind_value (EvalM.updates_apply _ _)]
    exact hf
  | _, _, _, _, .arity ha, depth => by
    refine .of_forall fun fuel => ?_
    simp only [invoke, ha, Bool.false_eq_true, if_false]
    exact .refl _
  | op, _, _, _, .notCallable hne, depth => by
    refine .of_forall fun fuel => ?_
    cases op with
    | procedure p => exact absurd rfl (hne p)
    | _ => exact .refl _

theorem Performs.adequate : ∀ {form : SpecialForm} {operands : List Form} {scope : ScopeId}
    {w : World} {o : Outcome Value}, Performs form operands scope w o → ∀ depth : ℕ,
      ∀ᶠ fuel in atTop, (complete (evalAt fuel) depth
        (evalSpecial (evalAt fuel) depth scope operands form) w).Agrees o
  -- definitions
  | _, _, _, _, _, .define hl hv, depth => by
    filter_upwards [hv.adequate (depth + 1)] with fuel h₁
    simp only [evalSpecial, evalDefine, evalDefined, lambdaParts?_eq_none.2 hl, complete_bind]
    exact h₁.bind (.refl _)
  | _, _, _, _, _, .defineValue hl he, depth => by
    filter_upwards [he.adequate (depth + 1)] with fuel h₁
    simp only [evalSpecial, evalDefine, evalDefined, lambdaParts?_eq_none.2 hl, complete_bind]
    exact h₁.bind_error
  | _, _, _, _, _, .defineLambda hv, depth => by
    refine .of_forall fun fuel => ?_
    simp only [evalSpecial, evalDefine, evalDefined, lambdaParts?_eq_some.2 rfl, complete_bind]
    exact (agrees_makeClosure hv).bind (.refl _)
  | _, _, _, _, _, .defineLambdaShape he, depth => by
    refine .of_forall fun fuel => ?_
    simp only [evalSpecial, evalDefine, evalDefined, lambdaParts?_eq_some.2 rfl, complete_bind]
    exact (agrees_makeClosure he).bind_error
  | _, _, _, _, _, .defineProcedure hv, depth => by
    refine .of_forall fun fuel => ?_
    simp only [evalSpecial, evalDefine, complete_bind]
    exact (agrees_makeClosure hv).bind (.refl _)
  | _, _, _, _, _, .defineProcedureShape he, depth => by
    refine .of_forall fun fuel => ?_
    simp only [evalSpecial, evalDefine, complete_bind]
    exact (agrees_makeClosure he).bind_error
  | _, _, _, _, _, .defineSignature hne, depth => by
    refine .of_forall fun fuel => ?_
    simp only [evalSpecial, evalDefine_signature hne]
    exact .refl _
  | _, _, _, _, _, .defineNothing, depth => .of_forall fun fuel => .refl _
  | _, _, _, _, _, .defineCount hl, depth => by
    refine .of_forall fun fuel => ?_
    simp only [evalSpecial, evalDefine_count hl]
    exact .refl _
  | _, _, _, _, _, .defineName hs hl, depth => by
    refine .of_forall fun fuel => ?_
    simp only [evalSpecial, evalDefine_name hs hl]
    exact .refl _
  -- assignments
  | _, _, _, _, _, .set hv hf, depth => by
    filter_upwards [hv.adequate (depth + 1)] with fuel h₁
    simp only [evalSpecial, evalSet, complete_bind]
    refine h₁.bind ?_
    rw [EvalM.bind_value (EvalM.updates_apply _ _)]
    simp only [Store.assign_eq, hf, if_true, complete_done]
    exact .refl _
  | _, _, _, _, _, .setUnbound hv hf, depth => by
    filter_upwards [hv.adequate (depth + 1)] with fuel h₁
    simp only [evalSpecial, evalSet, complete_bind]
    refine h₁.bind ?_
    rw [EvalM.bind_value (EvalM.updates_apply _ _)]
    simp only [Store.assign_eq, hf, Bool.false_eq_true, if_false, complete_fail]
    exact .refl _
  | _, _, _, _, _, .setValue he, depth => by
    filter_upwards [he.adequate (depth + 1)] with fuel h₁
    simp only [evalSpecial, evalSet, complete_bind]
    exact h₁.bind_error
  | _, _, _, _, _, .setName hne, depth => by
    refine .of_forall fun fuel => ?_
    simp only [evalSpecial, evalSet_name hne]
    exact .refl _
  | _, _, _, _, _, .setCount hl, depth => by
    refine .of_forall fun fuel => ?_
    simp only [evalSpecial, evalSet_count hl]
    exact .refl _
  -- conditionals
  | _, _, _, _, _, .condTrue hr ht hv hc, depth => by
    filter_upwards [ht.adequate (depth + 1), hc.adequate depth] with fuel h₁ h₂
    simp only [evalSpecial, evalIf_test hr, complete_bind]
    refine h₁.bind ?_
    simpa only [hv, if_true, complete_tail] using h₂
  | _, _, _, _, _, .condFalse ht hv ha, depth => by
    filter_upwards [ht.adequate (depth + 1), ha.adequate depth] with fuel h₁ h₂
    simp only [evalSpecial, evalIf, complete_bind]
    refine h₁.bind ?_
    simpa only [hv, Bool.false_eq_true, if_false, complete_tail] using h₂
  | _, _, _, _, _, .condVoid ht hv, depth => by
    filter_upwards [ht.adequate (depth + 1)] with fuel h₁
    simp only [evalSpecial, evalIf, complete_bind]
    refine h₁.bind ?_
    simp only [hv, Bool.false_eq_true, if_false, complete_done]
    exact .refl _
  | _, _, _, _, _, .condTest hr he, depth => by
    filter_upwards [he.adequate (depth + 1)] with fuel h₁
    simp only [evalSpecial, evalIf_test hr, complete_bind]
    exact h₁.bind_error
  | _, _, _, _, _, .condCount h₂ h₃, depth => by
    refine .of_forall fun fuel => ?_
    simp only [evalSpecial, evalIf_count h₂ h₃]
    exact .refl _
  -- procedures and data
  | _, _, _, _, _, .lambda hm, depth => by
    refine .of_forall fun fuel => ?_
    simp only [evalSpecial, complete_bind, complete_done, bind_pure]
    exact agrees_makeClosure hm
  | _, _, _, _, _, .lambdaAlone, depth => .of_forall fun fuel => .refl _
  | _, _, _, _, _, .quote, depth => .of_forall fun fuel => .refl _
  | _, _, _, _, _, .quoteCount hl, depth => by
    refine .of_forall fun fuel => ?_
    rw [evalQuote_count hl]
    exact .refl _
  -- sequences
  | _, _, _, _, _, .beginNil, depth => .of_forall fun fuel => .refl _
  | _, _, _, _, _, .beginLast hf, depth => hf.adequate depth
  | _, _, _, _, _, .beginCons hv hrest, depth => by
    filter_upwards [hv.adequate (depth + 1), hrest.adequate depth] with fuel h₁ h₂
    simp only [evalSpecial, evalBody, complete_bind] at h₂ ⊢
    exact h₁.bind h₂
  | _, _, _, _, _, .beginFault he, depth => by
    filter_upwards [he.adequate (depth + 1)] with fuel h₁
    simp only [evalSpecial, evalBody, complete_bind]
    exact h₁.bind_error
  | _, _, _, _, _, .andNil, depth => .of_forall fun fuel => .refl _
  | _, _, _, _, _, .andLast hf, depth => hf.adequate depth
  | _, _, _, _, _, .andTrue hv ht hrest, depth => by
    filter_upwards [hv.adequate (depth + 1), hrest.adequate depth] with fuel h₁ h₂
    simp only [evalSpecial] at h₂
    simp only [evalSpecial, evalAnd, complete_bind]
    refine h₁.bind ?_
    simpa only [ht, if_true] using h₂
  | _, _, _, _, _, .andFalse hv ht, depth => by
    filter_upwards [hv.adequate (depth + 1)] with fuel h₁
    simp only [evalSpecial, evalAnd, complete_bind]
    refine h₁.bind ?_
    simp only [ht, Bool.false_eq_true, if_false, complete_done]
    exact .refl _
  | _, _, _, _, _, .andFault he, depth => by
    filter_upwards [he.adequate (depth + 1)] with fuel h₁
    simp only [evalSpecial, evalAnd, complete_bind]
    exact h₁.bind_error
  | _, _, _, _, _, .orNil, depth => .of_forall fun fuel => .refl _
  | _, _, _, _, _, .orLast hf, depth => hf.adequate depth
  | _, _, _, _, _, .orFalse hv ht hrest, depth => by
    filter_upwards [hv.adequate (depth + 1), hrest.adequate depth] with fuel h₁ h₂
    simp only [evalSpecial] at h₂
    simp only [evalSpecial, evalOr, complete_bind]
    refine h₁.bind ?_
    simpa only [ht, Bool.false_eq_true, if_false] using h₂
  | _, _, _, _, _, .orTrue hv ht, depth => by
    filter_upwards [hv.adequate (depth + 1)] with fuel h₁
    simp only [evalSpecial, evalOr, complete_bind]
    refine h₁.bind ?_
    simp only [ht, if_true, complete_done]
    exact .refl _
  | _, _, _, _, _, .orFault he, depth => by
    filter_upwards [he.adequate (depth + 1)] with fuel h₁
    simp only [evalSpecial, evalOr, complete_bind]
    exact h₁.bind_error
  -- local bindings
  | _, _, _, _, _, .bind hvars hne hbody, depth => by
    filter_upwards [hvars.adequate depth, hbody.adequate depth] with fuel h₁ h₂
    simp only [evalSpecial, evalLet, complete_bind]
    refine h₁.bind ?_
    simp only [List.isEmpty_iff, hne, if_false, complete_bind]
    rw [EvalM.bind_value (EvalM.updates_apply _ _)]
    exact h₂
  | _, _, _, _, _, .bindBody hvars, depth => by
    filter_upwards [hvars.adequate depth] with fuel h₁
    simp only [evalSpecial, evalLet, complete_bind]
    exact h₁.bind (.refl _)
  | _, _, _, _, _, .bindFault he, depth => by
    filter_upwards [he.adequate depth] with fuel h₁
    simp only [evalSpecial, evalLet, complete_bind]
    exact h₁.bind_error
  | _, _, _, _, _, .bindShape hne, depth => by
    refine .of_forall fun fuel => ?_
    simp only [evalSpecial, evalLet_shape hne]
    exact .refl _

end

end Direct

/-! ### Refinement -/

theorem Evaluation.ends_of_eval {fuel : ℕ} {form : Form} {scope : ScopeId} {w : World}
    {o : Outcome Value} (h : eval fuel form scope w = o) (ho : o ≠ .outOfFuel) :
    Ends form scope w o := by
  refine ⟨fuel, fun more hle => ?_⟩
  rw [eval] at h ⊢
  rw [evalAt_stable (by rwa [h]) hle, h]

/-- What the rules derive is the outcome of the evaluator, up to the limit on depth. -/
theorem Direct.Evaluates.ends {form : Form} {scope : ScopeId} {w : World} {o : Outcome Value}
    (h : Direct.Evaluates form scope w o) :
    Ends form scope w o ∨ ∃ w', Ends form scope w (.error .tooDeep w') := by
  obtain ⟨enough, he⟩ := eventually_atTop.1 (h.adequate 0)
  -- one run that hits the limit decides for all larger amounts of fuel
  by_cases hd : ∃ fuel w', eval fuel form scope w = .error .tooDeep w'
  · obtain ⟨fuel, w', hf⟩ := hd
    exact Or.inr ⟨w', ends_of_eval hf (by simp)⟩
  · refine Or.inl ⟨enough, fun fuel hle => ?_⟩
    rcases he fuel hle with ho | ⟨w', ho⟩
    · exact ho
    · exact absurd ⟨fuel, w', ho⟩ hd

/-- **The evaluator refines the direct semantics.**  Its settled answers, each a value or a fault
together with the store and the text shown, are exactly as the rules derive them; and whatever the
rules derive, the evaluator ends with it or with `EvalError.tooDeep`. -/
theorem eval_refines_direct (form : Form) (scope : ScopeId) (w : World) :
    (∀ fuel, (eval fuel form scope w).Settled →
      Direct.Evaluates form scope w (eval fuel form scope w)) ∧
    ∀ o, Direct.Evaluates form scope w o →
      Ends form scope w o ∨ ∃ w', Ends form scope w (.error .tooDeep w') :=
  ⟨fun fuel => sound_evalAt fuel 0 form scope w, fun _ h => h.ends⟩

/-- `((lambda () (if #t 2 3)))` has the value two by the rules, as the evaluator finds. -/
theorem direct_call :
    ∃ w', Direct.Evaluates
      (.list [.list [.symbol "lambda", .list [],
        .list [.symbol "if", .bool true, .number 2, .number 3]]])
      rootScope ⟨.standard, ""⟩ (.value (.number 2) w') := by
  have hsound := (eval_refines_direct
    (.list [.list [.symbol "lambda", .list [],
      .list [.symbol "if", .bool true, .number 2, .number 3]]])
    rootScope ⟨.standard, ""⟩).1 9 trivial
  exact ⟨_, hsound⟩

end TimelineLisp
