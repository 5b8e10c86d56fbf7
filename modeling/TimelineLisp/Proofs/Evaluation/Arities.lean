import Mathlib.Logic.Relation
import TimelineLisp.Proofs.Evaluation.Application
import TimelineLisp.Proofs.Evaluation.Refinement
import TimelineLisp.Proofs.Native.Faults

/-!
# Where faults of number come from

Numbers of arguments are checked twice: when a procedure is called, and by most native procedures
themselves.  The second check never shows.  **An evaluation ends with a fault of number just if it
comes to a call that is refused**, in the world that it ends in (`Direct.fails_arity_iff`): the
procedure does not accept so many arguments, and nothing has happened since.

What an evaluation comes to is described by `Direct.Leads`, which leads from a task to a task that
is a part of it, once the parts before that one are done.  A fault of a part is one of the whole
(`Direct.Leads.fails`).
-/

namespace TimelineLisp

open Evaluation

namespace Direct

/-! ### Tasks -/

/-- What there is to do, each from a world. -/
inductive Task
  | form (f : Form) (scope : ScopeId) (w : World)
  | operands (fs : List Form) (scope : ScopeId) (w : World)
  | bindings (done : Bindings) (fs : List Form) (scope : ScopeId) (w : World)
  | special (form : SpecialForm) (operands : List Form) (scope : ScopeId) (w : World)
  | call (op : Value) (args : List Value) (w : World)

/-- The task ends with this fault in this world. -/
def Task.Fails : Task → EvalError → World → Prop
  | .form f scope w, e, u => Evaluates f scope w (.error e u)
  | .operands fs scope w, e, u => EvaluatesEach fs scope w (.error e u)
  | .bindings done fs scope w, e, u => EvaluatesBindings done fs scope w (.error e u)
  | .special head fs scope w, e, u => Performs head fs scope w (.error e u)
  | .call op args w, e, u => Calls op args w (.error e u)

/-- The first task leads to the second, a part of it, and all parts before that one are done. -/
inductive Leads : Task → Task → Prop
  | special {head : Form} {form : SpecialForm} {operands : List Form} {scope : ScopeId}
    {w : World} :
    SpecialForm.ofHead? head = some form →
    Leads (.form (.list (head :: operands)) scope w) (.special form operands scope w)
  | head {head : Form} {operands : List Form} {scope : ScopeId} {w : World} :
    SpecialForm.ofHead? head = none →
    Leads (.form (.list (head :: operands)) scope w) (.form head scope w)
  | operands {head : Form} {operands : List Form} {scope : ScopeId} {w w₁ : World} {op : Value} :
    SpecialForm.ofHead? head = none → Evaluates head scope w (.value op w₁) →
    Leads (.form (.list (head :: operands)) scope w) (.operands operands scope w₁)
  | call {head : Form} {operands : List Form} {scope : ScopeId} {w w₁ w₂ : World} {op : Value}
    {args : List Value} :
    SpecialForm.ofHead? head = none → Evaluates head scope w (.value op w₁) →
    EvaluatesEach operands scope w₁ (.value args w₂) →
    Leads (.form (.list (head :: operands)) scope w) (.call op args w₂)
  /- Operands and bindings, from the left. -/
  | operand {f : Form} {fs : List Form} {scope : ScopeId} {w : World} :
    Leads (.operands (f :: fs) scope w) (.form f scope w)
  | moreOperands {f : Form} {fs : List Form} {scope : ScopeId} {w w₁ : World} {v : Value} :
    Evaluates f scope w (.value v w₁) →
    Leads (.operands (f :: fs) scope w) (.operands fs scope w₁)
  | init {done : Bindings} {name : String} {init : Form} {more : List Form} {scope : ScopeId}
    {w : World} :
    Leads (.bindings done (.list [.symbol name, init] :: more) scope w) (.form init scope w)
  | moreBindings {done : Bindings} {name : String} {init : Form} {more : List Form}
    {scope : ScopeId} {w w₁ : World} {v : Value} :
    Evaluates init scope w (.value v w₁) →
    Leads (.bindings done (.list [.symbol name, init] :: more) scope w)
      (.bindings (.insert name v done) more scope w₁)
  /- Calls that are accepted. -/
  | body {c : Closure} {args : List Value} {w : World} :
    c.arity.accepts args.length = true →
    Leads (.call (.procedure (.closure c)) args w)
      (.special .begin c.body w.store.scopes.size (w.enter c.scope (argumentBindings c args)))
  /- Special forms. -/
  | defined {name : String} {form : Form} {scope : ScopeId} {w : World} :
    (∀ params body, form ≠ .list (.symbol "lambda" :: params :: body)) →
    Leads (.special .define [.symbol name, form] scope w) (.form form scope w)
  | assigned {name : String} {form : Form} {scope : ScopeId} {w : World} :
    Leads (.special .set [.symbol name, form] scope w) (.form form scope w)
  | test {test consequent : Form} {rest : List Form} {scope : ScopeId} {w : World} :
    rest.length ≤ 1 →
    Leads (.special .cond (test :: consequent :: rest) scope w) (.form test scope w)
  | consequent {test consequent : Form} {rest : List Form} {scope : ScopeId} {w w₁ : World}
    {v : Value} :
    rest.length ≤ 1 → Evaluates test scope w (.value v w₁) → v.isTrue = true →
    Leads (.special .cond (test :: consequent :: rest) scope w) (.form consequent scope w₁)
  | alternative {test consequent alternative : Form} {scope : ScopeId} {w w₁ : World} {v : Value} :
    Evaluates test scope w (.value v w₁) → v.isTrue = false →
    Leads (.special .cond [test, consequent, alternative] scope w) (.form alternative scope w₁)
  | first {form : SpecialForm} {f : Form} {fs : List Form} {scope : ScopeId} {w : World} :
    form ∈ [.begin, .and, .or] → Leads (.special form (f :: fs) scope w) (.form f scope w)
  | moreBegin {f g : Form} {fs : List Form} {scope : ScopeId} {w w₁ : World} {v : Value} :
    Evaluates f scope w (.value v w₁) →
    Leads (.special .begin (f :: g :: fs) scope w) (.special .begin (g :: fs) scope w₁)
  | moreAnd {f g : Form} {fs : List Form} {scope : ScopeId} {w w₁ : World} {v : Value} :
    Evaluates f scope w (.value v w₁) → v.isTrue = true →
    Leads (.special .and (f :: g :: fs) scope w) (.special .and (g :: fs) scope w₁)
  | moreOr {f g : Form} {fs : List Form} {scope : ScopeId} {w w₁ : World} {v : Value} :
    Evaluates f scope w (.value v w₁) → v.isTrue = false →
    Leads (.special .or (f :: g :: fs) scope w) (.special .or (g :: fs) scope w₁)
  | bindings {bindings body : List Form} {scope : ScopeId} {w : World} :
    Leads (.special .bind (.list bindings :: body) scope w) (.bindings [] bindings scope w)
  | bound {bindings body : List Form} {scope : ScopeId} {w w₁ : World} {vars : Bindings} :
    EvaluatesBindings [] bindings scope w (.value vars w₁) → body ≠ [] →
    Leads (.special .bind (.list bindings :: body) scope w)
      (.special .begin body w₁.store.scopes.size (w₁.enter scope vars))

/-- **A fault of a part is a fault of the whole.** -/
theorem Leads.fails {t t' : Task} (h : Leads t t') {e : EvalError} {u : World}
    (ht : t'.Fails e u) : t.Fails e u := by
  cases h with
  | special hh => exact .special hh ht
  | head hh => exact .applyHead hh ht
  | operands hh hop => exact .applyOperand hh hop ht
  | call hh hop hargs => exact .apply hh hop hargs ht
  | operand => exact .here ht
  | moreOperands hv => exact .later hv ht
  | init => exact .init ht
  | moreBindings hv => exact .cons hv ht
  | body ha => exact .closure ha ht
  | defined hl => exact .defineValue hl ht
  | assigned => exact .setValue ht
  | test hr => exact .condTest hr ht
  | consequent hr hv hv' => exact .condTrue hr hv hv' ht
  | alternative hv hv' => exact .condFalse hv hv' ht
  | @first form f fs scope w hform =>
    -- the last operand is in tail position, which is a rule of its own
    simp only [List.mem_cons, List.not_mem_nil, or_false] at hform
    rcases hform with rfl | rfl | rfl <;> cases fs
    · exact .beginLast ht
    · exact .beginFault ht
    · exact .andLast ht
    · exact .andFault ht
    · exact .orLast ht
    · exact .orFault ht
  | moreBegin hv => exact .beginCons hv ht
  | moreAnd hv hv' => exact .andTrue hv hv' ht
  | moreOr hv hv' => exact .orFalse hv hv' ht
  | bindings => exact .bindFault ht
  | bound hvars hne => exact .bind hvars hne ht

/-! ### Refused calls -/

/-- The task comes to a call of a procedure that does not take so many arguments, in this world, and
this is the fault of it. -/
def Task.Refused (t : Task) (e : EvalError) (u : World) : Prop :=
  ∃ p args, Relation.ReflTransGen Leads t (.call (.procedure p) args u) ∧
    p.arity.accepts args.length = false ∧ e = arityError p args.length

/-- If the outcome is a fault of number, the task comes to a call that is refused. -/
def ByRefusal {α : Type} (t : Task) (o : Outcome α) : Prop :=
  ∀ name a k u, o = .error (.arity name a k) u → t.Refused (.arity name a k) u

section ByRefusal

variable {α β : Type} {t t' : Task}

theorem byRefusal_value (a : α) (w : World) : ByRefusal t (.value a w) := by
  intro name a k u h
  cases h

theorem byRefusal_error {e : EvalError} (he : ∀ name a k, e ≠ .arity name a k) (w : World) :
    ByRefusal t (.error e w : Outcome α) := by
  rintro name a k u ⟨⟩
  exact absurd rfl (he name a k)

theorem byRefusal_illFormed (cause : IllFormed) (w : World) :
    ByRefusal t (.error (.illFormed cause) w : Outcome α) :=
  byRefusal_error (by simp) w

theorem ByRefusal.step {o : Outcome α} (ho : ByRefusal t' o) (h : Leads t t') :
    ByRefusal t o := by
  intro name a k u he
  obtain ⟨p, args, hcomes, hrefused⟩ := ho name a k u he
  exact ⟨p, args, hcomes.head h, hrefused⟩

theorem ByRefusal.fault {e : EvalError} {u : World} (ho : ByRefusal t' (.error e u : Outcome α))
    (h : Leads t t') : ByRefusal t (.error e u : Outcome β) := by
  rintro name a k u ⟨⟩
  exact ho.step h name a k u rfl

theorem byRefusal_makes {name : Option String} {scope : ScopeId} {w : World} {params : Form}
    {body : List Form} {o : Outcome Value} (h : Makes name scope w params body o) :
    ByRefusal t o := by
  cases h with
  | closure => exact byRefusal_value _ _
  | parameters | body => exact byRefusal_illFormed _ _

end ByRefusal

mutual

theorem Evaluates.byRefusal : ∀ {f : Form} {scope : ScopeId} {w : World} {o : Outcome Value},
    Evaluates f scope w o → ByRefusal (.form f scope w) o
  | _, _, _, _, .symbol _ | _, _, _, _, .number | _, _, _, _, .text | _, _, _, _, .char
  | _, _, _, _, .bool => byRefusal_value _ _
  | _, _, _, _, .unbound _ => byRefusal_error (by simp) _
  | _, _, _, _, .empty => byRefusal_illFormed _ _
  | _, _, _, _, .special hh hp => hp.byRefusal.step (.special hh)
  | _, _, _, _, .apply hh hop hargs hcall => hcall.byRefusal.step (.call hh hop hargs)
  | _, _, _, _, .applyHead hh he => he.byRefusal.step (.head hh)
  | _, _, _, _, .applyOperand hh hop he => he.byRefusal.fault (.operands hh hop)

theorem EvaluatesEach.byRefusal : ∀ {fs : List Form} {scope : ScopeId} {w : World}
    {o : Outcome (List Value)}, EvaluatesEach fs scope w o → ByRefusal (.operands fs scope w) o
  | _, _, _, _, .nil | _, _, _, _, .cons _ _ => byRefusal_value _ _
  | _, _, _, _, .here he => he.byRefusal.fault .operand
  | _, _, _, _, .later hv he => he.byRefusal.step (.moreOperands hv)

theorem EvaluatesBindings.byRefusal : ∀ {done : Bindings} {fs : List Form} {scope : ScopeId}
    {w : World} {o : Outcome Bindings}, EvaluatesBindings done fs scope w o →
      ByRefusal (.bindings done fs scope w) o
  | _, _, _, _, _, .nil => byRefusal_value _ _
  | _, _, _, _, _, .cons hv hmore => hmore.byRefusal.step (.moreBindings hv)
  | _, _, _, _, _, .init he => he.byRefusal.fault .init
  | _, _, _, _, _, .pair _ | _, _, _, _, _, .binding _ => byRefusal_illFormed _ _

theorem Calls.byRefusal : ∀ {op : Value} {args : List Value} {w : World} {o : Outcome Value},
    Calls op args w o → ByRefusal (.call op args w) o
  | _, _, _, _, .native _ _ => byRefusal_value _ _
  -- what the check before the call lets through, the native procedure does not turn away
  | _, _, _, _, .refusal ha hr =>
    byRefusal_error (fun _ _ _ he => Native.apply_ne_arity ha (he ▸ hr)) _
  | _, _, _, _, .closure ha hbody => hbody.byRefusal.step (.body ha)
  | _, _, _, _, .arity ha => by
    rintro name a k u ⟨⟩
    exact ⟨_, _, .refl, ha, rfl⟩
  | _, _, _, _, .notCallable _ => byRefusal_error (by simp) _

theorem Performs.byRefusal : ∀ {form : SpecialForm} {operands : List Form} {scope : ScopeId}
    {w : World} {o : Outcome Value}, Performs form operands scope w o →
      ByRefusal (.special form operands scope w) o
  -- definitions
  | _, _, _, _, _, .define _ _ | _, _, _, _, _, .defineLambda _
  | _, _, _, _, _, .defineProcedure _ => byRefusal_value _ _
  | _, _, _, _, _, .defineValue hl he => he.byRefusal.step (.defined hl)
  | _, _, _, _, _, .defineLambdaShape he | _, _, _, _, _, .defineProcedureShape he =>
    byRefusal_makes he
  | _, _, _, _, _, .defineSignature _ | _, _, _, _, _, .defineNothing
  | _, _, _, _, _, .defineCount _ | _, _, _, _, _, .defineName _ _ => byRefusal_illFormed _ _
  -- assignments
  | _, _, _, _, _, .set _ _ => byRefusal_value _ _
  | _, _, _, _, _, .setUnbound _ _ => byRefusal_error (by simp) _
  | _, _, _, _, _, .setValue he => he.byRefusal.step .assigned
  | _, _, _, _, _, .setName _ | _, _, _, _, _, .setCount _ => byRefusal_illFormed _ _
  -- conditionals
  | _, _, _, _, _, .condTrue hr hv hv' hc => hc.byRefusal.step (.consequent hr hv hv')
  | _, _, _, _, _, .condFalse hv hv' ha => ha.byRefusal.step (.alternative hv hv')
  | _, _, _, _, _, .condVoid _ _ => byRefusal_value _ _
  | _, _, _, _, _, .condTest hr he => he.byRefusal.step (.test hr)
  | _, _, _, _, _, .condCount _ _ => byRefusal_illFormed _ _
  -- procedures and data
  | _, _, _, _, _, .lambda hm => byRefusal_makes hm
  | _, _, _, _, _, .quote => byRefusal_value _ _
  | _, _, _, _, _, .lambdaAlone | _, _, _, _, _, .quoteCount _ => byRefusal_illFormed _ _
  -- sequences
  | _, _, _, _, _, .beginNil | _, _, _, _, _, .andNil | _, _, _, _, _, .andFalse _ _
  | _, _, _, _, _, .orNil | _, _, _, _, _, .orTrue _ _ => byRefusal_value _ _
  | _, _, _, _, _, .beginLast hf | _, _, _, _, _, .beginFault hf
  | _, _, _, _, _, .andLast hf | _, _, _, _, _, .andFault hf
  | _, _, _, _, _, .orLast hf | _, _, _, _, _, .orFault hf => hf.byRefusal.step (.first (by simp))
  | _, _, _, _, _, .beginCons hv hrest => hrest.byRefusal.step (.moreBegin hv)
  | _, _, _, _, _, .andTrue hv hv' hrest => hrest.byRefusal.step (.moreAnd hv hv')
  | _, _, _, _, _, .orFalse hv hv' hrest => hrest.byRefusal.step (.moreOr hv hv')
  -- local bindings
  | _, _, _, _, _, .bind hvars hne hbody => hbody.byRefusal.step (.bound hvars hne)
  | _, _, _, _, _, .bindFault he => he.byRefusal.fault .bindings
  | _, _, _, _, _, .bindBody _ | _, _, _, _, _, .bindShape _ => byRefusal_illFormed _ _

end

theorem Task.Refused.fails {t : Task} {e : EvalError} {u : World} (h : t.Refused e u) :
    t.Fails e u := by
  obtain ⟨p, args, hcomes, hrefused, rfl⟩ := h
  induction hcomes using Relation.ReflTransGen.head_induction_on with
  | refl => exact .arity hrefused
  | head hleads _ ih => exact hleads.fails ih

/-- **A task ends with a fault of number just if it comes to a call that is refused.** -/
theorem fails_arity_iff {t : Task} {name : String} {a : Arity} {k : ℕ} {u : World} :
    t.Fails (.arity name a k) u ↔ t.Refused (.arity name a k) u := by
  refine ⟨fun h => ?_, Task.Refused.fails⟩
  cases t with
  | form | operands | bindings | special | call => exact h.byRefusal name a k u rfl

end Direct

/-! ### Evaluations -/

namespace Evaluation

open Direct

variable {name : String} {a : Arity} {k : ℕ} {w u : World}

theorem refused_of_evalAt {fuel depth : ℕ} {form : Form} {scope : ScopeId}
    (h : evalAt fuel depth form scope w = .error (.arity name a k) u) :
    (Task.form form scope w).Refused (.arity name a k) u := by
  have hsound := sound_evalAt fuel depth form scope w
  rw [h] at hsound
  exact fails_arity_iff.1 (hsound nofun)

theorem refused_of_apply {fuel : ℕ} {op : Value} {args : List Value}
    (h : apply fuel op args w = .error (.arity name a k) u) :
    (Task.call op args w).Refused (.arity name a k) u := by
  have hsound := (sound_evalAt fuel).invoke 0 op args w
  rw [← apply_eq, h] at hsound
  exact fails_arity_iff.1 (hsound nofun)

/-- A call of a native procedure ends with a fault of number before the procedure does anything. -/
theorem invoke_native_eq_arity_iff {ev : Evaluator} {depth : ℕ} {n : Native} {args : List Value} :
    invoke ev depth (.procedure (.native n)) args w = .error (.arity name a k) u ↔
      n.arity.accepts args.length = false ∧ name = n.name ∧ a = n.arity ∧ k = args.length ∧
        u = w := by
  cases hcount : n.arity.accepts args.length with
  | false =>
    have hrefused : invoke ev depth (.procedure (.native n)) args w =
        .error (.arity n.name n.arity args.length) w := by
      simp only [invoke, Procedure.arity, hcount, Bool.false_eq_true, if_false]
      rfl
    rw [hrefused]
    constructor
    · rintro ⟨⟩
      exact ⟨rfl, rfl, rfl, rfl, rfl⟩
    · rintro ⟨-, rfl, rfl, rfl, rfl⟩
      rfl
  | true =>
    have hne : n.apply args ≠ .error (.arity name a k) := Native.apply_ne_arity hcount
    simp only [invoke, Procedure.arity, hcount, if_true, EvalM.bind_apply, EvalM.call_apply]
    cases hr : n.apply args with
    | ok reply => simp
    | error e => grind

/-- **The arities that native procedures are declared with are those that they implement.**  For
each procedure of the standard root scope:

* it turns away no number of arguments that its arity accepts;
* every fault of its arguments carries the name it is bound to;
* it counts its arguments just if its arity has an upper bound, and then it turns away exactly the
  numbers that the arity does not accept;
* a call of it ends with a fault of number just if its arity does not accept the number, and leaves
  the world alone.

So every fault of number that an evaluation ends with, or a call with arguments that are at hand, is
that of a call that was refused in this very world, and if the procedure is native, it carries the
name and the arity that the procedure is declared with. -/
theorem declared_arities_hold {name : String} {n : Native}
    (hname : (name, .procedure (.native n)) ∈ standardBindings) :
    (∀ args, n.arity.accepts args.length = true → ¬ n.Rejects args) ∧
    (∀ args e s, n.apply args = .error e → e.subject? = some s → s = name) ∧
    (n.Counts ↔ n.arity.max ≠ none) ∧
    (n.Counts → ∀ args, n.Rejects args ↔ n.arity.accepts args.length = false) ∧
    (∀ ev depth args w s a k u,
      invoke ev depth (.procedure (.native n)) args w = .error (.arity s a k) u ↔
        n.arity.accepts args.length = false ∧ s = name ∧ a = n.arity ∧ k = args.length ∧ u = w) ∧
    (∀ fuel depth form scope w s a k u,
      evalAt fuel depth form scope w = .error (.arity s a k) u →
        (Task.form form scope w).Refused (.arity s a k) u) ∧
    (∀ fuel op args w s a k u, apply fuel op args w = .error (.arity s a k) u →
      (Task.call op args w).Refused (.arity s a k) u) ∧
    ∀ k, arityError (.native n) k = .arity name n.arity k := by
  obtain ⟨m, -, hm⟩ := List.mem_map.1 hname
  obtain ⟨rfl, hmn⟩ := Prod.mk.inj hm
  obtain rfl : m = n := by simpa using hmn
  refine ⟨?_, fun args e s he hs => ?_, Native.counts_iff, fun hcounts args => ?_,
    fun ev depth args w s a k u => invoke_native_eq_arity_iff,
    fun fuel depth form scope w s a k u => refused_of_evalAt,
    fun fuel op args w s a k u => refused_of_apply, fun k => rfl⟩
  · rintro args haccepts ⟨s, a, k, hrejects⟩
    exact Native.apply_ne_arity haccepts hrejects
  · exact (Native.ownFault_of_apply he).subject?_eq hs
  · rw [Native.rejects_iff]
    exact and_iff_right (Native.counts_iff.1 hcounts)

/-- `(begin (display "a") (display "b" "c"))` shows `a` and ends with a fault of number, since the
second call is refused before anything of it is shown. -/
theorem display_arity_holds :
    ¬ Native.display.Rejects [.text "a"] ∧ Native.display.Rejects [.text "b", .text "c"] ∧
    (Task.form
      (.list [.symbol "begin", .list [.symbol "display", .text "a"],
        .list [.symbol "display", .text "b", .text "c"]])
      rootScope ⟨.standard, ""⟩).Refused (.arity "display" (.exactly 1) 2) ⟨.standard, "a"⟩ := by
  obtain ⟨haccepts, -, hcounts, hrejects, -, heval, -, -⟩ :=
    declared_arities_hold (List.mem_map.2 ⟨.display, Native.mem_all _, rfl⟩)
  refine ⟨haccepts _ rfl, (hrejects (hcounts.2 nofun) _).2 rfl, ?_⟩
  exact heval 9 0 _ _ _ _ _ _ _ (by cbv)

end Evaluation

end TimelineLisp
