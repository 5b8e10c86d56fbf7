import Mathlib.Data.List.Nodup
import TimelineLisp.Proofs.Evaluation.Direct
import TimelineLisp.Proofs.Store.WellFormed

/-!
# Parameters and arguments

Three places have to agree on the parameters of a procedure: the one that reads them
(`Parameters.ofForm`), the one that tells how many arguments are taken (`Closure.arity`) and the one
that binds the arguments (`argumentBindings`).

* `Parameters.Written` says which forms write parameters down, without reference to how they are
  read, and **exactly these forms are read** if the names differ (`Parameters.ofForm_eq_ok_iff`).
* `Parameters.Passed` says what the names mean inside a call, and **a call with as many arguments as
  the procedure takes passes them all** (`Evaluation.passed_enter`), while any other call fails and
  changes nothing (`Evaluation.parameter_passing`).
-/

namespace TimelineLisp

/-! ### Parameters that are written down -/

namespace Parameters

/-- The form writes the parameters down: one symbol takes all arguments, and in a list of symbols
the first point, if there is one, stands in front of the last symbol, which takes all further
arguments. -/
inductive Written : Form → Parameters → Prop
  | all (rest : String) : Written (.symbol rest) ⟨[], some rest⟩
  | fixed {names : List String} (hpoint : "." ∉ names) :
    Written (.list (names.map .symbol)) ⟨names, none⟩
  | dotted {names : List String} (hpoint : "." ∉ names) (rest : String) :
    Written (.list (names.map .symbol ++ [.symbol ".", .symbol rest])) ⟨names, some rest⟩

/-- One more name in front of a list. -/
theorem Written.cons {name : String} (hname : name ≠ ".") {items : List Form} {p : Parameters}
    (h : Written (.list items) p) :
    Written (.list (.symbol name :: items)) ⟨name :: p.required, p.rest⟩ := by
  have hpoint : ∀ {names : List String}, "." ∉ names → "." ∉ name :: names := by
    intro names hnames hmem
    rcases List.mem_cons.1 hmem with heq | hmem
    · exact hname heq.symm
    · exact hnames hmem
  cases h with
  | fixed hnames => exact .fixed (hpoint hnames)
  | dotted hnames rest => exact .dotted (hpoint hnames) rest

/-- The names in front of the point are read one by one. -/
theorem ofForms_append {names : List String} (hpoint : "." ∉ names) {tail : List Form}
    {p : Parameters} (h : ofForms tail = .ok p) :
    ofForms (names.map .symbol ++ tail) = .ok ⟨names ++ p.required, p.rest⟩ := by
  induction names with
  | nil => exact h
  | cons name names ih =>
    rw [List.mem_cons, not_or] at hpoint
    obtain ⟨hname, hnames⟩ := hpoint
    simp only [List.map_cons, List.cons_append, ofForms, if_neg (Ne.symm hname), ih hnames]

theorem ofForms_eq_ok_iff {items : List Form} {p : Parameters} :
    ofForms items = .ok p ↔ Written (.list items) p := by
  constructor
  · intro h
    fun_induction ofForms items generalizing p with
    | case1 =>
      cases h
      exact @Written.fixed [] List.not_mem_nil
    | case2 rest =>
      cases h
      exact @Written.dotted [] List.not_mem_nil rest
    | case4 name more hname q hmore ih =>
      cases h
      exact (ih hmore).cons hname
    | case3 => cases h
    | case5 => cases h
    | case6 => cases h
  · intro h
    cases h with
    | @fixed names hpoint =>
      have htail : ofForms [] = .ok ⟨[], none⟩ := rfl
      have hread := ofForms_append hpoint htail
      rwa [List.append_nil, List.append_nil] at hread
    | @dotted names hpoint rest =>
      have htail : ofForms [.symbol ".", .symbol rest] = .ok ⟨[], some rest⟩ := rfl
      have hread := ofForms_append hpoint htail
      rwa [List.append_nil] at hread

/-- **Parameters are read where they are written down and their names differ.** -/
theorem ofForm_eq_ok_iff {f : Form} {p : Parameters} :
    ofForm f = .ok p ↔ Written f p ∧ p.names.Nodup := by
  have hchecked : ∀ q : Parameters,
      (if q.names.Nodup then Except.ok q else .error IllFormed.lambdaDuplicate) = .ok p ↔
        q = p ∧ p.names.Nodup := by
    intro q
    by_cases hnodup : q.names.Nodup
    · rw [if_pos hnodup, Except.ok.injEq]
      constructor
      · rintro rfl
        exact ⟨rfl, hnodup⟩
      · exact And.left
    · rw [if_neg hnodup]
      constructor
      · intro h
        cases h
      · rintro ⟨rfl, h⟩
        exact absurd h hnodup
  cases f with
  | symbol rest =>
    have hread : ofForm (.symbol rest) = if Parameters.names ⟨[], some rest⟩ |>.Nodup
        then .ok ⟨[], some rest⟩ else .error .lambdaDuplicate := rfl
    rw [hread, hchecked]
    constructor
    · rintro ⟨rfl, hnodup⟩
      exact ⟨.all rest, hnodup⟩
    · rintro ⟨⟨⟩, hnodup⟩
      exact ⟨rfl, hnodup⟩
  | list items =>
    rw [← ofForms_eq_ok_iff]
    cases hitems : ofForms items with
    | ok q =>
      have hread : ofForm (.list items) = if q.names.Nodup then .ok q
          else .error .lambdaDuplicate := by
        simp only [ofForm, hitems, bind, Except.bind]
      rw [hread, hchecked, Except.ok.injEq]
    | error cause =>
      have hread : ofForm (.list items) = .error cause := by
        simp only [ofForm, hitems, bind, Except.bind]
      rw [hread]
      constructor
      · intro h
        cases h
      · rintro ⟨h, -⟩
        cases h
  | _ =>
    constructor
    · intro h
      cases h
    · rintro ⟨h, -⟩
      cases h

/-- What names mean inside a call with these arguments: the required parameters are bound to the
first arguments, each to the one at its position, and the rest parameter to the list of all others,
of which there are none if there is no rest parameter.  Any other name means what it means
outside. -/
structure Passed (p : Parameters) (args : List Value) (outside inside : String → Option Value) :
    Prop where
  required : ∀ (i : ℕ) (name : String), p.required[i]? = some name →
    ∃ v, args[i]? = some v ∧ inside name = some v
  rest : ∀ name, p.rest = some name →
    inside name = some (.list (args.drop p.required.length))
  complete : p.rest = none → args.drop p.required.length = []
  other : ∀ name, name ∉ p.names → inside name = outside name

end Parameters

/-! ### Names bound one by one -/

namespace Bindings

theorem get?_append (b b' : Bindings) (name : String) :
    get? (b ++ b') name = (b.get? name).or (b'.get? name) :=
  List.lookup_append

variable {names : List String} {args : List Value}

theorem get?_zip_of_not_mem {name : String} (h : name ∉ names) :
    get? (names.zip args) name = none := by
  refine List.lookup_eq_none_iff.2 fun p hp => ?_
  have hne : name ≠ p.1 := by
    rintro rfl
    exact h (List.of_mem_zip hp).1
  simpa using hne

/-- Distinct names have the values at their positions. -/
theorem get?_zip (hnodup : names.Nodup) {i : ℕ} {name : String} {v : Value}
    (hname : names[i]? = some name) (hv : args[i]? = some v) :
    get? (names.zip args) name = some v := by
  induction names generalizing args i with
  | nil => simp at hname
  | cons n names ih =>
    obtain ⟨hn, hnodup⟩ := List.nodup_cons.1 hnodup
    cases args with
    | nil => simp at hv
    | cons a args =>
      rw [List.zip_cons_cons, get?_cons]
      cases i with
      | zero =>
        cases hname
        cases hv
        rw [if_pos rfl]
      | succ i =>
        rw [List.getElem?_cons_succ] at hname hv
        have hne : n ≠ name := by
          rintro rfl
          exact hn (List.mem_of_getElem? hname)
        rw [if_neg hne, ih hnodup hname hv]

end Bindings

/-! ### The parameters of a closure -/

/-- The parameters that a closure was made with. -/
def Closure.parameters (c : Closure) : Parameters :=
  ⟨c.params, c.rest⟩

/-- A closure takes an argument for each required parameter, and more if there is a rest
parameter. -/
theorem Closure.accepts_iff (c : Closure) (n : ℕ) :
    c.arity.accepts n = true ↔
      c.parameters.required.length ≤ n ∧
        (c.parameters.rest = none → n = c.parameters.required.length) := by
  unfold arity parameters
  cases c.rest with
  | none =>
    rw [Arity.accepts_exactly]
    constructor
    · intro h
      exact ⟨Nat.le_of_eq h.symm, fun _ => h⟩
    · rintro ⟨-, h⟩
      exact h rfl
  | some more =>
    rw [Arity.accepts_atLeast]
    constructor
    · intro h
      exact ⟨h, nofun⟩
    · exact And.left

namespace Evaluation

/-! ### Making a closure -/

section Make

variable {name : Option String} {params : Form} {body : List Form} {scope : ScopeId}

theorem makeClosure_of_written {p : Parameters} (hbody : body ≠ [])
    (hwritten : p.Written params) (hnodup : p.names.Nodup) (w : World) :
    makeClosure name params body scope w =
      .value (.procedure (.closure ⟨w.store.nextIdentity, name, p.required, p.rest, body, scope⟩))
        w.identify := by
  have hread := Parameters.ofForm_eq_ok_iff.2 ⟨hwritten, hnodup⟩
  have hempty : ¬ body.isEmpty = true := by simpa using hbody
  simp only [makeClosure, if_neg hempty, hread]
  rfl

theorem makeClosure_of_not (h : ¬ (body ≠ [] ∧ ∃ p, Parameters.Written params p ∧ p.names.Nodup))
    (w : World) :
    ∃ cause, makeClosure name params body scope w = .error (.illFormed cause) w := by
  by_cases hbody : body = []
  · subst hbody
    exact ⟨.lambdaBody, rfl⟩
  · have hempty : ¬ body.isEmpty = true := by simpa using hbody
    cases hread : Parameters.ofForm params with
    | ok p => exact absurd ⟨hbody, p, Parameters.ofForm_eq_ok_iff.1 hread⟩ h
    | error cause =>
      refine ⟨cause, ?_⟩
      simp only [makeClosure, if_neg hempty, hread]
      rfl

end Make

/-! ### Calling a closure -/

section Call

variable {c : Closure} {args : List Value}

theorem invoke_closure (haccepts : c.arity.accepts args.length = true) (ev : Evaluator)
    (depth : ℕ) :
    invoke ev depth (.procedure (.closure c)) args = (do
      let inner ← EvalM.updates fun s => s.newScope (some c.scope) (argumentBindings c args)
      evalBody ev depth inner c.body) :=
  if_pos haccepts

theorem invoke_closure_arity (haccepts : ¬ c.arity.accepts args.length = true) (ev : Evaluator)
    (depth : ℕ) :
    invoke ev depth (.procedure (.closure c)) args =
      .fail (.arity (c.name.getD "#<procedure>") c.arity args.length) :=
  if_neg haccepts

/-- A name is bound as a required parameter, or else as the rest parameter. -/
theorem get?_argumentBindings (c : Closure) (args : List Value) (name : String) :
    (argumentBindings c args).get? name =
      (Bindings.get? (c.params.zip args) name).or
        (if c.rest = some name then some (.list (args.drop c.params.length)) else none) := by
  rw [argumentBindings, Bindings.get?_append]
  cases c.rest with
  | none => rfl
  | some more =>
    rw [Bindings.get?_cons, Bindings.get?_nil]
    simp only [Option.some.injEq]

/-- **The scope of a call passes the arguments**, if there are as many as the closure takes. -/
theorem passed_enter (hnodup : c.parameters.names.Nodup)
    (haccepts : c.arity.accepts args.length = true) {w : World}
    (hscope : c.scope < w.store.scopes.size) :
    c.parameters.Passed args (w.store.get? c.scope)
      ((w.enter c.scope (argumentBindings c args)).store.get? w.store.scopes.size) := by
  obtain ⟨hrange, hcomplete⟩ := (c.accepts_iff args.length).1 haccepts
  obtain ⟨hrequired, -, hdisjoint⟩ := List.nodup_append.1 hnodup
  have hinside (name : String) :
      (w.enter c.scope (argumentBindings c args)).store.get? w.store.scopes.size name =
        ((argumentBindings c args).get? name).or (w.store.get? c.scope name) :=
    Store.get?_newScope_self _ hscope name
  refine ⟨fun i name hname => ?_, fun more hmore => ?_, fun hnone => ?_, fun name hname => ?_⟩
  · obtain ⟨hi, -⟩ := List.getElem?_eq_some_iff.1 hname
    have hv := List.getElem?_eq_getElem (Nat.lt_of_lt_of_le hi hrange)
    have hbound : Bindings.get? (c.params.zip args) name = some _ :=
      Bindings.get?_zip hrequired hname hv
    refine ⟨_, hv, ?_⟩
    rw [hinside, get?_argumentBindings, hbound]
    rfl
  · have hrest : c.rest = some more := hmore
    have hfree : more ∉ c.params := by
      intro hmem
      exact hdisjoint more hmem more (by simp [hmore]) rfl
    rw [hinside, get?_argumentBindings, Bindings.get?_zip_of_not_mem hfree, if_pos hrest]
    rfl
  · exact List.drop_eq_nil_of_le (Nat.le_of_eq (hcomplete hnone))
  · have hfree : name ∉ c.params ∧ ¬ c.rest = some name := by
      simpa [Parameters.names, Closure.parameters] using hname
    rw [hinside, get?_argumentBindings, Bindings.get?_zip_of_not_mem hfree.1, if_neg hfree.2]
    rfl

/-- **Parameters are passed exactly.**  A closure is made if there is a body and the form writes
parameters with distinct names down; otherwise the form is at fault and nothing changes.  The
closure takes an argument for each required parameter, and more for a rest parameter.  Called with
so many, from any world in which its scope is there, its body is evaluated in a new scope that
passes the arguments; called with any other number of arguments, it fails with its name, its arity
and that number, and nothing changes. -/
theorem parameter_passing (name : Option String) (params : Form) (body : List Form)
    (scope : ScopeId) (w : World) :
    (¬ (body ≠ [] ∧ ∃ p, Parameters.Written params p ∧ p.names.Nodup) →
      ∃ cause, makeClosure name params body scope w = .error (.illFormed cause) w) ∧
    ∀ p, body ≠ [] → Parameters.Written params p → p.names.Nodup →
      ∃ c, makeClosure name params body scope w = .value (.procedure (.closure c)) w.identify ∧
        ∀ (args : List Value) (ev : Evaluator) (depth : ℕ) (u : World),
          (c.arity.accepts args.length = true ↔
            p.required.length ≤ args.length ∧ (p.rest = none → args.length = p.required.length)) ∧
          (c.arity.accepts args.length = true → scope < u.store.scopes.size →
            invoke ev depth (.procedure (.closure c)) args u =
              evalBody ev depth u.store.scopes.size body
                (u.enter scope (argumentBindings c args)) ∧
            p.Passed args (u.store.get? scope)
              ((u.enter scope (argumentBindings c args)).store.get? u.store.scopes.size)) ∧
          (¬ c.arity.accepts args.length = true →
            invoke ev depth (.procedure (.closure c)) args u =
              .error (.arity (name.getD "#<procedure>") c.arity args.length) u) := by
  refine ⟨fun h => makeClosure_of_not h w, fun p hbody hwritten hnodup => ?_⟩
  let c : Closure := ⟨w.store.nextIdentity, name, p.required, p.rest, body, scope⟩
  refine ⟨c, makeClosure_of_written hbody hwritten hnodup w, fun args ev depth u => ?_⟩
  refine ⟨c.accepts_iff args.length, fun haccepts hscope => ⟨?_, ?_⟩, fun haccepts => ?_⟩
  · rw [invoke_closure haccepts]
    rfl
  · exact passed_enter (c := c) hnodup haccepts hscope
  · rw [invoke_closure_arity haccepts]
    rfl

/-- `(lambda (car . more) car)`, made in a root scope and called with three numbers: the first
parameter hides a native procedure, the rest parameter has the other two numbers and `cdr` means
what it means outside.  A call without arguments fails, and `(lambda (x . x) x)` makes no
closure. -/
theorem rest_parameter_passed :
    ∃ (c : Closure) (u : World),
      makeClosure none (.list [.symbol "car", .symbol ".", .symbol "more"]) [.symbol "car"]
        rootScope ⟨.standard, ""⟩ =
          .value (.procedure (.closure c)) (World.identify ⟨.standard, ""⟩) ∧
      invoke (evalAt 9) 0 (.procedure (.closure c)) [.number 1, .number 2, .number 3]
        (World.identify ⟨.standard, ""⟩) = evalBody (evalAt 9) 0 1 [.symbol "car"] u ∧
      u.store.get? 1 "car" = some (.number 1) ∧
      u.store.get? 1 "more" = some (.list [.number 2, .number 3]) ∧
      u.store.get? 1 "cdr" = some (.procedure (.native .tail)) ∧
      invoke (evalAt 9) 0 (.procedure (.closure c)) [] (World.identify ⟨.standard, ""⟩) =
        .error (.arity "#<procedure>" c.arity 0) (World.identify ⟨.standard, ""⟩) ∧
      ∃ cause, makeClosure none (.list [.symbol "x", .symbol ".", .symbol "x"]) [.symbol "x"]
        rootScope ⟨.standard, ""⟩ = .error (.illFormed cause) ⟨.standard, ""⟩ := by
  let w : World := ⟨.standard, ""⟩
  have hpoint : "." ∉ ["car"] := by decide
  have hnodup : (Parameters.mk ["car"] (some "more")).names.Nodup := by decide
  obtain ⟨-, hmakes⟩ := parameter_passing none
    (.list [.symbol "car", .symbol ".", .symbol "more"]) [.symbol "car"] rootScope w
  obtain ⟨c, hc, hcalls⟩ := hmakes ⟨["car"], some "more"⟩ (by simp) (.dotted hpoint "more") hnodup
  obtain ⟨htakes, hpasses, -⟩ :=
    hcalls [.number 1, .number 2, .number 3] (evalAt 9) 0 w.identify
  obtain ⟨hbody, hpassed⟩ := hpasses (htakes.2 ⟨by decide, nofun⟩) (by decide)
  obtain ⟨htakes', -, hfails⟩ := hcalls [] (evalAt 9) 0 w.identify
  have hnone : ¬ c.arity.accepts 0 = true := by
    intro haccepts
    exact absurd (htakes'.1 haccepts).1 (by decide)
  obtain ⟨v, hv, hcar⟩ := hpassed.required 0 "car" rfl
  cases hv
  have hcdr : w.identify.store.get? rootScope "cdr" = some (.procedure (.native .tail)) :=
    Store.get?_of_local? (Store.Initial.standard.local?_native .tail)
  obtain ⟨hduplicate, -⟩ := parameter_passing none
    (.list [.symbol "x", .symbol ".", .symbol "x"]) [.symbol "x"] rootScope w
  refine ⟨c, _, hc, hbody, hcar, hpassed.rest "more" rfl, ?_, hfails hnone, hduplicate ?_⟩
  · exact (hpassed.other "cdr" (by decide)).trans hcdr
  · rintro ⟨-, p, hwritten, hdistinct⟩
    have hread := Parameters.ofForm_eq_ok_iff.2 ⟨hwritten, hdistinct⟩
    cases hread

end Call

end Evaluation

end TimelineLisp
