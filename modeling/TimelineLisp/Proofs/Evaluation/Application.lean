import Mathlib
import TimelineLisp.Proofs.Evaluation.Parameters
import TimelineLisp.Proofs.Evaluation.Repetition
import TimelineLisp.Proofs.Evaluation.Rules

/-!
# Applications in other words

A procedure can be called without an application being written, and what an application does can be
written in other ways.

* `apply` calls a value with arguments that are at hand.  **It ends as the application of names that
  are bound to them** (`Evaluation.apply_ends_iff`), since the names are looked up one level deeper
  and all else happens at the depth of the call.
* `(let ((x e) ...) b ...)` is `((lambda (x ...) b ...) e ...)`.  Both evaluate the operands from
  the left and the body in a new scope; the application makes a closure before it, and so **it is
  the `let`, evaluated with one more identity given out** (`Evaluation.evalAt_lambdaCall`).  Up to
  identities, the two have the same outcome (`Evaluation.let_as_application`).
-/

namespace TimelineLisp

/-- A name that is not bound yet is bound behind all others. -/
theorem Bindings.insert_of_not_mem {name : String} (v : Value) {b : Bindings}
    (h : name ∉ b.map Prod.fst) : insert name v b = b ++ [(name, v)] := by
  induction b with
  | nil => rfl
  | cons p b ih =>
    rw [List.map_cons, List.mem_cons, not_or] at h
    obtain ⟨hne, hb⟩ := h
    rw [insert, if_neg (Ne.symm hne), ih hb]
    rfl

namespace Evaluation

/-! ### Calling a value -/

theorem apply_eq (fuel : ℕ) (op : Value) (args : List Value) :
    apply fuel op args = complete (evalAt fuel) 0 (invoke (evalAt fuel) 0 op args) :=
  rfl

/-- With enough fuel, the call of the value with the arguments has this outcome. -/
def Applies (op : Value) (args : List Value) (w : World) (o : Outcome Value) : Prop :=
  ∃ enough, ∀ fuel, enough ≤ fuel → apply fuel op args w = o

section Names

variable {depth : ℕ} {scope : ScopeId} {w : World} {names : List String} {args : List Value}

/-- Names that are bound have their values, and looking them up changes nothing. -/
theorem evalEach_symbols (hdepth : depth + 1 ≤ depthLimit)
    (h : List.Forall₂ (fun name v => w.store.get? scope name = some v) names args) (fuel : ℕ) :
    evalEach (evalAt (fuel + 1)) depth scope (names.map .symbol) w = .value args w := by
  induction h with
  | nil => rfl
  | cons hv _ ih =>
    rw [List.map_cons, evalEach, EvalM.bind_value (evalAt_symbol hdepth hv fuel),
      EvalM.bind_value ih]
    rfl

variable {f : String} {op : Value}

/-- An application of names takes one step more than the call. -/
theorem eval_application_of_names (hf : SpecialForm.ofName? f = none)
    (hop : w.store.get? scope f = some op)
    (hargs : List.Forall₂ (fun name v => w.store.get? scope name = some v) names args)
    (fuel : ℕ) :
    eval (fuel + 2) (.list (.symbol f :: names.map .symbol)) scope w =
      apply (fuel + 1) op args w := by
  have hdepth : 0 + 1 ≤ depthLimit := by decide
  have hhead : SpecialForm.ofHead? (.symbol f) = none := hf
  rw [eval, evalAt_list, if_neg (Nat.not_lt_zero _), apply_eq]
  simp only [step, hhead, evalApplication, complete_bind]
  rw [EvalM.bind_value (evalAt_symbol hdepth hop fuel),
    EvalM.bind_value (evalEach_symbols hdepth hargs fuel)]

/-- **Calling a value ends as applying names does that are bound to it and to the arguments**: with
the same value or the same fault, be it that the value is no procedure, that it takes another number
of arguments, that the call is nested too deep or a request to exit; with the same text shown and
the same store; or not at all.  Whatever is bound in the scope besides does not matter, nor whether
some of the names are the same. -/
theorem apply_ends_iff (hf : SpecialForm.ofName? f = none) (hop : w.store.get? scope f = some op)
    (hargs : List.Forall₂ (fun name v => w.store.get? scope name = some v) names args)
    (o : Outcome Value) :
    Applies op args w o ↔ Ends (.list (.symbol f :: names.map .symbol)) scope w o := by
  have hstep := eval_application_of_names hf hop hargs
  constructor
  · rintro ⟨enough, henough⟩
    refine ⟨enough + 2, fun fuel hfuel => ?_⟩
    obtain ⟨fuel, rfl⟩ : ∃ less, fuel = less + 2 := ⟨fuel - 2, by omega⟩
    rw [hstep]
    exact henough (fuel + 1) (by omega)
  · rintro ⟨enough, henough⟩
    refine ⟨enough + 1, fun fuel hfuel => ?_⟩
    obtain ⟨fuel, rfl⟩ : ∃ less, fuel = less + 1 := ⟨fuel - 1, by omega⟩
    rw [← hstep]
    exact henough (fuel + 2) (by omega)

/-- A closure with a rest parameter, which displays its first argument and has the list of the
others as its value, and a native procedure that never has a value: each call ends as the
application of its name. -/
theorem apply_ends_with_application :
    ∃ (w u : World) (c : Closure),
      w.store.get? rootScope "f" = some (.procedure (.closure c)) ∧
      Ends (.list [.symbol "f", .symbol "a", .symbol "b"]) rootScope w
        (.value (.list [.text "s"]) u) ∧
      Applies (.procedure (.closure c)) [.number 1, .text "s"] w (.value (.list [.text "s"]) u) ∧
      u.shown = "1" ∧
      Ends (.list [.symbol "exit", .symbol "a"]) rootScope w (.error (.exit 1) w) ∧
      Applies (.procedure (.native .exit)) [.number 1] w (.error (.exit 1) w) := by
  let c : Closure := ⟨0, some "f", ["x"], some "more",
    [.list [.symbol "display", .symbol "x"], .symbol "more"], rootScope⟩
  let t : Store := Store.standard.newIdentity.2.define rootScope "f" (.procedure (.closure c))
  let s : Store := (t.define rootScope "a" (.number 1)).define rootScope "b" (.text "s")
  let w : World := ⟨s, ""⟩
  let u : World := ⟨(s.newScope (some rootScope)
    [("x", .number 1), ("more", .list [.text "s"])]).2, "1"⟩
  have hf : s.get? rootScope "f" = some (.procedure (.closure c)) := by cbv
  have ha : s.get? rootScope "a" = some (.number 1) := by cbv
  have hb : s.get? rootScope "b" = some (.text "s") := by cbv
  have hexit : s.get? rootScope "exit" = some (.procedure (.native .exit)) := by cbv
  have hcalled : eval 9 (.list [.symbol "f", .symbol "a", .symbol "b"]) rootScope w =
      .value (.list [.text "s"]) u := by cbv
  have hstopped : eval 9 (.list [.symbol "exit", .symbol "a"]) rootScope w =
      .error (.exit 1) w := by cbv
  have hcall := ends_of_eval hcalled (by simp)
  have hstop := ends_of_eval hstopped (by simp)
  exact ⟨w, u, c, hf, hcall, (apply_ends_iff rfl hf (.cons ha (.cons hb .nil)) _).2 hcall, rfl,
    hstop, (apply_ends_iff rfl hexit (.cons ha .nil) _).2 hstop⟩

end Names

/-! ### Local bindings -/

/-- `(let ((x e) ...) body ...)`. -/
def letForm (bindings : List (String × Form)) (body : List Form) : Form :=
  .list (.symbol "let" :: .list (bindings.map fun b => .list [.symbol b.1, b.2]) :: body)

/-- `((lambda (x ...) body ...) e ...)`. -/
def lambdaCall (bindings : List (String × Form)) (body : List Form) : Form :=
  .list (.list (.symbol "lambda" :: .list ((bindings.map Prod.fst).map .symbol) :: body) ::
    bindings.map Prod.snd)

/-- Evaluates the operands, and then the body in a new scope that binds the names to them. -/
def evalLocal (ev : Evaluator) (depth : ℕ) (scope : ScopeId) (bindings : List (String × Form))
    (body : List Form) : EvalM Next := do
  let vs ← evalEach ev depth scope (bindings.map Prod.snd)
  let inner ← EvalM.updates fun s => s.newScope (some scope) ((bindings.map Prod.fst).zip vs)
  evalBody ev depth inner body

section Local

variable {ev : Evaluator} {depth : ℕ} {scope : ScopeId} {bindings : List (String × Form)}
  {body : List Form}

/-- The bindings of a `let` to distinct names are its operands, evaluated from the left. -/
theorem evalBindings_eq (bindings : List (String × Form)) (done : Bindings)
    (hnodup : (done.map Prod.fst ++ bindings.map Prod.fst).Nodup) :
    evalBindings ev depth scope done (bindings.map fun b => .list [.symbol b.1, b.2]) = (do
      let vs ← evalEach ev depth scope (bindings.map Prod.snd)
      pure (done ++ (bindings.map Prod.fst).zip vs)) := by
  induction bindings generalizing done with
  | nil => simp only [List.map_nil, evalBindings, evalEach, pure_bind, List.zip_nil_left,
      List.append_nil]
  | cons b bindings ih =>
    obtain ⟨name, init⟩ := b
    simp only [List.map_cons, evalBindings, evalEach, bind_assoc, pure_bind, List.zip_cons_cons]
    congr 1
    funext v
    have hfresh : name ∉ done.map Prod.fst := by
      intro hmem
      exact (List.nodup_append.1 hnodup).2.2 name hmem name (by simp) rfl
    have hdone : ((done ++ [(name, v)]).map Prod.fst ++ bindings.map Prod.fst).Nodup := by
      simpa using hnodup
    rw [Bindings.insert_of_not_mem v hfresh, ih _ hdone]
    simp only [List.append_assoc, List.singleton_append]

theorem step_letForm (hnodup : (bindings.map Prod.fst).Nodup) (hbody : body ≠ []) :
    step ev depth scope
        (.symbol "let" :: .list (bindings.map fun b => .list [.symbol b.1, b.2]) :: body) =
      evalLocal ev depth scope bindings body := by
  have hlet (operands : List Form) :
      step ev depth scope (.symbol "let" :: operands) = evalLet ev depth scope operands := rfl
  have hempty : ¬ body.isEmpty = true := by simpa using hbody
  rw [hlet, evalLet, evalBindings_eq bindings [] hnodup, evalLocal]
  simp only [bind_assoc, pure_bind, List.nil_append, if_neg hempty]

/-- Operands have as many values as there are operands, if they have values. -/
theorem evalEach_bind_congr {α : Type} {fs : List Form} {k k' : List Value → EvalM α}
    (h : ∀ vs, vs.length = fs.length → k vs = k' vs) :
    evalEach ev depth scope fs >>= k = evalEach ev depth scope fs >>= k' := by
  induction fs generalizing k k' with
  | nil =>
    simp only [evalEach, pure_bind]
    exact h [] rfl
  | cons f fs ih =>
    simp only [evalEach, bind_assoc, pure_bind]
    congr 1
    funext v
    exact ih fun vs hvs => h (v :: vs) (by rw [List.length_cons, List.length_cons, hvs])

/-- A call of a closure with these names as its parameters. -/
theorem evalEach_invoke {c : Closure} (hparams : c.params = bindings.map Prod.fst)
    (hrest : c.rest = none) :
    (do
      let args ← evalEach ev depth c.scope (bindings.map Prod.snd)
      invoke ev depth (.procedure (.closure c)) args) =
      evalLocal ev depth c.scope bindings c.body := by
  refine evalEach_bind_congr fun args hargs => ?_
  rw [List.length_map] at hargs
  have haccepts : c.arity.accepts args.length = true := by
    rw [Closure.accepts_iff]
    simp [Closure.parameters, hparams, hargs]
  have hbindings : argumentBindings c args = (bindings.map Prod.fst).zip args := by
    rw [argumentBindings, hparams, hrest, List.append_nil]
  rw [invoke_closure haccepts, hbindings]

/-- Distinct names, none of them a point, are parameters. -/
theorem makeClosure_of_names (hnodup : (bindings.map Prod.fst).Nodup)
    (hpoint : "." ∉ bindings.map Prod.fst) (hbody : body ≠ []) :
    makeClosure none (.list ((bindings.map Prod.fst).map .symbol)) body scope = (do
      let identity ← EvalM.updates Store.newIdentity
      pure (.procedure (.closure
        ⟨identity, none, bindings.map Prod.fst, none, body, scope⟩))) := by
  funext w
  have hnames : (Parameters.mk (bindings.map Prod.fst) none).names.Nodup := by
    simpa [Parameters.names] using hnodup
  exact makeClosure_of_written hbody (.fixed hpoint) hnames w

/-- The application makes a closure, and then does what the `let` does. -/
theorem step_lambdaCall (hnodup : (bindings.map Prod.fst).Nodup)
    (hpoint : "." ∉ bindings.map Prod.fst) (hbody : body ≠ [])
    (hlambda : ev (depth + 1)
        (.list (.symbol "lambda" :: .list ((bindings.map Prod.fst).map .symbol) :: body)) scope =
      makeClosure none (.list ((bindings.map Prod.fst).map .symbol)) body scope) :
    step ev depth scope
        (.list (.symbol "lambda" :: .list ((bindings.map Prod.fst).map .symbol) :: body) ::
          bindings.map Prod.snd) = (do
      let _ ← EvalM.updates Store.newIdentity
      evalLocal ev depth scope bindings body) := by
  have happlication (head : List Form) (operands : List Form) :
      step ev depth scope (.list head :: operands) =
        evalApplication ev depth scope (.list head) operands := rfl
  rw [happlication, evalApplication, hlambda, makeClosure_of_names hnodup hpoint hbody]
  simp only [bind_assoc, pure_bind]
  congr 1
  funext identity
  exact evalEach_invoke (c := ⟨identity, none, bindings.map Prod.fst, none, body, scope⟩) rfl rfl

theorem evalAt_lambda (hdepth : depth ≤ depthLimit) (fuel : ℕ) (params : Form) (body : List Form)
    (scope : ScopeId) :
    evalAt (fuel + 1) depth (.list (.symbol "lambda" :: params :: body)) scope =
      makeClosure none params body scope := by
  funext w
  have hlambda : step (evalAt fuel) depth scope (.symbol "lambda" :: params :: body) =
      makeClosure none params body scope >>= fun v => pure (.done v) := rfl
  rw [evalAt_list, if_neg (Nat.not_lt.2 hdepth), hlambda]
  simp only [complete_bind, complete_done, bind_pure]

/-- **The application of a lambda is the `let`, with one more identity given out.** -/
theorem evalAt_lambdaCall (hnodup : (bindings.map Prod.fst).Nodup)
    (hpoint : "." ∉ bindings.map Prod.fst) (hbody : body ≠ []) (hdepth : depth < depthLimit)
    (fuel : ℕ) (scope : ScopeId) (w : World) :
    evalAt (fuel + 2) depth (lambdaCall bindings body) scope w =
      evalAt (fuel + 2) depth (letForm bindings body) scope w.identify := by
  have hlambda := evalAt_lambda (Nat.succ_le_of_lt hdepth) fuel
    (.list ((bindings.map Prod.fst).map .symbol)) body scope
  have hwithin : ¬ depthLimit < depth := Nat.not_lt_of_lt hdepth
  rw [lambdaCall, letForm, evalAt_list, evalAt_list, if_neg hwithin, if_neg hwithin,
    step_letForm hnodup hbody, step_lambdaCall hnodup hpoint hbody hlambda, complete_bind]
  exact EvalM.bind_value (EvalM.updates_apply _ _)

/-- With one unit of fuel, neither of the two comes to an end. -/
theorem evalLocal_outOfFuel (hbody : body ≠ []) (depth : ℕ) (scope : ScopeId) (w : World) :
    complete (evalAt 0) depth (evalLocal (evalAt 0) depth scope bindings body) w = .outOfFuel := by
  cases bindings with
  | cons b bindings => rfl
  | nil =>
    match body with
    | [] => exact absurd rfl hbody
    | [last] => rfl
    | f :: g :: fs => rfl

end Local

end Evaluation

/-! ### Renamed outcomes -/

/-- The second outcome is the first one, renamed: values of the same text or the same fault, the
same text shown, and stores that bind the same names alike up to the renaming. -/
inductive Outcome.Renamed (r : Renaming) : Outcome Value → Outcome Value → Prop
  | value {v v' : Value} {u u' : World} (values : r.Values v v') (render : v.render = v'.render)
    (shown : u.shown = u'.shown) (stores : u.store.Renamed r u'.store) :
    Renamed r (.value v u) (.value v' u')
  | error {e : EvalError} {u u' : World} (shown : u.shown = u'.shown)
    (stores : u.store.Renamed r u'.store) : Renamed r (.error e u) (.error e u')
  | outOfFuel : Renamed r .outOfFuel .outOfFuel

namespace Evaluation

/-- **Evaluation does not depend on numbers**: from renamed stores it has renamed outcomes. -/
theorem evalAt_renamed {r : Renaming} {w w' : World} (hstores : w.store.Renamed r w'.store)
    (hshown : w.shown = w'.shown) (fuel depth : ℕ) (form : Form) (scope : ScopeId) :
    Outcome.Renamed r (evalAt fuel depth form scope w)
      (evalAt fuel depth form (r.scope scope) w') := by
  let S := Simulation.renamed r w.shown w'.shown
  have hjob : S.jobs () form scope (r.scope scope) := rfl
  have hworlds : S.Worlds () w w' := ⟨hstores, "", by simp⟩
  have hrun := Simulation.evalAt_simulates fuel depth hjob () trivial w w' hworlds
  -- both runs have added the same text to the same text
  have htexts : ∀ {u u' : World}, S.Worlds () u u' → u.shown = u'.shown := by
    intro u u' hu
    obtain ⟨text, hleft, hright⟩ := hu.texts
    rw [hleft, hright, hshown]
  generalize evalAt fuel depth form scope w = o at hrun ⊢
  generalize evalAt fuel depth form (r.scope scope) w' = o' at hrun ⊢
  cases hrun with
  | value _ _ hu hv => exact .value hv (hv.render_eq r.correspondence) (htexts hu) hu.stores
  | error _ _ hu => exact .error (htexts hu) hu.stores
  | outOfFuel => exact .outOfFuel

/-- **`let` is the application of a lambda.**  For distinct names, none of them a point, and below
the limit on depth, `(let ((x e) ...) b ...)` and `((lambda (x ...) b ...) e ...)` end with values
of the same text or with the same fault, and show the same text, or neither ends; and every scope
binds the same names to the same values on both sides, up to the identities of the closures that
were made on the way.  The closures of the store at the start have identities that it has given out,
as they have in every store that is reached (`Reaches.numbered`). -/
theorem let_as_application (bindings : List (String × Form))
    (hnodup : (bindings.map Prod.fst).Nodup) (hpoint : "." ∉ bindings.map Prod.fst)
    (body : List Form) (hbody : body ≠ []) (scope : ScopeId) (w : World) (hn : w.store.Numbered)
    (depth : ℕ) (hdepth : depth < depthLimit) (fuel : ℕ) :
    Outcome.Renamed (w.store.renamingTo w.identify.store)
      (evalAt fuel depth (letForm bindings body) scope w)
      (evalAt fuel depth (lambdaCall bindings body) scope w) := by
  have hwithin : ¬ depthLimit < depth := Nat.not_lt_of_lt hdepth
  match fuel with
  | 0 => exact .outOfFuel
  | 1 =>
    have hlet : evalAt 1 depth (letForm bindings body) scope w = .outOfFuel := by
      rw [letForm, evalAt_list, if_neg hwithin, step_letForm hnodup hbody]
      exact evalLocal_outOfFuel hbody depth scope w
    have hcall : evalAt 1 depth (lambdaCall bindings body) scope w = .outOfFuel := by
      rw [lambdaCall, evalAt_list, if_neg hwithin]
      rfl
    rw [hlet, hcall]
    exact .outOfFuel
  | fuel + 2 =>
    have hstores : w.store.Renamed (w.store.renamingTo w.identify.store) w.identify.store :=
      Store.renamed_newIdentity hn
    have hscope : (w.store.renamingTo w.identify.store).scope scope = scope :=
      Store.scope_renamingTo_newIdentity w.store scope
    have hrenamed := evalAt_renamed hstores rfl (fuel + 2) depth (letForm bindings body) scope
    rwa [hscope, ← evalAt_lambdaCall hnodup hpoint hbody hdepth] at hrenamed

/-- The operands define `z` in the root scope, make a closure and display a string, and the closure
is the value of the body.  Both ways it has the same text, and `z` is bound to a closure whose
identity is one greater for the application. -/
theorem let_of_closures_as_application :
    ∃ (v v' : Value) (u u' : World) (c c' : Closure),
      evalAt 9 0 (letForm [("x", .list [.symbol "begin",
          .list [.symbol "define", .symbol "z", .list [.symbol "lambda", .list [], .number 1]],
          .list [.symbol "lambda", .list [], .number 2]]),
        ("y", .list [.symbol "display", .text "a"])] [.symbol "x"]) rootScope ⟨.standard, ""⟩ =
        .value v u ∧
      evalAt 9 0 (lambdaCall [("x", .list [.symbol "begin",
          .list [.symbol "define", .symbol "z", .list [.symbol "lambda", .list [], .number 1]],
          .list [.symbol "lambda", .list [], .number 2]]),
        ("y", .list [.symbol "display", .text "a"])] [.symbol "x"]) rootScope ⟨.standard, ""⟩ =
        .value v' u' ∧
      v.render = "#<procedure>" ∧ v'.render = "#<procedure>" ∧ u.shown = "a" ∧ u'.shown = "a" ∧
      u.store.local? rootScope "z" = some (.procedure (.closure c)) ∧
      u'.store.local? rootScope "z" = some (.procedure (.closure c')) ∧
      c'.identity = c.identity + 1 := by
  let bindings : List (String × Form) := [("x", .list [.symbol "begin",
      .list [.symbol "define", .symbol "z", .list [.symbol "lambda", .list [], .number 1]],
      .list [.symbol "lambda", .list [], .number 2]]),
    ("y", .list [.symbol "display", .text "a"])]
  let w : World := ⟨.standard, ""⟩
  let c : Closure := ⟨0, some "z", [], none, [.number 1], rootScope⟩
  let v : Value := .procedure (.closure ⟨1, none, [], none, [.number 2], rootScope⟩)
  let s : Store := (Store.standard.newIdentity.2.define rootScope "z"
    (.procedure (.closure c))).newIdentity.2
  let u : World := ⟨(s.newScope (some rootScope) [("x", v), ("y", .void)]).2, "a"⟩
  have hlet : evalAt 9 0 (letForm bindings [.symbol "x"]) rootScope w = .value v u := by cbv
  have hrenamed := let_as_application bindings (by decide) (by decide) [.symbol "x"] (by simp)
    rootScope w Store.numbered_standard 0 (by decide) 9
  obtain ⟨o, hcall⟩ : ∃ o, evalAt 9 0 (lambdaCall bindings [.symbol "x"]) rootScope w = o :=
    ⟨_, rfl⟩
  rw [hlet, hcall] at hrenamed
  cases hrenamed with
  | @value _ v' _ u' values render shown stores =>
    have hz : u.store.local? rootScope "z" = some (.procedure (.closure c)) := by cbv
    have hv : v.render = "#<procedure>" := by cbv
    have hbound := stores.bound rootScope "z"
    have hroot : (w.store.renamingTo w.identify.store).scope rootScope = rootScope :=
      Store.scope_renamingTo_newIdentity w.store rootScope
    rw [hz, hroot] at hbound
    generalize hz' : u'.store.local? rootScope "z" = bound at hbound
    cases hbound with
    | some hclosure =>
      cases hclosure with
      | @closure _ c' hc =>
        exact ⟨v, v', u, u', c, c', hlet, hcall, hv, render.symm.trans hv, rfl, shown.symm, hz,
          hz', hc.identity⟩

end Evaluation

end TimelineLisp
