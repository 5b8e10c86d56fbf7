import Mathlib
import TimelineLisp.Proofs.Form.Lines
import TimelineLisp.Proofs.Form.Pull
import TimelineLisp.Script

/-!
# Reading and evaluating in turn

A script may be read form by form, each form being evaluated before the next one is read
(`Script.interpretLazily`), or read as a whole before anything is evaluated.  **The order does not
show**: `Script.interpret` gives the entries of the first way, and where the text has no fault
`Script.run` gives the result of the second (`Script.script_order`).

Since finished forms stay when lines are added to a text, **a form that fails hides all text after
it**, readable or not (`Script.interpret_append_of_failure`).
-/

namespace TimelineLisp

namespace Script

variable (fuel : ℕ) (scope : ScopeId)

/-! ### Reading form by form -/

/-- Pulls a form from the text and evaluates it before the next one is pulled. -/
def interpretFrom (c : Cursor) (w : World) : Option (List Entry × World) :=
  match _h : Reader.State.pull {} c with
  | .finished => some ([], w)
  | .fault e => some ([faultEntry e], w)
  | .form f rest =>
    match Evaluation.eval fuel f scope w with
    | .outOfFuel => none
    | .error e w' => some ([⟨some f, .error (.eval e), w.shownSince w'⟩], w')
    | .value v w' =>
      match interpretFrom rest w' with
      | none => none
      | some (entries, w'') => some (⟨some f, .ok v, w.shownSince w'⟩ :: entries, w'')
termination_by c.rest.length
decreasing_by exact Reader.pull_shorter _h

/-- Reads a text form by form and evaluates each form before the next one is read, up to the first
failure. -/
def interpretLazily (source : String) (w : World) : Option (List Entry × World) :=
  interpretFrom fuel scope (.ofString source) w

theorem interpretFrom_eq (c : Cursor) (w : World) :
    interpretFrom fuel scope c w =
      interpretForms fuel scope (Reader.State.readFrom {} c).fault
        (Reader.State.readFrom {} c).forms w := by
  fun_induction interpretFrom fuel scope c w with
  | case1 c w hpull =>
    rw [Reader.readFrom_pull rfl, hpull]
    rfl
  | case2 c w e hpull =>
    rw [Reader.readFrom_pull rfl, hpull]
    rfl
  | case3 c w f rest hpull heval =>
    simp only [Reader.readFrom_of_pull hpull, interpretForms, heval]
  | case4 c w f rest hpull e w' heval =>
    simp only [Reader.readFrom_of_pull hpull, interpretForms, heval]
  | case5 c w f rest hpull v w' heval hrest ih =>
    simp only [Reader.readFrom_of_pull hpull, interpretForms, heval, ← ih, hrest]
  | case6 c w f rest hpull v w' heval entries w'' hrest ih =>
    simp only [Reader.readFrom_of_pull hpull, interpretForms, heval, ← ih, hrest]

/-- **Evaluating each form before the next one is read makes no difference.** -/
theorem interpretLazily_eq (source : String) (w : World) :
    interpretLazily fuel scope source w = interpret fuel scope source w :=
  interpretFrom_eq fuel scope (.ofString source) w

/-! ### The result of a script -/

/-- The result of the last entry, or `last` if there are none. -/
def resultAfter (last : Value) (entries : List Entry) : Except Failure Value :=
  match entries.getLast? with
  | some entry => entry.result
  | none => .ok last

/-- How a script ends whose forms have this outcome: with the first evaluation error, else with the
fault of the text, else with the last value. -/
def conclude (fault : Option ReadError) : Outcome Value → Option (Except Failure Value × World)
  | .outOfFuel => none
  | .error e w => some (.error (.eval e), w)
  | .value v w =>
    match fault with
    | some e => some (.error (.read e), w)
    | none => some (.ok v, w)

variable {fuel scope}

theorem resultAfter_cons (last v : Value) (form : Option Form) (shown : String)
    (entries : List Entry) :
    resultAfter last (⟨form, .ok v, shown⟩ :: entries) = resultAfter v entries := by
  cases entries with
  | nil => rfl
  | cons entry entries => rfl

/-- The entries of forms end as the evaluation of the forms in order does. -/
theorem interpretForms_result (fault : Option ReadError) (last : Value) (fs : List Form)
    (w : World) :
    (interpretForms fuel scope fault fs w).map (fun r => (resultAfter last r.1, r.2)) =
      conclude fault (Evaluation.evalForms fuel scope last fs w) := by
  induction fs generalizing last w with
  | nil => cases fault <;> rfl
  | cons f fs ih =>
    rw [interpretForms, Evaluation.evalForms, EvalM.bind_apply]
    cases Evaluation.eval fuel f scope w with
    | outOfFuel => rfl
    | error e w' => rfl
    | value v w' =>
      dsimp only
      rw [← ih v w']
      cases interpretForms fuel scope fault fs w' with
      | none => rfl
      | some r => simp only [Option.map_some, resultAfter_cons]

/-- **The forms are evaluated in order.**  A script ends with the first evaluation error, else with
the fault of the text, else with the value of the last form. -/
theorem run_eq_conclude (source : String) (w : World) :
    run fuel scope source w =
      conclude (read source).fault
        (Evaluation.evalForms fuel scope .void (read source).forms w) := by
  rw [← interpretForms_result, run, interpret]
  cases interpretForms fuel scope (read source).fault (read source).forms w <;> rfl

theorem runEager_of_complete {source : String} (h : (read source).fault = none) (w : World) :
    runEager fuel scope source w = run fuel scope source w := by
  rw [run_eq_conclude, h, runEager, readAll]
  simp only [h]
  cases Evaluation.evalForms fuel scope .void (read source).forms w <;> rfl

/-! ### Text after a failure -/

/-- Forms after one that fails are not evaluated, and the text after it is not read. -/
theorem interpretForms_append_of_failure {fault : Option ReadError} {fs : List Form} {w w' : World}
    {entries : List Entry} {last : Value} {e : EvalError}
    (h : interpretForms fuel scope fault fs w = some (entries, w'))
    (he : resultAfter last entries = .error (.eval e)) (fault' : Option ReadError)
    (gs : List Form) :
    interpretForms fuel scope fault' (fs ++ gs) w = some (entries, w') := by
  induction fs generalizing w entries last with
  | nil =>
    -- nothing has failed but the reading
    cases h
    cases fault <;> cases he
  | cons f fs ih =>
    rw [List.cons_append, interpretForms]
    rw [interpretForms] at h
    cases heval : Evaluation.eval fuel f scope w with
    | outOfFuel =>
      rw [heval] at h
      cases h
    | error e' u =>
      rw [heval] at h
      exact h
    | value v u =>
      simp only [heval] at h ⊢
      cases hrest : interpretForms fuel scope fault fs u with
      | none =>
        rw [hrest] at h
        cases h
      | some r =>
        obtain ⟨more, u'⟩ := r
        rw [hrest] at h
        cases h
        rw [resultAfter_cons] at he
        rw [ih hrest he]

/-- **A form that fails hides all text after it.** -/
theorem interpret_append_of_failure {source : String} {w w' : World} {entries : List Entry}
    {e : EvalError} (h : interpret fuel scope source w = some (entries, w'))
    (he : lastResult entries = .error (.eval e)) (more : String) :
    interpret fuel scope (source ++ "\n" ++ more) w = some (entries, w') := by
  obtain ⟨gs, hgs⟩ := forms_prefix_read_append source more
  rw [interpret, ← hgs]
  exact interpretForms_append_of_failure h he _ gs

/-- **The order of reading and evaluating does not show.**  Reading a text form by form, each form
being evaluated before the next one is read, gives the same entries and the same world as reading
it first.  A script ends with the first evaluation error of its forms in order, else with the fault
of the text, else with the last value, which is void if there are no forms; without a fault this
is what comes of reading the whole text first.  And a script that stops at an evaluation error
gives the same entries, and leaves the same world, with any text on the lines after it. -/
theorem script_order (fuel : ℕ) (scope : ScopeId) (source : String) (w : World) :
    interpretLazily fuel scope source w = interpret fuel scope source w ∧
    run fuel scope source w =
      conclude (read source).fault
        (Evaluation.evalForms fuel scope .void (read source).forms w) ∧
    ((read source).fault = none →
      run fuel scope source w = runEager fuel scope source w) ∧
    ∀ entries w' e, interpret fuel scope source w = some (entries, w') →
      lastResult entries = .error (.eval e) →
      ∀ more, interpret fuel scope (source ++ "\n" ++ more) w = some (entries, w') := by
  refine ⟨interpretLazily_eq fuel scope source w, run_eq_conclude source w, fun h => ?_, ?_⟩
  · exact (runEager_of_complete h w).symm
  · intro entries w' e h he more
    exact interpret_append_of_failure h he more

/-- A script that has no fault, and one that stops at a symbol without a value, with a bracket that
closes nothing on the next line. -/
theorem script_order_cases :
    run 9 rootScope "1 'a" .standard = runEager 9 rootScope "1 'a" .standard ∧
    interpret 9 rootScope ("1 b 2" ++ "\n" ++ ")") .standard =
      some ([⟨some (.number 1), .ok (.number 1), ""⟩,
        ⟨some (.symbol "b"), .error (.eval (.unbound "b")), ""⟩], .standard) := by
  have hread : (read "1 'a").fault = none := by cbv
  have hinterpret : interpret 9 rootScope "1 b 2" .standard =
      some ([⟨some (.number 1), .ok (.number 1), ""⟩,
        ⟨some (.symbol "b"), .error (.eval (.unbound "b")), ""⟩], .standard) := by cbv
  obtain ⟨-, -, heager, -⟩ := script_order 9 rootScope "1 'a" .standard
  obtain ⟨-, -, -, hhidden⟩ := script_order 9 rootScope "1 b 2" .standard
  exact ⟨heager hread, hhidden _ _ _ hinterpret rfl ")"⟩

end Script

end TimelineLisp
