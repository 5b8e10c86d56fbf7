import Mathlib.Logic.Relation
import TimelineLisp.Proofs.Evaluation.Completion

/-!
# The worlds that an evaluation passes through

The evaluator gives the world at the end of an evaluation alone.  To speak of the worlds on the
way, an evaluation is broken off (`Evaluation.evalUntil`): where it starts on a form, and where it
has the value of a form, it may end with the world as it is.  Every change of the store lies
between two such points, so an evaluation **passes** through just the worlds in which it can be
broken off, and it **reaches** the worlds that evaluations one after the other pass through
(`Evaluation.Reaches`), whether they have a value, fail or go on for ever.

An evaluation that is broken off in fewer worlds is broken off later, so two points of one
evaluation are given by two choices of worlds, one inside the other.  It might come back to a world
that it has left; so a mark may be shown at every point, which no program can read, and the further
an evaluation has come, the more of them are shown.  What one comes to in this way, from a point of
an evaluation on, in that evaluation and in those after it, **follows** (`Evaluation.Follows`).

**Stores only grow**, from any point of an evaluation to all that follow
(`Evaluation.Follows.grows`), and an evaluation that is broken off leaves the world that was picked
(`Evaluation.evalUntil_eq_or`).
-/

namespace TimelineLisp

namespace Evaluation

/-! ### Evaluations that are broken off -/

/-- A point of an evaluation: it is broken off in the worlds that `stop` picks, and shows the mark
in all others. -/
def point (mark : String) (stop : World → Bool) : EvalM Unit :=
  fun w => if stop w then .error .tooDeep w else .value () (w.show mark)

/-- The evaluator with a point before a form is evaluated, and one after it has a value. -/
def breakOff (mark : String) (stop : World → Bool) (ev : Evaluator) : Evaluator :=
  fun depth form scope => do
    point mark stop
    let v ← ev depth form scope
    point mark stop
    pure v

/-- Evaluates a form like `evalAt`, up to a world that `stop` picks. -/
def evalUntil (mark : String) (stop : World → Bool) : ℕ → Evaluator
  | 0 => fun _ _ _ _ => .outOfFuel
  | fuel + 1 => breakOff mark stop (evalBy (evalUntil mark stop fuel))

theorem point_never : point "" (fun _ => false) = pure () := by
  funext w
  simp only [point, World.show, String.append_empty]
  rfl

/-- An evaluation that is never broken off and shows no marks is an evaluation. -/
theorem evalUntil_never (fuel : ℕ) : evalUntil "" (fun _ => false) fuel = evalAt fuel := by
  induction fuel with
  | zero => rfl
  | succ fuel ih =>
    rw [evalUntil, ih, evalAt_eq_evalBy]
    funext depth form scope
    simp only [breakOff, point_never, pure_bind, bind_pure]

/-! ### Worlds that are passed and worlds that follow -/

/-- The evaluation of a form, in some scope of the first world, passes through the second one. -/
def Passes (w w' : World) : Prop :=
  ∃ mark stop fuel form scope, scope < w.store.scopes.size ∧
    (evalUntil mark stop fuel 0 form scope w).world? = some w'

/-- The second world is reached from the first one, by evaluating forms one after the other. -/
def Reaches : World → World → Prop :=
  Relation.ReflTransGen Passes

/-- An evaluation passes through the first world, and through the second one at that point or later:
it comes to the second world if it is broken off in fewer worlds. -/
def Comes (u u' : World) : Prop :=
  ∃ mark stop stop' fuel form scope w, (∀ v, stop' v → stop v) ∧
    (evalUntil mark stop fuel 0 form scope w).world? = some u ∧
    (evalUntil mark stop' fuel 0 form scope w).world? = some u'

/-- The second world comes after the first one, in the evaluation that is under way there or in
those after it. -/
def Follows : World → World → Prop :=
  Relation.ReflTransGen Comes

theorem passes_eval {fuel : ℕ} {form : Form} {scope : ScopeId} {w w' : World}
    (hscope : scope < w.store.scopes.size) (h : (eval fuel form scope w).world? = some w') :
    Passes w w' := by
  refine ⟨"", fun _ => false, fuel, form, scope, hscope, ?_⟩
  rw [evalUntil_never]
  exact h

/-- An evaluation starts from a world that it passes through. -/
theorem Passes.comes {w w' : World} (h : Passes w w') : Comes w w' := by
  obtain ⟨mark, stop, fuel, form, scope, -, hend⟩ := h
  refine ⟨mark, fun _ => true, stop, fuel, form, scope, w, fun _ _ => rfl, ?_, hend⟩
  cases fuel with
  | zero => cases hend
  | succ fuel => rfl

theorem Reaches.follows {w w' : World} (h : Reaches w w') : Follows w w' :=
  Relation.ReflTransGen.mono (fun _ _ => Passes.comes) w w' h

end Evaluation

/-! ### Going on from where another run is broken off -/

/-- From a world with the store `s`, both runs end alike, or the first one is broken off in a world
that `stop` picks and the second one goes on from there; and the store grows all the way. -/
inductive Outcome.GoesOn {α : Type} (stop : World → Bool) (s : Store) :
    Outcome α → Outcome α → Prop
  | same {o : Outcome α} (h : o.GrownFrom s) : GoesOn stop s o o
  | later {u : World} {o : Outcome α} (hstop : stop u) (hu : s.Grows u.store)
    (h : o.GrownFrom u.store) : GoesOn stop s (.error .tooDeep u) o

namespace Outcome.GoesOn

variable {α : Type} {stop : World → Bool} {s t : Store} {o o' : Outcome α}

theorem grown (h : GoesOn stop s o o') : o'.GrownFrom s := by
  cases h with
  | same h => exact h
  | later _ hu h => exact h.trans hu

theorem trans (hst : s.Grows t) (h : GoesOn stop t o o') : GoesOn stop s o o' := by
  cases h with
  | same h => exact .same (h.trans hst)
  | later hstop hu h => exact .later hstop (hst.trans hu) h

/-- The world in which the first run ends grows into that in which the second one ends. -/
theorem grows (h : GoesOn stop s o o') {u u' : World} (hu : o.world? = some u)
    (hu' : o'.world? = some u') : u.store.Grows u'.store := by
  cases h with
  | same _ =>
    obtain rfl : u = u' := Option.some.inj (hu.symm.trans hu')
    exact .refl _
  | later _ _ h =>
    cases hu
    exact h u' hu'

end Outcome.GoesOn

/-- The first run is broken off, in a world that `stop` picks, where the second one goes on. -/
def OutcomeRelation.goesOn (stop : World → Bool) : OutcomeRelation where
  rel w := Outcome.GoesOn stop w.store
  refl hx w := .same (hx w)
  bind := by
    intro α β x y f g w hxy hfg
    rw [EvalM.bind_apply, EvalM.bind_apply]
    generalize x w = o at hxy ⊢
    generalize y w = o' at hxy ⊢
    cases hxy with
    | same h =>
      cases o with
      | value a u => exact (hfg a u).trans (h u rfl)
      | error e u => exact .same (.error e (h u rfl))
      | outOfFuel => exact .same (.outOfFuel _)
    | @later u o hstop hu h =>
      refine .later hstop hu ?_
      cases o' with
      -- the second run is past the point where the first one ends
      | value a u' => exact (hfg a u').grown.trans (h u' rfl)
      | error e u' => exact .error e (h u' rfl)
      | outOfFuel => exact .outOfFuel _

namespace Evaluation

section TwoPoints

variable {mark : String} {stop stop' : World → Bool}

theorem grows_point (mark : String) (stop : World → Bool) : (point mark stop).Grows := by
  intro w
  unfold point
  split_ifs
  · exact .error _ (.refl _)
  · exact .value _ (.refl _)

/-- Where both are not broken off alike, the first one is. -/
theorem point_goesOn (hstop : ∀ v, stop' v → stop v) (w : World) :
    Outcome.GoesOn stop w.store (point mark stop w) (point mark stop' w) := by
  by_cases hw : stop w
  · have hpoint : point mark stop w = .error .tooDeep w := if_pos hw
    rw [hpoint]
    exact .later hw (.refl _) (grows_point mark stop' w)
  · have hpoint : point mark stop w = point mark stop' w := by
      rw [point, point, if_neg hw, if_neg fun hw' => hw (hstop w hw')]
    rw [hpoint]
    exact .same (grows_point mark stop' w)

/-- **An evaluation that is broken off in fewer worlds goes on** from where it would have been
broken off otherwise, and the store grows. -/
theorem evalUntil_goesOn (hstop : ∀ v, stop' v → stop v) (fuel depth : ℕ) (form : Form)
    (scope : ScopeId) (w : World) :
    Outcome.GoesOn stop w.store (evalUntil mark stop fuel depth form scope w)
      (evalUntil mark stop' fuel depth form scope w) := by
  let R := OutcomeRelation.goesOn stop
  induction fuel generalizing depth form scope w with
  | zero => exact .same (.outOfFuel _)
  | succ fuel ih =>
    have hby : ∀ w, R.rel w (evalBy (evalUntil mark stop fuel) depth form scope w)
        (evalBy (evalUntil mark stop' fuel) depth form scope w) :=
      OutcomeRelation.evalBy ih depth form scope
    refine R.bind (point_goesOn hstop w) fun _ w => R.bind (hby w) fun v w => ?_
    exact R.bind (point_goesOn hstop w) fun _ w => R.refl (EvalM.grows_pure v) w

end TwoPoints

/-- **The world in which an evaluation is broken off is kept as it is**, so every world that an
evaluation comes through can be picked. -/
theorem evalUntil_eq_or (mark : String) (stop : World → Bool) (fuel depth : ℕ) (form : Form)
    (scope : ScopeId) (w : World) :
    evalUntil mark stop fuel depth form scope w =
        evalUntil mark (fun _ => false) fuel depth form scope w ∨
      ∃ u, stop u ∧ evalUntil mark stop fuel depth form scope w = .error .tooDeep u := by
  have hrun : Outcome.GoesOn stop w.store (evalUntil mark stop fuel depth form scope w)
      (evalUntil mark (fun _ => false) fuel depth form scope w) :=
    evalUntil_goesOn (by simp) fuel depth form scope w
  generalize evalUntil mark stop fuel depth form scope w = o at hrun ⊢
  cases hrun with
  | same _ => exact Or.inl rfl
  | @later u _ hstop _ _ => exact Or.inr ⟨u, hstop, rfl⟩

/-- **Stores grow from one point of an evaluation to the next.** -/
theorem Comes.grows {u u' : World} (h : Comes u u') : u.store.Grows u'.store := by
  obtain ⟨mark, stop, stop', fuel, form, scope, w, hstop, hu, hu'⟩ := h
  exact (evalUntil_goesOn hstop fuel 0 form scope w).grows hu hu'

theorem Follows.grows {u u' : World} (h : Follows u u') : u.store.Grows u'.store := by
  induction h with
  | refl => exact .refl _
  | tail _ hcomes ih => exact ih.trans hcomes.grows

end Evaluation

end TimelineLisp
