import TimelineLisp.Proofs.Evaluation.Refinement

/-!
# The budget of depth

An evaluation that starts at a greater depth has fewer levels left before it is nested too deep.
This is all that depth does: side by side with an evaluation of the same form that starts less deep,
**the deeper one has the same outcome or ends with `EvalError.tooDeep`**
(`Evaluation.agrees_of_depth_le`), with the same fuel and so step for step.

Every part of a list is one level deeper than the list, on both sides, and what is in tail position
is as deep as the list; so the difference in depth stays what it was at the start, and a step of the
deeper evaluation is compared with a step of the other by `OutcomeRelation.complete`.
-/

namespace TimelineLisp

/-! ### Outcomes up to the limit -/

/-- The first outcome is the second one, unless the limit on depth was hit. -/
def OutcomeRelation.upToLimit : OutcomeRelation where
  rel _ := Outcome.Agrees
  refl _ _ := .refl _
  bind := by
    intro α β x y f g w hxy hfg
    rcases hxy with hx | ⟨u, hx⟩
    · simp only [EvalM.bind_apply, hx]
      cases y w with
      | value a w' => exact hfg a w'
      | error e w' => exact .refl _
      | outOfFuel => exact .refl _
    · exact Or.inr ⟨u, EvalM.bind_error hx⟩

/-- Outcomes that agree with a settled one from above are that outcome. -/
theorem Outcome.Agrees.eq_of_settled {α : Type} {x o : Outcome α} (h : x.Agrees o)
    (hx : x.Settled) : x = o := by
  rcases h with h | ⟨w, rfl⟩
  · exact h
  · exact absurd rfl hx

namespace Evaluation

/-! ### Two depths side by side -/

variable {low high : ℕ}

theorem evalAt_of_limit_lt {depth : ℕ} (h : depthLimit < depth) (fuel : ℕ) (form : Form)
    (scope : ScopeId) (w : World) :
    evalAt (fuel + 1) depth form scope w = .error .tooDeep w := by
  rw [evalAt_eq_evalBy]
  unfold evalBy
  rw [if_pos h]
  rfl

/-- **An evaluation that starts deeper has the same outcome, or is nested too deep.** -/
theorem agrees_of_depth_le (hle : low ≤ high) (fuel : ℕ) (form : Form) (scope : ScopeId)
    (w : World) :
    (evalAt fuel high form scope w).Agrees (evalAt fuel low form scope w) := by
  -- on the fuel, for both depths at once: the parts of a list are one level deeper on both sides
  induction fuel generalizing low high form scope w with
  | zero => exact .refl _
  | succ fuel ih =>
    by_cases hhigh : depthLimit < high
    · exact Or.inr ⟨w, evalAt_of_limit_lt hhigh fuel form scope w⟩
    · have hlow : ¬ depthLimit < low := fun h => hhigh (Nat.lt_of_lt_of_le h hle)
      cases form with
      | list items =>
        rw [evalAt_list, evalAt_list, if_neg hhigh, if_neg hlow]
        have hparts : OutcomeRelation.upToLimit.Parts (evalAt fuel) (evalAt fuel) high low :=
          fun f p u => ih (Nat.succ_le_succ hle) f p u
        exact OutcomeRelation.complete hparts (fun f p u => ih hle f p u) scope items w
      | _ =>
        rw [evalAt, evalAt, if_neg hhigh, if_neg hlow]
        exact .refl _

/-! ### Evaluations that end -/

/-- With enough fuel, the evaluation of the form at this depth has this outcome. -/
def EndsAt (depth : ℕ) (form : Form) (scope : ScopeId) (w : World) (o : Outcome Value) : Prop :=
  ∃ enough, ∀ fuel, enough ≤ fuel → evalAt fuel depth form scope w = o

theorem endsAt_of_evalAt (fuel : ℕ) {depth : ℕ} {form : Form} {scope : ScopeId} {w : World}
    {o : Outcome Value} (h : evalAt fuel depth form scope w = o) (ho : o ≠ .outOfFuel) :
    EndsAt depth form scope w o := by
  refine ⟨fuel, fun more hmore => ?_⟩
  rw [evalAt_stable (by rwa [h]) hmore, h]

/-- An evaluation that ends with an outcome has it with some amount of fuel. -/
theorem EndsAt.exists_fuel {depth : ℕ} {form : Form} {scope : ScopeId} {w : World}
    {o : Outcome Value} (h : EndsAt depth form scope w o) :
    ∃ fuel, evalAt fuel depth form scope w = o := by
  obtain ⟨fuel, hfuel⟩ := h
  exact ⟨fuel, hfuel fuel (Nat.le_refl _)⟩

/-- **The limit on depth turns outcomes into `EvalError.tooDeep` and changes none otherwise.**  What
an evaluation ends with, be it a value or a fault other than that, the same evaluation ends with at
every smaller depth, in the same world; one that is nested too deep is so at every greater depth;
and whatever an evaluation ends with, at a greater depth it ends with that or is nested too
deep. -/
theorem depth_budget {low high : ℕ} (hle : low ≤ high) (form : Form) (scope : ScopeId)
    (w : World) :
    (∀ o, o.Settled → EndsAt high form scope w o → EndsAt low form scope w o) ∧
    (∀ u, EndsAt low form scope w (.error .tooDeep u) →
      ∃ u', EndsAt high form scope w (.error .tooDeep u')) ∧
    ∀ o, o ≠ .outOfFuel → EndsAt low form scope w o →
      EndsAt high form scope w o ∨ ∃ u, EndsAt high form scope w (.error .tooDeep u) := by
  have hlimit : ∀ o, o ≠ .outOfFuel → EndsAt low form scope w o →
      EndsAt high form scope w o ∨ ∃ u, EndsAt high form scope w (.error .tooDeep u) := by
    intro o ho hend
    obtain ⟨fuel, hfuel⟩ := hend.exists_fuel
    rcases agrees_of_depth_le hle fuel form scope w with h | ⟨u, h⟩
    · exact Or.inl (endsAt_of_evalAt fuel (h.trans hfuel) ho)
    · exact Or.inr ⟨u, endsAt_of_evalAt fuel h (by simp)⟩
  refine ⟨fun o ho hend => ?_, fun u hend => ?_, hlimit⟩
  · obtain ⟨fuel, rfl⟩ := hend.exists_fuel
    have heq := (agrees_of_depth_le hle fuel form scope w).eq_of_settled ho
    refine endsAt_of_evalAt fuel heq.symm ?_
    intro hout
    rw [hout] at ho
    exact ho
  · rcases hlimit _ (by simp) hend with h | h
    · exact ⟨u, h⟩
    · exact h

/-- `(if #t 2 3)` has a value at the depth just below the limit, where its test is evaluated at the
limit, and so it has at depth zero; at the limit it is nested too deep, and so it is beyond. -/
theorem conditional_near_limit :
    (∃ u, EndsAt (depthLimit - 1)
      (.list [.symbol "if", .bool true, .number 2, .number 3]) rootScope ⟨.standard, ""⟩
      (.value (.number 2) u) ∧
    EndsAt 0 (.list [.symbol "if", .bool true, .number 2, .number 3]) rootScope ⟨.standard, ""⟩
      (.value (.number 2) u)) ∧
    ∃ u u', EndsAt depthLimit
      (.list [.symbol "if", .bool true, .number 2, .number 3]) rootScope ⟨.standard, ""⟩
      (.error .tooDeep u) ∧
    EndsAt (depthLimit + 1)
      (.list [.symbol "if", .bool true, .number 2, .number 3]) rootScope ⟨.standard, ""⟩
      (.error .tooDeep u') := by
  let form : Form := .list [.symbol "if", .bool true, .number 2, .number 3]
  let w : World := ⟨.standard, ""⟩
  have hbelow : EndsAt (depthLimit - 1) form rootScope w (.value (.number 2) w) :=
    endsAt_of_evalAt 3 rfl (by simp)
  have hlimit : EndsAt depthLimit form rootScope w (.error .tooDeep w) :=
    endsAt_of_evalAt 3 rfl (by simp)
  obtain ⟨hsettled, -, -⟩ := depth_budget (Nat.zero_le (depthLimit - 1)) form rootScope w
  obtain ⟨-, hdeep, -⟩ := depth_budget (Nat.le_succ depthLimit) form rootScope w
  obtain ⟨u', hu'⟩ := hdeep w hlimit
  exact ⟨⟨w, hbelow, hsettled _ trivial hbelow⟩, w, u', hlimit, hu'⟩

end Evaluation

end TimelineLisp
