import TimelineLisp.Proofs.Evaluation.Rules

/-!
# Sequences inside sequences

The last operand of `begin`, `and` and `or` is in tail position, as deep as the list itself, while
all others are one level deeper.  So the operands from the second one on may be put into a sequence
of their own: **nested and flat sequences end with the same outcome** (`Evaluation.sequences_nest`),
at every depth, the limit included, whatever their operands do.

That a form has the outcome of another one is a matter of enough fuel, since the nested form takes
more steps.  Computations that settle alike (`SettleAlike`) may be exchanged for each other within a
larger one, and a list settles as its completed step does (`settleAlike_list`).

The three special forms differ in when they go on from an operand to the next one, and in this
alone (`Sequencing`).
-/

namespace TimelineLisp

/-- There is one false value. -/
theorem Value.eq_false_of_not_isTrue {v : Value} (h : ¬ v.isTrue = true) : v = .bool false := by
  unfold Value.isTrue at h
  split at h
  · rfl
  · exact absurd rfl h

namespace Evaluation

open Filter

/-! ### Computations that settle alike -/

section SettleAlike

variable {α β : Type} {x y z : ℕ → EvalM α} {w : World} {o o' : Outcome α}

/-- With enough fuel, a computation has one outcome. -/
theorem Settles.unique (h : Settles x w o) (h' : Settles x w o') : o = o' := by
  obtain ⟨fuel, hfuel, hfuel'⟩ := (h.and h').exists
  rw [← hfuel, ← hfuel']

/-- From every world, both computations have the same outcome with enough fuel; the outcome of those
that do not end is that the fuel runs out. -/
def SettleAlike (x y : ℕ → EvalM α) : Prop :=
  ∀ w, ∃ o, Settles x w o ∧ Settles y w o

namespace SettleAlike

theorem symm (h : SettleAlike x y) : SettleAlike y x := by
  intro w
  obtain ⟨o, hx, hy⟩ := h w
  exact ⟨o, hy, hx⟩

theorem trans (hxy : SettleAlike x y) (hyz : SettleAlike y z) : SettleAlike x z := by
  intro w
  obtain ⟨o, hx, hy⟩ := hxy w
  obtain ⟨o', hy', hz⟩ := hyz w
  obtain rfl := hy.unique hy'
  exact ⟨o, hx, hz⟩

theorem settles_iff (h : SettleAlike x y) (w : World) (o : Outcome α) :
    Settles x w o ↔ Settles y w o := by
  obtain ⟨o', hx, hy⟩ := h w
  constructor
  · intro hxo
    rwa [hxo.unique hx]
  · intro hyo
    rwa [hyo.unique hy]

theorem pure (a : α) : SettleAlike (fun _ => Pure.pure a) fun _ => Pure.pure a :=
  fun w => ⟨.value a w, .of_forall fun _ => rfl, .of_forall fun _ => rfl⟩

theorem bind {f g : ℕ → α → EvalM β} (h : SettleAlike x y)
    (hfg : ∀ a, SettleAlike (fun fuel => f fuel a) fun fuel => g fuel a) :
    SettleAlike (fun fuel => x fuel >>= f fuel) fun fuel => y fuel >>= g fuel := by
  intro w
  obtain ⟨o, hx, hy⟩ := h w
  cases o with
  | value a w₁ =>
    obtain ⟨o, hf, hg⟩ := hfg a w₁
    exact ⟨o, hx.bind hf, hy.bind hg⟩
  | error e w₁ => exact ⟨.error e w₁, hx.bind_error, hy.bind_error⟩
  | outOfFuel =>
    -- what comes after a computation that does not end is never reached
    have hstuck : ∀ {x : ℕ → EvalM α} {f : ℕ → α → EvalM β}, Settles x w .outOfFuel →
        Settles (fun fuel => x fuel >>= f fuel) w .outOfFuel := by
      intro x f hx
      filter_upwards [hx] with fuel hx
      exact EvalM.bind_outOfFuel hx
    exact ⟨.outOfFuel, hstuck hx, hstuck hy⟩

end SettleAlike

end SettleAlike

/-! ### Forms that end alike -/

variable {depth : ℕ} {scope : ScopeId}

/-- An evaluation settles: it ends, or the fuel always runs out. -/
theorem settleAlike_evalAt (depth : ℕ) (form : Form) (scope : ScopeId) :
    SettleAlike (fun fuel => evalAt fuel depth form scope)
      fun fuel => evalAt fuel depth form scope := by
  intro w
  have hsettles : ∃ o, EndsAt depth form scope w o := by
    by_cases hend : ∃ fuel, evalAt fuel depth form scope w ≠ .outOfFuel
    · obtain ⟨fuel, hfuel⟩ := hend
      exact ⟨_, endsAt_of_evalAt fuel rfl hfuel⟩
    · refine ⟨.outOfFuel, 0, fun fuel _ => ?_⟩
      by_contra hne
      exact hend ⟨fuel, hne⟩
  obtain ⟨o, ho⟩ := hsettles
  exact ⟨o, endsAt_iff.1 ho, endsAt_iff.1 ho⟩

/-- A list settles as its completed step does, which takes one unit of fuel less. -/
theorem settleAlike_list (hdepth : depth ≤ depthLimit) (items : List Form) (scope : ScopeId) :
    SettleAlike (fun fuel => evalAt fuel depth (.list items) scope)
      fun fuel => complete (evalAt fuel) depth (step (evalAt fuel) depth scope items) := by
  intro w
  obtain ⟨o, ho, -⟩ := settleAlike_evalAt depth (.list items) scope w
  refine ⟨o, ho, ?_⟩
  obtain ⟨enough, henough⟩ := eventually_atTop.1 ho
  refine eventually_atTop.2 ⟨enough, fun fuel hfuel => ?_⟩
  have hmore : evalAt (fuel + 1) depth (.list items) scope w = o :=
    henough (fuel + 1) (Nat.le_succ_of_le hfuel)
  rwa [evalAt_list, if_neg (Nat.not_lt.2 hdepth)] at hmore

/-- At this depth, whatever one of the forms ends with, in any scope and any world, the other one
ends with: the same value or fault, the same text shown and the same store.  If one of them does not
end, neither does the other. -/
def EndAlike (depth : ℕ) (f g : Form) : Prop :=
  ∀ scope w o, EndsAt depth f scope w o ↔ EndsAt depth g scope w o

theorem EndAlike.trans {f g k : Form} (hfg : EndAlike depth f g) (hgk : EndAlike depth g k) :
    EndAlike depth f k :=
  fun scope w o => (hfg scope w o).trans (hgk scope w o)

/-- Lists end alike if their completed steps settle alike; beyond the limit on depth, all lists end
alike. -/
theorem endAlike_list {items items' : List Form}
    (h : depth ≤ depthLimit → ∀ scope,
      SettleAlike (fun fuel => complete (evalAt fuel) depth (step (evalAt fuel) depth scope items))
        fun fuel => complete (evalAt fuel) depth (step (evalAt fuel) depth scope items')) :
    EndAlike depth (.list items) (.list items') := by
  intro scope w o
  by_cases hdepth : depth ≤ depthLimit
  · have hlists := (settleAlike_list hdepth items scope).trans
      ((h hdepth scope).trans (settleAlike_list hdepth items' scope).symm)
    rw [endsAt_iff, endsAt_iff]
    exact hlists.settles_iff w o
  · have hdeep (items : List Form) := endsAt_tooDeep (Nat.lt_of_not_le hdepth) (.list items) scope w
    have honly (items : List Form) :
        EndsAt depth (.list items) scope w o ↔ o = .error .tooDeep w := by
      constructor
      · intro hend
        exact (endsAt_iff.1 hend).unique (endsAt_iff.1 (hdeep items))
      · rintro rfl
        exact hdeep items
    rw [honly, honly]

/-! ### Sequences -/

/-- The name heads sequences of operands: one operand is in tail position, and from the first one of
several the sequence goes on with the others if its value is such that `goesOn`, and has that value
otherwise. -/
structure Sequencing (name : String) (goesOn : Value → Bool) : Prop where
  last : ∀ (ev : Evaluator) (depth : ℕ) (scope : ScopeId) (f : Form),
    complete ev depth (step ev depth scope [.symbol name, f]) = ev depth f scope
  more : ∀ (ev : Evaluator) (depth : ℕ) (scope : ScopeId) (f g : Form) (fs : List Form),
    complete ev depth (step ev depth scope (.symbol name :: f :: g :: fs)) = (do
      let v ← ev (depth + 1) f scope
      if goesOn v then complete ev depth (step ev depth scope (.symbol name :: g :: fs))
      else pure v)

theorem sequencing_begin : Sequencing "begin" fun _ => true where
  last _ _ _ _ := rfl
  more ev depth scope f g fs := by
    have hbegin (fs : List Form) :
        step ev depth scope (.symbol "begin" :: fs) = evalBody ev depth scope fs := rfl
    simp only [hbegin, evalBody, complete_bind, if_true]

theorem sequencing_and : Sequencing "and" Value.isTrue where
  last _ _ _ _ := rfl
  more ev depth scope f g fs := by
    have hand (fs : List Form) :
        step ev depth scope (.symbol "and" :: fs) = evalAnd ev depth scope fs := rfl
    simp only [hand, evalAnd, complete_bind, complete_ite, complete_done]

theorem sequencing_or : Sequencing "or" fun v => !v.isTrue where
  last _ _ _ _ := rfl
  more ev depth scope f g fs := by
    have hor (fs : List Form) :
        step ev depth scope (.symbol "or" :: fs) = evalOr ev depth scope fs := rfl
    simp only [hor, evalOr, complete_bind, complete_ite, complete_done]
    congr 1
    funext v
    cases v.isTrue <;> rfl

/-- **All operands but the first one may be put into a sequence of their own.** -/
theorem Sequencing.nest {name : String} {goesOn : Value → Bool} (h : Sequencing name goesOn)
    (depth : ℕ) (first second : Form) (rest : List Form) :
    EndAlike depth (.list (.symbol name :: first :: second :: rest))
      (.list [.symbol name, first, .list (.symbol name :: second :: rest)]) := by
  refine endAlike_list fun hdepth scope => ?_
  simp only [h.more, h.last]
  refine (settleAlike_evalAt (depth + 1) first scope).bind fun v => ?_
  by_cases hv : goesOn v = true
  · -- the inner list takes its step within the outer one, or on its own
    simp only [hv, if_true]
    exact (settleAlike_list hdepth (.symbol name :: second :: rest) scope).symm
  · simp only [hv]
    exact .pure v

/-- A conjunction of two forms is a conditional: the one false value is `#f`, which has itself as
its value. -/
theorem endAlike_and_if (depth : ℕ) (first second : Form) :
    EndAlike depth (.list [.symbol "and", first, second])
      (.list [.symbol "if", first, second, .bool false]) := by
  refine endAlike_list fun hdepth scope => ?_
  simp only [sequencing_and.more, sequencing_and.last, complete_step_if]
  refine (settleAlike_evalAt (depth + 1) first scope).bind fun v => ?_
  by_cases hv : v.isTrue = true
  · simp only [hv, if_true]
    exact settleAlike_evalAt depth second scope
  · simp only [hv]
    intro w
    have hfalse := endsAt_bool hdepth false scope w
    refine ⟨.value (.bool false) w, .of_forall fun _ => ?_, endsAt_iff.1 hfalse⟩
    rw [Value.eq_false_of_not_isTrue hv]
    rfl

/-- **Sequences can be nested or flattened.**  At every depth, `(begin e₁ e₂ ...)`, `(or e₁ e₂ ...)`
and `(and e₁ e₂ ...)` end as they do with all operands from the second one on in a sequence of their
own, and a conjunction also ends as the conditional `(if e₁ (and e₂ ...) #f)`: with the same value
or fault, the fault of being nested too deep included, the same text shown and the same store, or
not at all. -/
theorem sequences_nest (depth : ℕ) (first second : Form) (rest : List Form) :
    EndAlike depth (.list (.symbol "begin" :: first :: second :: rest))
      (.list [.symbol "begin", first, .list (.symbol "begin" :: second :: rest)]) ∧
    EndAlike depth (.list (.symbol "or" :: first :: second :: rest))
      (.list [.symbol "or", first, .list (.symbol "or" :: second :: rest)]) ∧
    EndAlike depth (.list (.symbol "and" :: first :: second :: rest))
      (.list [.symbol "and", first, .list (.symbol "and" :: second :: rest)]) ∧
    EndAlike depth (.list (.symbol "and" :: first :: second :: rest))
      (.list [.symbol "if", first, .list (.symbol "and" :: second :: rest), .bool false]) := by
  have hand := sequencing_and.nest depth first second rest
  refine ⟨sequencing_begin.nest depth first second rest,
    sequencing_or.nest depth first second rest, hand, ?_⟩
  exact hand.trans (endAlike_and_if depth first (.list (.symbol "and" :: second :: rest)))

end Evaluation

end TimelineLisp
