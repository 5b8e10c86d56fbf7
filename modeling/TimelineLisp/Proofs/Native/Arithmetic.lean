import Mathlib
import TimelineLisp.Native.Apply

/-!
# Arithmetic on any number of arguments

`Native.Answers` gives the rules of the procedures that take any number of numbers: sums and
products, differences and quotients, and comparisons.  A comparison holds of its arguments if the
relation holds between **any two of them** in their order, and not only between neighbours; an
argument that is no number is refused before anything is computed, and of several the leftmost.

**On every list of arguments whose number it takes, such a procedure answers by the rules**
(`Native.numeric_answers`).  Each list falls under one rule (`exists_answers`), and what a rule
says is what is computed (`Answers.apply_eq`).
-/

namespace TimelineLisp

namespace Native

/-! ### The rules -/

/-- The procedure tests whether the relation holds. -/
inductive Compares : Native → (Number → Number → Prop) → Prop
  | equal : Compares .equal (· = ·)
  | less : Compares .less (· < ·)
  | greater : Compares .greater (· > ·)
  | lessOrEqual : Compares .lessOrEqual (· ≤ ·)
  | greaterOrEqual : Compares .greaterOrEqual (· ≥ ·)

/-- The procedure takes any number of numbers. -/
inductive Numeric : Native → Prop
  | add : Numeric .add
  | subtract : Numeric .subtract
  | multiply : Numeric .multiply
  | divide : Numeric .divide
  | comparison {n : Native} {R : Number → Number → Prop} (h : Compares n R) : Numeric n

/-- What a procedure that takes any number of numbers answers to its arguments. -/
inductive Answers : Native → List Value → Except EvalError Reply → Prop
  /-- The leftmost argument that is no number is refused. -/
  | refusal {n : Native} (hn : Numeric n) (before : List Number) {v : Value}
    (hv : ∀ x, v ≠ .number x) (after : List Value) :
    Answers n (before.map .number ++ v :: after) (.error (.wrongType n .number v.render))
  /-- The sum does not hang on the order of the numbers. -/
  | sum {ns ms : List Number} (h : ms.Perm ns) :
    Answers .add (ms.map .number) (.ok ⟨.number ns.sum, ""⟩)
  /-- Nor does the product. -/
  | product {ns ms : List Number} (h : ms.Perm ns) :
    Answers .multiply (ms.map .number) (.ok ⟨.number ns.prod, ""⟩)
  | negation (a : Number) : Answers .subtract [.number a] (.ok ⟨.number (-a), ""⟩)
  | difference (a : Number) {ns : List Number} (hne : ns ≠ []) :
    Answers .subtract (.number a :: ns.map .number) (.ok ⟨.number (a - ns.sum), ""⟩)
  | reciprocal {a : Number} (h : a ≠ 0) : Answers .divide [.number a] (.ok ⟨.number a⁻¹, ""⟩)
  /-- Zero has no reciprocal. -/
  | noReciprocal : Answers .divide [.number 0] (.error (.divisionByZero .divide))
  | quotient (a : Number) {ns : List Number} (hne : ns ≠ []) (h : 0 ∉ ns) :
    Answers .divide (.number a :: ns.map .number) (.ok ⟨.number (a / ns.prod), ""⟩)
  /-- No number can be divided by zero. -/
  | noQuotient (a : Number) {ns : List Number} (h : 0 ∈ ns) :
    Answers .divide (.number a :: ns.map .number) (.error (.divisionByZero .divide))
  /-- The relation holds between each number and all that come after it. -/
  | holds {n : Native} {R : Number → Number → Prop} (hn : Compares n R) {ns : List Number}
    (h : ns.Pairwise R) : Answers n (ns.map .number) (.ok ⟨.bool true, ""⟩)
  /-- There are two numbers between which it does not hold. -/
  | fails {n : Native} {R : Number → Number → Prop} (hn : Compares n R) {ns : List Number}
    (h : ¬ ns.Pairwise R) : Answers n (ns.map .number) (.ok ⟨.bool false, ""⟩)

/-! ### Arguments -/

theorem each_number_map (n : Native) (ns : List Number) :
    each n.number (ns.map .number) = .ok ns := by
  induction ns with
  | nil => rfl
  | cons a ns ih =>
    rw [List.map_cons, each, ih]
    rfl

theorem number_of_not {v : Value} (hv : ∀ x, v ≠ .number x) (n : Native) :
    n.number v = .error (.wrongType n .number v.render) := by
  cases v with
  | number x => exact absurd rfl (hv x)
  | _ => rfl

/-- The numbers in front of an argument that is refused do not matter. -/
theorem each_number_of_not {v : Value} (hv : ∀ x, v ≠ .number x) (n : Native)
    (before : List Number) (after : List Value) :
    each n.number (before.map .number ++ v :: after) =
      .error (.wrongType n .number v.render) := by
  induction before with
  | nil =>
    rw [List.map_nil, List.nil_append, each, number_of_not hv]
    rfl
  | cons a before ih =>
    rw [List.map_cons, List.cons_append, each, ih]
    rfl

/-- Either all arguments are numbers, or there is a leftmost one that is not. -/
theorem numbers_or_not (args : List Value) :
    (∃ ns : List Number, args = ns.map .number) ∨
      ∃ (before : List Number) (v : Value) (after : List Value),
        (∀ x, v ≠ .number x) ∧ args = before.map .number ++ v :: after := by
  induction args with
  | nil => exact .inl ⟨[], rfl⟩
  | cons v args ih =>
    by_cases hv : ∃ x, v = .number x
    · obtain ⟨x, rfl⟩ := hv
      rcases ih with ⟨ns, rfl⟩ | ⟨before, u, after, hu, rfl⟩
      · exact .inl ⟨x :: ns, rfl⟩
      · exact .inr ⟨x :: before, u, after, hu, rfl⟩
    · exact .inr ⟨[], v, args, fun x hx => hv ⟨x, hx⟩, rfl⟩

theorem Compares.compute_eq {n : Native} {R : Number → Number → Prop} (h : Compares n R) :
    ∃ r : Number → Number → Bool, (∀ a b, r a b = true ↔ R a b) ∧
      ∀ args, n.compute args = n.compare r args := by
  cases h <;> exact ⟨_, fun _ _ => decide_eq_true_iff, fun _ => rfl⟩

/-- All these procedures look at their arguments, from the left, before they compute. -/
theorem Numeric.compute_of_error {n : Native} (hn : Numeric n) {args : List Value} {e : EvalError}
    (h : each n.number args = .error e) : n.compute args = .error e := by
  cases hn with
  | comparison hR =>
    obtain ⟨r, -, hcompute⟩ := hR.compute_eq
    rw [hcompute, compare, h]
    rfl
  | _ =>
    rw [compute, h]
    rfl

theorem Numeric.shown_eq {n : Native} (hn : Numeric n) (args : List Value) :
    n.shown args = "" := by
  cases hn with
  | comparison hR => cases hR <;> rfl
  | _ => rfl

theorem apply_of_error {n : Native} {args : List Value} {e : EvalError}
    (h : n.compute args = .error e) : n.apply args = .error e := by
  rw [apply, h]
  rfl

theorem Numeric.apply_of_ok {n : Native} (hn : Numeric n) {args : List Value} {v : Value}
    (h : n.compute args = .ok v) : n.apply args = .ok ⟨v, ""⟩ := by
  rw [apply, h, hn.shown_eq]
  rfl

/-! ### What is computed -/

theorem foldl_sub (a : Number) (ns : List Number) : ns.foldl (· - ·) a = a - ns.sum := by
  induction ns generalizing a with
  | nil => simp
  | cons b ns ih => rw [List.foldl_cons, ih, List.sum_cons, sub_sub]

/-- Dividing by one number after the other ends at the first zero; without one, it is division by
the product. -/
theorem divideAll_eq (a : Number) (ns : List Number) :
    divideAll a ns =
      if 0 ∈ ns then .error (.divisionByZero .divide) else .ok (a / ns.prod) := by
  induction ns generalizing a with
  | nil => simp [divideAll]
  | cons b ns ih =>
    rw [divideAll, ih, List.prod_cons, div_div]
    by_cases hb : b = 0
    · simp [hb]
    · simp [hb, Ne.symm hb]

/-- Where the relation is transitive, it holds between any two numbers if it does between
neighbours. -/
theorem adjacent_iff_pairwise {r : Number → Number → Bool} {R : Number → Number → Prop}
    (hr : ∀ a b, r a b = true ↔ R a b) (htrans : ∀ a b c, R a b → R b c → R a c)
    (ns : List Number) : adjacent r ns = true ↔ ns.Pairwise R := by
  induction ns with
  | nil => simp [adjacent]
  | cons a ns ih =>
    cases ns with
    | nil => simp [adjacent]
    | cons b ns =>
      rw [adjacent, Bool.and_eq_true, hr, ih]
      constructor
      · rintro ⟨hab, hns⟩
        refine .cons (fun c hc => ?_) hns
        rcases List.mem_cons.1 hc with rfl | hc
        · exact hab
        · exact htrans a b c hab (List.rel_of_pairwise_cons hns hc)
      · intro h
        exact ⟨List.rel_of_pairwise_cons h List.mem_cons_self, h.of_cons⟩

theorem Compares.trans {n : Native} {R : Number → Number → Prop} (h : Compares n R)
    (a b c : Number) : R a b → R b c → R a c := by
  cases h with
  | equal => exact Eq.trans
  | less => exact lt_trans
  | greater => exact gt_trans
  | lessOrEqual => exact le_trans
  | greaterOrEqual => exact ge_trans

/-- A comparison of numbers tells whether the relation holds between any two of them. -/
theorem Compares.compute_map {n : Native} {R : Number → Number → Prop} (h : Compares n R)
    (ns : List Number) :
    ∃ b, n.compute (ns.map .number) = .ok (.bool b) ∧ (b = true ↔ ns.Pairwise R) := by
  obtain ⟨r, hr, hcompute⟩ := h.compute_eq
  refine ⟨adjacent r ns, ?_, adjacent_iff_pairwise hr h.trans ns⟩
  rw [hcompute, compare, each_number_map]
  rfl

theorem compute_subtract {a b : Number} {ns : List Number} :
    compute .subtract ((a :: b :: ns).map .number) = .ok (.number (a - (b :: ns).sum)) := by
  rw [compute, each_number_map, ← foldl_sub]
  rfl

theorem compute_divide {a b : Number} {ns : List Number} :
    compute .divide ((a :: b :: ns).map .number) =
      if 0 ∈ b :: ns then .error (.divisionByZero .divide)
      else .ok (.number (a / (b :: ns).prod)) := by
  rw [compute, each_number_map]
  change (divideAll a (b :: ns) >>= fun q => .ok (Value.number q)) = _
  rw [divideAll_eq]
  split_ifs <;> rfl

theorem compute_reciprocal (a : Number) :
    compute .divide [.number a] =
      if a = 0 then .error (.divisionByZero .divide) else .ok (.number a⁻¹) := by
  change (divideAll 1 [a] >>= fun q => .ok (Value.number q)) = _
  by_cases ha : a = 0
  · rw [divideAll_eq, if_pos (by simp [ha]), if_pos ha]
    rfl
  · rw [divideAll_eq, if_neg (by simpa using Ne.symm ha), if_neg ha, List.prod_singleton, one_div]
    rfl

/-! ### The rules are what is computed -/

theorem Answers.apply_eq {n : Native} {args : List Value} {r : Except EvalError Reply}
    (h : Answers n args r) : n.apply args = r := by
  cases h with
  | refusal hn before hv after =>
    exact apply_of_error (hn.compute_of_error (each_number_of_not hv n before after))
  | @sum ns ms hperm =>
    refine Numeric.add.apply_of_ok ?_
    rw [compute, each_number_map, ← hperm.sum_eq, List.sum_eq_foldl]
    rfl
  | @product ns ms hperm =>
    refine Numeric.multiply.apply_of_ok ?_
    rw [compute, each_number_map, ← hperm.prod_eq, List.prod_eq_foldl]
    rfl
  | negation a => rfl
  | @difference a ns hne =>
    obtain ⟨b, ns, rfl⟩ := List.exists_cons_of_ne_nil hne
    exact Numeric.subtract.apply_of_ok compute_subtract
  | @reciprocal a hzero =>
    refine Numeric.divide.apply_of_ok ?_
    rw [compute_reciprocal, if_neg hzero]
  | noReciprocal => exact apply_of_error (compute_reciprocal 0)
  | @quotient a ns hne hzero =>
    obtain ⟨b, ns, rfl⟩ := List.exists_cons_of_ne_nil hne
    exact Numeric.divide.apply_of_ok (compute_divide.trans (if_neg hzero))
  | @noQuotient a ns hzero =>
    obtain ⟨b, ns, rfl⟩ := List.exists_cons_of_ne_nil (List.ne_nil_of_mem hzero)
    exact apply_of_error (compute_divide.trans (if_pos hzero))
  | @holds _ _ hn ns hR =>
    obtain ⟨b, hb, hiff⟩ := hn.compute_map ns
    rw [hiff.2 hR] at hb
    exact (Numeric.comparison hn).apply_of_ok hb
  | @fails _ _ hn ns hR =>
    obtain ⟨b, hb, hiff⟩ := hn.compute_map ns
    rw [Bool.eq_false_iff.2 fun htrue => hR (hiff.1 htrue)] at hb
    exact (Numeric.comparison hn).apply_of_ok hb

/-- There is a rule for every list of arguments whose number is right. -/
theorem exists_answers {n : Native} (hn : Numeric n) {args : List Value}
    (hcount : n.arity.accepts args.length = true) : ∃ r, Answers n args r := by
  rcases numbers_or_not args with ⟨ns, rfl⟩ | ⟨before, v, after, hv, rfl⟩
  · cases hn with
    | add => exact ⟨_, .sum (.refl ns)⟩
    | multiply => exact ⟨_, .product (.refl ns)⟩
    | subtract =>
      rcases ns with _ | ⟨a, _ | ⟨b, ns⟩⟩
      · cases hcount
      · exact ⟨_, .negation a⟩
      · exact ⟨_, .difference a (List.cons_ne_nil b ns)⟩
    | divide =>
      rcases ns with _ | ⟨a, _ | ⟨b, ns⟩⟩
      · cases hcount
      · by_cases ha : a = 0
        · subst ha
          exact ⟨_, .noReciprocal⟩
        · exact ⟨_, .reciprocal ha⟩
      · by_cases hzero : 0 ∈ b :: ns
        · exact ⟨_, .noQuotient a hzero⟩
        · exact ⟨_, .quotient a (List.cons_ne_nil b ns) hzero⟩
    | @comparison _ R hR =>
      by_cases hpairwise : ns.Pairwise R
      · exact ⟨_, .holds hR hpairwise⟩
      · exact ⟨_, .fails hR hpairwise⟩
  · exact ⟨_, .refusal hn before hv after⟩

/-- **The procedures that take any number of numbers answer by the rules**, on every list of
arguments whose number they take: they have the answer that a rule gives, and no other. -/
theorem numeric_answers (n : Native) (hn : Numeric n) (args : List Value)
    (hcount : n.arity.accepts args.length = true) (r : Except EvalError Reply) :
    n.apply args = r ↔ Answers n args r := by
  obtain ⟨answer, hanswer⟩ := exists_answers hn hcount
  constructor
  · rintro rfl
    rwa [hanswer.apply_eq]
  · exact Answers.apply_eq

/-- A string behind a zero divisor is refused all the same, and so is a list behind numbers that
are out of order already. -/
theorem numeric_answers_cases :
    Native.divide.apply [.number 1, .number 0, .text "a", .number 0] =
        .error (.wrongType .divide .number "\"a\"") ∧
      Native.less.apply [.number 2, .number 1, .list []] =
        .error (.wrongType .less .number "()") ∧
      Native.less.apply [.number 1, .number 3, .number 2] = .ok ⟨.bool false, ""⟩ ∧
      Native.divide.apply [.number 60, .number 2, .number 3] =
        .ok ⟨.number (60 / [2, 3].prod), ""⟩ := by
  have htext : ∀ x, Value.text "a" ≠ .number x := by simp
  have hlist : ∀ x, Value.list [] ≠ .number x := by simp
  have horder : ¬ [1, 3, 2].Pairwise ((· < ·) : Number → Number → Prop) := by decide
  have hzero : (0 : Number) ∉ [2, 3] := by decide
  refine ⟨?_, ?_, ?_, ?_⟩
  · exact (numeric_answers .divide .divide _ rfl _).2
      (.refusal .divide [1, 0] htext [.number 0])
  · exact (numeric_answers .less (.comparison .less) _ rfl _).2
      (.refusal (.comparison .less) [2, 1] hlist [])
  · exact (numeric_answers .less (.comparison .less) _ rfl _).2 (.fails .less horder)
  · exact (numeric_answers .divide .divide _ rfl _).2 (.quotient 60 (by decide) hzero)

end Native

end TimelineLisp
