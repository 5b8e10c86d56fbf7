import Mathlib
import TimelineLisp.Form.Reader
import TimelineLisp.Proofs.Evaluation.Rules
import TimelineLisp.Proofs.Store.WellFormed

/-!
# How deep a recursion goes

Two procedures count down from a number.  One calls itself in tail position, the other one as an
operand:

* `(define (loop n acc) (if (= n 0) acc (loop (- n 1) (+ acc 1))))`,
* `(define (f n) (if (= n 0) 0 (+ 1 (f (- n 1)))))`.

A body in tail position is as deep as the call, so **the first one never comes to the limit on
depth**, from any number (`Evaluation.endsAt_loopBody`).  Each call of the second one is one level
deeper than the one before, and the deepest part of its body is two levels below it, so **the second
one comes to the limit from 9999 on** (`Evaluation.endsAt_countBody`,
`Evaluation.countBody_tooDeep`).
-/

namespace TimelineLisp

namespace Evaluation

/-! ### The two procedures -/

/-- A list that is headed by a name. -/
def headed (name : String) (operands : List Form) : Form :=
  .list (.symbol name :: operands)

/-- `(if (= n 0) acc (loop (- n 1) (+ acc 1)))`. -/
def loopBody : Form :=
  headed "if" [headed "=" [.symbol "n", .number 0], .symbol "acc",
    headed "loop" [headed "-" [.symbol "n", .number 1], headed "+" [.symbol "acc", .number 1]]]

/-- `(if (= n 0) 0 (+ 1 (f (- n 1))))`. -/
def countBody : Form :=
  headed "if" [headed "=" [.symbol "n", .number 0], .number 0,
    headed "+" [.number 1, headed "f" [headed "-" [.symbol "n", .number 1]]]]

/-- The definitions of the two procedures. -/
def countdowns : List Form :=
  [headed "define" [headed "loop" [.symbol "n", .symbol "acc"], loopBody],
    headed "define" [headed "f" [.symbol "n"], countBody]]

/-- The text of the definitions. -/
def countdownText : String :=
  "(define (loop n acc) (if (= n 0) acc (loop (- n 1) (+ acc 1))))" ++
  "(define (f n) (if (= n 0) 0 (+ 1 (f (- n 1)))))"

theorem readAll_countdownText : readAll countdownText = .ok countdowns := by
  cbv

/-- The procedure `loop`, as it is made in the root scope. -/
def loopClosure (identity : ℕ) : Closure :=
  ⟨identity, some "loop", ["n", "acc"], none, [loopBody], rootScope⟩

/-- The procedure `f`, as it is made in the root scope. -/
def countClosure (identity : ℕ) : Closure :=
  ⟨identity, some "f", ["n"], none, [countBody], rootScope⟩

/-- The root scope has all that the two procedures use. -/
structure Prepared (s : Store) : Prop where
  root : rootScope < s.scopes.size
  equal : s.get? rootScope "=" = some (.procedure (.native .equal))
  subtract : s.get? rootScope "-" = some (.procedure (.native .subtract))
  add : s.get? rootScope "+" = some (.procedure (.native .add))
  loop : ∃ identity, s.get? rootScope "loop" = some (.procedure (.closure (loopClosure identity)))
  count : ∃ identity, s.get? rootScope "f" = some (.procedure (.closure (countClosure identity)))

/-- The scope of a call of one of the procedures. -/
structure InCall (s : Store) (scope : ScopeId) (vars : Bindings) : Prop where
  prepared : Prepared s
  get? : ∀ name, s.get? scope name = (vars.get? name).or (s.get? rootScope name)

/-- A call makes its scope. -/
theorem Prepared.enter {w : World} (h : Prepared w.store) (vars : Bindings) :
    InCall (w.enter rootScope vars).store w.store.scopes.size vars := by
  have hroot (name : String) :
      (w.enter rootScope vars).store.get? rootScope name = w.store.get? rootScope name :=
    Store.get?_newScope_of_lt (some rootScope) vars h.root name
  refine ⟨⟨?_, ?_, ?_, ?_, ?_, ?_⟩, fun name => ?_⟩
  · exact Nat.lt_of_lt_of_le h.root (by simp [World.enter])
  · rw [hroot, h.equal]
  · rw [hroot, h.subtract]
  · rw [hroot, h.add]
  · simpa only [hroot] using h.loop
  · simpa only [hroot] using h.count
  · rw [hroot]
    exact Store.get?_newScope_self vars h.root name

namespace InCall

variable {s : Store} {scope : ScopeId} {vars : Bindings} {name : String} {v : Value}

/-- A parameter has its argument as its value. -/
theorem get?_param (h : InCall s scope vars) (hvars : vars.get? name = some v) :
    s.get? scope name = some v := by
  rw [h.get?, hvars, Option.some_or]

/-- Any other name has the value that it has in the root scope. -/
theorem get?_root (h : InCall s scope vars) (hvars : vars.get? name = none)
    (hroot : s.get? rootScope name = some v) : s.get? scope name = some v := by
  rw [h.get?, hvars, Option.none_or, hroot]

end InCall

/-! ### Arithmetic -/

theorem apply_equal (a b : Number) :
    Native.apply .equal [.number a, .number b] = .ok ⟨.bool (a = b), ""⟩ := by
  have happly : Native.apply .equal [.number a, .number b] =
      .ok ⟨.bool (decide (a = b) && true), ""⟩ := rfl
  rw [happly, Bool.and_true]

theorem apply_subtract (a b : Number) :
    Native.apply .subtract [.number a, .number b] = .ok ⟨.number (a - b), ""⟩ := rfl

theorem apply_add (a b : Number) :
    Native.apply .add [.number a, .number b] = .ok ⟨.number (a + b), ""⟩ := by
  have happly : Native.apply .add [.number a, .number b] = .ok ⟨.number (0 + a + b), ""⟩ := rfl
  rw [happly, zero_add]

section Calls

variable {depth : ℕ} {scope : ScopeId} {w : World} {vars : Bindings} {k : ℕ} {a b : Number}

/-- A native procedure of a name and a number, whose parts are one level deeper. -/
theorem endsAt_native {n : Native} {name param : String} {v : Value}
    (hhead : SpecialForm.ofHead? (.symbol name) = none) (hdepth : depth + 1 ≤ depthLimit)
    (hname : w.store.get? scope name = some (.procedure (.native n)))
    (hparam : w.store.get? scope param = some (.number a)) (harity : n.arity.accepts 2 = true)
    (happly : n.apply [.number a, .number b] = .ok ⟨v, ""⟩) :
    EndsAt depth (headed name [.symbol param, .number b]) scope w (.value v w) := by
  refine endsAt_apply hhead (Nat.le_of_succ_le hdepth) (endsAt_symbol hdepth hname) ?_
    (.native harity happly depth w)
  exact .cons (endsAt_symbol hdepth hparam) (.cons (endsAt_number hdepth b scope w) (.nil _ _ _))

/-- `(= n 0)`. -/
theorem InCall.endsAt_test (h : InCall w.store scope vars)
    (hn : vars.get? "n" = some (.number k)) (hvars : vars.get? "=" = none)
    (hdepth : depth + 1 ≤ depthLimit) :
    EndsAt depth (headed "=" [.symbol "n", .number 0]) scope w (.value (.bool (k = 0)) w) := by
  refine endsAt_native rfl hdepth (h.get?_root hvars h.prepared.equal) (h.get?_param hn) rfl ?_
  rw [apply_equal]
  simp only [Nat.cast_eq_zero]

/-- `(- n 1)`. -/
theorem InCall.endsAt_pred (h : InCall w.store scope vars)
    (hn : vars.get? "n" = some (.number (k + 1 : ℕ))) (hvars : vars.get? "-" = none)
    (hdepth : depth + 1 ≤ depthLimit) :
    EndsAt depth (headed "-" [.symbol "n", .number 1]) scope w (.value (.number k) w) := by
  refine endsAt_native rfl hdepth (h.get?_root hvars h.prepared.subtract) (h.get?_param hn) rfl ?_
  rw [apply_subtract, Nat.cast_add_one, add_sub_cancel_right]

/-! ### A call in tail position -/

/-- **A loop never gets deeper**: the body of `loop` has a value from every number on, at every
depth where its parts are within the limit. -/
theorem endsAt_loopBody (hdepth : depth + 2 ≤ depthLimit) (k : ℕ) (a : Number)
    (h : InCall w.store scope [("n", .number k), ("acc", .number a)]) :
    ∃ w', EndsAt depth loopBody scope w (.value (.number (k + a)) w') := by
  have hdepth₁ : depth + 1 ≤ depthLimit := Nat.le_of_succ_le hdepth
  have hdepth₀ : depth ≤ depthLimit := Nat.le_of_succ_le hdepth₁
  induction k generalizing a scope w with
  | zero =>
    refine ⟨w, endsAt_if hdepth₀ (h.endsAt_test rfl rfl hdepth) ?_⟩
    refine endsAt_symbol hdepth₀ (h.get?_param ?_)
    rw [Nat.cast_zero, zero_add]
    rfl
  | succ k ih =>
    obtain ⟨identity, hloop⟩ := h.prepared.loop
    -- the arguments of the next call
    have hpred := h.endsAt_pred rfl rfl hdepth
    have hacc : EndsAt (depth + 1) (headed "+" [.symbol "acc", .number 1]) scope w
        (.value (.number (a + 1)) w) :=
      endsAt_native rfl hdepth (h.get?_root rfl h.prepared.add) (h.get?_param rfl) rfl
        (apply_add a 1)
    obtain ⟨w', hnext⟩ := ih (a + 1) (h.prepared.enter [("n", .number k), ("acc", .number (a + 1))])
    refine ⟨w', endsAt_if hdepth₀ (h.endsAt_test rfl rfl hdepth) ?_⟩
    have hcall : CallsAt depth (.procedure (.closure (loopClosure identity)))
        [.number k, .number (a + 1)] w (.value (.number ((k + 1 : ℕ) + a)) w') := by
      refine .closure rfl rfl ?_
      rw [Nat.cast_add_one, add_assoc, add_comm 1 a]
      exact hnext
    refine endsAt_apply rfl hdepth₀ (endsAt_symbol hdepth₁ (h.get?_root rfl hloop)) ?_ hcall
    exact .cons hpred (.cons hacc (.nil _ _ _))

/-! ### A call as an operand -/

/-- **Every call gets one level deeper**: the body of `f` has a value from a number on if there are
two levels more than the number to go. -/
theorem endsAt_countBody (k : ℕ) (hdepth : depth + k + 2 ≤ depthLimit)
    (h : InCall w.store scope [("n", .number k)]) :
    ∃ w', EndsAt depth countBody scope w (.value (.number k) w') := by
  have hdepth₂ : depth + 2 ≤ depthLimit := by omega
  have hdepth₁ : depth + 1 ≤ depthLimit := Nat.le_of_succ_le hdepth₂
  have hdepth₀ : depth ≤ depthLimit := Nat.le_of_succ_le hdepth₁
  induction k generalizing depth scope w with
  | zero =>
    refine ⟨w, endsAt_if hdepth₀ (h.endsAt_test rfl rfl hdepth₂) ?_⟩
    rw [Nat.cast_zero]
    exact endsAt_number hdepth₀ 0 scope w
  | succ k ih =>
    obtain ⟨identity, hcount⟩ := h.prepared.count
    have hdepth₃ : depth + 2 + 1 ≤ depthLimit := by omega
    have hpred := h.endsAt_pred rfl rfl hdepth₃
    obtain ⟨w', hnext⟩ :=
      ih (by omega) (h.prepared.enter [("n", .number k)]) hdepth₃ hdepth₂ hdepth₁
    have hcall : EndsAt (depth + 1) (headed "f" [headed "-" [.symbol "n", .number 1]]) scope w
        (.value (.number k) w') :=
      endsAt_apply rfl hdepth₁ (endsAt_symbol hdepth₂ (h.get?_root rfl hcount))
        (.cons hpred (.nil _ _ _)) (.closure rfl rfl hnext)
    refine ⟨w', endsAt_if hdepth₀ (h.endsAt_test rfl rfl hdepth₂) ?_⟩
    refine endsAt_apply rfl hdepth₀ (endsAt_symbol hdepth₁ (h.get?_root rfl h.prepared.add))
      (.cons (endsAt_number hdepth₁ 1 scope w) (.cons hcall (.nil _ _ _))) ?_
    refine .native rfl ?_ depth w'
    rw [apply_add, Nat.cast_add_one, add_comm]

/-- Two levels below the limit, the test of the body is nested too deep. -/
theorem countBody_test_tooDeep (hdepth : depthLimit < depth + 2) (scope : ScopeId) (w : World) :
    EndsAt depth countBody scope w (.error .tooDeep w) := by
  by_cases hdepth₀ : depthLimit < depth
  · exact endsAt_tooDeep hdepth₀ countBody scope w
  · exact endsAt_if_error (Nat.le_of_not_lt hdepth₀) (endsAt_apply_tooDeep rfl hdepth _ scope w)

/-- **The limit is hit exactly where the levels do not suffice.** -/
theorem countBody_tooDeep (k : ℕ) (hdepth : depthLimit < depth + k + 2)
    (h : InCall w.store scope [("n", .number k)]) :
    ∃ w', EndsAt depth countBody scope w (.error .tooDeep w') := by
  induction k generalizing depth scope w with
  | zero => exact ⟨w, countBody_test_tooDeep hdepth scope w⟩
  | succ k ih =>
    by_cases htest : depthLimit < depth + 2
    · exact ⟨w, countBody_test_tooDeep htest scope w⟩
    · have hdepth₂ : depth + 2 ≤ depthLimit := Nat.le_of_not_lt htest
      have hdepth₁ : depth + 1 ≤ depthLimit := Nat.le_of_succ_le hdepth₂
      have hdepth₀ : depth ≤ depthLimit := Nat.le_of_succ_le hdepth₁
      obtain ⟨identity, hcount⟩ := h.prepared.count
      have hf := endsAt_symbol hdepth₂ (h.get?_root rfl hcount)
      obtain ⟨w', hcall⟩ : ∃ w', EndsAt (depth + 1)
          (headed "f" [headed "-" [.symbol "n", .number 1]]) scope w (.error .tooDeep w') := by
        by_cases hpred : depthLimit < depth + 2 + 1
        · -- the argument of the next call is too deep already
          refine ⟨w, endsAt_apply_operand_error rfl hdepth₁ hf (.here ?_)⟩
          exact endsAt_apply_tooDeep rfl hpred _ scope w
        · have hargs : EachAt (depth + 1) [headed "-" [.symbol "n", .number 1]] scope w
              (.value [.number k] w) :=
            .cons (h.endsAt_pred rfl rfl (Nat.le_of_not_lt hpred)) (.nil _ _ _)
          have hdepth' : depthLimit < depth + 1 + k + 2 := by omega
          obtain ⟨w', hnext⟩ := ih hdepth' (h.prepared.enter [("n", .number k)])
          exact ⟨w', endsAt_apply rfl hdepth₁ hf hargs (.closure rfl rfl hnext)⟩
      refine ⟨w', endsAt_if hdepth₀ (h.endsAt_test rfl rfl hdepth₂) ?_⟩
      refine endsAt_apply_operand_error rfl hdepth₀
        (endsAt_symbol hdepth₁ (h.get?_root rfl h.prepared.add)) ?_
      exact .later (endsAt_number hdepth₁ 1 scope w) (.here hcall)

end Calls

/-! ### From the root scope -/

section Root

variable {w : World}

/-- `(loop N A)`. -/
def loopCall (N : ℕ) (A : Number) : Form :=
  headed "loop" [.number N, .number A]

/-- `(f N)`. -/
def countCall (N : ℕ) : Form :=
  headed "f" [.number N]

theorem Prepared.endsAt_loopCall (h : Prepared w.store) (N : ℕ) (A : Number) :
    ∃ w', EndsAt 0 (loopCall N A) rootScope w (.value (.number (N + A)) w') := by
  obtain ⟨identity, hloop⟩ := h.loop
  have hdepth : 0 + 1 ≤ depthLimit := by decide
  have hargs : EachAt 0 [.number N, .number A] rootScope w (.value [.number N, .number A] w) :=
    .cons (endsAt_number hdepth N rootScope w)
      (.cons (endsAt_number hdepth A rootScope w) (.nil _ _ _))
  have hdepth₂ : 0 + 2 ≤ depthLimit := by decide
  obtain ⟨w', hbody⟩ := endsAt_loopBody hdepth₂ N A (h.enter _)
  exact ⟨w', endsAt_apply rfl (Nat.zero_le _) (endsAt_symbol hdepth hloop) hargs
    (.closure rfl rfl hbody)⟩

/-- A call of `f` is as deep as its body. -/
theorem Prepared.endsAt_countCall (h : Prepared w.store) (N : ℕ) {o : Outcome Value}
    (hbody : EndsAt 0 countBody w.store.scopes.size (w.enter rootScope [("n", .number N)]) o) :
    EndsAt 0 (countCall N) rootScope w o := by
  obtain ⟨identity, hcount⟩ := h.count
  have hdepth : 0 + 1 ≤ depthLimit := by decide
  have hargs : EachAt 0 [.number N] rootScope w (.value [.number N] w) :=
    .cons (endsAt_number hdepth N rootScope w) (.nil _ _ _)
  exact endsAt_apply rfl (Nat.zero_le _) (endsAt_symbol hdepth hcount) hargs
    (.closure rfl rfl hbody)

/-- The world after the two definitions. -/
def withCountdowns (w : World) : World :=
  let looping := w.identify.define rootScope "loop"
    (.procedure (.closure (loopClosure w.store.nextIdentity)))
  looping.identify.define rootScope "f"
    (.procedure (.closure (countClosure looping.store.nextIdentity)))

theorem evalForms_countdowns (fuel : ℕ) (w : World) :
    evalForms (fuel + 1) rootScope .void countdowns w = .value .void (withCountdowns w) := rfl

/-- The definitions leave the native procedures as they were. -/
theorem prepared_withCountdowns {s : Store} (hs : s.Initial) (shown : String) :
    Prepared (withCountdowns ⟨s, shown⟩).store := by
  have hroot : rootScope < s.scopes.size := Store.lt_size_of_local? (hs.local?_native .equal)
  have hnative (n : Native) (hloop : "loop" ≠ n.name) (hcount : "f" ≠ n.name) :
      (withCountdowns ⟨s, shown⟩).store.get? rootScope n.name = some (.procedure (.native n)) := by
    refine Store.get?_of_local? ?_
    simp only [withCountdowns, World.define, World.identify, Store.local?_define,
      Store.local?_newIdentity, hloop, hcount, and_false, if_false]
    exact hs.local?_native n
  refine ⟨?_, hnative .equal (by decide) (by decide), hnative .subtract (by decide) (by decide),
    hnative .add (by decide) (by decide), ⟨s.nextIdentity, ?_⟩, s.nextIdentity + 1, ?_⟩
  · simpa [withCountdowns, World.define, World.identify] using hroot
  · refine Store.get?_of_local? ?_
    simp [withCountdowns, World.define, World.identify, Store.local?_define, hroot]
  · refine Store.get?_of_local? ?_
    simp [withCountdowns, World.define, World.identify, Store.local?_define, hroot]

/-- **Tail calls may go on as long as they like, and other calls are bounded exactly.**  Where the
two procedures are defined in a root scope, `(loop N A)` ends with `N + A`, and with no amount of
fuel it is nested too deep; `(f N)` ends with `N` up to 9998, and is nested too deep, beyond 10000
levels, from there on. -/
theorem recursion_depth {s : Store} (hs : s.Initial) (shown : String) :
    readAll countdownText = .ok countdowns ∧
    ∃ w, (∀ fuel, evalForms (fuel + 1) rootScope .void countdowns ⟨s, shown⟩ = .value .void w) ∧
      (∀ (N : ℕ) (A : Number),
        (∃ w', Ends (loopCall N A) rootScope w (.value (.number (N + A)) w')) ∧
        ∀ fuel w', eval fuel (loopCall N A) rootScope w ≠ .error .tooDeep w') ∧
      (∀ N ≤ 9998, ∃ w', Ends (countCall N) rootScope w (.value (.number N) w')) ∧
      (∀ N ≥ 9999, ∃ w', Ends (countCall N) rootScope w (.error .tooDeep w')) ∧
      EvalError.tooDeep.message =
        "recursion too deep: more than 10000 nested evaluations" := by
  have hprepared := prepared_withCountdowns hs shown
  refine ⟨readAll_countdownText, withCountdowns ⟨s, shown⟩, fun fuel => evalForms_countdowns fuel _,
    fun N A => ?_, fun N hN => ?_, fun N hN => ?_, by decide +kernel⟩
  · obtain ⟨w', hloop⟩ := hprepared.endsAt_loopCall N A
    refine ⟨⟨w', hloop⟩, fun fuel u hdeep => ?_⟩
    cases hloop.eq_of_evalAt hdeep nofun
  · have hdepth : 0 + N + 2 ≤ depthLimit := by
      rw [depthLimit]
      omega
    obtain ⟨w', hbody⟩ := endsAt_countBody N hdepth (hprepared.enter _)
    exact ⟨w', hprepared.endsAt_countCall N hbody⟩
  · have hdepth : depthLimit < 0 + N + 2 := by
      rw [depthLimit]
      omega
    obtain ⟨w', hbody⟩ := countBody_tooDeep N hdepth (hprepared.enter _)
    exact ⟨w', hprepared.endsAt_countCall N hbody⟩

/-- In a root scope with nothing else, a loop of a million rounds and the greatest number that `f`
counts from. -/
theorem standard_recursion_depth :
    Store.standard.Initial ∧ ∃ w,
      (∀ fuel, evalForms (fuel + 1) rootScope .void countdowns ⟨.standard, ""⟩ =
        .value .void w) ∧
      (∃ w', Ends (loopCall 1000000 (1 / 2)) rootScope w
        (.value (.number ((1000000 : ℕ) + 1 / 2)) w')) ∧
      (∃ w', Ends (countCall 9998) rootScope w (.value (.number (9998 : ℕ)) w')) ∧
      ∃ w', Ends (countCall 9999) rootScope w (.error .tooDeep w') := by
  obtain ⟨-, w, hdefined, hloop, hcount, hdeep, -⟩ := recursion_depth .standard ""
  exact ⟨.standard, w, hdefined, (hloop 1000000 (1 / 2)).1, hcount 9998 le_rfl, hdeep 9999 le_rfl⟩

end Root

end Evaluation

end TimelineLisp
