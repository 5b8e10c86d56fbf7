import Mathlib.Data.List.Basic
import TimelineLisp.Native.Apply

/-!
# The faults of native procedures

A native procedure checks its arguments itself, although their number is checked before it is
called.  `Native.OwnFault` lists the faults that a call may end with: each one that names a
procedure names the one that was called, and a fault of number is about the arity that the
procedure is declared with.  **A call ends with no other fault** (`Native.ownFault_of_apply`).

The other way round, **a procedure whose arity has an upper bound turns away every number of
arguments that the arity does not accept** (`Native.rejects_iff`); the other procedures never count
their arguments (`Native.counts_iff`).
-/

namespace TimelineLisp

/-- The name of the procedure that the fault is about, for faults of its arguments. -/
def EvalError.subject? : EvalError → Option String
  | .arity name _ _ => some name
  | .wrongType n _ _ => some n.name
  | .divisionByZero n => some n.name
  | _ => none

namespace Native

/-- The procedure itself turns away these arguments because of their number. -/
def Rejects (n : Native) (args : List Value) : Prop :=
  ∃ name a k, n.apply args = .error (.arity name a k)

/-- The procedure counts its arguments: it turns some away because of their number. -/
def Counts (n : Native) : Prop :=
  ∃ args, n.Rejects args

/-! ### Numbers of arguments -/

section Count

variable {n : Native} {args : List Value}

theorem one_of_rejected (h : (Arity.exactly 1).accepts args.length = false) :
    n.one args = .error (.arity n.name (.exactly 1) args.length) := by
  match args with
  | [a] => cases h
  | [] | _ :: _ :: _ => rfl

theorem two_of_rejected (h : (Arity.exactly 2).accepts args.length = false) :
    n.two args = .error (.arity n.name (.exactly 2) args.length) := by
  match args with
  | [a, b] => cases h
  | [] | [_] | _ :: _ :: _ :: _ => rfl

theorem exitStatus_of_rejected (h : (Arity.between 0 1).accepts args.length = false) :
    exitStatus args = .error (.arity exit.name (.between 0 1) args.length) := by
  match args with
  | [] | [_] => cases h
  | _ :: _ :: _ => rfl

theorem streamQuery_of_rejected (h : (Arity.between 2 3).accepts args.length = false) :
    streamQuery args = .error (.arity levels.name (.between 2 3) args.length) := by
  match args with
  | [_, _] | [_, _, _] => cases h
  | [] | [_] | _ :: _ :: _ :: _ :: _ => rfl

end Count

/-! ### Faults of their own -/

/-- The faults of a call of a native procedure that are its own. -/
inductive OwnFault (n : Native) (args : List Value) : EvalError → Prop
  /-- The number of arguments is not one that the procedure takes. -/
  | count (hmax : n.arity.max ≠ none) (hcount : n.arity.accepts args.length = false) :
    OwnFault n args (.arity n.name n.arity args.length)
  | argument (expected : Expectation) (found : String) :
    OwnFault n args (.wrongType n expected found)
  | division : OwnFault n args (.divisionByZero n)
  | levels (e : LevelsError) : OwnFault n args (.levels e)
  | exit (status : UInt8) : OwnFault n args (.exit status)

/-- The computation fails with faults of its own alone. -/
def Owns (n : Native) (args : List Value) {α : Type} (x : Except EvalError α) : Prop :=
  ∀ e, x = .error e → OwnFault n args e

section Owns

variable {n : Native} {args : List Value} {α β : Type}

theorem owns_ok (a : α) : Owns n args (.ok a) :=
  nofun

theorem owns_error {e : EvalError} (h : OwnFault n args e) :
    Owns n args (.error e : Except EvalError α) := by
  rintro e' ⟨⟩
  exact h

theorem Owns.bind {x : Except EvalError α} {f : α → Except EvalError β} (hx : Owns n args x)
    (hf : ∀ a, Owns n args (f a)) : Owns n args (x >>= f) := by
  cases x with
  | ok a => exact hf a
  | error e => exact owns_error (hx e rfl)

/-! ### Arguments -/

/-- A computation that counts the arguments first. -/
theorem owns_of_count {x : Except EvalError α} (hmax : n.arity.max ≠ none)
    (hrejected : n.arity.accepts args.length = false →
      x = .error (.arity n.name n.arity args.length))
    (haccepted : n.arity.accepts args.length = true → Owns n args x) : Owns n args x := by
  cases hcount : n.arity.accepts args.length with
  | false =>
    rw [hrejected hcount]
    exact owns_error (.count hmax hcount)
  | true => exact haccepted hcount

theorem owns_one (harity : n.arity = .exactly 1) : Owns n args (n.one args) := by
  refine owns_of_count (by rw [harity]; nofun) (fun h => ?_) fun h => ?_
  · rw [harity] at h ⊢
    exact one_of_rejected h
  · rw [harity, Arity.accepts_exactly, List.length_eq_one_iff] at h
    obtain ⟨a, rfl⟩ := h
    exact owns_ok a

theorem owns_two (harity : n.arity = .exactly 2) : Owns n args (n.two args) := by
  refine owns_of_count (by rw [harity]; nofun) (fun h => ?_) fun h => ?_
  · rw [harity] at h ⊢
    exact two_of_rejected h
  · rw [harity, Arity.accepts_exactly, List.length_eq_two] at h
    obtain ⟨a, b, rfl⟩ := h
    exact owns_ok (a, b)

theorem owns_refuse (expected : Expectation) (v : Value) :
    Owns n args (.error (n.refuse expected v) : Except EvalError α) :=
  owns_error (.argument expected v.render)

theorem owns_number (v : Value) : Owns n args (n.number v) := by
  cases v with
  | number x => exact owns_ok x
  | _ => exact owns_refuse _ _

theorem owns_items (v : Value) : Owns n args (n.items v) := by
  cases v with
  | list vs => exact owns_ok vs
  | _ => exact owns_refuse _ _

theorem owns_content (v : Value) : Owns n args (n.content v) := by
  cases v with
  | text s => exact owns_ok s
  | _ => exact owns_refuse _ _

theorem owns_rate (v : Value) : Owns n args (n.rate v) := by
  cases v with
  | number x =>
    unfold rate
    dsimp only
    split_ifs
    · exact owns_ok x
    · exact owns_refuse _ _
  | _ => exact owns_refuse _ _

theorem owns_provider (v : Value) : Owns n args (provider v) := by
  unfold provider
  split
  · exact owns_ok _
  · exact owns_error (.levels _)

theorem owns_each {f : Value → Except EvalError α} (hf : ∀ v, Owns n args (f v))
    (vs : List Value) : Owns n args (each f vs) := by
  induction vs with
  | nil => exact owns_ok []
  | cons v vs ih => exact (hf v).bind fun a => ih.bind fun as => owns_ok (a :: as)

/-! ### Families of natives -/

theorem owns_test (harity : n.arity = .exactly 1) (p : Value → Bool) :
    Owns n args (n.test p args) :=
  (owns_one harity).bind fun _ => owns_ok _

theorem owns_unary (harity : n.arity = .exactly 1) (f : Number → Number) :
    Owns n args (n.unary f args) :=
  (owns_one harity).bind fun v => (owns_number v).bind fun _ => owns_ok _

theorem owns_compare (r : Number → Number → Bool) : Owns n args (n.compare r args) :=
  (owns_each owns_number args).bind fun _ => owns_ok _

theorem owns_uncons (harity : n.arity = .exactly 1) : Owns n args (n.uncons args) := by
  refine (owns_one harity).bind fun v => ?_
  split
  · exact owns_ok _
  · exact owns_refuse _ _

theorem owns_divideAll (a : Number) (ns : List Number) : Owns .divide args (divideAll a ns) := by
  induction ns generalizing a with
  | nil => exact owns_ok a
  | cons d ns ih =>
    rw [divideAll]
    split_ifs
    · exact owns_error .division
    · exact ih (a / d)

theorem owns_quotient (ns : List Number) : Owns .divide args (quotient ns) := by
  match ns with
  | [] => exact owns_ok 1
  | [a] => exact owns_divideAll 1 [a]
  | a :: b :: ns => exact owns_divideAll a (b :: ns)

theorem owns_exitStatus : Owns .exit args (exitStatus args) := by
  refine owns_of_count nofun exitStatus_of_rejected fun hcount => ?_
  match args, hcount with
  | [], _ => exact owns_ok 0
  | [v], _ =>
    unfold exitStatus
    dsimp only
    split
    · split_ifs
      · exact owns_ok _
      · exact owns_refuse _ _
    · exact owns_refuse _ _

theorem owns_streamQuery : Owns .levels args (streamQuery args) := by
  refine owns_of_count nofun streamQuery_of_rejected fun hcount => ?_
  match args, hcount with
  | [p, k], _ => exact owns_ok (p, k, 0)
  | [p, k, s], _ =>
    unfold streamQuery
    dsimp only
    split
    · exact owns_ok _
    · exact owns_refuse _ _

theorem owns_kindName (v : Value) : Owns .levels args (kindName v) := by
  cases v with
  | symbol name => exact owns_ok name
  | text name => exact owns_ok name
  | _ => exact owns_refuse _ _

theorem owns_lookUpLevels : Owns .levels args (lookUpLevels args) := by
  refine owns_streamQuery.bind ?_
  rintro ⟨p, k, i⟩
  refine (owns_kindName k).bind fun kind => (owns_provider p).bind fun table => ?_
  cases table.stream kind i with
  | ok found => exact owns_ok _
  | error e => exact owns_error (.levels e)

/-! ### All natives -/

theorem owns_compute : Owns n args (n.compute args) := by
  cases n with
  | not | isNumber | isText | isSymbol | isList | isProcedure | isEmpty => exact owns_test rfl _
  | same => exact (owns_two rfl).bind fun _ => owns_ok _
  | display => exact (owns_one rfl).bind fun _ => owns_ok _
  | exit => exact owns_exitStatus.bind fun status => owns_error (.exit status)
  | add | subtract | multiply => exact (owns_each owns_number args).bind fun _ => owns_ok _
  | divide =>
    exact (owns_each owns_number args).bind fun ns => (owns_quotient ns).bind fun _ => owns_ok _
  | equal | less | greater | lessOrEqual | greaterOrEqual => exact owns_compare _
  | round | floor | ceiling | magnitude => exact owns_unary rfl _
  | list => exact owns_ok _
  | cons => exact (owns_two rfl).bind fun p => (owns_items p.2).bind fun _ => owns_ok _
  | head | tail => exact (owns_uncons rfl).bind fun _ => owns_ok _
  | length | countTrue =>
    exact (owns_one rfl).bind fun v => (owns_items v).bind fun _ => owns_ok _
  | append => exact (owns_each owns_items args).bind fun _ => owns_ok _
  | textAppend => exact (owns_each owns_content args).bind fun _ => owns_ok _
  | numberText => exact (owns_one rfl).bind fun v => (owns_number v).bind fun _ => owns_ok _
  | secondsToFrames | framesToSeconds =>
    exact (owns_two rfl).bind fun p => (owns_number p.1).bind fun _ =>
      (owns_rate p.2).bind fun _ => owns_ok _
  | levels => exact owns_lookUpLevels
  | levelsLength | levelsTimebase =>
    exact (owns_one rfl).bind fun v => (owns_provider v).bind fun _ => owns_ok _

end Owns

/-- **A call of a native procedure ends with no fault but its own.** -/
theorem ownFault_of_apply {n : Native} {args : List Value} {e : EvalError}
    (h : n.apply args = .error e) : OwnFault n args e :=
  (owns_compute.bind fun _ => owns_ok _ : Owns n args (n.apply args)) e h

theorem OwnFault.subject?_eq {n : Native} {args : List Value} {e : EvalError}
    (h : OwnFault n args e) {s : String} (hs : e.subject? = some s) : s = n.name := by
  cases h with
  | count | argument | division => exact (Option.some.inj hs).symm
  | levels | exit => cases hs

/-! ### Numbers of arguments that are turned away -/

section Rejected

variable {n : Native} {args : List Value}

/-- What is counted is counted before anything else. -/
theorem compute_of_rejected (hmax : n.arity.max ≠ none)
    (h : n.arity.accepts args.length = false) :
    n.compute args = .error (.arity n.name n.arity args.length) := by
  cases n with
  | add | subtract | multiply | divide | equal | less | greater | lessOrEqual | greaterOrEqual
  | list | append | textAppend => exact absurd rfl hmax
  | same | cons | secondsToFrames | framesToSeconds =>
    rw [compute, two_of_rejected h]
    rfl
  | exit =>
    rw [compute, exitStatus_of_rejected h]
    rfl
  | levels =>
    rw [compute, lookUpLevels, streamQuery_of_rejected h]
    rfl
  | not | isNumber | isText | isSymbol | isList | isProcedure | isEmpty =>
    rw [compute, test, one_of_rejected h]
    rfl
  | round | floor | ceiling | magnitude =>
    rw [compute, unary, one_of_rejected h]
    rfl
  | head | tail =>
    rw [compute, uncons, one_of_rejected h]
    rfl
  | display | length | countTrue | numberText | levelsLength | levelsTimebase =>
    rw [compute, one_of_rejected h]
    rfl

/-- A fault of number is about the declared arity, and about a number that it does not accept. -/
theorem apply_eq_arity_iff {name : String} {a : Arity} {k : ℕ} :
    n.apply args = .error (.arity name a k) ↔
      n.arity.max ≠ none ∧ n.arity.accepts args.length = false ∧
        name = n.name ∧ a = n.arity ∧ k = args.length := by
  constructor
  · intro h
    cases ownFault_of_apply h with
    | count hmax hcount => exact ⟨hmax, hcount, rfl, rfl, rfl⟩
  · rintro ⟨hmax, hcount, rfl, rfl, rfl⟩
    rw [apply, compute_of_rejected hmax hcount]
    rfl

/-- What the declared arity accepts is not turned away because of its number. -/
theorem apply_ne_arity (h : n.arity.accepts args.length = true) {name : String} {a : Arity}
    {k : ℕ} : n.apply args ≠ .error (.arity name a k) := by
  intro he
  have hrejected := (apply_eq_arity_iff.1 he).2.1
  rw [h] at hrejected
  cases hrejected

/-- **A procedure whose arity has an upper bound turns away what the arity does not accept**, and
no other procedure turns arguments away because of their number. -/
theorem rejects_iff :
    n.Rejects args ↔ n.arity.max ≠ none ∧ n.arity.accepts args.length = false := by
  constructor
  · rintro ⟨name, a, k, h⟩
    obtain ⟨hmax, hcount, -⟩ := apply_eq_arity_iff.1 h
    exact ⟨hmax, hcount⟩
  · rintro ⟨hmax, hcount⟩
    exact ⟨_, _, _, apply_eq_arity_iff.2 ⟨hmax, hcount, rfl, rfl, rfl⟩⟩

theorem counts_iff : n.Counts ↔ n.arity.max ≠ none := by
  constructor
  · rintro ⟨args, h⟩
    exact (rejects_iff.1 h).1
  · intro hmax
    obtain ⟨hi, hhi⟩ := Option.ne_none_iff_exists'.1 hmax
    -- one argument too many
    refine ⟨List.replicate (hi + 1) .void, rejects_iff.2 ⟨hmax, ?_⟩⟩
    simp [Arity.accepts, hhi]

end Rejected

end Native

end TimelineLisp
