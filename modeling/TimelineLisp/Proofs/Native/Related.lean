import TimelineLisp.Native.Apply
import TimelineLisp.Proofs.Value.Related

/-!
# Native procedures on related arguments

A native procedure looks at data, at the shape of lists and at whether two values are the same, and
never into a closure.  So **calls with related arguments go alike** (`Native.apply_related`): they
fail with the same fault, or they have related values and show the same text.

The closures and symbols of a value come from the arguments, since no native procedure makes a
closure or a symbol of its own.
-/

namespace TimelineLisp

namespace Native

variable {α β γ δ : Type}

/-! ### Computations that go alike -/

/-- Both computations fail with the same fault, or both have a value, and the values are related. -/
inductive Alike (P : α → β → Prop) : Except EvalError α → Except EvalError β → Prop
  | ok {a : α} {b : β} (h : P a b) : Alike P (.ok a) (.ok b)
  | error (e : EvalError) : Alike P (.error e) (.error e)

theorem Alike.bind {P : α → β → Prop} {Q : γ → δ → Prop} {x : Except EvalError α}
    {y : Except EvalError β} {f : α → Except EvalError γ} {g : β → Except EvalError δ}
    (h : Alike P x y) (hf : ∀ a b, P a b → Alike Q (f a) (g b)) :
    Alike Q (x >>= f) (y >>= g) := by
  cases h with
  | ok hab => exact hf _ _ hab
  | error e => exact .error e

/-- Equal computations go alike if they go on alike. -/
theorem Alike.bind_eq {Q : γ → δ → Prop} {x y : Except EvalError α}
    {f : α → Except EvalError γ} {g : α → Except EvalError δ} (h : x = y)
    (hf : ∀ a, Alike Q (f a) (g a)) : Alike Q (x >>= f) (y >>= g) := by
  subst h
  cases x with
  | ok a => exact hf a
  | error e => exact .error e

variable {symbols : String → Prop} {closures : Closure → Closure → Prop}

/-! ### Arguments -/

theorem one_related {n : Native} {args args' : List Value}
    (h : List.Forall₂ (Value.Related symbols closures) args args') :
    Alike (Value.Related symbols closures) (n.one args) (n.one args') := by
  have hlength := h.length_eq
  match args, args', h with
  | [], [], _ => exact .error _
  | [a], [b], .cons hab _ => exact .ok hab
  | _ :: _ :: _, _ :: _ :: _, _ =>
    simp only [one, hlength]
    exact .error _

theorem two_related {n : Native} {args args' : List Value}
    (h : List.Forall₂ (Value.Related symbols closures) args args') :
    Alike (fun p q => Value.Related symbols closures p.1 q.1 ∧
      Value.Related symbols closures p.2 q.2) (n.two args) (n.two args') := by
  have hlength := h.length_eq
  match args, args', h with
  | [], [], _ => exact .error _
  | [a], [b], _ => exact .error _
  | [a, b], [c, d], .cons hac (.cons hbd _) => exact .ok ⟨hac, hbd⟩
  | _ :: _ :: _ :: _, _ :: _ :: _ :: _, _ =>
    simp only [two, hlength]
    exact .error _

/-- Every argument goes alike, so all of them do. -/
theorem each_related {P : α → β → Prop} {f : Value → Except EvalError α}
    {g : Value → Except EvalError β} {args args' : List Value}
    (hf : ∀ v v', Value.Related symbols closures v v' → Alike P (f v) (g v'))
    (h : List.Forall₂ (Value.Related symbols closures) args args') :
    Alike (List.Forall₂ P) (each f args) (each g args') := by
  induction h with
  | nil => exact .ok .nil
  | cons hv _ ih =>
    refine (hf _ _ hv).bind fun a b hab => ?_
    exact ih.bind fun as bs habs => .ok (.cons hab habs)

theorem each_eq {f : Value → Except EvalError α} {args args' : List Value}
    (hf : ∀ v v', Value.Related symbols closures v v' → f v = f v')
    (h : List.Forall₂ (Value.Related symbols closures) args args') :
    each f args = each f args' := by
  induction h with
  | nil => rfl
  | cons hv _ ih => simp only [each, hf _ _ hv, ih]

theorem index?_eq {v v' : Value} (h : Value.Related symbols closures v v') :
    index? v = index? v' := by
  cases h <;> rfl

section Correspondence

variable (hcor : Closure.Correspondence closures)

include hcor

theorem refuse_eq {v v' : Value} (h : Value.Related symbols closures v v') (n : Native)
    (expected : Expectation) : n.refuse expected v = n.refuse expected v' := by
  rw [refuse, refuse, h.render_eq hcor]

theorem number_eq {v v' : Value} (h : Value.Related symbols closures v v') (n : Native) :
    n.number v = n.number v' := by
  have hrefuse := refuse_eq hcor h n .number
  cases h with
  | number => rfl
  | _ => simp only [number, hrefuse]

theorem content_eq {v v' : Value} (h : Value.Related symbols closures v v') (n : Native) :
    n.content v = n.content v' := by
  have hrefuse := refuse_eq hcor h n .text
  cases h with
  | text => rfl
  | _ => simp only [content, hrefuse]

theorem rate_eq {v v' : Value} (h : Value.Related symbols closures v v') (n : Native) :
    n.rate v = n.rate v' := by
  have hrefuse := refuse_eq hcor h n .positiveTimebase
  cases h with
  | number => rfl
  | _ => simp only [rate, hrefuse]

theorem items_related {v v' : Value} (h : Value.Related symbols closures v v') (n : Native) :
    Alike (List.Forall₂ (Value.Related symbols closures)) (n.items v) (n.items v') := by
  have hrefuse := refuse_eq hcor h n .list
  cases h with
  | list length h => exact .ok (List.forall₂_iff_zip.2 ⟨length, h⟩)
  | _ =>
    simp only [items, hrefuse]
    exact .error _

theorem provider_eq {v v' : Value} (h : Value.Related symbols closures v v') :
    provider v = provider v' := by
  have hrender := h.render_eq hcor
  cases h with
  | host => rfl
  | _ => simp only [provider, hrender]

theorem kindName_eq {v v' : Value} (h : Value.Related symbols closures v v') :
    kindName v = kindName v' := by
  have hrefuse := refuse_eq hcor h levels .kindName
  cases h with
  | symbol => rfl
  | text => rfl
  | _ => simp only [kindName, hrefuse]

theorem exitStatus_eq {args args' : List Value}
    (h : List.Forall₂ (Value.Related symbols closures) args args') :
    exitStatus args = exitStatus args' := by
  have hlength := h.length_eq
  match args, args', h with
  | [], [], _ => rfl
  | [a], [b], .cons hab _ =>
    simp only [exitStatus, index?_eq hab, refuse_eq hcor hab]
  | _ :: _ :: _, _ :: _ :: _, _ => simp only [exitStatus, hlength]

theorem uncons_related {n : Native} {args args' : List Value}
    (h : List.Forall₂ (Value.Related symbols closures) args args') :
    Alike (fun p q => Value.Related symbols closures p.1 q.1 ∧
      List.Forall₂ (Value.Related symbols closures) p.2 q.2) (n.uncons args) (n.uncons args') := by
  refine (one_related h).bind fun v v' hv => ?_
  have hrefuse := refuse_eq hcor hv n .nonEmptyList
  cases hv with
  | list length hitems =>
    match List.forall₂_iff_zip.2 ⟨length, hitems⟩ with
    | .nil => exact .error _
    | .cons hv hvs => exact .ok ⟨hv, hvs⟩
  | _ =>
    simp only [hrefuse]
    exact .error _

/-! ### Families of natives -/

theorem compare_related {n : Native} {args args' : List Value}
    (h : List.Forall₂ (Value.Related symbols closures) args args') (r : Number → Number → Bool) :
    Alike (Value.Related symbols closures) (n.compare r args) (n.compare r args') :=
  .bind_eq (each_eq (fun _ _ hv => number_eq hcor hv n) h) fun _ => .ok (.bool _)

theorem unary_related {n : Native} {args args' : List Value}
    (h : List.Forall₂ (Value.Related symbols closures) args args') (f : Number → Number) :
    Alike (Value.Related symbols closures) (n.unary f args) (n.unary f args') :=
  (one_related h).bind fun _ _ hv => .bind_eq (number_eq hcor hv n) fun _ => .ok (.number _)

omit hcor in
theorem test_related {n : Native} {p : Value → Bool}
    (hp : ∀ v v', Value.Related symbols closures v v' → p v = p v') {args args' : List Value}
    (h : List.Forall₂ (Value.Related symbols closures) args args') :
    Alike (Value.Related symbols closures) (n.test p args) (n.test p args') := by
  refine (one_related h).bind fun v v' hv => ?_
  rw [hp v v' hv]
  exact .ok (.bool _)

omit hcor in
theorem ofLevels_related (levels : Levels) :
    Value.Related symbols closures (.ofLevels levels) (.ofLevels levels) := by
  cases levels with
  | bools values =>
    refine Value.related_list_iff.2 (List.forall₂_same.2 fun v hv => ?_)
    obtain ⟨b, -, rfl⟩ := List.mem_map.1 hv
    exact .bool b
  | numbers values =>
    refine Value.related_list_iff.2 (List.forall₂_same.2 fun v hv => ?_)
    obtain ⟨n, -, rfl⟩ := List.mem_map.1 hv
    exact .number n

theorem streamQuery_related {args args' : List Value}
    (h : List.Forall₂ (Value.Related symbols closures) args args') :
    Alike (fun q q' => Value.Related symbols closures q.1 q'.1 ∧
      Value.Related symbols closures q.2.1 q'.2.1 ∧ q.2.2 = q'.2.2)
      (streamQuery args) (streamQuery args') := by
  have hlength := h.length_eq
  match args, args', h with
  | [], [], _ => exact .error _
  | [_], [_], _ => exact .error _
  | [p, k], [p', k'], .cons hp (.cons hk _) => exact .ok ⟨hp, hk, rfl⟩
  | [p, k, s], [p', k', s'], .cons hp (.cons hk (.cons hs _)) =>
    simp only [streamQuery, index?_eq hs, refuse_eq hcor hs]
    cases index? s' with
    | some i => exact .ok ⟨hp, hk, rfl⟩
    | none => exact .error _
  | _ :: _ :: _ :: _ :: _, _ :: _ :: _ :: _ :: _, _ =>
    simp only [streamQuery, hlength]
    exact .error _

theorem lookUpLevels_related {args args' : List Value}
    (h : List.Forall₂ (Value.Related symbols closures) args args') :
    Alike (Value.Related symbols closures) (lookUpLevels args) (lookUpLevels args') := by
  refine (streamQuery_related hcor h).bind ?_
  rintro ⟨p, k, i⟩ ⟨p', k', i'⟩ ⟨hp, hk, hi⟩
  obtain rfl : i = i' := hi
  refine .bind_eq (kindName_eq hcor hk) fun kind => .bind_eq (provider_eq hcor hp) fun table => ?_
  cases table.stream kind i with
  | ok levels => exact .ok (ofLevels_related levels)
  | error e => exact .error _

omit hcor in
theorem countTrue_eq {items items' : List Value}
    (h : List.Forall₂ (Value.Related symbols closures) items items') :
    items.countP isTrueBool = items'.countP isTrueBool := by
  induction h with
  | nil => rfl
  | @cons v v' items items' hv _ ih =>
    have hbool : isTrueBool v = isTrueBool v' := by cases hv <;> rfl
    simp only [List.countP_cons, hbool, ih]

omit hcor in
theorem flatten_related {lists lists' : List (List Value)}
    (h : List.Forall₂ (List.Forall₂ (Value.Related symbols closures)) lists lists') :
    List.Forall₂ (Value.Related symbols closures) lists.flatten lists'.flatten := by
  induction h with
  | nil => exact .nil
  | cons hitems _ ih => exact List.rel_append hitems ih

/-! ### All natives -/

/-- The values of calls with related arguments are related. -/
theorem compute_related (n : Native) {args args' : List Value}
    (h : List.Forall₂ (Value.Related symbols closures) args args') :
    Alike (Value.Related symbols closures) (n.compute args) (n.compute args') := by
  have hnumbers : ∀ n : Native, each n.number args = each n.number args' :=
    fun n => each_eq (fun _ _ hv => number_eq hcor hv n) h
  cases n with
  | not => exact test_related (fun v v' hv => by rw [hv.isTrue_eq]) h
  | same =>
    refine (two_related h).bind ?_
    rintro ⟨a, b⟩ ⟨a', b'⟩ ⟨ha, hb⟩
    have hsame : a.same b = a'.same b' := Value.Related.same_eq hcor ha hb
    simp only [hsame]
    exact .ok (.bool _)
  | isNumber | isText | isSymbol | isList | isProcedure =>
    exact test_related (fun v v' hv => by cases hv <;> rfl) h
  | isEmpty =>
    refine test_related (fun v v' hv => ?_) h
    cases hv with
    | list length hitems =>
      match List.forall₂_iff_zip.2 ⟨length, hitems⟩ with
      | .nil => rfl
      | .cons _ _ => rfl
    | _ => rfl
  | display => exact (one_related h).bind fun _ _ _ => .ok .void
  | exit => exact .bind_eq (exitStatus_eq hcor h) fun _ => .error _
  | add | subtract | multiply => exact .bind_eq (hnumbers _) fun _ => .ok (.number _)
  | divide => exact .bind_eq (hnumbers _) fun ns => .bind_eq rfl fun _ => .ok (.number _)
  | equal | less | greater | lessOrEqual | greaterOrEqual => exact compare_related hcor h _
  | round | floor | ceiling | magnitude => exact unary_related hcor h _
  | list => exact .ok (Value.related_list_iff.2 h)
  | cons =>
    refine (two_related h).bind fun p q hpq => ?_
    refine (items_related hcor hpq.2 _).bind fun vs us hvs => ?_
    exact .ok (Value.related_list_iff.2 (.cons hpq.1 hvs))
  | head => exact (uncons_related hcor h).bind fun p q hpq => .ok hpq.1
  | tail =>
    exact (uncons_related hcor h).bind fun p q hpq => .ok (Value.related_list_iff.2 hpq.2)
  | length =>
    refine (one_related h).bind fun v v' hv => (items_related hcor hv _).bind fun vs us hvs => ?_
    rw [hvs.length_eq]
    exact .ok (.number _)
  | append =>
    refine (each_related (fun _ _ hv => items_related hcor hv _) h).bind fun ls ms hls => ?_
    exact .ok (Value.related_list_iff.2 (flatten_related hls))
  | countTrue =>
    refine (one_related h).bind fun v v' hv => (items_related hcor hv _).bind fun vs us hvs => ?_
    rw [countTrue_eq hvs]
    exact .ok (.number _)
  | textAppend =>
    exact .bind_eq (each_eq (fun _ _ hv => content_eq hcor hv _) h) fun _ => .ok (.text _)
  | numberText =>
    exact (one_related h).bind fun v v' hv => .bind_eq (number_eq hcor hv _) fun _ => .ok (.text _)
  | secondsToFrames | framesToSeconds =>
    refine (two_related h).bind fun p q hpq => ?_
    exact .bind_eq (number_eq hcor hpq.1 _) fun _ => .bind_eq (rate_eq hcor hpq.2 _) fun _ =>
      .ok (.number _)
  | levels => exact lookUpLevels_related hcor h
  | levelsLength | levelsTimebase =>
    refine (one_related h).bind fun v v' hv => ?_
    exact .bind_eq (provider_eq hcor hv) fun _ => .ok (.number _)

theorem shown_eq (n : Native) {args args' : List Value}
    (h : List.Forall₂ (Value.Related symbols closures) args args') :
    n.shown args = n.shown args' := by
  cases n with
  | display =>
    match args, args', h with
    | [], [], _ => rfl
    | [a], [b], .cons hab _ => exact hab.renderRaw_eq hcor
    | _ :: _ :: _, _ :: _ :: _, _ => rfl
  | _ => rfl

/-- **Calls with related arguments go alike.** -/
theorem apply_related (n : Native) {args args' : List Value}
    (h : List.Forall₂ (Value.Related symbols closures) args args') :
    Alike (fun r r' => Value.Related symbols closures r.value r'.value ∧ r.shown = r'.shown)
      (n.apply args) (n.apply args') :=
  (compute_related hcor n h).bind fun _ _ hv => .ok ⟨hv, shown_eq hcor n h⟩

end Correspondence

end Native

end TimelineLisp
