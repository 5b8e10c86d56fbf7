import Mathlib
import TimelineLisp.Proofs.Levels.History
import TimelineLisp.Proofs.Native.Faults
import TimelineLisp.Proofs.Store.Scopes
import TimelineLisp.Store.Standard

/-!
# Queries for levels

`Native.LevelsAnswer` gives the answers of the procedure `levels` in terms of the history of what
was added to the provider, and of nothing else.  The index is looked at first, then the kind, and
the stream is the one that was added after as many others of its kind as the index says.

**A query to the provider that a scope binds is answered by these rules, and no list that it is
answered with is longer than the procedure `levels-length` says**
(`Native.levels_answer_history`).
-/

namespace TimelineLisp

/-! ### Indices and counts -/

theorem Number.toIndex?_eq_some_iff {x : Number} {i : ℕ} :
    x.toIndex? = some i ↔ i < 2 ^ 64 ∧ x = i := by
  have hbound : indexBound = 2 ^ 64 := rfl
  rw [toIndex?, hbound]
  constructor
  · intro h
    split_ifs at h with hindex
    obtain ⟨hden, hnonneg, hlt⟩ := hindex
    obtain rfl := Option.some.inj h
    refine ⟨hlt, ?_⟩
    calc x = (x.num : ℚ) := ((Rat.den_eq_one_iff x).1 hden).symm
      _ = ((x.num.toNat : ℤ) : ℚ) := by rw [Int.toNat_of_nonneg hnonneg]
      _ = (x.num.toNat : ℚ) := Int.cast_natCast _
  · rintro ⟨hlt, rfl⟩
    rw [Rat.den_natCast, Rat.num_natCast, Int.toNat_natCast, if_pos ⟨rfl, by positivity, hlt⟩]

/-- The number of frames that hold. -/
def Levels.trueCount : Levels → ℕ
  | .bools values => values.count true
  | .numbers _ => 0

theorem Levels.trueCount_le_length (stream : Levels) : stream.trueCount ≤ stream.length := by
  cases stream with
  | bools values => exact List.count_le_length
  | numbers values => exact Nat.zero_le _

namespace Native

open LevelHistory

/-! ### The rules -/

/-- The value names the kind, as a symbol or as a string. -/
inductive NamesKind : Value → String → Prop
  | symbol (kind : String) : NamesKind (.symbol kind) kind
  | text (kind : String) : NamesKind (.text kind) kind

/-- The arguments behind the kind give the index: there is one, a whole number that a word of 64
bits can hold, or there is none and the index is zero. -/
inductive GivesIndex : List Value → ℕ → Prop
  | absent : GivesIndex [] 0
  | present {i : ℕ} (h : i < 2 ^ 64) : GivesIndex [.number i] i

/-- What `levels` answers to the arguments behind the provider, after a history of additions. -/
inductive LevelsAnswer : LevelHistory → List Value → Except EvalError Reply → Prop
  /-- What is no index is refused, whatever the kind. -/
  | noIndex (history : LevelHistory) (k : Value) {v : Value}
    (hv : ∀ i : ℕ, i < 2 ^ 64 → v ≠ .number i) :
    LevelsAnswer history [k, v] (.error (.wrongType .levels .streamIndex v.render))
  /-- What is neither a symbol nor a string is refused, unless the index is. -/
  | noKind (history : LevelHistory) {k : Value} {rest : List Value} {i : ℕ}
    (hk : ∀ kind, ¬ NamesKind k kind) (hi : GivesIndex rest i) :
    LevelsAnswer history (k :: rest) (.error (.wrongType .levels .kindName k.render))
  /-- No stream of the kind was added. -/
  | unknownKind {history : LevelHistory} {k : Value} {kind : String} {rest : List Value} {i : ℕ}
    (hk : NamesKind k kind) (hi : GivesIndex rest i) (hunused : uses kind history = 0) :
    LevelsAnswer history (k :: rest) (.error (.levels (.unknownKind kind)))
  /-- Streams of the kind were added, but not as many as the index asks for. -/
  | noStream {history : LevelHistory} {k : Value} {kind : String} {rest : List Value} {i : ℕ}
    (hk : NamesKind k kind) (hi : GivesIndex rest i) (hused : 0 < uses kind history)
    (hle : uses kind history ≤ i) :
    LevelsAnswer history (k :: rest) (.error (.levels (.noStream kind i)))
  /-- The stream has as many others of its kind in front of it as the index says. -/
  | bools (before after : LevelHistory) {k : Value} {kind : String} {rest : List Value}
    {values : List Bool} (hk : NamesKind k kind) (hi : GivesIndex rest (uses kind before)) :
    LevelsAnswer (before ++ (kind, .bools values) :: after) (k :: rest)
      (.ok ⟨.list (values.map .bool), ""⟩)
  | numbers (before after : LevelHistory) {k : Value} {kind : String} {rest : List Value}
    {values : List Number} (hk : NamesKind k kind) (hi : GivesIndex rest (uses kind before)) :
    LevelsAnswer (before ++ (kind, .numbers values) :: after) (k :: rest)
      (.ok ⟨.list (values.map .number), ""⟩)

/-! ### Arguments -/

section Arguments

variable {p k v : Value} {kind : String} {rest : List Value} {i : ℕ}

theorem index?_eq_some_iff : index? v = some i ↔ i < 2 ^ 64 ∧ v = .number i := by
  cases v with
  | number x => simp [index?, Number.toIndex?_eq_some_iff]
  | _ => simp [index?]

theorem NamesKind.kindName_eq (h : NamesKind k kind) : kindName k = .ok kind := by
  cases h <;> rfl

theorem kindName_of_not (h : ∀ kind, ¬ NamesKind k kind) :
    kindName k = .error (.wrongType .levels .kindName k.render) := by
  cases k with
  | symbol name => exact absurd (.symbol name) (h name)
  | text name => exact absurd (.text name) (h name)
  | _ => rfl

theorem GivesIndex.streamQuery_eq (h : GivesIndex rest i) :
    streamQuery (p :: k :: rest) = .ok (p, k, i) := by
  cases h with
  | absent => rfl
  | present hlt =>
    have hindex := index?_eq_some_iff.2 ⟨hlt, rfl⟩
    simp only [streamQuery, hindex]

theorem streamQuery_of_not (h : ∀ i : ℕ, i < 2 ^ 64 → v ≠ .number i) :
    streamQuery [p, k, v] = .error (.wrongType .levels .streamIndex v.render) := by
  have hindex : index? v = none := by
    rw [Option.eq_none_iff_forall_ne_some]
    intro i hi
    obtain ⟨hlt, hv⟩ := index?_eq_some_iff.1 hi
    exact h i hlt hv
  simp only [streamQuery, hindex]
  rfl

end Arguments

/-! ### The rules are what is computed -/

section Answers

variable {p : Value} {t : LevelTable} {rate : Number} {history : LevelHistory} {query : List Value}

theorem apply_levels (args : List Value) :
    levels.apply args = (lookUpLevels args).map fun v => ⟨v, ""⟩ := by
  change (lookUpLevels args >>= fun v => Except.ok (Reply.mk v "")) = _
  cases lookUpLevels args <;> rfl

/-- Arguments of the right form are looked up in the table. -/
theorem lookUpLevels_eq {k : Value} {kind : String} {rest : List Value} {i : ℕ}
    (hp : provider p = .ok t) (hk : NamesKind k kind) (hi : GivesIndex rest i) :
    lookUpLevels (p :: k :: rest) =
      match t.stream kind i with
      | .ok found => .ok (.ofLevels found)
      | .error e => .error (.levels e) := by
  rw [lookUpLevels, hi.streamQuery_eq]
  cases hstream : t.stream kind i with
  | ok found => simp only [bind, Except.bind, hk.kindName_eq, hp, hstream]
  | error e => simp only [bind, Except.bind, hk.kindName_eq, hp, hstream]

theorem LevelsAnswer.apply_eq {r : Except EvalError Reply} (h : LevelsAnswer history query r)
    (ht : t.Records rate history) (hp : provider p = .ok t) : levels.apply (p :: query) = r := by
  cases h with
  | noIndex _ k hv =>
    rw [apply_levels, lookUpLevels, streamQuery_of_not hv]
    rfl
  | noKind _ hk hi =>
    rw [apply_levels, lookUpLevels, hi.streamQuery_eq]
    simp only [bind, Except.bind, kindName_of_not hk]
    rfl
  | unknownKind hk hi hunused =>
    rw [apply_levels, lookUpLevels_eq hp hk hi, ht.stream_of_unused hunused]
    rfl
  | noStream hk hi hused hle =>
    rw [apply_levels, lookUpLevels_eq hp hk hi, ht.stream_of_uses_le hused hle]
    rfl
  | bools _ _ hk hi | numbers _ _ hk hi =>
    rw [apply_levels, lookUpLevels_eq hp hk hi, ht.stream_of_entry]
    rfl

/-- There is a rule for every kind and index. -/
theorem exists_levelsAnswer_of_names {k : Value} {kind : String} {rest : List Value} {i : ℕ}
    (history : LevelHistory) (hk : NamesKind k kind) (hi : GivesIndex rest i) :
    ∃ r, LevelsAnswer history (k :: rest) r := by
  by_cases hunused : uses kind history = 0
  · exact ⟨_, .unknownKind hk hi hunused⟩
  · rcases Nat.lt_or_ge i (uses kind history) with hlt | hle
    · obtain ⟨before, stream, after, rfl, rfl⟩ := exists_entry_of_lt_uses hlt
      cases stream with
      | bools values => exact ⟨_, .bools before after hk hi⟩
      | numbers values => exact ⟨_, .numbers before after hk hi⟩
    · exact ⟨_, .noStream hk hi (Nat.pos_of_ne_zero hunused) hle⟩

theorem exists_levelsAnswer_of_index {k : Value} {rest : List Value} {i : ℕ}
    (history : LevelHistory) (hi : GivesIndex rest i) :
    ∃ r, LevelsAnswer history (k :: rest) r := by
  by_cases hk : ∃ kind, NamesKind k kind
  · obtain ⟨kind, hk⟩ := hk
    exact exists_levelsAnswer_of_names history hk hi
  · exact ⟨_, .noKind history (not_exists.1 hk) hi⟩

/-- There is a rule for all arguments whose number is right. -/
theorem exists_levelsAnswer (history : LevelHistory)
    (hcount : levels.arity.accepts (p :: query).length = true) :
    ∃ r, LevelsAnswer history query r := by
  match query, hcount with
  | [k], _ => exact exists_levelsAnswer_of_index history .absent
  | [k, v], _ =>
    by_cases hv : ∃ i : ℕ, i < 2 ^ 64 ∧ v = .number i
    · obtain ⟨i, hlt, rfl⟩ := hv
      exact exists_levelsAnswer_of_index history (.present hlt)
    · refine ⟨_, .noIndex history k fun i hlt heq => ?_⟩
      exact hv ⟨i, hlt, heq⟩

/-- The procedure answers by the rules. -/
theorem apply_levels_eq_iff (ht : t.Records rate history) (hp : provider p = .ok t)
    (hcount : levels.arity.accepts (p :: query).length = true) (r : Except EvalError Reply) :
    levels.apply (p :: query) = r ↔ LevelsAnswer history query r := by
  obtain ⟨answer, hanswer⟩ := exists_levelsAnswer history hcount
  constructor
  · rintro rfl
    rwa [hanswer.apply_eq ht hp]
  · exact fun h => h.apply_eq ht hp

/-- Only streams that were added are answered with. -/
theorem exists_entry_of_apply_levels {reply : Reply} (ht : t.Records rate history)
    (hp : provider p = .ok t) (h : levels.apply (p :: query) = .ok reply) :
    ∃ entry ∈ history, reply = ⟨.ofLevels entry.2, ""⟩ := by
  have hcount : levels.arity.accepts (p :: query).length = true := by
    by_contra hrejected
    rw [Bool.not_eq_true] at hrejected
    have hmax : levels.arity.max ≠ none := by decide
    rw [apply, compute_of_rejected hmax hrejected] at h
    cases h
  cases (apply_levels_eq_iff ht hp hcount _).1 h with
  | bools before _ => exact ⟨_, List.mem_append_right before List.mem_cons_self, rfl⟩
  | numbers before _ => exact ⟨_, List.mem_append_right before List.mem_cons_self, rfl⟩

end Answers

/-! ### Lists of levels -/

theorem exists_items_ofLevels (stream : Levels) :
    ∃ items, Value.ofLevels stream = .list items ∧ items.length = stream.length ∧
      items.countP isTrueBool = stream.trueCount := by
  cases stream with
  | bools values =>
    refine ⟨_, rfl, List.length_map _, ?_⟩
    rw [List.countP_map, Levels.trueCount, List.count]
    congr 1
    funext b
    cases b <;> rfl
  | numbers values =>
    refine ⟨_, rfl, List.length_map _, ?_⟩
    rw [List.countP_map, Levels.trueCount, List.countP_eq_zero]
    simp [isTrueBool]

theorem apply_length_ofLevels (stream : Levels) :
    Native.length.apply [.ofLevels stream] = .ok ⟨.number stream.length, ""⟩ := by
  obtain ⟨items, hitems, hlength, -⟩ := exists_items_ofLevels stream
  rw [hitems, ← hlength]
  rfl

theorem apply_countTrue_ofLevels (stream : Levels) :
    countTrue.apply [.ofLevels stream] = .ok ⟨.number stream.trueCount, ""⟩ := by
  obtain ⟨items, hitems, -, hcount⟩ := exists_items_ofLevels stream
  rw [hitems, ← hcount]
  rfl

/-! ### Providers that are bound -/

theorem local?_bindLevels {s : Store} {id : ScopeId} (hid : id < s.scopes.size)
    (table : LevelTable) :
    (s.bindLevels id table).local? id levelsSymbol =
      some (.host ⟨"levels", s.nextIdentity, some table⟩) := by
  rw [Store.bindLevels, Store.bindHost, Store.local?_define, if_pos]
  · rfl
  · simpa using hid

/-- **Queries for levels are answered from what was added.**  Streams are added to a table of any
frame rate, of any kinds and in any order, and the table is bound in a scope.  There `levels`
answers by the rules, on all arguments whose number it takes, and `levels-length` tells the length
of the longest stream of all.  Every list that is answered with is a stream that was added, with an
element for each frame, and neither `length` nor `count-true` tells more of it than that. -/
theorem levels_answer_history (rate : Number) (history : LevelHistory) {s : Store} {id : ScopeId}
    (hid : id < s.scopes.size) :
    ∃ p, (s.bindLevels id (.ofHistory rate history)).get? id levelsSymbol = some p ∧
      (∀ query, levels.arity.accepts (p :: query).length = true → ∀ r,
        levels.apply (p :: query) = r ↔ LevelsAnswer history query r) ∧
      levelsLength.apply [p] = .ok ⟨.number (longest history), ""⟩ ∧
      levelsTimebase.apply [p] = .ok ⟨.number rate, ""⟩ ∧
      ∀ query reply, levels.apply (p :: query) = .ok reply →
        ∃ entry ∈ history, reply = ⟨.ofLevels entry.2, ""⟩ ∧
          Native.length.apply [reply.value] = .ok ⟨.number entry.2.length, ""⟩ ∧
          entry.2.length ≤ longest history ∧
          countTrue.apply [reply.value] = .ok ⟨.number entry.2.trueCount, ""⟩ ∧
          entry.2.trueCount ≤ longest history := by
  have ht := LevelTable.records_ofHistory rate history
  refine ⟨_, Store.get?_of_local? (local?_bindLevels hid _), fun query hcount r => ?_, ?_, ?_,
    fun query reply h => ?_⟩
  · exact apply_levels_eq_iff ht rfl hcount r
  · rw [← ht.length]
    rfl
  · nth_rewrite 2 [← ht.rate]
    rfl
  · obtain ⟨entry, hentry, rfl⟩ := exists_entry_of_apply_levels ht rfl h
    have hlongest := length_le_longest hentry
    exact ⟨entry, hentry, rfl, apply_length_ofLevels entry.2, hlongest,
      apply_countTrue_ofLevels entry.2, entry.2.trueCount_le_length.trans hlongest⟩

/-- Streams of two kinds that were added in turn: the second of silence is not the second of all,
there is no third, and a number that is no index is refused for a kind that is not there either. -/
theorem silence_and_motion_answered :
    let history : LevelHistory :=
      [("silence", .bools [true, false]), ("motion", .numbers [0, 1 / 4, 1 / 2]),
        ("silence", .bools [true])]
    rootScope < Store.standard.scopes.size ∧
      ∃ p, (Store.standard.bindLevels rootScope (.ofHistory (30000 / 1001) history)).get? rootScope
          levelsSymbol = some p ∧
        levels.apply [p, .symbol "silence", .number (1 : ℕ)] = .ok ⟨.list [.bool true], ""⟩ ∧
        levels.apply [p, .text "motion"] =
          .ok ⟨.list [.number 0, .number (1 / 4), .number (1 / 2)], ""⟩ ∧
        levels.apply [p, .symbol "silence", .number (2 : ℕ)] =
          .error (.levels (.noStream "silence" 2)) ∧
        levels.apply [p, .symbol "color", .number (2 ^ 64 - 1 : ℕ)] =
          .error (.levels (.unknownKind "color")) ∧
        levels.apply [p, .symbol "color", .number (2 ^ 64 : ℕ)] =
          .error (.wrongType .levels .streamIndex "18446744073709551616") ∧
        levelsLength.apply [p] = .ok ⟨.number (3 : ℕ), ""⟩ := by
  intro history
  have hid : rootScope < Store.standard.scopes.size := by decide
  have hbig : ∀ i : ℕ, i < 2 ^ 64 → Value.number (2 ^ 64 : ℕ) ≠ .number i := by
    intro i hi heq
    have hcast : ((2 ^ 64 : ℕ) : ℚ) = i := Value.number.inj heq
    have hnat : 2 ^ 64 = i := by exact_mod_cast hcast
    omega
  have hrender : (Value.number (2 ^ 64 : ℕ)).render = "18446744073709551616" := by decide +kernel
  obtain ⟨p, hp, hlevels, hlength, -⟩ := levels_answer_history (30000 / 1001) history hid
  refine ⟨hid, p, hp, (hlevels _ rfl _).2 ?_, (hlevels _ rfl _).2 ?_, (hlevels _ rfl _).2 ?_,
    (hlevels _ rfl _).2 ?_, (hlevels _ rfl _).2 ?_, hlength⟩
  · exact .bools (history.take 2) [] (.symbol "silence") (.present (by decide))
  · exact .numbers (history.take 1) (history.drop 2) (.text "motion") .absent
  · exact .noStream (.symbol "silence") (.present (by decide)) (by decide) (by decide)
  · exact .unknownKind (.symbol "color") (.present (by decide)) (by decide)
  · rw [← hrender]
    exact .noIndex history (.symbol "color") hbig

end Native

end TimelineLisp
