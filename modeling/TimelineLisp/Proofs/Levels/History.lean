import Mathlib.Data.List.Basic
import TimelineLisp.Levels

/-!
# Streams that were added

The streams of a timeline are added to a table one after the other, those of one kind in between
those of another.  `LevelTable.Records` relates the table to the history of what was added: each
kind holds its own streams in their order, and the length is that of the longest stream of all.
Adding a stream extends the history by one entry (`Records.addStream`), so **a table records the
whole history that it was made from** (`LevelTable.records_ofHistory`).

A stream is found by the number of those of its kind that were added before it
(`Records.stream_of_entry`).
-/

namespace TimelineLisp

/-! ### Histories -/

/-- The streams that are added to a table, each with its kind, in their order. -/
abbrev LevelHistory := List (String × Levels)

namespace LevelHistory

/-- The number of streams of a kind. -/
def uses (kind : String) (history : LevelHistory) : ℕ :=
  history.countP fun entry => entry.1 = kind

/-- The streams of a kind, in their order. -/
def streams (kind : String) (history : LevelHistory) : List Levels :=
  (history.filter fun entry => entry.1 = kind).map (·.2)

/-- The number of frames of the longest stream, zero if there is none. -/
def longest (history : LevelHistory) : ℕ :=
  (history.map (·.2.length)).max?.getD 0

variable {kind : String} {history : LevelHistory}

theorem length_streams (kind : String) (history : LevelHistory) :
    (streams kind history).length = uses kind history := by
  rw [streams, uses, List.length_map, List.countP_eq_length_filter]

theorem streams_append (kind : String) (before after : LevelHistory) :
    streams kind (before ++ after) = streams kind before ++ streams kind after := by
  rw [streams, List.filter_append, List.map_append]
  rfl

theorem streams_cons (kind k : String) (stream : Levels) (history : LevelHistory) :
    streams kind ((k, stream) :: history) =
      if k = kind then stream :: streams kind history else streams kind history := by
  by_cases hk : k = kind
  · simp [streams, hk]
  · simp [streams, hk]

theorem streams_concat (kind k : String) (stream : Levels) (history : LevelHistory) :
    streams kind (history ++ [(k, stream)]) =
      if k = kind then streams kind history ++ [stream] else streams kind history := by
  rw [streams_append, streams_cons]
  split_ifs
  · rfl
  · exact List.append_nil _

theorem uses_cons (kind k : String) (stream : Levels) (history : LevelHistory) :
    uses kind ((k, stream) :: history) =
      if k = kind then uses kind history + 1 else uses kind history := by
  rw [← length_streams, ← length_streams, streams_cons]
  split_ifs <;> rfl

theorem longest_concat (history : LevelHistory) (kind : String) (stream : Levels) :
    longest (history ++ [(kind, stream)]) = max (longest history) stream.length := by
  cases history with
  | nil => simp [longest]
  | cons entry more =>
    simp only [longest, List.map_cons, List.map_append, List.cons_append, List.max?_cons',
      List.foldl_append]
    rfl

theorem length_le_longest {entry : String × Levels} (h : entry ∈ history) :
    entry.2.length ≤ longest history :=
  List.le_max?_getD_of_mem (List.mem_map_of_mem h)

/-- A stream has the place among those of its kind that the others of the kind before it leave. -/
theorem getElem?_streams (kind : String) (stream : Levels) (before after : LevelHistory) :
    (streams kind (before ++ (kind, stream) :: after))[uses kind before]? = some stream := by
  rw [streams_append, streams_cons, if_pos rfl, ← length_streams]
  simp

/-- Every place that the number of uses leaves is that of a stream. -/
theorem exists_entry_of_lt_uses {i : ℕ} (h : i < uses kind history) :
    ∃ before stream after,
      history = before ++ (kind, stream) :: after ∧ uses kind before = i := by
  -- a stream of the kind takes one off the index, any other leaves it
  induction history generalizing i with
  | nil => cases h
  | cons entry history ih =>
    obtain ⟨k, stream⟩ := entry
    rw [uses_cons] at h
    split_ifs at h with hk
    · subst hk
      cases i with
      | zero => exact ⟨[], stream, history, rfl, rfl⟩
      | succ i =>
        obtain ⟨before, found, after, rfl, hbefore⟩ := ih (Nat.lt_of_succ_lt_succ h)
        refine ⟨(k, stream) :: before, found, after, rfl, ?_⟩
        rw [uses_cons, if_pos rfl, hbefore]
    · obtain ⟨before, found, after, rfl, hbefore⟩ := ih h
      refine ⟨(k, stream) :: before, found, after, rfl, ?_⟩
      rw [uses_cons, if_neg hk, hbefore]

end LevelHistory

/-! ### Tables -/

namespace LevelTable

open LevelHistory

variable {t : LevelTable} {rate : Number} {history : LevelHistory} {kind : String}

/-- The table of a frame rate to which the streams are added one after the other. -/
def ofHistory (rate : Number) (history : LevelHistory) : LevelTable :=
  history.foldl (fun t entry => t.addStream entry.1 entry.2) { rate }

/-- The table has the frame rate and the streams of the history, and no others. -/
structure Records (t : LevelTable) (rate : Number) (history : LevelHistory) : Prop where
  rate : t.rate = rate
  length : t.length = longest history
  /-- A kind that was never used is not there at all. -/
  lookup : ∀ kind, t.kinds.lookup kind =
    if streams kind history = [] then none else some (streams kind history)

theorem lookup_cons (kind k : String) (found : List Levels)
    (kinds : List (String × List Levels)) :
    List.lookup kind ((k, found) :: kinds) =
      if k = kind then some found else kinds.lookup kind := by
  by_cases hk : k = kind
  · simp [hk]
  · have hbeq : (kind == k) = false := by simpa using Ne.symm hk
    simp [List.lookup_cons, hk, hbeq]

/-- A new stream goes behind those of its kind and leaves the other kinds alone. -/
theorem lookup_insertStream (kind k : String) (stream : Levels)
    (kinds : List (String × List Levels)) :
    (insertStream k stream kinds).lookup kind =
      if k = kind then some ((kinds.lookup kind).getD [] ++ [stream]) else kinds.lookup kind := by
  induction kinds with
  | nil =>
    rw [insertStream, lookup_cons]
    rfl
  | cons entry kinds ih =>
    obtain ⟨k', found⟩ := entry
    rw [insertStream, lookup_cons]
    by_cases hk' : k' = k
    · subst hk'
      rw [if_pos rfl, lookup_cons]
      split_ifs <;> rfl
    · rw [if_neg hk', lookup_cons, ih]
      by_cases hk : k = kind
      · subst hk
        rw [if_neg hk', if_neg hk']
      · rw [if_neg hk, if_neg hk]

theorem records_nil (rate : Number) : Records { rate } rate [] where
  rate := rfl
  length := rfl
  lookup _ := rfl

/-- **Adding a stream extends the history by it.** -/
theorem Records.addStream (h : t.Records rate history) (k : String) (stream : Levels) :
    (t.addStream k stream).Records rate (history ++ [(k, stream)]) where
  rate := h.rate
  length := by
    rw [longest_concat, ← h.length]
    rfl
  lookup kind := by
    change (insertStream k stream t.kinds).lookup kind = _
    rw [lookup_insertStream, h.lookup, streams_concat]
    by_cases hk : k = kind
    · have hne : streams kind history ++ [stream] ≠ [] := by simp
      simp only [if_pos hk, if_neg hne]
      -- a kind that is new has no streams in front of this one
      cases streams kind history <;> rfl
    · simp only [if_neg hk]

/-- Adding streams one after the other extends the history by all of them. -/
theorem Records.foldl (h : t.Records rate history) (more : LevelHistory) :
    (more.foldl (fun t entry => t.addStream entry.1 entry.2) t).Records rate (history ++ more) := by
  induction more generalizing t history with
  | nil => simpa using h
  | cons entry more ih => simpa using ih (h.addStream entry.1 entry.2)

/-- **A table records the whole history that it was made from.** -/
theorem records_ofHistory (rate : Number) (history : LevelHistory) :
    (ofHistory rate history).Records rate history :=
  (records_nil rate).foldl history

/-! ### Looking streams up -/

theorem Records.stream_of_unused (h : t.Records rate history) (hunused : uses kind history = 0)
    (i : ℕ) : t.stream kind i = .error (.unknownKind kind) := by
  rw [← length_streams, List.length_eq_zero_iff] at hunused
  rw [LevelTable.stream, h.lookup, if_pos hunused]

theorem Records.stream_of_uses_le {i : ℕ} (h : t.Records rate history)
    (hused : 0 < uses kind history) (hle : uses kind history ≤ i) :
    t.stream kind i = .error (.noStream kind i) := by
  rw [← length_streams] at hused hle
  rw [LevelTable.stream, h.lookup, if_neg (List.ne_nil_of_length_pos hused)]
  simp only [List.getElem?_eq_none hle]

theorem Records.stream_of_entry {before after : LevelHistory} {stream : Levels}
    (h : t.Records rate (before ++ (kind, stream) :: after)) :
    t.stream kind (uses kind before) = .ok stream := by
  have hfound := getElem?_streams kind stream before after
  have hne : streams kind (before ++ (kind, stream) :: after) ≠ [] := by
    intro hnil
    rw [hnil] at hfound
    cases hfound
  rw [LevelTable.stream, h.lookup, if_neg hne]
  simp only [hfound]

end LevelTable

end TimelineLisp
