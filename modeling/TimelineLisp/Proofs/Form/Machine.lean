import Mathlib.Tactic.Common
import TimelineLisp.Form.Reader

/-!
# The reader as a machine

The reader runs in step with the splitting of the text: its configuration is a state (what waits
for a datum, what is finished) and a cursor.  `State.readFrom` is the reading from a configuration
on, and `State.reading_induction` the induction over the tokens that are taken from there.

* **Finished forms stay**: a reading starts with the forms that were finished where it starts, and
  does not depend on them otherwise (`readFrom_onto`).
* **Brackets and list frames agree**: as many lists wait as there are brackets open
  (`State.Balanced.take`), so a text never ends between two tokens with a list waiting.
-/

namespace TimelineLisp

theorem readAll_eq_ok {source : String} {fs : List Form} :
    readAll source = .ok fs ↔ read source = ⟨fs, none⟩ := by
  unfold readAll
  obtain ⟨forms, _ | e⟩ := read source
  · simp
  · simp

theorem readAll_eq_error {source : String} {e : ReadError} :
    readAll source = .error e ↔ (read source).fault = some e := by
  unfold readAll
  obtain ⟨forms, _ | e⟩ := read source
  · simp
  · simp

namespace Reader

variable {st st' : State} {c c' : Cursor} {t : Token}

/-! ### Reading from a configuration -/

/-- The reading from a place of a text on. -/
def State.readFrom (st : State) (c : Cursor) : Reading :=
  st.run c.trace.ending c.trace.tokens

theorem read_eq (source : String) : read source = State.readFrom {} (.ofString source) :=
  rfl

theorem readFrom_finished {p : Position} (h : c.step = .finished p) :
    st.readFrom c = ⟨st.forms.reverse, faultAtEnd st.frames⟩ := by
  rw [State.readFrom, Cursor.trace_of_finished h]
  rfl

theorem readFrom_fault {e : ScanError} (h : c.step = .fault e) :
    st.readFrom c = ⟨st.forms.reverse, some (.ofScan e)⟩ := by
  rw [State.readFrom, Cursor.trace_of_fault h]
  rfl

theorem readFrom_taken (h : c.step = .token t c') (ht : st.take t = .ok st') :
    st.readFrom c = st'.readFrom c' := by
  rw [State.readFrom, Cursor.trace_of_token h]
  simp only [Trace.cons, Trace.tokens, List.map_cons, State.run, ht]
  rfl

theorem readFrom_refused {e : ReadError} (h : c.step = .token t c') (ht : st.take t = .error e) :
    st.readFrom c = ⟨st.forms.reverse, some e⟩ := by
  rw [State.readFrom, Cursor.trace_of_token h]
  simp only [Trace.cons, Trace.tokens, List.map_cons, State.run, ht]

/-- What comes next in the text is all that a reading looks at. -/
theorem readFrom_congr (h : c.step = c'.step) : st.readFrom c = st.readFrom c' := by
  cases hc : c'.step with
  | finished p => rw [readFrom_finished (h.trans hc), readFrom_finished hc]
  | fault e => rw [readFrom_fault (h.trans hc), readFrom_fault hc]
  | token t next =>
    cases ht : st.take t with
    | ok st' => rw [readFrom_taken (h.trans hc) ht, readFrom_taken hc ht]
    | error e => rw [readFrom_refused (h.trans hc) ht, readFrom_refused hc ht]

/-- **Induction over a reading.**  What holds wherever a reading stops, and goes back over every
token that is taken, holds of all configurations. -/
@[elab_as_elim]
theorem State.reading_induction {motive : State → Cursor → Prop}
    (finished : ∀ st c p, c.step = .finished p → motive st c)
    (fault : ∀ st c e, c.step = .fault e → motive st c)
    (refused : ∀ st c t c' e, c.step = .token t c' → st.take t = .error e → motive st c)
    (taken : ∀ st c t c' st', c.step = .token t c' → st.take t = .ok st' → motive st' c' →
      motive st c)
    (st : State) (c : Cursor) : motive st c := by
  -- the text gets shorter with every token
  induction hn : c.rest.length using Nat.strongRecOn generalizing st c with
  | ind n ih =>
    cases hc : c.step with
    | finished p => exact finished st c p hc
    | fault e => exact fault st c e hc
    | token t c' =>
      cases ht : st.take t with
      | error e => exact refused st c t c' e hc ht
      | ok st' => exact taken st c t c' st' hc ht (ih _ (hn ▸ Cursor.step_shorter hc) st' c' rfl)

/-- The induction for what does not depend on why a reading stops: then the finished forms are
those of the state. -/
@[elab_as_elim]
theorem State.forms_induction {motive : State → Cursor → Prop}
    (stopped : ∀ st c, (st.readFrom c).forms = st.forms.reverse → motive st c)
    (taken : ∀ st c t c' st', c.step = .token t c' → st.take t = .ok st' → motive st' c' →
      motive st c)
    (st : State) (c : Cursor) : motive st c := by
  induction st, c using State.reading_induction with
  | finished st c p hc => exact stopped st c (by rw [readFrom_finished hc])
  | fault st c e hc => exact stopped st c (by rw [readFrom_fault hc])
  | refused st c t c' e hc ht => exact stopped st c (by rw [readFrom_refused hc ht])
  | taken st c t c' st' hc ht ih => exact taken st c t c' st' hc ht ih

/-! ### Finished forms -/

/-- The state with `old` forms finished before its own, last one first. -/
def State.onto (st : State) (old : List Form) : State :=
  { st with forms := st.forms ++ old }

end Reader

/-- The reading with `forms` in front. -/
def Reading.after (r : Reading) (forms : List Form) : Reading :=
  { r with forms := forms ++ r.forms }

namespace Reader

variable {st st' : State} {c c' : Cursor} {t : Token}

theorem deliver_onto (old forms : List Form) (datum : Form) (frames : List Frame) :
    deliver (forms ++ old) datum frames = (deliver forms datum frames).onto old := by
  fun_induction deliver forms datum frames with
  | case1 => rfl
  | case2 => rfl
  | case3 datum _ frames ih => exact ih

theorem take_onto (st : State) (old : List Form) (t : Token) :
    (st.onto old).take t = (st.take t).map (·.onto old) := by
  obtain ⟨frames, forms⟩ := st
  unfold State.take
  cases t.kind with
  | opening b => rfl
  | quote => rfl
  | closing found =>
    obtain _ | ⟨items | p, frames⟩ := frames
    · rfl
    · exact congrArg Except.ok (deliver_onto old forms (.list items.reverse) frames)
    · rfl
  | _ => exact congrArg Except.ok (deliver_onto old forms _ frames)

/-- **Finished forms stay** in front of what is read later, and change nothing of it. -/
theorem readFrom_onto (old : List Form) (st : State) (c : Cursor) :
    (st.onto old).readFrom c = (st.readFrom c).after old.reverse := by
  induction st, c using State.reading_induction with
  | finished st c p hc =>
    rw [readFrom_finished hc, readFrom_finished hc]
    simp only [State.onto, Reading.after, List.reverse_append]
  | fault st c e hc =>
    rw [readFrom_fault hc, readFrom_fault hc]
    simp only [State.onto, Reading.after, List.reverse_append]
  | refused st c t c' e hc ht =>
    have ht' : (st.onto old).take t = .error e := by rw [take_onto, ht]; rfl
    rw [readFrom_refused hc ht, readFrom_refused hc ht']
    simp only [State.onto, Reading.after, List.reverse_append]
  | taken st c t c' st' hc ht ih =>
    have ht' : (st.onto old).take t = .ok (st'.onto old) := by rw [take_onto, ht]; rfl
    rw [readFrom_taken hc ht, readFrom_taken hc ht', ih]

theorem readFrom_finishedForms (forms : List Form) (c : Cursor) :
    State.readFrom ⟨[], forms⟩ c = (State.readFrom {} c).after forms.reverse :=
  readFrom_onto forms {} c

theorem forms_prefix_readFrom (st : State) (c : Cursor) :
    st.forms.reverse <+: (st.readFrom c).forms := by
  have h := readFrom_onto st.forms { st with forms := [] } c
  rw [show State.onto { st with forms := [] } st.forms = st from rfl] at h
  rw [h]
  exact List.prefix_append _ _

/-! ### Lists and brackets -/

/-- The frame is a list. -/
def Frame.isList : Frame → Bool
  | .list _ => true
  | .quote _ => false

/-- As many lists wait as there are brackets open. -/
def State.Balanced (st : State) (opened : List Bracket) : Prop :=
  st.frames.countP Frame.isList = opened.length

theorem countP_deliver (forms : List Form) (datum : Form) (frames : List Frame) :
    (deliver forms datum frames).frames.countP Frame.isList = frames.countP Frame.isList := by
  fun_induction deliver forms datum frames with
  | case1 => rfl
  | case2 => rfl
  | case3 datum p frames ih => rw [ih, List.countP_cons_of_neg Bool.false_ne_true]

/-- A token that is taken keeps the lists and the brackets in balance. -/
theorem State.Balanced.take {opened : List Bracket} (h : st.Balanced opened)
    (ht : st.take t = .ok st') : st'.Balanced (t.kind.openedAfter opened) := by
  obtain ⟨frames, forms⟩ := st
  unfold State.take at ht
  unfold State.Balanced at h ⊢
  generalize t.kind = kind at ht ⊢
  cases kind with
  | opening b =>
    cases ht
    rw [List.countP_cons_of_pos (by rfl), h]
    rfl
  | quote =>
    cases ht
    rw [List.countP_cons_of_neg Bool.false_ne_true, h]
    rfl
  | closing found =>
    obtain _ | ⟨items | p, frames⟩ := frames
    · cases ht
    · -- the list that is closed goes, and with it the innermost bracket
      cases ht
      rw [List.countP_cons_of_pos (by rfl)] at h
      rw [countP_deliver, TokenKind.openedAfter, List.length_tail, ← h]
      rfl
    · cases ht
  | _ =>
    cases ht
    rw [countP_deliver]
    exact h

/-- Where all brackets are closed no list waits, so only a quotation mark can be unfinished. -/
theorem State.Balanced.unfinished_of_faultAtEnd {e : ReadError} (h : st.Balanced [])
    (he : faultAtEnd st.frames = some e) : e = .unfinished := by
  unfold State.Balanced at h
  obtain ⟨_ | ⟨items | p, frames⟩, forms⟩ := st
  · cases he
  · rw [List.countP_cons_of_pos (by rfl)] at h
    simp at h
  · exact (Option.some.inj he).symm

end Reader

end TimelineLisp
