import TimelineLisp.Proofs.Form.Machine

/-!
# Reading form by form

A reader may be asked for one form at a time.  `State.pull` takes the tokens of one form and no
more, and gives the form and the place after it; `pullAll` asks for forms up to the end of the text
or the first fault.

**Asking for the forms one by one gives the reading of the whole text** (`pullAll_eq`): what is
pulled is what the reading starts with, and the rest is read from the place after it as if it were a
text of its own (`readFrom_pull`).
-/

namespace TimelineLisp

namespace Reader

/-! ### One form -/

/-- What comes of asking for a form. -/
inductive Pulled
  /-- A form, and the place after it. -/
  | form (f : Form) (rest : Cursor)
  /-- There are no more forms. -/
  | finished
  /-- The text cannot be read any further. -/
  | fault (e : ReadError)

/-- Takes tokens until a form is finished. -/
def State.pull (st : State) (c : Cursor) : Pulled :=
  match _h : c.step with
  | .finished _ =>
    match faultAtEnd st.frames with
    | none => .finished
    | some e => .fault e
  | .fault e => .fault (.ofScan e)
  | .token t c' =>
    match st.take t with
    | .error e => .fault e
    | .ok st' =>
      match st'.forms with
      | [] => st'.pull c'
      | f :: _ => .form f c'
termination_by c.rest.length
decreasing_by exact Cursor.step_shorter _h

/-- What is read where a form is asked for and then all others. -/
def Pulled.reading : Pulled → Reading
  | .form f rest => (State.readFrom {} rest).after [f]
  | .finished => ⟨[], none⟩
  | .fault e => ⟨[], some e⟩

variable {st st' : State} {c c' : Cursor} {t : Token} {f : Form}

/-- A datum that is handed to the frame on top either finishes a form, and then nothing waits, or
finishes none. -/
theorem deliver_cases (forms : List Form) (datum : Form) (frames : List Frame) :
    (∃ f, deliver forms datum frames = ⟨[], f :: forms⟩) ∨
      (deliver forms datum frames).forms = forms := by
  fun_induction deliver forms datum frames with
  | case1 datum => exact .inl ⟨datum, rfl⟩
  | case2 => exact .inr rfl
  | case3 datum p frames ih => exact ih

/-- A token finishes one form, and then nothing waits, or none. -/
theorem take_cases (h : st.take t = .ok st') :
    (∃ f, st' = ⟨[], f :: st.forms⟩) ∨ st'.forms = st.forms := by
  unfold State.take at h
  generalize t.kind = kind at h
  cases kind with
  | opening b =>
    cases h
    exact .inr rfl
  | quote =>
    cases h
    exact .inr rfl
  | closing found =>
    obtain ⟨_ | ⟨items | p, frames⟩, forms⟩ := st
    · cases h
    · cases h
      exact deliver_cases forms _ frames
    · cases h
  | _ =>
    cases h
    exact deliver_cases st.forms _ st.frames

/-- **What is pulled is what the reading starts with**, and the rest is read on its own. -/
theorem readFrom_pull (hforms : st.forms = []) (c : Cursor) :
    st.readFrom c = (st.pull c).reading := by
  fun_induction State.pull st c with
  | case1 st c p hc hend => rw [readFrom_finished hc, hforms, hend]; rfl
  | case2 st c p hc e hend => rw [readFrom_finished hc, hforms, hend]; rfl
  | case3 st c e hc => rw [readFrom_fault hc, hforms]; rfl
  | case4 st c t c' hc e ht => rw [readFrom_refused hc ht, hforms]; rfl
  | case5 st c t c' hc st' ht hnone ih => rw [readFrom_taken hc ht, ih hnone]
  | case6 st c t c' hc st' ht f more hsome =>
    -- a form is finished where none was before, so nothing waits
    obtain ⟨g, rfl⟩ | hsame := take_cases ht
    · rw [hforms] at hsome
      cases hsome
      rw [readFrom_taken hc ht, hforms]
      exact readFrom_finishedForms [f] c'
    · rw [hsame, hforms] at hsome
      cases hsome

theorem readFrom_of_pull (h : State.pull {} c = .form f c') :
    State.readFrom {} c =
      ⟨f :: (State.readFrom {} c').forms, (State.readFrom {} c').fault⟩ := by
  rw [readFrom_pull rfl, h]
  rfl

theorem pull_shorter (h : st.pull c = .form f c') : c'.rest.length < c.rest.length := by
  fun_induction State.pull st c with
  | case5 st c t c₁ hc st' ht hnone ih => exact Nat.lt_trans (ih h) (Cursor.step_shorter hc)
  | case6 st c t c₁ hc st' ht g more hsome =>
    cases h
    exact Cursor.step_shorter hc
  | _ => cases h

/-! ### All forms -/

/-- Asks for forms up to the end of the text or the first fault. -/
def pullAll (c : Cursor) : Reading :=
  match _h : State.pull {} c with
  | .form f rest => (pullAll rest).after [f]
  | .finished => ⟨[], none⟩
  | .fault e => ⟨[], some e⟩
termination_by c.rest.length
decreasing_by exact pull_shorter _h

theorem pullAll_eq_readFrom (c : Cursor) : pullAll c = State.readFrom {} c := by
  fun_induction pullAll c with
  | case1 c f rest hpull ih => rw [readFrom_pull rfl, hpull, Pulled.reading, ih]
  | case2 c hpull => rw [readFrom_pull rfl, hpull, Pulled.reading]
  | case3 c e hpull => rw [readFrom_pull rfl, hpull, Pulled.reading]

/-- **Asking for the forms one by one gives the reading of the whole text.** -/
theorem pullAll_eq (source : String) : pullAll (.ofString source) = read source :=
  pullAll_eq_readFrom (.ofString source)

end Reader

end TimelineLisp
