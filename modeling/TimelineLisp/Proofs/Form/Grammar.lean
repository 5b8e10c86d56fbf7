import TimelineLisp.Proofs.Form.Machine
import TimelineLisp.Proofs.Token.Nesting

/-!
# The grammar of tokens

`Reads` is the grammar: it says which forms a sequence of tokens is read as.  Atoms stand for
themselves, brackets of one shape for the list of the forms between them, and a quotation mark for
the quotation of the form after it.

* **What the grammar reads is taken** (`Reads.run`), so a sequence of tokens is read as one sequence
  of forms at most (`Reads.unique`).
* **What a reader takes without fault is read by the grammar** (`reads_of_readFrom`): the frames
  that wait on its stack split the tokens taken so far (`Parsed`).
-/

namespace TimelineLisp

open Reader

/-! ### The grammar -/

/-- The form that a token stands for by itself. -/
def TokenKind.atom? : TokenKind → Option Form
  | .symbol name => some (.symbol name)
  | .number value => some (.number value)
  | .text content => some (.text content)
  | .char value => some (.char value)
  | .bool value => some (.bool value)
  | .opening _ => none
  | .closing _ => none
  | .quote => none

/-- The forms that a sequence of tokens is read as. -/
inductive Reads : List TokenKind → List Form → Prop
  | nil : Reads [] []
  | atom {kind : TokenKind} {form : Form} {kinds : List TokenKind} {forms : List Form}
    (hatom : kind.atom? = some form) (rest : Reads kinds forms) :
    Reads (kind :: kinds) (form :: forms)
  | list {b : Bracket} {inner kinds : List TokenKind} {items forms : List Form}
    (between : Reads inner items) (rest : Reads kinds forms) :
    Reads (.opening b :: (inner ++ .closing b :: kinds)) (.list items :: forms)
  | quote {kinds : List TokenKind} {datum : Form} {forms : List Form}
    (rest : Reads kinds (datum :: forms)) : Reads (.quote :: kinds) (.quoted datum :: forms)

theorem Reads.append {kinds kinds' : List TokenKind} {fs fs' : List Form} (h : Reads kinds fs)
    (h' : Reads kinds' fs') : Reads (kinds ++ kinds') (fs ++ fs') := by
  induction h with
  | nil => exact h'
  | atom hatom _ ih => exact .atom hatom ih
  | list between _ _ ih =>
    rw [List.cons_append, List.append_assoc, List.cons_append]
    exact .list between ih
  | quote _ ih => exact .quote ih

variable {st st' : State} {c c' : Cursor} {t : Token}

/-! ### What the grammar reads is taken -/

/-- An atom is handed to the frame on top. -/
theorem Reader.take_atom {f : Form} (h : t.kind.atom? = some f) :
    st.take t = .ok (deliver st.forms f st.frames) := by
  unfold State.take
  generalize t.kind = kind at h ⊢
  cases kind with
  | opening b => cases h
  | closing b => cases h
  | quote => cases h
  | _ =>
    cases h
    rfl

/-- Hands data to the frame on top, one after the other. -/
def Reader.State.deliverAll (st : State) (fs : List Form) : State :=
  fs.foldl (fun st f => deliver st.forms f st.frames) st

theorem Reader.deliverAll_list (items : List Form) (frames : List Frame) (forms fs : List Form) :
    State.deliverAll ⟨.list items :: frames, forms⟩ fs =
      ⟨.list (fs.reverse ++ items) :: frames, forms⟩ := by
  induction fs generalizing items with
  | nil => rfl
  | cons f fs ih =>
    rw [List.reverse_cons, List.append_assoc]
    exact ih (f :: items)

theorem Reader.deliverAll_top (forms fs : List Form) :
    State.deliverAll ⟨[], forms⟩ fs = ⟨[], fs.reverse ++ forms⟩ := by
  induction fs generalizing forms with
  | nil => rfl
  | cons f fs ih =>
    rw [List.reverse_cons, List.append_assoc]
    exact ih (f :: forms)

namespace Reads

variable {kinds : List TokenKind} {fs gs : List Form}

/-- **What the grammar reads is taken**, and its forms are handed to the frame on top. -/
theorem run (h : Reads kinds fs) (st : State) (ending : Ending) {ts : List Token}
    (hts : ts.map (·.kind) = kinds) (us : List Token) :
    st.run ending (ts ++ us) = (st.deliverAll fs).run ending us := by
  induction h generalizing st ts us with
  | nil =>
    rw [List.map_eq_nil_iff] at hts
    subst hts
    rfl
  | @atom kind form kinds forms hatom _ ih =>
    obtain ⟨t, rest, rfl, rfl, hrest⟩ := List.map_eq_cons_iff.1 hts
    rw [List.cons_append, State.run, take_atom hatom]
    exact ih _ hrest us
  | @list b inner kinds items forms _ _ ihItems ihRest =>
    obtain ⟨o, more, rfl, ho, hmore⟩ := List.map_eq_cons_iff.1 hts
    obtain ⟨is, cs, rfl, his, hcs⟩ := List.map_eq_append_iff.1 hmore
    obtain ⟨c, rest, rfl, hc, hrest⟩ := List.map_eq_cons_iff.1 hcs
    -- the items are collected in a frame of their own, which the closing bracket takes away
    have hopen : st.take o = .ok ⟨.list [] :: st.frames, st.forms⟩ := by
      rw [State.take, ho]
    have hclose : State.take ⟨.list items.reverse :: st.frames, st.forms⟩ c =
        .ok (deliver st.forms (.list items) st.frames) := by
      rw [State.take, hc]
      simp only [List.reverse_reverse]
    rw [List.cons_append, List.append_assoc, State.run, hopen]
    simp only [ihItems _ his, deliverAll_list, List.append_nil, List.cons_append, State.run, hclose]
    exact ihRest _ hrest us
  | @quote kinds datum forms _ ih =>
    obtain ⟨t, rest, rfl, ht, hrest⟩ := List.map_eq_cons_iff.1 hts
    have hquote : st.take t = .ok ⟨.quote t.position :: st.frames, st.forms⟩ := by
      rw [State.take, ht]
    rw [List.cons_append, State.run, hquote]
    exact ih _ hrest us

/-- The reading of tokens that the grammar reads to their end. -/
theorem run_all (h : Reads kinds fs) (p : Position) {ts : List Token}
    (hts : ts.map (·.kind) = kinds) : State.run {} (.finished p) ts = ⟨fs, none⟩ := by
  have hrun := h.run {} (.finished p) hts []
  rw [List.append_nil, deliverAll_top] at hrun
  rw [hrun]
  simp [State.run, State.finish, faultAtEnd]

/-- **A sequence of tokens is read as one sequence of forms at most.** -/
theorem unique (h : Reads kinds fs) (h' : Reads kinds gs) : gs = fs := by
  -- the reader takes tokens of these kinds in one way only
  let ts : List Token := kinds.map fun kind => ⟨kind, "", .start⟩
  have hts : ts.map (·.kind) = kinds := by simp [ts, Function.comp_def]
  exact congrArg Reading.forms ((h'.run_all .start hts).symm.trans (h.run_all .start hts))

end Reads

/-! ### What is taken is read by the grammar -/

/-- Where a reader stands that has taken tokens of these kinds, with these brackets open: each frame
has its own part of the tokens, the outermost one first. -/
inductive Parsed : List TokenKind → List Bracket → State → Prop
  | top {kinds : List TokenKind} {forms : List Form} (h : Reads kinds forms.reverse) :
    Parsed kinds [] ⟨[], forms⟩
  | list {kinds inner : List TokenKind} {b : Bracket} {opened : List Bracket}
    {frames : List Frame} {forms items : List Form} (outer : Parsed kinds opened ⟨frames, forms⟩)
    (h : Reads inner items.reverse) :
    Parsed (kinds ++ .opening b :: inner) (b :: opened) ⟨.list items :: frames, forms⟩
  | quote {kinds : List TokenKind} {opened : List Bracket} {frames : List Frame}
    {forms : List Form} {p : Position} (outer : Parsed kinds opened ⟨frames, forms⟩) :
    Parsed (kinds ++ [.quote]) opened ⟨.quote p :: frames, forms⟩

namespace Parsed

variable {kinds datum : List TokenKind} {opened : List Bracket}

theorem deliver {f : Form} {frames : List Frame} {forms : List Form}
    (h : Parsed kinds opened ⟨frames, forms⟩) (hf : Reads datum [f]) :
    Parsed (kinds ++ datum) opened (Reader.deliver forms f frames) := by
  fun_induction Reader.deliver forms f frames generalizing kinds datum opened with
  | case1 f =>
    cases h with
    | top h => exact .top (by simpa using h.append hf)
  | case2 f items frames =>
    cases h with
    | list outer h =>
      rw [List.append_assoc, List.cons_append]
      exact .list outer (by simpa using h.append hf)
  | case3 f p frames ih =>
    cases h with
    | quote outer =>
      rw [List.append_assoc]
      exact ih outer (.quote hf)

/-- A token is added to the part of the frame on top, or starts or ends such a part. -/
theorem take (h : Parsed kinds opened st) (ht : st.take t = .ok st')
    (hclose : ∀ b, t.kind = .closing b → opened.head? = some b) :
    Parsed (kinds ++ [t.kind]) (t.kind.openedAfter opened) st' := by
  obtain ⟨frames, forms⟩ := st
  unfold State.take at ht
  generalize t.kind = kind at ht hclose ⊢
  cases kind with
  | opening b =>
    cases ht
    exact .list h .nil
  | quote =>
    cases ht
    exact .quote h
  | closing found =>
    obtain _ | ⟨items | p, frames⟩ := frames
    · cases ht
    · cases ht
      cases h with
      | @list kinds inner b opened _ _ _ outer hitems =>
        -- the bracket matches, so the part of the list is complete
        obtain rfl : b = found := Option.some.inj (hclose found rfl)
        rw [List.append_assoc, List.cons_append]
        exact outer.deliver (.list hitems .nil)
    · cases ht
  | _ =>
    cases ht
    exact h.deliver (.atom rfl .nil)

end Parsed

/-- **What is taken without fault is read by the grammar.** -/
theorem reads_of_readFrom {kinds : List TokenKind} (h : Parsed kinds c.opened st)
    (hfault : (st.readFrom c).fault = none) :
    Reads (kinds ++ c.trace.tokens.map (·.kind)) (st.readFrom c).forms := by
  induction st, c using State.reading_induction generalizing kinds with
  | finished st c p hc =>
    rw [readFrom_finished hc] at hfault ⊢
    rw [Cursor.trace_of_finished hc]
    generalize c.opened = opened at h
    -- nothing waits, or there would be a fault
    cases h with
    | top h => simpa [Trace.tokens] using h
    | list outer h => cases hfault
    | quote outer => cases hfault
  | fault st c e hc =>
    rw [readFrom_fault hc] at hfault
    cases hfault
  | refused st c t c' e hc ht =>
    rw [readFrom_refused hc ht] at hfault
    cases hfault
  | taken st c t c' st' hc ht ih =>
    obtain ⟨-, -, -, -, -, hopened⟩ := Cursor.step_split hc
    rw [readFrom_taken hc ht] at hfault ⊢
    have hparsed := hopened ▸ h.take ht (Cursor.head?_of_step hc)
    have htokens : c.trace.tokens = t :: c'.trace.tokens := by
      rw [Cursor.trace_of_token hc]
      rfl
    simpa [htokens] using ih hparsed hfault

end TimelineLisp
