import TimelineLisp.CommandLine.Run
import TimelineLisp.Proofs.Form.Lines
import TimelineLisp.Proofs.Token.Written

/-!
# Reading what was printed

A form is `Readable` if all its symbols are.  Two facts make up the round trip:

* **every form that is read is readable** (`readable_of_mem_read`), since its symbols come from the
  tokens of a text;
* **a readable form is read back from its text** (`read_render`): where the reader stands in front
  of a written form, it comes to stand behind it, with the form handed to the frame on top
  (`ReadsBack`).

The last section puts them together for the forms of a text and for the listing that is printed of
them.
-/

namespace TimelineLisp

open Reader

/-! ### Readable forms -/

/-- All symbols of the form are such that they are read as symbols. -/
inductive Form.Readable : Form → Prop
  | symbol {name : String} (h : IsSymbol name.toList) : Readable (.symbol name)
  | number (value : Number) : Readable (.number value)
  | text (content : String) : Readable (.text content)
  | char (value : Char) : Readable (.char value)
  | bool (value : Bool) : Readable (.bool value)
  | list {items : List Form} (h : ∀ f ∈ items, Readable f) : Readable (.list items)

theorem isSymbol_quote : IsSymbol "quote".toList :=
  ⟨by decide, List.all_eq_true.1 (by decide), by decide, by decide⟩

theorem Form.Readable.quoted {datum : Form} (h : datum.Readable) : (Form.quoted datum).Readable := by
  refine .list fun f hf => ?_
  rcases List.mem_cons.1 hf with rfl | hf
  · exact .symbol isSymbol_quote
  · rw [List.mem_singleton.1 hf]
    exact h

namespace Reader

/-- The items read so far are readable. -/
def Frame.Readable : Frame → Prop
  | .list items => ∀ f ∈ items, f.Readable
  | .quote _ => True

/-- The forms and items read so far are readable. -/
structure State.Readable (st : State) : Prop where
  /-- The finished forms. -/
  forms : ∀ f ∈ st.forms, f.Readable
  /-- The items of the lists that wait. -/
  frames : ∀ frame ∈ st.frames, frame.Readable

theorem readable_deliver {forms : List Form} {datum : Form} {frames : List Frame}
    (hdatum : datum.Readable) (h : State.Readable ⟨frames, forms⟩) :
    (deliver forms datum frames).Readable := by
  fun_induction deliver forms datum frames with
  | case1 datum => exact ⟨List.forall_mem_cons.2 ⟨hdatum, h.forms⟩, h.frames⟩
  | case2 datum items frames =>
    obtain ⟨hitems, hframes⟩ := List.forall_mem_cons.1 h.frames
    exact ⟨h.forms, List.forall_mem_cons.2 ⟨List.forall_mem_cons.2 ⟨hdatum, hitems⟩, hframes⟩⟩
  | case3 datum p frames ih =>
    exact ih hdatum.quoted ⟨h.forms, (List.forall_mem_cons.1 h.frames).2⟩

theorem State.Readable.take {st st' : State} {t : Token} (h : st.Readable) (ht : t.kind.Proper)
    (htake : st.take t = .ok st') : st'.Readable := by
  unfold State.take at htake
  generalize t.kind = kind at ht htake
  cases kind with
  | opening b =>
    cases htake
    exact ⟨h.forms, List.forall_mem_cons.2 ⟨List.forall_mem_nil _, h.frames⟩⟩
  | quote =>
    cases htake
    exact ⟨h.forms, List.forall_mem_cons.2 ⟨trivial, h.frames⟩⟩
  | closing found =>
    obtain ⟨_ | ⟨items | p, frames⟩, forms⟩ := st
    · cases htake
    · cases htake
      obtain ⟨hitems, hframes⟩ := List.forall_mem_cons.1 h.frames
      refine readable_deliver (.list fun f hf => ?_) ⟨h.forms, hframes⟩
      exact hitems f (List.mem_reverse.1 hf)
    · cases htake
  | symbol name =>
    cases htake
    exact readable_deliver (.symbol ht) h
  | number value =>
    cases htake
    exact readable_deliver (.number value) h
  | text content =>
    cases htake
    exact readable_deliver (.text content) h
  | char value =>
    cases htake
    exact readable_deliver (.char value) h
  | bool value =>
    cases htake
    exact readable_deliver (.bool value) h

theorem readable_of_mem_readFrom {st : State} {c : Cursor} (h : st.Readable) :
    ∀ f ∈ (st.readFrom c).forms, f.Readable := by
  induction st, c using State.forms_induction with
  | stopped st c hc =>
    rw [hc]
    exact fun f hf => h.forms f (List.mem_reverse.1 hf)
  | taken st c t c' st' hc ht ih =>
    rw [readFrom_taken hc ht]
    exact ih (h.take (proper_of_step hc) ht)

end Reader

/-- **Every form that is read is readable.** -/
theorem readable_of_mem_read {source : String} {f : Form} (hf : f ∈ (read source).forms) :
    f.Readable := by
  have hstart : State.Readable {} := ⟨List.forall_mem_nil _, List.forall_mem_nil _⟩
  exact readable_of_mem_readFrom hstart f hf

/-! ### Reading a written form -/

/-- Where the reader stands in front of the written form, it comes to stand behind it, with the
form handed to the frame on top. -/
def ReadsBack (f : Form) : Prop :=
  ∀ (st : State) (p : Position) (opened : List Bracket) {tail : List Char}, Boundary tail →
    ∃ q, st.readFrom ⟨p, f.write tail, opened⟩ =
      (deliver st.forms f st.frames).readFrom ⟨q, tail, opened⟩

/-- A written token is taken. -/
theorem readFrom_written {kind : TokenKind} {text tail : List Char} (h : Written kind text tail)
    {st st' : State} (htake : ∀ lexeme p, st.take ⟨kind, lexeme, p⟩ = .ok st') (p : Position)
    (opened : List Bracket) :
    ∃ q, st.readFrom ⟨p, text, opened⟩ =
      st'.readFrom ⟨q, tail, kind.openedAfter opened⟩ := by
  obtain ⟨lexeme, q, hstep⟩ := h p opened
  exact ⟨q, readFrom_taken hstep (htake lexeme p)⟩

theorem readFrom_space (st : State) (p : Position) (cs : List Char) (opened : List Bracket) :
    st.readFrom ⟨p, ' ' :: cs, opened⟩ = st.readFrom ⟨p.next ' ', cs, opened⟩ :=
  readFrom_congr (step_space p cs opened)

/-- The items of a written list are added to the list that waits on top. -/
theorem readFrom_writeItems {fs : List Form} (h : ∀ f ∈ fs, ReadsBack f) (items : List Form)
    (frames : List Frame) (forms : List Form) (p : Position) (opened : List Bracket)
    (tail : List Char) :
    ∃ q, State.readFrom ⟨.list items :: frames, forms⟩
        ⟨p, Form.writeItems fs (')' :: tail), opened⟩ =
      State.readFrom ⟨.list (fs.reverse ++ items) :: frames, forms⟩ ⟨q, ')' :: tail, opened⟩ := by
  induction fs generalizing items p with
  | nil => exact ⟨p, rfl⟩
  | cons f fs ih =>
    obtain ⟨hf, hfs⟩ := List.forall_mem_cons.1 h
    cases fs with
    | nil => exact hf ⟨.list items :: frames, forms⟩ p opened (.closing tail)
    | cons g gs =>
      -- after the first item comes a space, and then the other items
      obtain ⟨q, hq⟩ := hf ⟨.list items :: frames, forms⟩ p opened
        (.space (Form.writeItems (g :: gs) (')' :: tail)))
      obtain ⟨r, hr⟩ := ih hfs (f :: items) (q.next ' ')
      refine ⟨r, ?_⟩
      rw [Form.writeItems, hq, readFrom_space, deliver, hr, List.reverse_cons (a := f),
        List.append_assoc]
      rfl

theorem Form.Readable.readsBack {f : Form} (h : f.Readable) : ReadsBack f := by
  induction h with
  | symbol h =>
    intro st p opened tail hb
    exact readFrom_written (written_symbol h hb) (fun _ _ => rfl) p opened
  | number value =>
    intro st p opened tail hb
    exact readFrom_written (written_number value hb) (fun _ _ => rfl) p opened
  | text content =>
    intro st p opened tail hb
    exact readFrom_written (written_text content tail) (fun _ _ => rfl) p opened
  | char value =>
    intro st p opened tail hb
    exact readFrom_written (written_char value hb) (fun _ _ => rfl) p opened
  | bool value =>
    intro st p opened tail hb
    exact readFrom_written (written_bool value hb) (fun _ _ => rfl) p opened
  | @list items h ih =>
    intro st p opened tail hb
    obtain ⟨lexeme, q, hopen⟩ := written_opening (Form.writeItems items (')' :: tail)) p opened
    obtain ⟨r, hitems⟩ := readFrom_writeItems ih [] st.frames st.forms q (.round :: opened) tail
    obtain ⟨lexeme', s, hclose⟩ := step_closing .round r tail opened
    refine ⟨s, ?_⟩
    rw [Form.write, readFrom_taken hopen rfl]
    refine hitems.trans (readFrom_taken hclose ?_)
    simp only [State.take, List.append_nil, List.reverse_reverse]

/-- **A readable form is read back from its text.** -/
theorem read_render {f : Form} (h : f.Readable) : read f.render = ⟨[f], none⟩ := by
  obtain ⟨q, hq⟩ := h.readsBack {} .start [] .nothing
  rw [read_eq, Cursor.ofString, Form.render, String.toList_ofList, hq]
  exact readFrom_finished rfl

/-! ### The printed forms of a text -/

/-- The forms as they are printed, one below the other. -/
def Form.printed (fs : List Form) : String :=
  "\n".intercalate (fs.map Form.render)

theorem read_empty : read "" = ⟨[], none⟩ := by
  cbv

theorem read_printed {fs : List Form} (h : ∀ f ∈ fs, f.Readable) :
    read (Form.printed fs) = ⟨fs, none⟩ := by
  induction fs with
  | nil => exact read_empty
  | cons f fs ih =>
    obtain ⟨hf, hfs⟩ := List.forall_mem_cons.1 h
    have hread := read_render hf
    cases fs with
    | nil => rw [Form.printed, List.map_singleton, String.intercalate_singleton, hread]
    | cons g gs =>
      have hlines : Form.printed (f :: g :: gs) = f.render ++ "\n" ++ Form.printed (g :: gs) := by
        simp only [Form.printed, List.map_cons, String.intercalate_cons_cons]
      rw [hlines, read_append_of_complete _ _ (by rw [hread]), hread, ih hfs]
      rfl

theorem read_printed_newline {fs : List Form} (h : ∀ f ∈ fs, f.Readable) :
    read (Form.printed fs ++ "\n") = ⟨fs, none⟩ := by
  have hread := read_append_of_complete (Form.printed fs) "" (by rw [read_printed h])
  rw [read_printed h, read_empty, String.append_empty] at hread
  rw [hread]
  simp [Reading.after, Reading.down]

theorem decode_toUTF8 (source : String) : Script.decode source.toUTF8 = .ok source := by
  unfold Script.decode String.fromUTF8?
  rw [String.toUTF8_eq_toByteArray, dif_pos source.isValidUTF8]
  rfl

/-- The forms of a text are listed the way they are printed. -/
theorem list_parse_of_readAll {source : String} {fs : List Form} (h : readAll source = .ok fs) :
    CommandLine.list .parse (.ok source.toUTF8) = { stdout := Form.printed fs ++ "\n" } := by
  simp only [CommandLine.list, CommandLine.listingOfBytes, decode_toUTF8, CommandLine.listing, h]
  rfl

/-- **Reading undoes printing.**  Each form of a text is the one form of its own printed text; the
listing of a text's forms, one below the other, is read as the same forms again and is listed as
itself, also with the newline that ends it. -/
theorem printed_forms_read_back {source : String} {fs : List Form} (h : readAll source = .ok fs) :
    (∀ f ∈ fs, readOne f.render = .ok f) ∧
    CommandLine.list .parse (.ok source.toUTF8) = { stdout := Form.printed fs ++ "\n" } ∧
    readAll (Form.printed fs) = .ok fs ∧
    CommandLine.list .parse (.ok (Form.printed fs).toUTF8) =
      { stdout := Form.printed fs ++ "\n" } ∧
    CommandLine.list .parse (.ok (Form.printed fs ++ "\n").toUTF8) =
      { stdout := Form.printed fs ++ "\n" } := by
  have hfs : ∀ f ∈ fs, f.Readable := by
    intro f hf
    rw [readAll_eq_ok] at h
    exact readable_of_mem_read (by rw [h]; exact hf)
  refine ⟨fun f hf => ?_, list_parse_of_readAll h, ?_, ?_, ?_⟩
  · rw [readOne, read_render (hfs f hf)]
  · exact readAll_eq_ok.2 (read_printed hfs)
  · exact list_parse_of_readAll (readAll_eq_ok.2 (read_printed hfs))
  · exact list_parse_of_readAll (readAll_eq_ok.2 (read_printed_newline hfs))

/-- The listing of a text with quotation marks, escapes in a string, a comment and a fraction that is
not in lowest terms. -/
theorem printed_sample_read_back :
    readAll "''a #t \"\\n\\\\\" ; b\n-6/4" =
      readAll "(quote (quote a))\n#t\n\"\\n\\\\\"\n-3/2" ∧
    CommandLine.list .parse (.ok "(quote (quote a))\n#t\n\"\\n\\\\\"\n-3/2\n".toUTF8) =
      { stdout := "(quote (quote a))\n#t\n\"\\n\\\\\"\n-3/2\n" } := by
  let fs : List Form :=
    [.quoted (.quoted (.symbol "a")), .bool true, .text "\n\\", .number (mkRat (-3) 2)]
  have hread : readAll "''a #t \"\\n\\\\\" ; b\n-6/4" = .ok fs := by cbv
  have hprinted : Form.printed fs = "(quote (quote a))\n#t\n\"\\n\\\\\"\n-3/2" := by cbv
  obtain ⟨-, -, hback, -, hlist⟩ := printed_forms_read_back hread
  rw [hprinted] at hback hlist
  exact ⟨hread.trans hback.symm, hlist⟩

end TimelineLisp
