import TimelineLisp.Proofs.Form.Placement
import TimelineLisp.Proofs.Token.Shift

/-!
# Reading a text with more lines after it

What a text is read as says how it is read with a newline and more text after it.

* **A complete text is read on its own**, and then the further lines on theirs
  (`read_append_of_complete`).
* **A final fault stays**: the further lines are not looked at (`read_append_of_fault`).
* **Finished forms stay**, also in front of an unfinished one (`forms_prefix_read_append`).

The last section has the three together, for two texts and a newline between them.
-/

namespace TimelineLisp

/-! ### Moving a reading down -/

/-- The fault with its position moved down. -/
def ReadError.down (k : ℕ) : ReadError → ReadError
  | .malformed e => .malformed (e.down k)
  | .danglingQuote p => .danglingQuote (p.down k)
  | .unfinished => .unfinished
  | .unexpectedTokens => .unexpectedTokens
  | .unexpectedEnd => .unexpectedEnd

/-- The reading with the position of its fault moved down. -/
def Reading.down (k : ℕ) (r : Reading) : Reading :=
  { r with fault := r.fault.map (ReadError.down k) }

theorem ReadError.ofScan_down (k : ℕ) (e : ScanError) :
    ReadError.ofScan (e.down k) = (ReadError.ofScan e).down k := by
  cases e <;> rfl

theorem ReadError.down_eq (k : ℕ) (e : ReadError) : e.down k = e.place (·.down k) := by
  cases e with
  | malformed e => cases e <;> rfl
  | _ => rfl

theorem Reading.down_eq (k : ℕ) (r : Reading) : r.down k = r.place (·.down k) := by
  obtain ⟨forms, _ | e⟩ := r
  · rfl
  · simp only [down, place, Option.map_some, ReadError.down_eq]

namespace Reader

/-- **A text further down is read alike**, with the position of its fault moved down. -/
theorem readFrom_down (k : ℕ) (st : State) (c : Cursor) :
    (st.place (·.down k)).readFrom (c.down k) = (st.readFrom c).down k := by
  have hstep := Cursor.step_down k
  have htake (st : State) (t : Token) := take_place (·.down k) st t
  rw [Reading.down_eq]
  induction st, c using State.reading_induction with
  | finished st c p hc =>
    rw [readFrom_finished hc, readFrom_finished (by rw [hstep, hc]; rfl), State.place,
      faultAtEnd_place]
    rfl
  | fault st c e hc =>
    rw [readFrom_fault hc, readFrom_fault (by rw [hstep, hc]; rfl), ReadError.ofScan_down,
      ReadError.down_eq]
    rfl
  | refused st c t c' e hc ht =>
    have ht' := htake st t
    rw [ht] at ht'
    rw [readFrom_refused hc ht, readFrom_refused (by rw [hstep, hc]; rfl) ht']
    rfl
  | taken st c t c' st' hc ht ih =>
    have ht' := htake st t
    rw [ht] at ht'
    rw [readFrom_taken hc ht, readFrom_taken (by rw [hstep, hc]; rfl) ht']
    exact ih

/-! ### More lines after a configuration -/

theorem end_of_step {c c' : Cursor} {t : Token} (h : c.step = .token t c') :
    c'.position.advance c'.rest = c.position.advance c.rest := by
  obtain ⟨gap, hrest, -, htoken, hafter, -⟩ := Cursor.step_split h
  rw [hrest, hafter, htoken, Position.advance_append, Position.advance_append]

/-- After a reading without fault, further lines are read with all forms finished. -/
theorem readFrom_extend_of_complete (st : State) (c : Cursor) (more : List Char)
    (h : (st.readFrom c).fault = none) :
    st.readFrom (c.extend ('\n' :: more)) =
      State.readFrom ⟨[], (st.readFrom c).forms.reverse⟩
        ⟨(c.position.advance c.rest).next '\n', more, []⟩ := by
  induction st, c using State.reading_induction with
  | finished st c p hc =>
    -- nothing waits, or there would be a fault
    rw [readFrom_finished hc] at h ⊢
    have hframes : st.frames = [] := by
      obtain ⟨_ | ⟨_ | _, _⟩, _⟩ := st
      · rfl
      · cases h
      · cases h
    rw [List.reverse_reverse, ← hframes, ← Cursor.position_of_step_finished hc]
    exact readFrom_congr (Cursor.step_extend_finished hc more)
  | fault st c e hc =>
    rw [readFrom_fault hc] at h
    cases h
  | refused st c t c' e hc ht =>
    rw [readFrom_refused hc ht] at h
    cases h
  | taken st c t c' st' hc ht ih =>
    rw [readFrom_taken hc ht] at h ⊢
    rw [readFrom_taken (Cursor.step_extend_token hc more) ht, ih h, end_of_step hc]

/-- A reading with a final fault does not reach the further lines. -/
theorem readFrom_extend_of_fault (st : State) (c : Cursor) (more : List Char) {e : ReadError}
    (hb : st.Balanced c.opened) (h : (st.readFrom c).fault = some e) (he : e ≠ .unfinished) :
    st.readFrom (c.extend ('\n' :: more)) = st.readFrom c := by
  induction st, c using State.reading_induction with
  | finished st c p hc =>
    -- the text ends with no bracket open, so nothing but a quotation mark can wait
    rw [readFrom_finished hc] at h
    rw [Cursor.opened_of_step_finished hc] at hb
    exact absurd (hb.unfinished_of_faultAtEnd h) he
  | fault st c e' hc =>
    -- only a fault that more text may mend counts as unfinished
    rw [readFrom_fault hc] at h ⊢
    have he' : e' ≠ .incomplete := by
      rintro rfl
      exact he (Option.some.inj h).symm
    exact readFrom_fault (Cursor.step_extend_fault hc he' more)
  | refused st c t c' e' hc ht =>
    rw [readFrom_refused hc ht, readFrom_refused (Cursor.step_extend_token hc more) ht]
  | taken st c t c' st' hc ht ih =>
    obtain ⟨-, -, -, -, -, hopened⟩ := Cursor.step_split hc
    rw [readFrom_taken hc ht] at h ⊢
    rw [readFrom_taken (Cursor.step_extend_token hc more) ht, ih (hopened ▸ hb.take ht) h]

theorem forms_prefix_readFrom_extend (st : State) (c : Cursor) (more : List Char) :
    (st.readFrom c).forms <+: (st.readFrom (c.extend ('\n' :: more))).forms := by
  induction st, c using State.forms_induction with
  | stopped st c hc =>
    rw [hc]
    exact forms_prefix_readFrom st _
  | taken st c t c' st' hc ht ih =>
    rw [readFrom_taken hc ht, readFrom_taken (Cursor.step_extend_token hc more) ht]
    exact ih

end Reader

/-! ### More lines after a text -/

section Texts

open Reader

variable (s t : String)

theorem ofString_append_line :
    Cursor.ofString (s ++ "\n" ++ t) = (Cursor.ofString s).extend ('\n' :: t.toList) := by
  simp [Cursor.ofString, Cursor.extend]

/-- **A complete text is read on its own.**  The further lines are read as a text of their own,
which starts below the lines of the first. -/
theorem read_append_of_complete (h : (read s).fault = none) :
    read (s ++ "\n" ++ t) =
      ((read t).down (s.toList.count '\n' + 1)).after (read s).forms := by
  have hstart : (⟨(Position.start.advance s.toList).next '\n', t.toList, []⟩ : Cursor) =
      (Cursor.ofString t).down (s.toList.count '\n' + 1) := by
    rw [Position.next_advance_start]
    rfl
  rw [read_eq, ofString_append_line, readFrom_extend_of_complete {} (.ofString s) t.toList h,
    readFrom_finishedForms, List.reverse_reverse]
  simp only [Cursor.ofString, hstart]
  exact congrArg (Reading.after · _) (readFrom_down _ {} (.ofString t))

/-- **A final fault stays.** -/
theorem read_append_of_fault {e : ReadError} (h : (read s).fault = some e)
    (he : e ≠ .unfinished) : read (s ++ "\n" ++ t) = read s := by
  rw [read_eq, ofString_append_line]
  exact readFrom_extend_of_fault {} (.ofString s) t.toList rfl h he

/-- **Finished forms stay.** -/
theorem forms_prefix_read_append : (read s).forms <+: (read (s ++ "\n" ++ t)).forms := by
  rw [read_eq (s ++ "\n" ++ t), ofString_append_line]
  exact forms_prefix_readFrom_extend {} (.ofString s) t.toList

/-- **The newline extension of a text.**  With a newline and `t` after it, a complete text `s` is
read as before and `t` after it, all positions moved down past the lines of `s`; a text with a final
fault is read as before; a text that is not finished yet keeps its finished forms. -/
theorem read_newline_extension :
    ((read s).fault = none →
      read (s ++ "\n" ++ t) =
        ⟨(read s).forms ++ (read t).forms,
          (read t).fault.map (ReadError.down (s.toList.count '\n' + 1))⟩) ∧
    (∀ e, (read s).fault = some e → e ≠ .unfinished → read (s ++ "\n" ++ t) = read s) ∧
    ((read s).fault = some .unfinished →
      (read s).forms <+: (read (s ++ "\n" ++ t)).forms) := by
  refine ⟨fun h => ?_, fun e h he => ?_, fun _ => ?_⟩
  · exact read_append_of_complete s t h
  · exact read_append_of_fault s t h he
  · exact forms_prefix_read_append s t

/-- The three cases: a fault below a complete text, an escape that more text cannot mend, and a
list that is cut off inside a comment. -/
theorem read_newline_extension_cases :
    read ("'a ; b\nc" ++ "\n" ++ "(d]") =
      ⟨[.quoted (.symbol "a"), .symbol "c"],
        some (.malformed (.mismatched .round .square ⟨3, 3⟩))⟩ ∧
    read ("a \"\\q" ++ "\n" ++ "\"") =
      ⟨[.symbol "a"], some (.malformed (.badEscape 'q' ⟨1, 4⟩))⟩ ∧
    [.symbol "a"] <+: (read ("a (b #| c" ++ "\n" ++ "|# d)")).forms := by
  refine ⟨?_, ?_, ?_⟩
  · exact ((read_newline_extension "'a ; b\nc" "(d]").1 (by cbv)).trans (by cbv)
  · have hfault : (read "a \"\\q").fault = some (.malformed (.badEscape 'q' ⟨1, 4⟩)) := by cbv
    exact ((read_newline_extension "a \"\\q" "\"").2.1 _ hfault (by decide)).trans (by cbv)
  · have hforms : (read "a (b #| c").forms = [.symbol "a"] := by cbv
    exact hforms ▸ (read_newline_extension "a (b #| c" "|# d)").2.2 (by cbv)

end Texts

end TimelineLisp
