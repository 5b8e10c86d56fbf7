import TimelineLisp.Proofs.Form.Acceptance
import TimelineLisp.Proofs.Form.Lines
import TimelineLisp.Proofs.Session.States
import TimelineLisp.Proofs.Token.CutOff

/-!
# Finishing a continuation

A session that asks for more lines holds a text that is not finished.  **The next line can finish
it, unless the text is cut off** (`probe_append_of_open`): it closes the comment or the string in
which the text stops, gives a datum to what waits for one, and closes all brackets
(`readFrom_finishing`).

Where the text is cut off inside a literal that the newline ends, **every next line ends the
submission with the same error** (`read_append_of_cutOff`).
-/

namespace TimelineLisp

namespace Reader

variable {st st' : State} {c c' : Cursor} {t : Token} {opened : List Bracket}

/-! ### Closing what is open -/

/-- With no quotation mark on top, the open brackets can be closed one after the other. -/
theorem readFrom_closing (hb : st.Balanced opened) (hst : st.Follows []) (p : Position) :
    (st.readFrom ⟨p, opened.map Bracket.closing, opened⟩).fault = none := by
  induction opened generalizing st p with
  | nil =>
    rw [readFrom_finished (p := p) rfl]
    obtain ⟨_ | ⟨items | q, frames⟩, forms⟩ := st
    · rfl
    · rw [State.Balanced, List.countP_cons_of_pos (by rfl)] at hb
      cases hb
    · obtain ⟨q, hq, -⟩ := hst
      cases hq
  | cons b opened ih =>
    obtain ⟨lexeme, q, hstep⟩ := step_closing b p (opened.map Bracket.closing) opened
    obtain ⟨_ | ⟨items | q, frames⟩, forms⟩ := st
    · cases hb
    · -- the list is handed on, so again no quotation mark waits
      have htake : State.take ⟨.list items :: frames, forms⟩ ⟨.closing b, lexeme, p⟩ =
          .ok (deliver forms (.list items.reverse) frames) := rfl
      rw [List.map_cons, readFrom_taken hstep htake]
      exact ih (hb.take htake) (follows_deliver forms _ frames) q
    · obtain ⟨q, hq, -⟩ := hst
      cases hq

/-- A datum for what waits for one, and then all brackets closed. -/
def finishing (opened : List Bracket) : List Char :=
  'a' :: ' ' :: opened.map Bracket.closing

theorem newline_notMem_finishing (opened : List Bracket) : '\n' ∉ finishing opened := by
  have hclosing (b : Bracket) : b.closing ≠ '\n' := by cases b <;> decide
  simp [finishing, hclosing]

/-- **From every place between two tokens, a text can be finished.** -/
theorem readFrom_finishing (hb : st.Balanced opened) (p : Position) :
    (st.readFrom ⟨p, finishing opened, opened⟩).fault = none := by
  have hword : ['a'].all isWordChar = true := by decide
  have hwritten : Written (.symbol (String.ofList ['a'])) (finishing opened)
      (' ' :: opened.map Bracket.closing) :=
    written_atom (List.all_eq_true.1 hword) (by decide) (.space _) fun _ => rfl
  obtain ⟨lexeme, q, hstep⟩ := hwritten p opened
  have htake : st.take ⟨.symbol (String.ofList ['a']), lexeme, p⟩ =
      .ok (deliver st.forms (.symbol (String.ofList ['a'])) st.frames) := take_atom rfl
  rw [readFrom_taken hstep htake, readFrom_congr (step_space q _ _)]
  exact readFrom_closing (hb.take htake) (follows_deliver _ _ _) _

/-! ### More lines after an unfinished text -/

/-- A token that is refused is a final fault. -/
theorem take_ne_unfinished (st : State) (t : Token) : st.take t ≠ .error .unfinished := by
  obtain ⟨frames, forms⟩ := st
  obtain ⟨kind, lexeme, position⟩ := t
  cases kind with
  | closing found => obtain _ | ⟨_ | _, _⟩ := frames <;> exact nofun
  | _ => exact nofun

theorem eq_incomplete_of_ofScan {e : ScanError} (h : ReadError.ofScan e = .unfinished) :
    e = .incomplete := by
  cases e with
  | incomplete => rfl
  | _ => cases h

/-- Where the splitting is incomplete but not cut off, a line can lead on to a place between two
tokens, with the same brackets open. -/
theorem readFrom_extend_incomplete (hb : st.Balanced c.opened) (h : c.step = .fault .incomplete)
    (hopen : c.isCutOff = false) :
    ∃ line st' q, '\n' ∉ line ∧ st'.Balanced c.opened ∧
      ∀ more, st.readFrom (c.extend ('\n' :: (line ++ more))) =
        State.readFrom st' ⟨q, more, c.opened⟩ := by
  obtain ⟨line, q, hline, hstep | ⟨t, hkind, hstep⟩⟩ := Cursor.step_extend_of_open h hopen
  · exact ⟨line, st, q, hline, hb, fun more => readFrom_congr (hstep more)⟩
  · have hatom : ∃ f, t.kind.atom? = some f := by
      obtain ⟨text, hkind⟩ | ⟨value, hkind⟩ := hkind
      · exact ⟨.text text, by rw [hkind]; rfl⟩
      · exact ⟨.char value, by rw [hkind]; rfl⟩
    obtain ⟨f, hf⟩ := hatom
    refine ⟨line, deliver st.forms f st.frames, q, hline, ?_, fun more => ?_⟩
    · exact (countP_deliver st.forms f st.frames).trans hb
    · exact readFrom_taken (hstep more) (take_atom hf)

theorem readFrom_extend_of_open (st : State) (c : Cursor) (hb : st.Balanced c.opened)
    (h : (st.readFrom c).fault = some .unfinished) (hopen : c.stop.isCutOff = false) :
    ∃ line, '\n' ∉ line ∧ (st.readFrom (c.extend ('\n' :: line))).fault = none := by
  induction st, c using State.reading_induction with
  | finished st c p hc =>
    -- at most a quotation mark waits, and the next line starts with its datum
    rw [Cursor.opened_of_step_finished hc] at hb
    refine ⟨finishing [], newline_notMem_finishing [], ?_⟩
    rw [readFrom_congr (Cursor.step_extend_finished hc _)]
    exact readFrom_finishing hb _
  | fault st c e hc =>
    rw [readFrom_fault hc] at h
    rw [Cursor.stop_of_fault hc] at hopen
    obtain rfl := eq_incomplete_of_ofScan (Option.some.inj h)
    obtain ⟨line, st', q, hline, hb', hmore⟩ := readFrom_extend_incomplete hb hc hopen
    refine ⟨line ++ finishing c.opened, ?_, ?_⟩
    · simp [hline, newline_notMem_finishing]
    · rw [hmore]
      exact readFrom_finishing hb' q
  | refused st c t c' e hc ht =>
    rw [readFrom_refused hc ht] at h
    exact absurd (Option.some.inj h ▸ ht) (take_ne_unfinished st t)
  | taken st c t c' st' hc ht ih =>
    obtain ⟨-, -, -, -, -, hopened⟩ := Cursor.step_split hc
    rw [readFrom_taken hc ht] at h
    rw [Cursor.stop_of_token hc] at hopen
    obtain ⟨line, hline, hread⟩ := ih (hopened ▸ hb.take ht) h hopen
    exact ⟨line, hline, by rw [readFrom_taken (Cursor.step_extend_token hc line) ht, hread]⟩

theorem readFrom_extend_of_cutOff (st : State) (c : Cursor)
    (h : (st.readFrom c).fault = some .unfinished) (hcut : c.stop.isCutOff = true) :
    ∃ e, e ≠ .unfinished ∧
      ∀ more, st.readFrom (c.extend ('\n' :: more)) = ⟨(st.readFrom c).forms, some e⟩ := by
  induction st, c using State.reading_induction with
  | finished st c p hc =>
    rw [Cursor.stop_of_finished hc, Cursor.isCutOff_of_finished hc] at hcut
    cases hcut
  | fault st c e hc =>
    rw [readFrom_fault hc] at h ⊢
    rw [Cursor.stop_of_fault hc] at hcut
    obtain rfl := eq_incomplete_of_ofScan (Option.some.inj h)
    obtain ⟨e, he, hmore⟩ := Cursor.step_extend_of_cutOff hc hcut
    refine ⟨.ofScan e, ?_, fun more => readFrom_fault (hmore more)⟩
    rw [ReadError.ofScan_eq, if_neg he]
    exact nofun
  | refused st c t c' e hc ht =>
    rw [readFrom_refused hc ht] at h
    exact absurd (Option.some.inj h ▸ ht) (take_ne_unfinished st t)
  | taken st c t c' st' hc ht ih =>
    rw [readFrom_taken hc ht] at h ⊢
    rw [Cursor.stop_of_token hc] at hcut
    obtain ⟨e, he, hmore⟩ := ih h hcut
    refine ⟨e, he, fun more => ?_⟩
    rw [readFrom_taken (Cursor.step_extend_token hc more) ht, hmore]

end Reader

/-! ### Unfinished texts -/

section Texts

open Reader

variable {text : String} (h : probe text = some .unfinished)

include h

/-- **The next line can finish a text that is not cut off.** -/
theorem probe_append_of_open (hopen : isCutOff text = false) :
    ∃ line : String, '\n' ∉ line.toList ∧ probe (text ++ "\n" ++ line) = none := by
  obtain ⟨line, hline, hread⟩ := readFrom_extend_of_open {} (.ofString text) rfl h hopen
  refine ⟨String.ofList line, by rwa [String.toList_ofList], ?_⟩
  rw [probe, read_eq, ofString_append_line, String.toList_ofList, hread]

/-- **No next line can finish a text that is cut off.** -/
theorem read_append_of_cutOff (hcut : isCutOff text = true) :
    ∃ e, e ≠ .unfinished ∧
      ∀ more, read (text ++ "\n" ++ more) = ⟨(read text).forms, some e⟩ := by
  obtain ⟨e, he, hmore⟩ := readFrom_extend_of_cutOff {} (.ofString text) h hcut
  refine ⟨e, he, fun more => ?_⟩
  rw [read_eq, ofString_append_line, hmore]
  rfl

end Texts

/-! ### Sessions -/

namespace Session

variable {s s' : Session} {w w' : World} {history : List Event}

/-- The text that a session holds is unfinished. -/
theorem Calls.unfinished (hidle : s.buffer = none) (h : Calls s w history s' w') {text : String}
    (htext : s'.buffer = some text) :
    text = pendingText history ∧ probe text = some .unfinished := by
  cases h with
  | nil =>
    rw [hidle] at htext
    cases htext
  | cons hcalls hcall =>
    have hbuffer := (hcalls.cons hcall).buffer_eq hidle
    obtain ⟨sink, line, rfl, rfl, hprobe, rfl, -⟩ | ⟨-, rfl, -⟩ := call_cases hcall
    · cases htext
      refine ⟨?_, hprobe⟩
      simpa [pending] using hbuffer
    · cases htext

/-- **Finishing a continuation.**  After any calls of a session that was idle at first, one more
line can complete the text of the lines since the session was last idle, so that it is read without
fault, unless that text is cut off inside a literal which the newline ends.

Where it is cut off, no further text completes it: it has a final fault, which is the same for every
next line, behind the forms that were finished before. -/
theorem continuation_finished_or_spoiled (hidle : s.buffer = none)
    (h : Calls s w history s' w') :
    (isCutOff (pendingText history) = false →
      ∃ line : String, '\n' ∉ line.toList ∧ probe (s'.source line) = none) ∧
    (isCutOff (pendingText history) = true →
      ∃ e, e ≠ .unfinished ∧
        ∀ more, read (s'.source more) = ⟨(read (pendingText history)).forms, some e⟩) := by
  cases htext : s'.buffer with
  | none =>
    -- without a text there is nothing to finish, and the empty line does
    have hpending : pending history = [] := by
      have hbuffer := h.buffer_eq hidle
      rw [htext] at hbuffer
      by_contra hne
      rw [if_neg hne] at hbuffer
      cases hbuffer
    have hempty : pendingText history = "" := by
      rw [pendingText, hpending]
      rfl
    have hsource : s'.source "" = "" := by rw [source, htext]
    have hopen : isCutOff "" = false := by cbv
    rw [hempty]
    refine ⟨fun _ => ⟨"", by simp, ?_⟩, fun hcut => ?_⟩
    · rw [hsource]
      cbv
    · rw [hopen] at hcut
      cases hcut
  | some text =>
    obtain ⟨rfl, hprobe⟩ := h.unfinished hidle htext
    have hsource (line : String) : s'.source line = pendingText history ++ "\n" ++ line := by
      rw [source, htext]
    simp only [hsource]
    exact ⟨probe_append_of_open hprobe, read_append_of_cutOff hprobe⟩

/-- A line that is not finished, on its own. -/
theorem calls_of_unfinished (line : String) (h : probe line = some .unfinished) (w : World) :
    Calls {} w [⟨.submit .reliable line, .ok .more⟩] { buffer := some line } w := by
  have hcall : ({} : Session).call 0 (.submit .reliable line) w =
      some (.ok .more, { buffer := some line }, w) := if_pos h
  exact .cons .nil hcall

/-- Two lines that no further text completes, though the session asks for more: a `#` literal inside
a list and a backslash at the end of a string.  And one that stops inside a comment in a list, which
a further line completes. -/
theorem continuation_cases :
    (∃ history s', Calls {} .standard history s' .standard ∧ pending history = ["(#foo"] ∧
      ∀ more, probe (s'.source more) = some (.malformed (.badHash "#foo" ⟨1, 2⟩))) ∧
    (∃ history s', Calls {} .standard history s' .standard ∧ pending history = ["\"a\\"] ∧
      ∀ more, probe (s'.source more) = some (.malformed (.badEscape '\n' ⟨1, 3⟩))) ∧
    ∃ history s', Calls {} .standard history s' .standard ∧ pending history = ["(a #| b"] ∧
      ∃ line : String, '\n' ∉ line.toList ∧ probe (s'.source line) = none := by
  have hhash := calls_of_unfinished "(#foo" (by cbv) .standard
  have hescape := calls_of_unfinished "\"a\\" (by cbv) .standard
  have hcomment := calls_of_unfinished "(a #| b" (by cbv) .standard
  refine ⟨⟨_, _, hhash, rfl, fun more => ?_⟩, ⟨_, _, hescape, rfl, fun more => ?_⟩,
    _, _, hcomment, rfl, ?_⟩
  · obtain ⟨-, hspoiled⟩ := continuation_finished_or_spoiled rfl hhash
    obtain ⟨e, -, hread⟩ := hspoiled (by cbv)
    rw [probe, hread more, ← hread ""]
    cbv
  · obtain ⟨-, hspoiled⟩ := continuation_finished_or_spoiled rfl hescape
    obtain ⟨e, -, hread⟩ := hspoiled (by cbv)
    rw [probe, hread more, ← hread ""]
    cbv
  · obtain ⟨hfinished, -⟩ := continuation_finished_or_spoiled rfl hcomment
    exact hfinished (by cbv)

end Session

end TimelineLisp
