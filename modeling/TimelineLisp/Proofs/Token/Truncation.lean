import TimelineLisp.Proofs.Token.CutToken
import TimelineLisp.Proofs.Token.Partition
import TimelineLisp.Proofs.Token.Spacing

/-!
# The start of a text

A text that can be split may be cut off at any character.  **What is left is never misread**
(`cut_text_splits_alike`): the tokens in front of the cut are the same, a token that the cut goes
through may be read as a shorter one, and the splitting comes to the end of the text, or finds it
incomplete, or stops at the number, the `#` literal or the mark of a comment that is cut in two
(`CutEnding`).  Inside a list it finds the text incomplete, unless a number is cut in two.

The cut goes through a gap (`Cursor.cut_gap`) or through a token (`Cursor.cut_token`), or else the
next token is whole (`Cut.cons`); `Cursor.exists_cut` follows the tokens up to the cut.
-/

namespace TimelineLisp

/-! ### Places of tokens -/

namespace Token

/-- The token is the end of the text. -/
def Ends (t : Token) (text : List Char) : Prop :=
  ∃ before, t.position = .behind before ∧ text = before ++ t.lexeme.toList

/-- The token stands in the text. -/
def Within (text : List Char) (t : Token) : Prop :=
  ∃ upTo, t.Ends upTo ∧ upTo <+: text

/-- The token stands in the source and goes on behind the text that is left of it. -/
def Beyond (source text : List Char) (t : Token) : Prop :=
  ∃ upTo, t.Ends upTo ∧ upTo <+: source ∧ text.length < upTo.length

/-- The text ends inside the token, with this part of it. -/
def CutTo (text : List Char) (t : Token) (part : List Char) : Prop :=
  ∃ before more, t.position = .behind before ∧ text = before ++ part ∧
    t.lexeme.toList = part ++ more ∧ part ≠ [] ∧ more ≠ []

end Token

/-- The text ends with the last of the tokens, and is empty if there is none. -/
def LastEnds (tokens : List Token) (text : List Char) : Prop :=
  match tokens.getLast? with
  | none => text = []
  | some t => t.Ends text

/-- The text ends in the middle of the mark of a comment, which stands behind `before` in the
source: behind the last of the tokens and a gap. -/
def CutMark (source text : List Char) (tokens : List Token) (before : List Char) : Prop :=
  ∃ upTo gap rest, LastEnds tokens upTo ∧ Trivia.Gap False gap ∧ before = upTo ++ gap ∧
    text = before ++ ['#'] ∧ source = before ++ '#' :: '|' :: rest

/-- The text ends in the middle of a number, which is the next token. -/
def NumberCut (text : List Char) (next? : Option Token) : Prop :=
  ∃ t ∈ next?, (∃ value, t.kind = .number value) ∧ ∃ part, t.CutTo text part

/-! ### Texts that are cut off -/

/-- How the splitting of a text may end that is the start of a source: `whole` are the tokens of the
source that stand in it, `next?` is the one behind them, and `depth` many brackets are open. -/
inductive CutEnding (source text : List Char) (whole : List Token) (next? : Option Token)
    (depth : ℕ) : Ending → Prop
  /-- At the end of the text. -/
  | finished : CutEnding source text whole next? depth (.finished (.behind text))
  /-- Inside something. -/
  | incomplete : CutEnding source text whole next? depth (.fault .incomplete)
  /-- At a number that is cut in two. -/
  | number {t : Token} {value : Number} {part : List Char} (hnext : next? = some t)
    (hkind : t.kind = .number value) (hcut : t.CutTo text part) :
    CutEnding source text whole next? depth
      (.fault (.badNumber (String.ofList part) t.position))
  /-- At a character that is cut in two, outside of lists. -/
  | character {t : Token} {value : Char} {name : List Char} (hdepth : depth = 0)
    (hnext : next? = some t) (hkind : t.kind = .char value)
    (hcut : t.CutTo text ('#' :: '\\' :: name)) :
    CutEnding source text whole next? depth
      (.fault (.badCharacter (String.ofList name) t.position))
  /-- At a `#` literal that is cut in two, outside of lists. -/
  | hash {t : Token} {part : List Char} (hdepth : depth = 0) (hnext : next? = some t)
    (hkind : (∃ value, t.kind = .char value) ∨ ∃ value, t.kind = .bool value)
    (hcut : t.CutTo text part) :
    CutEnding source text whole next? depth (.fault (.badHash (String.ofList part) t.position))
  /-- At the mark of a comment that is cut in two, outside of lists. -/
  | comment {before : List Char} (hdepth : depth = 0) (hmark : CutMark source text whole before) :
    CutEnding source text whole next? depth (.fault (.badHash "#" (.behind before)))

/-- The splitting of a text, from the cursor `c` on and behind the `earlier` tokens, where the text
is the start of a source whose tokens from there on are `ts`: of these, `whole` stand in the text
and `rest` do not. -/
structure Cut (source text : List Char) (earlier ts : List Token) (c : Cursor)
    (whole rest : List Token) : Prop where
  tokens : ts = whole ++ rest
  within : ∀ t ∈ whole, t.Within text
  beyond : ∀ t ∈ rest, t.Beyond source text
  /-- The whole tokens are read, and perhaps one that is cut in two. -/
  read : c.trace.tokens = whole ∨ ∃ t ∈ rest.head?, ∃ part kind, t.CutTo text part ∧
    c.trace.tokens = whole ++ [⟨kind, String.ofList part, t.position⟩]
  ending : CutEnding source text (earlier ++ whole) rest.head? c.stop.depth c.trace.ending
  /-- Inside a list the text is incomplete, unless it ends inside a number. -/
  inside : ∀ b opened, LeavesOpen ((earlier ++ whole).map (·.kind)) (b :: opened) →
    c.trace.ending = .fault .incomplete ∨ NumberCut text rest.head?

section Cut

variable {source text before : List Char} {earlier ts whole rest : List Token} {t : Token}
  {c c' : Cursor}

/-- A whole token in front. -/
theorem Cut.cons (h : Cut source text (earlier ++ [t]) ts c' whole rest)
    (hstep : c.step = .token t c') (ht : t.Within text) :
    Cut source text earlier (t :: ts) c (t :: whole) rest where
  tokens := by rw [h.tokens, List.cons_append]
  within := by
    intro t' ht'
    rcases List.mem_cons.1 ht' with rfl | ht'
    · exact ht
    · exact h.within t' ht'
  beyond := h.beyond
  read := by
    rw [Cursor.trace_of_token hstep]
    rcases h.read with hread | ⟨t', ht', part, kind, hcut, hread⟩
    · exact .inl (congrArg (t :: ·) hread)
    · exact .inr ⟨t', ht', part, kind, hcut, congrArg (t :: ·) hread⟩
  ending := by
    have hending := h.ending
    rw [List.append_assoc] at hending
    rw [Cursor.stop_of_token hstep, Cursor.trace_of_token hstep]
    exact hending
  inside := by
    have hinside := h.inside
    rw [List.append_assoc] at hinside
    rw [Cursor.trace_of_token hstep]
    exact hinside

namespace Cursor

/-- The place of a cursor in a source: behind the text `before`, whose tokens are `earlier`. -/
structure At (source before : List Char) (earlier : List Token) (c : Cursor) : Prop where
  source : source = before ++ c.rest
  position : c.position = .behind before
  last : LastEnds earlier before
  opened : LeavesOpen (earlier.map (·.kind)) c.opened

/-- A token and the gap in front of it lead from place to place. -/
theorem At.step (h : At source before earlier c) (hstep : c.step = .token t c') {gap : List Char}
    (hrest : c.rest = gap ++ t.lexeme.toList ++ c'.rest) :
    t.position = .behind (before ++ gap) ∧
      At source (before ++ gap ++ t.lexeme.toList) (earlier ++ [t]) c' := by
  obtain ⟨gap', hrest', hposition, hfollows⟩ := follows_of_token h.position h.opened hstep
  obtain rfl : gap = gap' :=
    List.append_cancel_right (List.append_cancel_right (hrest.symm.trans hrest'))
  refine ⟨hfollows.position, ?_, ?_, ?_, ?_⟩
  · rw [h.source, hrest, List.append_assoc, List.append_assoc, List.append_assoc]
  · rw [hposition, List.append_assoc]
  · rw [LastEnds, List.getLast?_concat]
    exact ⟨before ++ gap, hfollows.position, rfl⟩
  · rw [List.map_append]
    exact hfollows.opened

/-- A cut in front of the end of the next token leaves all tokens beyond the text. -/
theorem At.beyond (h : At source before earlier c)
    (hcut : ∀ t c', c.step = .token t c' → text.length + c'.rest.length < source.length) :
    ∀ t ∈ c.trace.tokens, t.Beyond source text := by
  fun_induction Cursor.trace c generalizing before earlier with
  | case1 => exact fun t ht => absurd ht List.not_mem_nil
  | case2 => exact fun t ht => absurd ht List.not_mem_nil
  | case3 c t c' hstep ih =>
    obtain ⟨gap, hrest, -⟩ := step_split hstep
    obtain ⟨hposition, hafter⟩ := h.step hstep hrest
    have hlength := hcut t c' hstep
    intro t' ht'
    rcases List.mem_cons.1 ht' with rfl | ht'
    · refine ⟨_, ⟨before ++ gap, hposition, rfl⟩, ⟨c'.rest, hafter.source.symm⟩, ?_⟩
      rw [hafter.source, List.length_append] at hlength
      omega
    · refine ih hafter (fun t'' c'' hstep' => ?_) t' ht'
      have hshorter := step_shorter hstep'
      omega

variable {d : Cursor}

/-- What is read at a cut: nothing or a token that is cut in two. -/
theorem At.cut (h : At source before earlier c) (hd : d.opened = c.opened)
    (hbeyond : ∀ t ∈ c.trace.tokens, t.Beyond source text)
    (hread : d.trace.tokens = [] ∨ ∃ t ∈ c.trace.tokens.head?, ∃ part kind,
      t.CutTo text part ∧ d.trace.tokens = [⟨kind, String.ofList part, t.position⟩])
    (hending : CutEnding source text earlier c.trace.tokens.head? d.stop.depth d.trace.ending)
    (hinside : d.opened ≠ [] → d.trace.ending = .fault .incomplete ∨
      NumberCut text c.trace.tokens.head?) :
    Cut source text earlier c.trace.tokens d [] c.trace.tokens where
  tokens := rfl
  within := nofun
  beyond := hbeyond
  read := hread
  ending := by rwa [List.append_nil]
  inside := by
    intro b opened hopened
    refine hinside fun hempty => ?_
    -- the tokens leave only so many brackets open
    rw [List.append_nil] at hopened
    have hcount := h.opened.count
    have hcount' := hopened.count
    rw [← hd, hempty, List.length_nil] at hcount
    rw [List.length_cons] at hcount'
    omega

/-- At a cut, the splitting stops at once. -/
theorem At.cut_fault (h : At source before earlier c) (hd : d.opened = c.opened)
    (hbeyond : ∀ t ∈ c.trace.tokens, t.Beyond source text) {e : ScanError}
    (hstep : d.step = .fault e)
    (hending : CutEnding source text earlier c.trace.tokens.head? d.depth (.fault e))
    (hinside : d.opened ≠ [] → e = .incomplete ∨ NumberCut text c.trace.tokens.head?) :
    Cut source text earlier c.trace.tokens d [] c.trace.tokens := by
  have htrace := trace_of_fault hstep
  refine h.cut hd hbeyond (.inl ?_) ?_ fun hopened => ?_
  · rw [htrace]
    rfl
  · rwa [stop_of_fault hstep, htrace]
  · rw [htrace]
    exact (hinside hopened).imp_left (congrArg Ending.fault)

/-- At the end of a text, it is finished or incomplete. -/
theorem cutEnding_of_skip (source : List Char) (earlier : List Token) (next? : Option Token)
    {r : Position} (hskip : Trivia.skip .code d.position d.rest = some (r, []))
    (hposition : d.position.advance d.rest = .behind text) :
    CutEnding source text earlier next? d.stop.depth d.trace.ending ∧ d.trace.tokens = [] ∧
      (d.opened ≠ [] → d.trace.ending = .fault .incomplete) := by
  obtain ⟨gap, hrest, hr⟩ := Trivia.skip_split hskip
  rw [List.append_nil] at hrest
  rw [← hrest, hposition] at hr
  have hstep : d.step =
      if d.opened.isEmpty then .finished (.behind text) else .fault .incomplete := by
    rw [Cursor.step, hskip, hr]
  split_ifs at hstep with hempty
  · rw [trace_of_finished hstep]
    exact ⟨.finished, rfl, fun hopened => absurd (List.isEmpty_iff.1 hempty) hopened⟩
  · rw [trace_of_fault hstep]
    exact ⟨.incomplete, rfl, fun _ => rfl⟩

/-- **A cut in a gap**: nothing is read behind it. -/
theorem At.cut_gap (h : At source before earlier c) {u v rest : List Char} {q : Position}
    (hrest : c.rest = u ++ v) (hskip : Trivia.skip .code c.position c.rest = some (q, rest))
    (hv : rest.length ≤ v.length) (hbeyond : ∀ t ∈ c.trace.tokens, t.Beyond source (before ++ u)) :
    Cut source (before ++ u) earlier c.trace.tokens ⟨c.position, u, c.opened⟩ []
      c.trace.tokens := by
  have hposition : c.position.advance u = .behind (before ++ u) := by
    rw [h.position, Position.advance_behind]
  rw [hrest] at hskip
  obtain ⟨r, hend⟩ | hnone | ⟨r, v', hmark, rfl⟩ := Trivia.skip_cut hskip hv
  · obtain ⟨hending, hread, hinside⟩ := cutEnding_of_skip (d := ⟨c.position, u, c.opened⟩)
      source earlier c.trace.tokens.head? hend hposition
    exact h.cut rfl hbeyond (.inl hread) hending fun hopened => .inl (hinside hopened)
  · exact h.cut_fault rfl hbeyond (by rw [Cursor.step, hnone]) .incomplete fun _ => .inl rfl
  · -- half a mark is left
    obtain ⟨gap, rfl, rfl, hgap⟩ := Trivia.gap_of_skip hmark
    cases hopened : c.opened with
    | nil =>
      have hstep : (⟨c.position, gap ++ ['#'], []⟩ : Cursor).step =
          .fault (.badHash "#" (c.position.advance gap)) := by
        rw [Cursor.step, hmark]
        rfl
      refine h.cut_fault hopened.symm hbeyond hstep ?_ fun hne => absurd rfl hne
      rw [h.position, Position.advance_behind]
      refine .comment rfl ⟨before, gap, v', h.last, by simpa using hgap, rfl, ?_, ?_⟩
      · rw [List.append_assoc]
      · rw [h.source, hrest]
        simp
    | cons b opened =>
      have hstep : (⟨c.position, gap ++ ['#'], b :: opened⟩ : Cursor).step =
          .fault .incomplete := by
        rw [Cursor.step, hmark]
        rfl
      exact h.cut_fault hopened.symm hbeyond hstep .incomplete fun _ => .inl rfl

/-- **A cut in a token**: what is left of it may be read as a token. -/
theorem At.cut_token (h : At source before earlier c) (hnext : c.trace.tokens.head? = some t)
    {part : List Char} (hcut : t.CutTo text part)
    (hbeyond : ∀ t ∈ c.trace.tokens, t.Beyond source text) (hd : d.opened = c.opened)
    {r : Except ScanError Piece} (hstep : d.step = c.stepOf t.position r)
    (hr : CutToken (!c.opened.isEmpty) t.position t.kind part r) :
    Cut source text earlier c.trace.tokens d [] c.trace.tokens := by
  have hnested (hempty : (!c.opened.isEmpty) = false) : d.opened = [] := by simpa [hd] using hempty
  have hdepth (hempty : (!c.opened.isEmpty) = false) : d.depth = 0 := by
    rw [depth, hnested hempty, List.length_nil]
  cases hr with
  | @token kind hkind =>
    have hposition : (c.after t.position ⟨kind, part, []⟩).position = .behind text := by
      obtain ⟨before', more, hposition, rfl, -⟩ := hcut
      rw [after, hposition, Position.advance_behind]
    obtain ⟨hending, hread, hinside⟩ := cutEnding_of_skip
      (d := c.after t.position ⟨kind, part, []⟩) source earlier c.trace.tokens.head? rfl hposition
    refine h.cut hd hbeyond (.inr ⟨t, hnext, part, kind, hcut, ?_⟩) ?_ fun hopened => .inl ?_
    · rw [trace_of_token hstep]
      exact congrArg (_ :: ·) hread
    · rw [stop_of_token hstep, trace_of_token hstep]
      exact hending
    · rw [trace_of_token hstep]
      refine hinside ?_
      rwa [after, TokenKind.openedAfter_of_not_bracket hkind, ← hd]
  | incomplete => exact h.cut_fault hd hbeyond hstep .incomplete fun _ => .inl rfl
  | number hkind =>
    exact h.cut_fault hd hbeyond hstep (.number hnext hkind hcut)
      fun _ => .inr ⟨t, hnext, ⟨_, hkind⟩, part, hcut⟩
  | character hempty hkind hname =>
    subst hname
    exact h.cut_fault hd hbeyond hstep (.character (hdepth hempty) hnext hkind hcut)
      fun hopened => absurd (hnested hempty) hopened
  | hash hempty hkind =>
    exact h.cut_fault hd hbeyond hstep (.hash (hdepth hempty) hnext hkind hcut)
      fun hopened => absurd (hnested hempty) hopened

/-- A cut in front of the end of the next token is in the gap or in the token. -/
theorem At.cut_next (h : At source before earlier c) (hstep : c.step = .token t c')
    {u v : List Char} (hrest : c.rest = u ++ v) (hv : c'.rest.length < v.length) :
    Cut source (before ++ u) earlier c.trace.tokens ⟨c.position, u, c.opened⟩ []
      c.trace.tokens := by
  obtain ⟨gap, hsplit, -, hskip, hcut⟩ := step_cut hstep
  obtain ⟨hposition, -⟩ := h.step hstep hsplit
  have hbeyond : ∀ t ∈ c.trace.tokens, t.Beyond source (before ++ u) := by
    refine h.beyond fun t' d hstep' => ?_
    cases hstep.symm.trans hstep'
    simp only [h.source, hrest, List.length_append]
    omega
  rw [List.append_assoc] at hsplit
  rcases List.append_eq_append_iff.1 (hsplit.symm.trans hrest) with
    ⟨part, rfl, hpart⟩ | ⟨gap', -, rfl⟩
  · rcases List.append_eq_append_iff.1 hpart with ⟨part', -, hrest'⟩ | ⟨more, hlexeme, rfl⟩
    · rw [hrest', List.length_append] at hv
      omega
    · have hmore : more ≠ [] := by
        rintro rfl
        exact absurd hv (lt_irrefl _)
      obtain rfl | hne := eq_or_ne part []
      · refine h.cut_gap hrest hskip ?_ hbeyond
        rw [hlexeme, List.nil_append]
      · obtain ⟨r, hr, hstep'⟩ := hcut part more hlexeme hne hmore
        refine h.cut_token ?_ ⟨before ++ gap, more, hposition, ?_, hlexeme, hne, hmore⟩ hbeyond rfl
          hstep' hr
        · rw [trace_of_token hstep]
          rfl
        · rw [List.append_assoc]
  · exact h.cut_gap hrest hskip (List.suffix_append gap' _).length_le hbeyond

/-- **A text that is cut off is never misread**, from every place on. -/
theorem At.exists_cut (h : At source before earlier c) {q : Position}
    (hend : c.trace.ending = .finished q) {u v : List Char} (hrest : c.rest = u ++ v) :
    ∃ whole rest, Cut source (before ++ u) earlier c.trace.tokens ⟨c.position, u, c.opened⟩ whole
      rest := by
  -- along the tokens of the source, up to the first that the cut is not behind
  fun_induction Cursor.trace c generalizing before earlier u with
  | case1 c p hstep =>
    obtain ⟨hskip, -⟩ := skip_of_step_finished hstep
    rw [← trace_of_finished hstep]
    refine ⟨[], _, h.cut_gap hrest hskip (Nat.zero_le _) (h.beyond fun t c' htoken => ?_)⟩
    cases hstep.symm.trans htoken
  | case2 c e hstep => cases hend
  | case3 c t c' hstep ih =>
    rcases Nat.lt_or_ge c'.rest.length v.length with hv | hv
    · rw [← trace_of_token hstep]
      exact ⟨[], _, h.cut_next hstep hrest hv⟩
    · obtain ⟨gap, hsplit, hgap, -⟩ := step_cut hstep
      obtain ⟨hposition, hafter⟩ := h.step hstep hsplit
      obtain ⟨u', rfl, hrest'⟩ : ∃ u', u = gap ++ t.lexeme.toList ++ u' ∧ c'.rest = u' ++ v := by
        rcases List.append_eq_append_iff.1 (hsplit.symm.trans hrest) with hu | ⟨more, hu, rfl⟩
        · exact hu
        · obtain rfl : more = [] := by
            rw [List.length_append] at hv
            exact List.eq_nil_of_length_eq_zero (by omega)
          exact ⟨[], by simpa using hu.symm, rfl⟩
      obtain ⟨whole, rest, hcut⟩ := ih hafter hend hrest'
      have hstep' := step_whole hstep hgap hsplit ⟨v, hrest'.symm⟩
      have htext : before ++ gap ++ t.lexeme.toList ++ u' =
          before ++ (gap ++ t.lexeme.toList ++ u') := by
        simp only [List.append_assoc]
      rw [htext] at hcut
      refine ⟨t :: whole, rest, hcut.cons hstep' ?_⟩
      exact ⟨_, ⟨before ++ gap, hposition, rfl⟩, u', htext⟩

end Cursor

end Cut

/-- **A text that is cut off is never misread.**  Of the tokens of the source, those that stand in
the text are read as they are, and the splitting ends as `CutEnding` tells. -/
theorem cut_text_splits_alike {source text : String} {ts : List Token}
    (h : tokenize source = .ok ts) (htext : text.toList <+: source.toList) :
    ∃ whole rest, Cut source.toList text.toList [] ts (.ofString text) whole rest := by
  obtain ⟨more, hsource⟩ := htext
  have hat : Cursor.At source.toList [] [] (.ofString source) := ⟨rfl, rfl, rfl, .none .nil⟩
  unfold tokenize at h
  dsimp only at h
  split at h
  · next q hend =>
    cases h
    exact hat.exists_cut hend hsource.symm
  · cases h

/-- The text `(f 1/` is the start of `(f 1/2)` and ends inside a number. -/
theorem cut_fraction_splits_alike :
    (trace "(f 1/").ending = .fault (.badNumber "1/" ⟨1, 4⟩) ∧
    ∃ whole rest, Cut "(f 1/2)".toList "(f 1/".toList []
      [⟨.opening .round, "(", ⟨1, 1⟩⟩, ⟨.symbol "f", "f", ⟨1, 2⟩⟩, ⟨.number (1 / 2), "1/2", ⟨1, 4⟩⟩,
        ⟨.closing .round, ")", ⟨1, 7⟩⟩] (.ofString "(f 1/") whole rest :=
  ⟨by decide +kernel, cut_text_splits_alike (by decide +kernel) (by decide)⟩

end TimelineLisp
