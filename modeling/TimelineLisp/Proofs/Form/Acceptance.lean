import Mathlib
import TimelineLisp.Proofs.Form.Grammar
import TimelineLisp.Proofs.Form.Pull

/-!
# Accepted texts

Whether a text is read without fault can be told from its tokens: **the first quotation mark in
front of a closing bracket counts first, then the fault of the splitting, then a quotation mark at
the end** (`read_fault_eq`).  Lists and brackets need no check of their own, since the splitting
keeps the brackets in balance with the lists that wait.

With the grammar of tokens this makes up all that a reader accepts and all that it refuses
(`token_grammar`).
-/

namespace TimelineLisp

open Reader

variable {st st' : State} {c c' : Cursor} {t : Token}

/-! ### The fault that the tokens tell -/

/-- The position of the first quotation mark that stands right in front of a closing bracket. -/
def danglingQuote? : List Token → Option Position
  | t :: u :: ts =>
    if t.kind = .quote ∧ u.kind.isClosing then some t.position else danglingQuote? (u :: ts)
  | _ => none

/-- The last token is a quotation mark. -/
def endsInQuote (ts : List Token) : Bool :=
  ts.getLast?.any (·.kind = .quote)

/-- The fault of reading tokens that end so. -/
def tokenFault (ending : Ending) (ts : List Token) : Option ReadError :=
  match danglingQuote? ts with
  | some p => some (.danglingQuote p)
  | none =>
    match ending with
    | .fault e => some (.ofScan e)
    | .finished _ => if endsInQuote ts then some .unfinished else none

section TokenFault

variable {u : Token} (ending : Ending) (ts : List Token)

theorem tokenFault_cons (ht : t.kind ≠ .quote) :
    tokenFault ending (t :: ts) = tokenFault ending ts := by
  have hdangling : danglingQuote? (t :: ts) = danglingQuote? ts := by
    cases ts <;> simp [danglingQuote?, ht]
  have hends : endsInQuote (t :: ts) = endsInQuote ts := by
    cases ts <;> simp [endsInQuote, ht]
  unfold tokenFault
  rw [hdangling, hends]

theorem tokenFault_cons_cons (hu : u.kind.isClosing = false) :
    tokenFault ending (t :: u :: ts) = tokenFault ending (u :: ts) := by
  have hdangling : danglingQuote? (t :: u :: ts) = danglingQuote? (u :: ts) := by
    simp [danglingQuote?, hu]
  have hends : endsInQuote (t :: u :: ts) = endsInQuote (u :: ts) := by
    simp [endsInQuote]
  unfold tokenFault
  rw [hdangling, hends]

theorem tokenFault_of_dangling (ht : t.kind = .quote) (hu : u.kind.isClosing = true) :
    tokenFault ending (t :: u :: ts) = some (.danglingQuote t.position) := by
  simp [tokenFault, danglingQuote?, ht, hu]

theorem tokenFault_eq_none_iff {ending : Ending} {ts : List Token} :
    tokenFault ending ts = none ↔
      (∃ p, ending = .finished p) ∧ danglingQuote? ts = none ∧ endsInQuote ts = false := by
  unfold tokenFault
  cases danglingQuote? ts with
  | some p => simp
  | none => cases ending <;> simp

end TokenFault

/-- The quotation mark on top of the frames, if there is one, is the token just before. -/
def Reader.State.Follows (st : State) (before : List Token) : Prop :=
  match st.frames with
  | .quote p :: _ => ∃ q : Token, before = [q] ∧ q.kind = .quote ∧ q.position = p
  | _ => before = []

theorem Reader.follows_deliver (forms : List Form) (datum : Form) (frames : List Frame) :
    (deliver forms datum frames).Follows [] := by
  fun_induction deliver forms datum frames with
  | case1 => rfl
  | case2 => rfl
  | case3 datum p frames ih => exact ih

/-- A quotation mark waits only until the next token is taken. -/
theorem Reader.follows_take (h : st.take t = .ok st') :
    st'.Follows (if t.kind = .quote then [t] else []) := by
  obtain ⟨frames, forms⟩ := st
  obtain ⟨kind, lexeme, position⟩ := t
  cases kind with
  | opening b =>
    cases h
    rfl
  | quote =>
    cases h
    exact ⟨_, rfl, rfl, rfl⟩
  | closing found =>
    obtain _ | ⟨items | p, frames⟩ := frames
    · cases h
    · cases h
      exact follows_deliver forms _ frames
    · cases h
  | _ =>
    cases h
    exact follows_deliver forms _ frames

/-- A token that is taken does not dangle from the quotation mark before it, so the mark can be left
out. -/
theorem tokenFault_of_take {before : List Token} (hst : st.Follows before)
    (h : st.take t = .ok st') (ending : Ending) (ts : List Token) :
    tokenFault ending (before ++ t :: ts) =
      tokenFault ending ((if t.kind = .quote then [t] else []) ++ ts) := by
  have hbefore : tokenFault ending (before ++ t :: ts) = tokenFault ending (t :: ts) := by
    obtain ⟨_ | ⟨items | p, frames⟩, forms⟩ := st
    · rw [show before = [] from hst]
      rfl
    · rw [show before = [] from hst]
      rfl
    · obtain ⟨q, rfl, -, -⟩ := hst
      refine tokenFault_cons_cons ending ts ?_
      -- a closing bracket would have been refused
      obtain ⟨kind, lexeme, position⟩ := t
      cases kind with
      | closing found => cases h
      | _ => rfl
  rw [hbefore]
  split_ifs with ht
  · rfl
  · exact tokenFault_cons ending ts ht

/-- **The tokens tell the fault.** -/
theorem readFrom_fault_eq {before : List Token} (hb : st.Balanced c.opened)
    (hst : st.Follows before) :
    (st.readFrom c).fault = tokenFault c.trace.ending (before ++ c.trace.tokens) := by
  induction st, c using State.reading_induction generalizing before with
  | finished st c p hc =>
    rw [readFrom_finished hc, Cursor.trace_of_finished hc]
    rw [Cursor.opened_of_step_finished hc] at hb
    obtain ⟨_ | ⟨items | q, frames⟩, forms⟩ := st
    · rw [show before = [] from hst]
      rfl
    · -- a list that waits has a bracket open
      rw [State.Balanced, List.countP_cons_of_pos (by rfl)] at hb
      cases hb
    · obtain ⟨q, rfl, hq, -⟩ := hst
      simp [faultAtEnd, tokenFault, danglingQuote?, endsInQuote, Trace.tokens, hq]
  | fault st c e hc =>
    rw [readFrom_fault hc, Cursor.trace_of_fault hc]
    obtain ⟨_ | ⟨items | q, frames⟩, forms⟩ := st
    · rw [show before = [] from hst]
      rfl
    · rw [show before = [] from hst]
      rfl
    · obtain ⟨q, rfl, hq, -⟩ := hst
      rfl
  | refused st c t c' e hc ht =>
    rw [readFrom_refused hc ht, Cursor.trace_of_token hc]
    obtain ⟨frames, forms⟩ := st
    obtain ⟨kind, lexeme, position⟩ := t
    cases kind with
    | closing found =>
      obtain _ | ⟨items | q, frames⟩ := frames
      · -- a closing bracket is read only where one is open
        have hopened := Cursor.head?_of_step hc found rfl
        rw [List.length_eq_zero_iff.1 hb.symm] at hopened
        cases hopened
      · cases ht
      · obtain ⟨q, rfl, hq, rfl⟩ := hst
        cases ht
        exact (tokenFault_of_dangling _ _ hq rfl).symm
    | _ => cases ht
  | taken st c t c' st' hc ht ih =>
    obtain ⟨-, -, -, -, -, hopened⟩ := Cursor.step_split hc
    rw [readFrom_taken hc ht, Cursor.trace_of_token hc, ih (hopened ▸ hb.take ht) (follows_take ht)]
    exact (tokenFault_of_take hst ht _ _).symm

/-! ### Texts -/

section Texts

variable {source : String} {ts : List Token} {fs : List Form}

theorem tokenize_eq_ok :
    tokenize source = .ok ts ↔
      (trace source).tokens = ts ∧ ∃ p, (trace source).ending = .finished p := by
  unfold tokenize
  obtain ⟨steps, _ | _⟩ := trace source <;> simp

theorem tokenize_eq_error {e : ScanError} :
    tokenize source = .error e ↔ (trace source).ending = .fault e := by
  unfold tokenize
  obtain ⟨steps, _ | _⟩ := trace source <;> simp

theorem read_fault_eq (source : String) :
    (read source).fault = tokenFault (trace source).ending (trace source).tokens := by
  have hbalanced : State.Balanced {} (Cursor.ofString source).opened := rfl
  have hfollows : State.Follows {} [] := rfl
  exact readFrom_fault_eq hbalanced hfollows

/-- A text is read without fault if and only if it has tokens, and no quotation mark among them
stands in front of a closing bracket or at the end. -/
theorem read_fault_eq_none_iff :
    (read source).fault = none ↔
      ∃ ts, tokenize source = .ok ts ∧ danglingQuote? ts = none ∧ endsInQuote ts = false := by
  rw [read_fault_eq, tokenFault_eq_none_iff]
  constructor
  · rintro ⟨hend, hquotes⟩
    exact ⟨_, tokenize_eq_ok.2 ⟨rfl, hend⟩, hquotes⟩
  · rintro ⟨ts, htokens, hquotes⟩
    obtain ⟨rfl, hend⟩ := tokenize_eq_ok.1 htokens
    exact ⟨hend, hquotes⟩

/-- **A text is read as forms if and only if its tokens are.** -/
theorem readAll_eq_ok_iff_reads :
    readAll source = .ok fs ↔ ∃ ts, tokenize source = .ok ts ∧ Reads (ts.map (·.kind)) fs := by
  constructor
  · intro h
    have hread := readAll_eq_ok.1 h
    obtain ⟨ts, htokens, -⟩ := read_fault_eq_none_iff.1 (congrArg Reading.fault hread)
    obtain ⟨rfl, -⟩ := tokenize_eq_ok.1 htokens
    have hreads : Reads ((trace source).tokens.map (·.kind)) (read source).forms :=
      reads_of_readFrom (.top .nil) (congrArg Reading.fault hread)
    rw [hread] at hreads
    exact ⟨_, htokens, hreads⟩
  · rintro ⟨ts, htokens, hreads⟩
    obtain ⟨rfl, p, hend⟩ := tokenize_eq_ok.1 htokens
    rw [readAll_eq_ok, read, hend]
    exact hreads.run_all p rfl

theorem ReadError.ofScan_eq (e : ScanError) :
    ReadError.ofScan e = if e = .incomplete then .unfinished else .malformed e := by
  cases e <;> rfl

/-- The fault of a text is that of a quotation mark, or it comes from the splitting. -/
theorem read_fault_cases {e : ReadError} (h : (read source).fault = some e) :
    (∃ p, e = .danglingQuote p) ∨ e = .unfinished ∨
      ∃ e', e = .malformed e' ∧ tokenize source = .error e' := by
  rw [read_fault_eq] at h
  unfold tokenFault at h
  split at h
  · next p _ => exact .inl ⟨p, (Option.some.inj h).symm⟩
  · split at h
    · next e' hend =>
      cases h
      rw [ReadError.ofScan_eq]
      split_ifs
      · exact .inr (.inl rfl)
      · exact .inr (.inr ⟨e', rfl, tokenize_eq_error.2 hend⟩)
    · split_ifs at h
      exact .inr (.inl (Option.some.inj h).symm)

/-- **The reader accepts just the grammar of tokens.**  A text is read without fault if and only if
it has tokens and no quotation mark among them stands in front of a closing bracket or at the end;
its forms are then those that the grammar reads the tokens as, and no others.

Otherwise the first quotation mark in front of a closing bracket is the fault, if the splitting
comes that far; else the fault of the splitting, which for an incomplete text is that it is
unfinished; and a quotation mark at the end leaves the text unfinished.  No text ends inside a list
but by such a fault, and no bracket is refused that the splitting lets pass.

Reading the text at once, form by form, or for its fault alone, one comes upon the same fault. -/
theorem token_grammar (source : String) :
    ((∃ fs, readAll source = .ok fs) ↔
      ∃ ts, tokenize source = .ok ts ∧ danglingQuote? ts = none ∧ endsInQuote ts = false) ∧
    (∀ fs, readAll source = .ok fs ↔
      ∃ ts, tokenize source = .ok ts ∧ Reads (ts.map (·.kind)) fs) ∧
    (∀ kinds fs gs, Reads kinds fs → Reads kinds gs → gs = fs) ∧
    (∀ p, danglingQuote? (trace source).tokens = some p →
      readAll source = .error (.danglingQuote p)) ∧
    (danglingQuote? (trace source).tokens = none → ∀ e, tokenize source = .error e →
      readAll source = .error (if e = .incomplete then .unfinished else .malformed e)) ∧
    (∀ ts, danglingQuote? ts = none → tokenize source = .ok ts → endsInQuote ts = true →
      readAll source = .error .unfinished) ∧
    (read source).fault ≠ some .unexpectedEnd ∧
    (∀ e, (read source).fault = some (.malformed e) → tokenize source = .error e) ∧
    pullAll (.ofString source) = read source ∧
    ∀ e, (readAll source = .error e ↔ (read source).fault = some e) ∧
      (probe source = some e ↔ (read source).fault = some e) := by
  have hfault := read_fault_eq source
  refine ⟨?_, fun fs => readAll_eq_ok_iff_reads, fun kinds fs gs h h' => h.unique h',
    fun p hp => ?_, fun hnone e he => ?_, fun ts hnone hts hends => ?_, fun h => ?_, fun e h => ?_,
    pullAll_eq source, fun e => ⟨readAll_eq_error, Iff.rfl⟩⟩
  · rw [← read_fault_eq_none_iff]
    constructor
    · rintro ⟨fs, h⟩
      exact congrArg Reading.fault (readAll_eq_ok.1 h)
    · intro h
      exact ⟨(read source).forms, readAll_eq_ok.2 (by rw [← h])⟩
  · rw [readAll_eq_error, hfault]
    simp only [tokenFault, hp]
  · rw [readAll_eq_error, hfault]
    simp only [tokenFault, hnone, tokenize_eq_error.1 he, ReadError.ofScan_eq]
  · obtain ⟨rfl, p, hend⟩ := tokenize_eq_ok.1 hts
    rw [readAll_eq_error, hfault]
    simp only [tokenFault, hnone, hend, hends, if_true]
  · obtain ⟨p, he⟩ | he | ⟨e', he, -⟩ := read_fault_cases h <;> cases he
  · obtain ⟨p, he⟩ | he | ⟨e', he, htokens⟩ := read_fault_cases h <;> cases he
    exact htokens

/-- A quotation mark in front of a bracket counts before a string that is not closed; a bracket of
the wrong shape; a quotation mark at the end; and a text that is read in one way only. -/
theorem token_grammar_cases :
    readAll "('a ') \"b" = .error (.danglingQuote ⟨1, 5⟩) ∧
    readAll "('a ]" = .error (.malformed (.mismatched .round .square ⟨1, 5⟩)) ∧
    readAll "a ''" = .error .unfinished ∧
    ∀ gs, Reads [.quote, .opening .square, .symbol "a", .closing .square] gs →
      gs = [.quoted (.list [.symbol "a"])] := by
  obtain ⟨-, -, -, hdangling, -⟩ := token_grammar "('a ') \"b"
  obtain ⟨-, -, -, -, hsplitting, -⟩ := token_grammar "('a ]"
  obtain ⟨-, -, -, -, -, hending, -⟩ := token_grammar "a ''"
  obtain ⟨-, hgrammar, hunique, -⟩ := token_grammar "'[a]"
  have htokenize : tokenize "a ''" =
      .ok [⟨.symbol "a", "a", ⟨1, 1⟩⟩, ⟨.quote, "'", ⟨1, 3⟩⟩, ⟨.quote, "'", ⟨1, 4⟩⟩] := by cbv
  have hfault : tokenize "('a ]" = .error (.mismatched .round .square ⟨1, 5⟩) := by cbv
  refine ⟨hdangling _ (by cbv), hsplitting (by cbv) _ hfault, hending _ rfl htokenize rfl, ?_⟩
  obtain ⟨ts, htokens, hreads⟩ := (hgrammar [.quoted (.list [.symbol "a"])]).1 (by cbv)
  have hkinds : tokenize "'[a]" = .ok
      [⟨.quote, "'", ⟨1, 1⟩⟩, ⟨.opening .square, "[", ⟨1, 2⟩⟩, ⟨.symbol "a", "a", ⟨1, 3⟩⟩,
        ⟨.closing .square, "]", ⟨1, 4⟩⟩] := by cbv
  rw [hkinds] at htokens
  cases htokens
  exact fun gs => hunique _ _ gs hreads

end Texts

end TimelineLisp
