import TimelineLisp.Proofs.Evaluation.Lockstep
import TimelineLisp.Proofs.Session.Submission
import TimelineLisp.Proofs.Store.WellFormed

/-!
# A session beside the interpretation of a script

A session binds `_` in the middle of a submission, so after its first answer its store is not the
one that the interpretation of the same text has.  As long as nothing mentions `_`, the two stay in
lockstep, and **a submission is the interpretation of its text with the values written down**
(`Session.submit_interprets`): one answer per entry (`Script.Entry.answer`), a complaint about the
failure at the end (`Script.complaint`), and `_` bound to the last value that was written
(`Script.lastAnswer?`).
-/

namespace TimelineLisp

/-- The text of a run that has added to the text shown before. -/
theorem World.shownSince_of_append {w u : World} {text : String} (h : u.shown = w.shown ++ text) :
    w.shownSince u = text := by
  have hdrop : u.shown.toList.drop w.shown.length = text.toList := by
    rw [h, String.toList_append, ← String.length_toList, List.drop_left]
  rw [World.shownSince, hdrop, String.ofList_toList]

/-! ### What a session makes of entries -/

namespace Script

/-- The value that is written down for an entry: none for void, and none for a failure. -/
def Entry.value? (e : Entry) : Option Value :=
  match e.result with
  | .ok v => if v.isVoid then none else some v
  | .error _ => none

/-- The text shown by the evaluation, and the value on a line of its own. -/
def Entry.answer (e : Entry) : String :=
  e.shown ++
    match e.value? with
    | some v => v.render ++ "\n"
    | none => ""

/-- The failure of the last entry, if it has failed. -/
def lastFailure? (entries : List Entry) : Option Failure :=
  match lastResult entries with
  | .ok _ => none
  | .error failure => some failure

/-- The line about a failure; a request to exit has none. -/
def complaint : Option Failure → String
  | none => ""
  | some failure => if failure.exitStatus?.isSome then "" else "error: " ++ failure.message ++ "\n"

/-- The last value that is written down. -/
def lastAnswer? (entries : List Entry) : Option Value :=
  (entries.filterMap Entry.value?).getLast?

/-- The entries after a value tell how the script ends. -/
theorem lastFailure?_cons_ok (form : Option Form) (v : Value) (shown : String)
    (entries : List Entry) :
    lastFailure? (⟨form, .ok v, shown⟩ :: entries) = lastFailure? entries := by
  cases entries with
  | nil => rfl
  | cons e entries => rfl

theorem lastAnswer?_cons (e : Entry) (entries : List Entry) :
    lastAnswer? (e :: entries) = (lastAnswer? entries).or e.value? := by
  unfold lastAnswer?
  cases hv : e.value? with
  | none => simp [hv]
  | some v =>
    rw [List.filterMap_cons_some hv, List.getLast?_cons]
    cases (entries.filterMap Entry.value?).getLast? <;> rfl

end Script

namespace Session

open Script

variable {s : Session}

/-- Where a submission to a reliable sink leaves the session. -/
def stepAfter : Option Failure → Step
  | none => .ready
  | some failure =>
    match failure.exitStatus? with
    | some status => .exit status
    | none => .ready

/-- The binding that a session makes, which forms that do not mention `_` cannot see. -/
def memory (s : Session) : Fragment :=
  .without lastResultSymbol s.scope

/-- The session has come from `w` to `u'` while the interpretation, with these entries, has come to
`u`. -/
structure Answered (s : Session) (entries : List Entry) (w u u' : World) : Prop where
  shown : u'.shown = w.shown ++ String.join (entries.map Entry.answer)
  agree : u.store.AgreeExcept s.memory.hidden u'.store
  last : u'.store.local? s.scope lastResultSymbol =
    (lastAnswer? entries).or (w.store.local? s.scope lastResultSymbol)

/-- The first answer, and then the others. -/
theorem Answered.cons {e : Entry} {entries : List Entry} {w w₁ u u' : World}
    (hshown : w₁.shown = w.shown ++ e.answer)
    (hlast : w₁.store.local? s.scope lastResultSymbol =
      e.value?.or (w.store.local? s.scope lastResultSymbol))
    (h : s.Answered entries w₁ u u') : s.Answered (e :: entries) w u u' where
  shown := by rw [h.shown, hshown, List.map_cons, String.join_cons, String.append_assoc]
  agree := h.agree
  last := by rw [h.last, hlast, lastAnswer?_cons, Option.or_assoc]

/-! ### Forms -/

/-- What is written down for a value, and the new binding of `_`. -/
theorem answer_eq (s : Session) (form : Option Form) (v : Value) (text : String) {w u : World}
    (hscope : s.scope < u.store.scopes.size) (hshown : u.shown = w.shown ++ text)
    (hlast : u.store.local? s.scope lastResultSymbol = w.store.local? s.scope lastResultSymbol) :
    (s.answer v u).shown = w.shown ++ Entry.answer ⟨form, .ok v, text⟩ ∧
    u.store.AgreeExcept s.memory.hidden (s.answer v u).store ∧
    (s.answer v u).store.local? s.scope lastResultSymbol =
      (Entry.value? ⟨form, .ok v, text⟩).or (w.store.local? s.scope lastResultSymbol) := by
  unfold Session.answer Entry.answer Entry.value?
  by_cases hvoid : v.isVoid
  · simp only [hvoid, if_true, Option.none_or]
    exact ⟨by simpa using hshown, .refl _ _, hlast⟩
  · have hstore : (s.remember v (u.show (v.render ++ "\n"))).store =
        u.store.define s.scope lastResultSymbol v := rfl
    simp only [hvoid, Bool.false_eq_true, if_false, Option.some_or, hstore]
    refine ⟨?_, .define_hidden ⟨rfl, rfl⟩ u.store v, ?_⟩
    · simp [remember, World.show, hshown, String.append_assoc]
    · rw [Store.local?_define, if_pos ⟨hscope, rfl, rfl⟩]

/-- **Forms are performed as they are interpreted**, each value being written down. -/
theorem perform_answered (fuel : ℕ) (hdebug : s.debug = false) (fault : Option ReadError)
    {fs : List Form} (hfs : ∀ f ∈ fs, s.memory.forms f) {w w' : World}
    (hagree : w.store.AgreeExcept s.memory.hidden w'.store) (hwithin : w.store.Within s.memory)
    (hscope : s.scope < w'.store.scopes.size) :
    match interpretForms fuel s.scope fault fs w with
    | none => s.perform fuel fault fs w' = none
    | some (entries, u) =>
      ∃ u', s.perform fuel fault fs w' = some (lastFailure? entries, u') ∧
        s.Answered entries w' u u' := by
  -- by induction on the forms; the agreement of the two stores is what each form hands on
  induction fs generalizing w w' with
  | nil =>
    cases fault with
    | none => exact ⟨w', rfl, by simp, hagree, rfl⟩
    | some e => exact ⟨w', rfl, by simp [faultEntry, Entry.answer, Entry.value?], hagree, rfl⟩
  | cons f fs ih =>
    obtain ⟨hf, hfs⟩ := List.forall_mem_cons.1 hfs
    have hannounce : s.announce f w' = w' := by simp [announce, hdebug]
    have halike := s.memory.eval_alike hagree hwithin hf fuel s.scope
    rw [interpretForms, perform, hannounce]
    generalize Evaluation.eval fuel f s.scope w = o at halike ⊢
    generalize Evaluation.eval fuel f s.scope w' = o' at halike ⊢
    cases halike with
    | outOfFuel => rfl
    | @error e u u' h =>
      obtain ⟨text, hleft, hright⟩ := h.text
      have hlast := h.right.bound s.scope lastResultSymbol ⟨rfl, rfl⟩ hscope
      refine ⟨u', rfl, ?_, h.agree, hlast⟩
      simp [Entry.answer, Entry.value?, World.shownSince_of_append hleft, hright]
    | @value v u u' h hv =>
      obtain ⟨text, hleft, hright⟩ := h.text
      have hlast := h.right.bound s.scope lastResultSymbol ⟨rfl, rfl⟩ hscope
      have hscope' : s.scope < u'.store.scopes.size := Nat.lt_of_lt_of_le hscope h.right.size
      obtain ⟨hshown, hagree', hbound⟩ := s.answer_eq (some f) v text hscope' hright hlast
      -- from here on the two stores differ in `_`, which the next forms cannot tell
      have hscope'' : s.scope < (s.answer v u').store.scopes.size := hagree'.size ▸ hscope'
      have hrest := ih hfs (h.agree.trans hagree') h.within hscope''
      simp only [World.shownSince_of_append hleft]
      cases hinterpret : interpretForms fuel s.scope fault fs u with
      | none =>
        rw [hinterpret] at hrest
        exact hrest
      | some result =>
        obtain ⟨entries, z⟩ := result
        rw [hinterpret] at hrest
        obtain ⟨z', hperform, hanswered⟩ := hrest
        refine ⟨z', ?_, hanswered.cons hshown hbound⟩
        rw [lastFailure?_cons_ok]
        exact hperform

/-! ### Submissions -/

/-- How a submission with a failure, or without one, ends: with one line about the failure. -/
theorem conclude_eq (hstyle : s.style = .plain) (failure : Option Failure) (w : World) :
    s.conclude (failure, w) = (.ok (stepAfter failure), w.show (complaint failure)) := by
  cases failure with
  | none => simp [conclude, stepAfter, complaint, World.show]
  | some failure =>
    simp only [conclude, report, stepAfter, complaint]
    cases failure.exitStatus? with
    | some status => simp [World.show]
    | none =>
      have hlabel : s.style.errorLabel = "error" := by
        rw [hstyle]
        rfl
      simp [Sink.writeLine, Sink.reliable, hlabel, String.append_assoc]

/-- **A submission is the interpretation of its text with the values written down**, as long as `_`
is mentioned neither in the text nor in the body of a closure that a scope holds.  The session
writes the answers to all entries and one line about a failure at the end, a request to exit apart;
it ends with the status of such a request and is ready otherwise; and its store is the one of the
interpretation, except that `_` is bound to the last value that was written. -/
theorem submit_interprets (s : Session) (fuel : ℕ) (source : String) (w : World)
    (hidle : s.buffer = none) (hdebug : s.debug = false) (hstyle : s.style = .plain)
    (hscope : s.scope < w.store.scopes.size) (hfinished : probe source ≠ some .unfinished)
    (hforms : ∀ f ∈ (read source).forms, ¬ f.Mentions lastResultSymbol)
    (hclosures : ∀ id name v c, w.store.local? id name = some v → v.Holds c →
      ∀ f ∈ c.body, ¬ f.Mentions lastResultSymbol) :
    match interpret fuel s.scope source w with
    | none => s.submit fuel .reliable source w = none
    | some (entries, u) =>
      ∃ u', s.submit fuel .reliable source w =
          some (.ok (stepAfter (lastFailure? entries)), s, u') ∧
        u'.shown = w.shown ++ String.join (entries.map Entry.answer) ++
          complaint (lastFailure? entries) ∧
        u.store.AgreeExcept (fun id name => id = s.scope ∧ name = lastResultSymbol) u'.store ∧
        u'.store.local? s.scope lastResultSymbol =
          (lastAnswer? entries).or (w.store.local? s.scope lastResultSymbol) := by
  have hsource : s.source source = source := by simp [Session.source, hidle]
  have hsession : { s with buffer := none } = s := by rw [← hidle]
  have hwithin : w.store.Within s.memory := fun id name v _ hv =>
    ⟨fun c hc => hclosures id name v c hv hc, fun _ _ => trivial⟩
  have hanswered := perform_answered fuel hdebug (read source).fault hforms (.refl _ w.store)
    hwithin hscope
  unfold probe at hfinished
  rw [submit_reliable, hsource, if_neg hfinished, hsession, interpret]
  generalize interpretForms fuel s.scope (read source).fault (read source).forms w = o
    at hanswered ⊢
  match o with
  | none =>
    rw [hanswered]
    rfl
  | some (entries, u) =>
    obtain ⟨u', hperform, hanswered⟩ := hanswered
    refine ⟨u'.show (complaint (lastFailure? entries)), ?_, ?_, hanswered.agree, hanswered.last⟩
    · rw [hperform, Option.map_some, conclude_eq hstyle]
    · rw [World.show, hanswered.shown]

/-- Two values that are written down, and a bracket that closes nothing. -/
theorem submit_fault_interprets :
    ∃ u', ({} : Session).submit 9 .reliable "2 'a )" .standard = some (.ok .ready, {}, u') ∧
      u'.shown = "2\na\nerror: 1:6: unexpected ')'\n" ∧
      u'.store.local? rootScope lastResultSymbol = some (.symbol "a") := by
  let fault : ReadError := .malformed (.unexpectedClose .round ⟨1, 6⟩)
  have hread : read "2 'a )" = ⟨[.number 2, .quoted (.symbol "a")], some fault⟩ := by cbv
  have hforms : ∀ f ∈ [.number 2, .quoted (.symbol "a")], ¬ Form.Mentions lastResultSymbol f := by
    simp [Form.quoted, lastResultSymbol]
  have hclosures : ∀ id name v c, Store.standard.local? id name = some v → v.Holds c →
      ∀ f ∈ c.body, ¬ f.Mentions lastResultSymbol := by
    intro id name v c hv hc
    obtain ⟨n, rfl⟩ := Store.local?_standard hv
    cases hc
  have hinterpret : interpret 9 rootScope "2 'a )" .standard =
      some ([⟨some (.number 2), .ok (.number 2), ""⟩,
        ⟨some (.quoted (.symbol "a")), .ok (.symbol "a"), ""⟩, faultEntry fault], .standard) := by
    rw [interpret, hread]
    rfl
  have hsubmit := submit_interprets {} 9 "2 'a )" .standard rfl rfl rfl (by decide)
    (by simp [probe, hread, fault]) (by simpa only [hread] using hforms) hclosures
  rw [hinterpret] at hsubmit
  obtain ⟨u', hresult, hshown, -, hlast⟩ := hsubmit
  exact ⟨u', hresult, hshown, hlast⟩

end Session

end TimelineLisp
