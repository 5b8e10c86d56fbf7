import TimelineLisp.Proofs.Form.Lines
import TimelineLisp.Proofs.Session.Submission

/-!
# Cutting a submission into lines

A session that takes a text at once and one that takes its lines one after the other do the same
work, in the same order, as long as nothing fails: **the way a text is cut into lines does not
show**.

The proof goes along the lines.  What the first line makes up together with the lines collected
before is either complete, and then the further lines are read on their own; or unfinished, and then
it is collected and nothing is evaluated; or it has a final fault, which the further lines cannot
mend, so that both ways end with an error.
-/

namespace TimelineLisp

namespace Session

variable {fuel : ℕ} {s s' : Session} {w w' : World}

/-! ### Lines without failure -/

/-- The session takes a line without failure: no error in the text or in a form, and no request to
exit. -/
structure TakesLine (fuel : ℕ) (s : Session) (line : String) (w : World) (step : Step)
    (s' : Session) (w' : World) : Prop where
  /-- Where the session stands after the line. -/
  submit : s.submit fuel .reliable line w = some (.ok step, s', w')
  /-- The submission does not end with a failure. -/
  failure : s.failure? fuel line w = none

/-- The session takes lines one after the other, without failure. -/
inductive TakesLines (fuel : ℕ) : Session → List String → World → Session → World → Prop
  | nil (s : Session) (w : World) : TakesLines fuel s [] w s w
  | cons {s s₁ s' : Session} {line : String} {lines : List String} {w w₁ w' : World} {step : Step}
      (first : TakesLine fuel s line w step s₁ w₁) (rest : TakesLines fuel s₁ lines w₁ s' w') :
      TakesLines fuel s (line :: lines) w s' w'

theorem takesLines_cons_iff {line : String} {lines : List String} :
    TakesLines fuel s (line :: lines) w s' w' ↔
      ∃ step s₁ w₁, TakesLine fuel s line w step s₁ w₁ ∧ TakesLines fuel s₁ lines w₁ s' w' := by
  constructor
  · intro h
    cases h with
    | cons first rest => exact ⟨_, _, _, first, rest⟩
  · rintro ⟨step, s₁, w₁, first, rest⟩
    exact .cons first rest

section Reading

variable {line : String} {step : Step}

/-- A line that leaves the text unfinished is collected. -/
theorem takesLine_of_unfinished (h : (read (s.source line)).fault = some .unfinished) :
    TakesLine fuel s line w step s' w' ↔
      step = .more ∧ s' = { s with buffer := some (s.source line) } ∧ w' = w := by
  have hsubmit := submit_reliable s fuel line w
  rw [if_pos h] at hsubmit
  constructor
  · rintro ⟨hline, -⟩
    rw [hsubmit] at hline
    cases hline
    exact ⟨rfl, rfl, rfl⟩
  · rintro ⟨rfl, rfl, rfl⟩
    exact ⟨hsubmit, by rw [failure?, if_pos h]⟩

/-- A line that ends the submission has its forms performed, and the fault of the reading after
them. -/
theorem takesLine_of_finished (h : (read (s.source line)).fault ≠ some .unfinished) :
    TakesLine fuel s line w step s' w' ↔
      step = .ready ∧ s' = { s with buffer := none } ∧
        s.perform fuel (read (s.source line)).fault (read (s.source line)).forms w =
          some (none, w') := by
  have hsubmit := submit_reliable s fuel line w
  rw [if_neg h] at hsubmit
  have hfailure : s.failure? fuel line w =
      (s.perform fuel (read (s.source line)).fault (read (s.source line)).forms w).bind (·.1) := by
    rw [failure?, if_neg h]
  constructor
  · rintro ⟨hline, hclean⟩
    rw [hsubmit] at hline
    rw [hfailure] at hclean
    match hperform : s.perform fuel (read (s.source line)).fault (read (s.source line)).forms w with
    | none =>
      rw [hperform] at hline
      cases hline
    | some (some e, _) =>
      rw [hperform] at hclean
      cases hclean
    | some (none, _) =>
      rw [hperform] at hline
      cases hline
      exact ⟨rfl, rfl, rfl⟩
  · rintro ⟨rfl, rfl, hperform⟩
    rw [hperform] at hsubmit hfailure
    exact ⟨hsubmit, hfailure⟩

/-- A line that completes the text has its forms performed. -/
theorem takesLine_of_complete (h : (read (s.source line)).fault = none) :
    TakesLine fuel s line w step s' w' ↔
      step = .ready ∧ s' = { s with buffer := none } ∧
        s.perform fuel none (read (s.source line)).forms w = some (none, w') := by
  rw [takesLine_of_finished (by simp [h]), h]

/-- A line that gives the text a final fault is not taken without failure. -/
theorem not_takesLine_of_fault {e : ReadError} (h : (read (s.source line)).fault = some e)
    (he : e ≠ .unfinished) : ¬TakesLine fuel s line w step s' w' := by
  intro hline
  have hfault : (read (s.source line)).fault ≠ some .unfinished := by simpa [h] using he
  obtain ⟨-, -, hperform⟩ := (takesLine_of_finished hfault).1 hline
  have hnone := fault_of_perform hperform
  rw [h] at hnone
  cases hnone

end Reading

/-- A line is finished without failure if the text is complete and its forms are performed. -/
theorem takesLine_ready_iff {line : String} :
    TakesLine fuel s line w .ready s' w' ↔
      (read (s.source line)).fault = none ∧ s' = { s with buffer := none } ∧
        s.perform fuel none (read (s.source line)).forms w = some (none, w') := by
  cases hfault : (read (s.source line)).fault with
  | none => simp [takesLine_of_complete hfault]
  | some e =>
    by_cases he : e = .unfinished
    · subst he
      simp [takesLine_of_unfinished hfault]
    · simp [not_takesLine_of_fault hfault he]

/-- A line that is taken leaves the session idle just when it is finished. -/
theorem TakesLine.idle_iff {line : String} {step : Step} (h : TakesLine fuel s line w step s' w') :
    s'.isAccumulating = false ↔ step = .ready := by
  cases hfault : (read (s.source line)).fault with
  | none =>
    obtain ⟨rfl, rfl, -⟩ := (takesLine_of_complete hfault).1 h
    simp [isAccumulating]
  | some e =>
    by_cases he : e = .unfinished
    · subst he
      obtain ⟨rfl, rfl, -⟩ := (takesLine_of_unfinished hfault).1 h
      simp [isAccumulating]
    · exact absurd h (not_takesLine_of_fault hfault he)

/-! ### Cutting a text -/

theorem source_append (s : Session) (line text : String) :
    s.source (line ++ "\n" ++ text) = s.source line ++ "\n" ++ text := by
  unfold source
  cases s.buffer with
  | none => rfl
  | some buffer => simp only [String.append_assoc]

/-- After a complete line, the rest of the text is read and performed on its own. -/
theorem takesLine_cut_of_complete {line text : String}
    (h : (read (s.source line)).fault = none) :
    TakesLine fuel s (line ++ "\n" ++ text) w .ready s' w' ↔
      ∃ w₁, s.perform fuel none (read (s.source line)).forms w = some (none, w₁) ∧
        TakesLine fuel { s with buffer := none } text w₁ .ready s' w' := by
  have hfault (k : ℕ) : ((read text).down k).fault = none ↔ (read text).fault = none :=
    Option.map_eq_none_iff
  simp only [takesLine_ready_iff, source_append, read_append_of_complete _ text h, perform_buffer,
    Reading.after, Reading.down, perform_append]
  constructor
  · rintro ⟨hrest, hs', w₁, hfirst, hforms⟩
    exact ⟨w₁, hfirst, (hfault _).1 hrest, hs', hforms⟩
  · rintro ⟨w₁, hfirst, hrest, hs', hforms⟩
    exact ⟨(hfault _).2 hrest, hs', w₁, hfirst, hforms⟩

/-- After an unfinished line, the rest of the text is submitted together with it. -/
theorem takesLine_cut_of_unfinished {line text : String} :
    TakesLine fuel s (line ++ "\n" ++ text) w .ready s' w' ↔
      TakesLine fuel { s with buffer := some (s.source line) } text w .ready s' w' := by
  simp only [takesLine_ready_iff, source_append, perform_buffer]
  rfl

/-- **One cut.**  A text is finished without failure if and only if its first line is taken without
failure, finished or not, and then the rest is finished without failure. -/
theorem takesLine_cut_iff {line text : String} :
    TakesLine fuel s (line ++ "\n" ++ text) w .ready s' w' ↔
      ∃ step s₁ w₁, TakesLine fuel s line w step s₁ w₁ ∧
        TakesLine fuel s₁ text w₁ .ready s' w' := by
  cases hfault : (read (s.source line)).fault with
  | none =>
    rw [takesLine_cut_of_complete hfault]
    simp only [takesLine_of_complete hfault]
    constructor
    · rintro ⟨w₁, hfirst, hrest⟩
      exact ⟨.ready, _, w₁, ⟨rfl, rfl, hfirst⟩, hrest⟩
    · rintro ⟨step, s₁, w₁, ⟨-, rfl, hfirst⟩, hrest⟩
      exact ⟨w₁, hfirst, hrest⟩
  | some e =>
    by_cases he : e = .unfinished
    · subst he
      rw [takesLine_cut_of_unfinished]
      simp only [takesLine_of_unfinished hfault]
      constructor
      · intro hrest
        exact ⟨.more, _, w, ⟨rfl, rfl, rfl⟩, hrest⟩
      · rintro ⟨step, s₁, w₁, ⟨-, rfl, rfl⟩, hrest⟩
        exact hrest
    · -- the fault is there with the rest and without it
      have hwhole : (read (s.source (line ++ "\n" ++ text))).fault = some e := by
        rw [source_append, read_append_of_fault _ text hfault he, hfault]
      simp only [not_takesLine_of_fault hfault he, not_takesLine_of_fault hwhole he, false_and,
        exists_false]

/-- **The way a text is cut into lines does not show.**  A text that is submitted at once is finished
without failure if and only if its lines are taken one after the other without failure and leave the
session idle; the session and the world, with all that was shown and all scopes, are then the
same. -/
theorem submit_lines_iff (fuel : ℕ) (s : Session) (line : String) (more : List String) (w : World)
    (s' : Session) (w' : World) :
    TakesLine fuel s ("\n".intercalate (line :: more)) w .ready s' w' ↔
      TakesLines fuel s (line :: more) w s' w' ∧ s'.isAccumulating = false := by
  induction more generalizing s line w with
  | nil =>
    rw [String.intercalate_singleton, takesLines_cons_iff]
    constructor
    · intro h
      exact ⟨⟨_, _, _, h, .nil s' w'⟩, h.idle_iff.2 rfl⟩
    · -- an unfinished line would leave the session in the middle of a submission
      rintro ⟨⟨step, s₁, w₁, h, ⟨⟩⟩, hidle⟩
      exact h.idle_iff.1 hidle ▸ h
  | cons next more ih =>
    rw [String.intercalate_cons_cons, takesLine_cut_iff, takesLines_cons_iff]
    constructor
    · rintro ⟨step, s₁, w₁, hfirst, hrest⟩
      obtain ⟨hmore, hidle⟩ := (ih s₁ next w₁).1 hrest
      exact ⟨⟨step, s₁, w₁, hfirst, hmore⟩, hidle⟩
    · rintro ⟨⟨step, s₁, w₁, hfirst, hmore⟩, hidle⟩
      exact ⟨step, s₁, w₁, hfirst, (ih s₁ next w₁).2 ⟨hmore, hidle⟩⟩

/-- A string that goes on over the end of a line. -/
theorem takesLines_string :
    ∃ w', TakesLines 9 {} ["1 \"a", "b\" 2"] .standard {} w' ∧
      w'.shown = "1\n\"a\\nb\"\n2\n" := by
  have hread : read ("\n".intercalate ["1 \"a", "b\" 2"]) =
      ⟨[.number 1, .text "a\nb", .number 2], none⟩ := by cbv
  have hperform : ∃ w', ({} : Session).perform 9 none [.number 1, .text "a\nb", .number 2]
      .standard = some (none, w') ∧ w'.shown = "1\n\"a\\nb\"\n2\n" := ⟨_, rfl, by decide⟩
  obtain ⟨w', hforms, hshown⟩ := hperform
  have hwhole : TakesLine 9 {} ("\n".intercalate ["1 \"a", "b\" 2"]) .standard .ready {} w' := by
    refine takesLine_ready_iff.2 ⟨?_, rfl, ?_⟩
    · exact congrArg Reading.fault hread
    · exact hread ▸ hforms
  have hlines := (submit_lines_iff 9 {} "1 \"a" ["b\" 2"] .standard {} w').1 hwhole
  exact ⟨w', hlines.1, hshown⟩

end Session

end TimelineLisp
