import Mathlib.Tactic.Common
import TimelineLisp.Session.Basic

/-!
# The states of a session

A session is idle, or it accumulates the lines of a submission.  `Session.call_cases` says all that
one call can do: a line that leaves the text unfinished is added to the buffer, and nothing else
happens; after every other call, however it ends, the buffer is empty.

From this follows what the buffer holds after any calls (`Session.Calls.buffer_eq`), whatever the
sinks do: the lines since the session was last idle (`Session.pending`).  And a whole run is a row
of rounds (`Session.Rounds`) of which **the last one alone stops**, with the continuation prompt on
just those reads that follow an unfinished text (`Session.run_rounds`).
-/

namespace TimelineLisp

namespace Session

/-! ### Calls -/

/-- A call of a session. -/
inductive Call
  /-- A line, with the sink that takes what is written. -/
  | submit (sink : Sink) (line : String)
  /-- An interrupt. -/
  | interrupt

/-- Makes a call. -/
def call (s : Session) (fuel : ℕ) (c : Call) (w : World) :
    Option (Except Fault Step × Session × World) :=
  match c with
  | .submit sink line => s.submit fuel sink line w
  | .interrupt => some (.ok s.interrupt.1, s.interrupt.2, w)

/-- A call with its result. -/
structure Event where
  /-- The call. -/
  call : Call
  /-- What it returned. -/
  result : Except Fault Step

/-- Calls one after the other, with their results, the latest one first. -/
inductive Calls (s : Session) (w : World) : List Event → Session → World → Prop
  | nil : Calls s w [] s w
  | cons {history : List Event} {s₁ s₂ : Session} {w₁ w₂ : World} {fuel : ℕ} {c : Call}
    {result : Except Fault Step} : Calls s w history s₁ w₁ →
    s₁.call fuel c w₁ = some (result, s₂, w₂) → Calls s w (⟨c, result⟩ :: history) s₂ w₂

/-- The lines since the session was last idle. -/
def pending : List Event → List String
  | ⟨.submit _ line, .ok .more⟩ :: earlier => pending earlier ++ [line]
  | _ => []

/-- The lines since the session was last idle, joined by newlines. -/
def pendingText (history : List Event) : String :=
  "\n".intercalate (pending history)

variable {s s' : Session} {w w' : World} {fuel : ℕ} {c : Call} {result : Except Fault Step}

/-! ### One call -/

theorem report_ne_more {sink : Sink} {k : ℕ} {failure : Failure}
    (h : s.report sink k failure w = (result, w')) : result ≠ .ok .more := by
  unfold report at h
  split at h
  · cases h
    simp
  · split at h
    · cases h
      simp
    · cases h
      simp

/-- Evaluating never asks for more lines. -/
theorem evaluate_ne_more {sink : Sink} {fault : Option ReadError} {k : ℕ} {fs : List Form}
    (h : s.evaluate fuel sink fault k fs w = some (result, w')) : result ≠ .ok .more := by
  induction fs generalizing k w with
  | nil =>
    cases fault with
    | none =>
      cases h
      simp
    | some e => exact report_ne_more (Option.some.inj h)
  | cons f fs ih =>
    rw [evaluate] at h
    dsimp only at h
    split at h
    · cases h
    · cases h
      simp
    · cases h
      simp
    · exact report_ne_more (Option.some.inj h)
    · split_ifs at h
      · exact ih h
      · split at h
        · cases h
          simp
        · exact ih h

/-- An interrupt leaves an idle session that is ready or is to end. -/
theorem interrupt_cases (s : Session) :
    (s.interrupt.1 = if s.isAccumulating then .ready else .exit 0) ∧
      s.interrupt.2 = { s with buffer := none } := by
  obtain ⟨_ | text, debug, style, scope⟩ := s
  · exact ⟨rfl, rfl⟩
  · exact ⟨rfl, rfl⟩

/-- **What a call can do**: it adds a line to an unfinished text, or it leaves no text behind. -/
theorem call_cases (h : s.call fuel c w = some (result, s', w')) :
    (∃ sink line, c = .submit sink line ∧ result = .ok .more ∧
      probe (s.source line) = some .unfinished ∧ s' = { s with buffer := some (s.source line) } ∧
      w' = w) ∨
    (result ≠ .ok .more ∧ s' = { s with buffer := none } ∧ (c = .interrupt → w' = w)) := by
  cases c with
  | submit sink line =>
    simp only [call, submit] at h
    -- whether the text is finished is settled before anything is evaluated
    split_ifs at h with hprobe
    · cases h
      exact .inl ⟨sink, line, rfl, rfl, hprobe, rfl, rfl⟩
    · split at h
      · cases h
      · next result' w₁ heval =>
        cases h
        exact .inr ⟨evaluate_ne_more heval, rfl, nofun⟩
  | interrupt =>
    cases h
    obtain ⟨hstep, hsession⟩ := s.interrupt_cases
    refine .inr ⟨?_, hsession, fun _ => rfl⟩
    rw [hstep]
    split_ifs <;> simp

/-! ### Many calls -/

theorem pending_of_ne_more (h : result ≠ .ok .more) (c : Call) (history : List Event) :
    pending (⟨c, result⟩ :: history) = [] := by
  unfold pending
  split
  · next heq =>
    cases heq
    exact absurd rfl h
  · rfl

/-- **The buffer holds the lines since the session was last idle**, and there is none if there are
no such lines. -/
theorem Calls.buffer_eq (hidle : s.buffer = none) {history : List Event}
    (h : Calls s w history s' w') :
    s'.buffer = if pending history = [] then none else some (pendingText history) := by
  induction h with
  | nil => simp [hidle, pending]
  | @cons history s₁ s₂ w₁ w₂ fuel c result _ hcall ih =>
    obtain ⟨sink, line, rfl, rfl, -, rfl, -⟩ | ⟨hresult, rfl, -⟩ := call_cases hcall
    · simp only [pending, List.append_eq_nil_iff, List.cons_ne_nil, and_false, if_false,
        pendingText, source, ih]
      by_cases hnone : pending history = []
      · simp [hnone]
      · simp [hnone, String.intercalate_append_of_ne_nil]
    · simp [pending_of_ne_more hresult]

/-! ### Rounds -/

/-- A read and what came of it. -/
structure Read where
  /-- The session was in the middle of a submission. -/
  accumulating : Bool
  /-- What was read. -/
  input : Input
  /-- The result, after what was written has been delivered. -/
  result : Except Fault Step

/-- The read is the end of the input or an interrupt between two submissions, or it led to an exit
or a fault. -/
def Read.Stops (r : Read) : Prop :=
  r.input = .eof ∨ (r.input = .interrupt ∧ r.accumulating = false) ∨
    (∃ status, r.result = .ok (.exit status)) ∨ ∃ e, r.result = .error e

/-- Rounds of a session one after the other, the first one with this number. -/
inductive Rounds (fuel : ℕ) (sinks : ℕ → Sink) (flushes : ℕ → Option String) :
    ℕ → Session → World → List Read → Session → World → Prop
  | nil {n : ℕ} {s : Session} {w : World} : Rounds fuel sinks flushes n s w [] s w
  | cons {n : ℕ} {s s' s'' : Session} {w w' w'' : World} {input : Input}
    {result : Except Fault Step} {reads : List Read} :
    s.round fuel (sinks n) (flushes n) input w = some (result, s', w') →
    Rounds fuel sinks flushes (n + 1) s' w' reads s'' w'' →
    Rounds fuel sinks flushes n s w (⟨s.isAccumulating, input, result⟩ :: reads) s'' w''

/-- The prompt of the read after a result. -/
def promptAfter (style : Style) (result : Except Fault Step) : String :=
  if result = .ok .more then continuationPrompt else style.prompt

theorem delivered_eq_ok {α : Type} {flush : Option String} {r : Except Fault α} {a : α} :
    delivered flush r = .ok a ↔ flush = none ∧ r = .ok a := by
  cases r <;> cases flush <;> simp [delivered]

theorem ending?_eq_none_iff {result : Except Fault Step} :
    ending? result = none ↔ result = .ok .ready ∨ result = .ok .more := by
  rcases result with e | (_ | _ | status) <;> simp [ending?]

section Round

variable {sink : Sink} {flush : Option String} {input : Input}

/-- A session that goes on after a round has made a call. -/
theorem call_of_round (h : s.round fuel sink flush input w = some (result, s', w'))
    (hend : ending? result = none) : ∃ c, s.call fuel c w = some (result, s', w') := by
  obtain ⟨⟨r, s₁, w₁⟩, htake, heq⟩ := Option.map_eq_some_iff.1 h
  cases heq
  have hr : delivered flush r = r := by
    obtain hresult | hresult := ending?_eq_none_iff.1 hend
    · rw [hresult, (delivered_eq_ok.1 hresult).2]
    · rw [hresult, (delivered_eq_ok.1 hresult).2]
  rw [hr] at hend ⊢
  cases input with
  | line text => exact ⟨.submit sink text, htake⟩
  | interrupt => exact ⟨.interrupt, htake⟩
  | eof =>
    cases htake
    cases hend
  | failure message =>
    cases htake
    cases hend

theorem prompt_of_round (h : s.round fuel sink flush input w = some (result, s', w'))
    (hend : ending? result = none) :
    s'.style = s.style ∧ s'.prompt = promptAfter s.style result := by
  obtain ⟨c, hcall⟩ := call_of_round h hend
  obtain ⟨sink, line, -, rfl, -, rfl, -⟩ | ⟨hresult, rfl, -⟩ := call_cases hcall
  · exact ⟨rfl, rfl⟩
  · exact ⟨rfl, by simp [promptAfter, hresult, prompt, isAccumulating]⟩

/-- A round stops just where the session ends. -/
theorem stops_iff (h : s.round fuel sink flush input w = some (result, s', w')) :
    Read.Stops ⟨s.isAccumulating, input, result⟩ ↔ ending? result ≠ none := by
  -- the end of the input and an idle interrupt ask to exit; a failed flush makes a fault of it
  have hexit : ending? (delivered flush (.ok (.exit 0))) ≠ none := by
    cases flush <;> simp [delivered, ending?]
  constructor
  · rintro (heof | ⟨hinterrupt, hidle⟩ | ⟨status, hstatus⟩ | ⟨e, he⟩)
    · dsimp only at heof
      subst heof
      cases h
      exact hexit
    · dsimp only at hinterrupt hidle
      subst hinterrupt
      cases h
      rw [s.interrupt_cases.1, hidle]
      exact hexit
    · dsimp only at hstatus
      simp [hstatus, ending?]
    · dsimp only at he
      simp [he, ending?]
  · intro hend
    rcases result with e | (_ | _ | status)
    · exact .inr (.inr (.inr ⟨e, rfl⟩))
    · exact absurd rfl hend
    · exact absurd rfl hend
    · exact .inr (.inr (.inl ⟨status, rfl⟩))

/-- A round has no end only if a line is submitted that has none. -/
theorem submit_of_round_eq_none (h : s.round fuel sink flush input w = none) :
    ∃ line, input = .line line ∧ s.submit fuel sink line w = none := by
  have htake : s.take fuel sink input w = none := Option.map_eq_none_iff.1 h
  cases input with
  | line text => exact ⟨text, rfl, htake⟩
  | interrupt => cases htake
  | eof => cases htake
  | failure message => cases htake

end Round

/-! ### Whole sessions -/

/-- The transcript is that of a session which goes on after the first reads and stops at the last
one; `rest` are the inputs after it, with the end of the input as one more of them. -/
structure Transcript.Records (t : Transcript) (fuel : ℕ) (sinks : ℕ → Sink)
    (flushes : ℕ → Option String) (n : ℕ) (s : Session) (inputs : List Input) (w : World)
    (reads : List Read) (last : Read) (rest : List Input) : Prop where
  inputs : inputs ++ [.eof] = reads.map Read.input ++ last.input :: rest
  rounds : Rounds fuel sinks flushes n s w (reads ++ [last]) t.session t.world
  goesOn : ∀ r ∈ reads, ¬ r.Stops
  stops : last.Stops
  result : ending? last.result = some t.result
  prompts : t.prompts = s.prompt :: reads.map fun r => promptAfter s.style r.result
  unread : t.unread = rest.length - 1

/-- The session never ends: after some reads a line is submitted that has no end. -/
def Diverges (fuel : ℕ) (sinks : ℕ → Sink) (flushes : ℕ → Option String) (n : ℕ) (s : Session)
    (inputs : List Input) (w : World) : Prop :=
  ∃ reads line rest s' w', inputs = List.map Read.input reads ++ .line line :: rest ∧
    Rounds fuel sinks flushes n s w reads s' w' ∧ (∀ r ∈ reads, ¬ r.Stops) ∧
    s'.submit fuel (sinks (n + reads.length)) line w' = none

section Run

variable {sinks : ℕ → Sink} {flushes : ℕ → Option String} {n : ℕ} {input : Input}
  {inputs : List Input}

/-- A session that ends with its first round. -/
theorem records_of_ending
    (hround : s.round fuel (sinks n) (flushes n) input w = some (result, s', w'))
    {status : Except Fault UInt8} (hend : ending? result = some status) :
    Transcript.Records ⟨status, [s.prompt], inputs.length, s', w'⟩ fuel sinks flushes n s
      (input :: inputs) w [] ⟨s.isAccumulating, input, result⟩ (inputs ++ [.eof]) where
  inputs := rfl
  rounds := .cons hround .nil
  goesOn := List.forall_mem_nil _
  stops := (stops_iff hround).2 (by simp [hend])
  result := hend
  prompts := rfl
  unread := by simp

variable (hround : s.round fuel (sinks n) (flushes n) input w = some (result, s', w'))
  (hend : ending? result = none)

include hround hend

theorem not_stops_of_ending : ¬ Read.Stops ⟨s.isAccumulating, input, result⟩ :=
  fun hstops => (stops_iff hround).1 hstops hend

/-- A session that goes on after its first round is recorded like the rest of it. -/
theorem Transcript.Records.after {t : Transcript} {reads : List Read} {last : Read}
    {rest : List Input}
    (h : t.Records fuel sinks flushes (n + 1) s' inputs w' reads last rest) :
    (t.after s.prompt).Records fuel sinks flushes n s (input :: inputs) w
      (⟨s.isAccumulating, input, result⟩ :: reads) last rest where
  inputs := by rw [List.cons_append, h.inputs, List.map_cons, List.cons_append]
  rounds := .cons hround h.rounds
  goesOn := List.forall_mem_cons.2 ⟨not_stops_of_ending hround hend, h.goesOn⟩
  stops := h.stops
  result := h.result
  prompts := by
    obtain ⟨hstyle, hprompt⟩ := prompt_of_round hround hend
    rw [Transcript.after, h.prompts, hprompt, hstyle, List.map_cons]
  unread := h.unread

theorem Diverges.after (h : Diverges fuel sinks flushes (n + 1) s' inputs w') :
    Diverges fuel sinks flushes n s (input :: inputs) w := by
  obtain ⟨reads, line, rest, s'', w'', hinputs, hrounds, hon, hsubmit⟩ := h
  refine ⟨⟨s.isAccumulating, input, result⟩ :: reads, line, rest, s'', w'', ?_,
    .cons hround hrounds, List.forall_mem_cons.2 ⟨not_stops_of_ending hround hend, hon⟩, ?_⟩
  · rw [hinputs, List.map_cons, List.cons_append]
  · have hn : n + (reads.length + 1) = n + 1 + reads.length := by omega
    rw [List.length_cons, hn]
    exact hsubmit

end Run

/-- **A run goes on up to the first read that stops it.** -/
theorem run_rounds (fuel : ℕ) (sinks : ℕ → Sink) (flushes : ℕ → Option String) (n : ℕ)
    (s : Session) (inputs : List Input) (w : World) :
    match run fuel sinks n s inputs w flushes with
    | none => Diverges fuel sinks flushes n s inputs w
    | some t => ∃ reads last rest, t.Records fuel sinks flushes n s inputs w reads last rest := by
  induction inputs generalizing n s w with
  | nil =>
    refine ⟨[], ⟨s.isAccumulating, .eof, delivered (flushes n) (.ok (.exit 0))⟩, [], rfl,
      .cons rfl .nil, List.forall_mem_nil _, .inl rfl, ?_, rfl, rfl⟩
    cases flushes n <;> rfl
  | cons input inputs ih =>
    rw [run]
    cases hround : s.round fuel (sinks n) (flushes n) input w with
    | none =>
      obtain ⟨line, rfl, hsubmit⟩ := submit_of_round_eq_none hround
      exact ⟨[], line, inputs, s, w, rfl, .nil, List.forall_mem_nil _, hsubmit⟩
    | some after =>
      obtain ⟨result, s', w'⟩ := after
      cases hend : ending? result with
      | some status =>
        simp only [hend]
        exact ⟨_, _, _, records_of_ending hround hend⟩
      | none =>
        have hrest := ih (n + 1) s' w'
        simp only [hend]
        cases hrun : run fuel sinks (n + 1) s' inputs w' flushes with
        | none =>
          rw [hrun] at hrest
          exact Diverges.after hround hend hrest
        | some t =>
          rw [hrun] at hrest
          obtain ⟨reads, last, rest, hrecords⟩ := hrest
          exact ⟨_, last, rest, hrecords.after hround hend⟩

theorem prompt_ne_continuationPrompt (style : Style) : style.prompt ≠ continuationPrompt := by
  obtain ⟨_ | _⟩ := style <;> decide

/-- **The states of a session.**  After any calls of a session that was idle at first, with lines
and sinks of any kind, it accumulates if and only if the last call was a line that left the text
unfinished; the buffer then holds the lines since the session was last idle, and a text that is
unfinished indeed.  Such a call and an interrupt change nothing in the world, and every other
result leaves no buffer behind.

A run shows the continuation prompt on just those reads that follow such a line, and goes on up to
the first read that stops it; it has no end only if a line is submitted that has none. -/
theorem session_states {s : Session} (hidle : s.buffer = none) (w : World) :
    (∀ {history s₁ w₁ fuel c result s₂ w₂}, Calls s w history s₁ w₁ →
      s₁.call fuel c w₁ = some (result, s₂, w₂) →
      (s₂.isAccumulating = true ↔ ∃ sink line, c = .submit sink line ∧ result = .ok .more) ∧
      (s₂.isAccumulating = true → s₂.buffer = some (pendingText (⟨c, result⟩ :: history)) ∧
        probe (pendingText (⟨c, result⟩ :: history)) = some .unfinished) ∧
      (result = .ok .more ∨ c = .interrupt → w₂ = w₁) ∧
      (result ≠ .ok .more → s₂.buffer = none)) ∧
    s.style.prompt ≠ continuationPrompt ∧
    ∀ fuel sinks flushes inputs,
      match run fuel sinks 0 s inputs w flushes with
      | none => Diverges fuel sinks flushes 0 s inputs w
      | some t =>
        ∃ reads last rest, t.Records fuel sinks flushes 0 s inputs w reads last rest := by
  refine ⟨?_, prompt_ne_continuationPrompt s.style, fun fuel sinks flushes inputs =>
    run_rounds fuel sinks flushes 0 s inputs w⟩
  intro history s₁ w₁ fuel c result s₂ w₂ hcalls hcall
  have hbuffer := (hcalls.cons hcall).buffer_eq hidle
  obtain ⟨sink, line, rfl, rfl, hprobe, rfl, rfl⟩ | ⟨hresult, rfl, hquiet⟩ := call_cases hcall
  · have htext : s₁.source line = pendingText (⟨.submit sink line, .ok .more⟩ :: history) := by
      simpa [pending] using hbuffer
    refine ⟨⟨fun _ => ⟨sink, line, rfl, rfl⟩, fun _ => rfl⟩, fun _ => ?_, fun _ => rfl, ?_⟩
    · rw [← htext]
      exact ⟨rfl, hprobe⟩
    · exact fun hresult => absurd rfl hresult
  · refine ⟨⟨fun h => ?_, ?_⟩, fun h => ?_, ?_, fun _ => rfl⟩
    · cases h
    · rintro ⟨sink, line, -, hmore⟩
      exact absurd hmore hresult
    · cases h
    · rintro (hmore | hinterrupt)
      · exact absurd hmore hresult
      · exact hquiet hinterrupt

/-- A submission that is dropped by an interrupt, and a second interrupt that ends the session. -/
theorem interrupted_states :
    ∃ t reads last rest,
      run 9 (fun _ => .reliable) 0 {} [.line "(car", .interrupt, .interrupt, .line "2"] .standard =
        some t ∧
      t.prompts = ["> ", "   ", "> "] ∧ t.unread = 1 ∧
      t.Records 9 (fun _ => .reliable) (fun _ => none) 0 {}
        [.line "(car", .interrupt, .interrupt, .line "2"] .standard reads last rest := by
  let inputs : List Input := [.line "(car", .interrupt, .interrupt, .line "2"]
  let t : Transcript := ⟨.ok 0, ["> ", "   ", "> "], 1, {}, .standard⟩
  have hprobe : (read "(car").fault = some .unfinished := by cbv
  have hsubmit : ({} : Session).submit 9 .reliable "(car" .standard =
      some (.ok .more, { buffer := some "(car" }, .standard) := by
    simp only [submit, source, hprobe, if_true]
  have hrun : run 9 (fun _ => .reliable) 0 {} inputs .standard = some t := by
    simp only [inputs, run, round, take, hsubmit]
    rfl
  obtain ⟨-, -, hruns⟩ := session_states (s := {}) rfl .standard
  have hrecords := hruns 9 (fun _ => .reliable) (fun _ => none) inputs
  rw [hrun] at hrecords
  obtain ⟨reads, last, rest, hrecords⟩ := hrecords
  exact ⟨t, reads, last, rest, hrun, rfl, rfl, hrecords⟩

end Session

end TimelineLisp
