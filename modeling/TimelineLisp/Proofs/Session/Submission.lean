import Mathlib.Tactic.Common
import TimelineLisp.Session.Basic

/-!
# Submissions to a reliable sink

With a sink that takes everything, the forms of a submission are performed one after the other up to
the first failure (`Session.perform`), and **the failure alone decides how the submission ends**
(`Session.submit_reliable`): without one the session is ready, a request to exit ends it, and any
other failure is written as an error (`Session.conclude`).
-/

namespace TimelineLisp

namespace Session

/-! ### Performing forms -/

/-- Writes a form that is about to be evaluated, if the session shows forms. -/
def announce (s : Session) (form : Form) (w : World) : World :=
  if s.debug then w.show ("parser: " ++ form.render ++ "\n") else w

/-- Writes a value on a line of its own and binds `_` to it, unless it is void. -/
def answer (s : Session) (value : Value) (w : World) : World :=
  if value.isVoid then w else s.remember value (w.show (value.render ++ "\n"))

/-- Evaluates forms and writes their values, up to the first failure; the fault of the reading comes
last.  There is no answer when the fuel runs out. -/
def perform (s : Session) (fuel : ℕ) (fault : Option ReadError) :
    List Form → World → Option (Option Failure × World)
  | [], w => some (fault.map .read, w)
  | f :: fs, w =>
    match Evaluation.eval fuel f s.scope (s.announce f w) with
    | .outOfFuel => none
    | .error e w' => some (some (.eval e), w')
    | .value v w' => s.perform fuel fault fs (s.answer v w')

/-- How a submission to a reliable sink ends. -/
def conclude (s : Session) : Option Failure × World → Except Fault Step × World
  | (none, w) => (.ok .ready, w)
  | (some failure, w) => s.report .reliable 0 failure w

variable {s : Session} {fuel : ℕ} {fault : Option ReadError}

theorem echo_reliable (k : ℕ) (form : Form) (w : World) :
    ∃ k', s.echo .reliable k form w = (none, k', s.announce form w) := by
  unfold echo announce
  split_ifs
  · exact ⟨k + 1, rfl⟩
  · exact ⟨k, rfl⟩

theorem evaluate_reliable (k : ℕ) (fs : List Form) (w : World) :
    s.evaluate fuel .reliable fault k fs w = (s.perform fuel fault fs w).map s.conclude := by
  induction fs generalizing k w with
  | nil => cases fault <;> rfl
  | cons f fs ih =>
    obtain ⟨k', hecho⟩ := s.echo_reliable k f w
    rw [evaluate, perform, hecho]
    dsimp only
    cases Evaluation.eval fuel f s.scope (s.announce f w) with
    | outOfFuel => rfl
    | error e w' => rfl
    | value v w' =>
      -- a value that is not void takes one write, which cannot fail
      simp only [answer]
      split_ifs
      · exact ih k' w'
      · exact ih (k' + 1) _

/-- Forms after one another are performed one part after the other. -/
theorem perform_append (fs gs : List Form) (w w' : World) :
    s.perform fuel none (fs ++ gs) w = some (none, w') ↔
      ∃ w₁, s.perform fuel none fs w = some (none, w₁) ∧
        s.perform fuel none gs w₁ = some (none, w') := by
  induction fs generalizing w with
  | nil => simp [perform]
  | cons f fs ih =>
    simp only [List.cons_append, perform]
    cases Evaluation.eval fuel f s.scope (s.announce f w) with
    | outOfFuel => simp
    | error e w' => simp
    | value v w' => exact ih (s.answer v w')

/-- Where the reading ended with a fault, so does the performance, unless a form failed before. -/
theorem fault_of_perform {fs : List Form} {w w' : World}
    (h : s.perform fuel fault fs w = some (none, w')) : fault = none := by
  induction fs generalizing w with
  | nil =>
    cases fault with
    | none => rfl
    | some e => cases h
  | cons f fs ih =>
    rw [perform] at h
    split at h
    · cases h
    · cases h
    · exact ih h

/-- The lines collected so far do not matter to the forms. -/
theorem perform_buffer (buffer : Option String) (fs : List Form) (w : World) :
    ({ s with buffer } : Session).perform fuel fault fs w = s.perform fuel fault fs w := by
  induction fs generalizing w with
  | nil => rfl
  | cons f fs ih =>
    simp only [perform, ih]
    rfl

/-! ### Submissions -/

/-- The failure that a submission to a reliable sink ends with, if any: an error in the text or in
the evaluation of a form, or a request to exit. -/
def failure? (s : Session) (fuel : ℕ) (line : String) (w : World) : Option Failure :=
  let r := read (s.source line)
  if r.fault = some .unfinished then none else (s.perform fuel r.fault r.forms w).bind (·.1)

/-- **How a submission to a reliable sink goes.** -/
theorem submit_reliable (s : Session) (fuel : ℕ) (line : String) (w : World) :
    s.submit fuel .reliable line w =
      if (read (s.source line)).fault = some .unfinished then
        some (.ok .more, { s with buffer := some (s.source line) }, w)
      else
        (s.perform fuel (read (s.source line)).fault (read (s.source line)).forms w).map fun r =>
          ((s.conclude r).1, { s with buffer := none }, (s.conclude r).2) := by
  unfold submit
  dsimp only
  split_ifs
  · rfl
  · rw [evaluate_reliable]
    cases s.perform fuel (read (s.source line)).fault (read (s.source line)).forms w <;> rfl

end Session

end TimelineLisp
