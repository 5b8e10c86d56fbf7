import TimelineLisp.Proofs.Evaluation.Lockstep
import TimelineLisp.Proofs.Form.RoundTrip
import TimelineLisp.Proofs.Store.WellFormed

/-!
# Data that programs compute are read back

A value is a *datum* if it has neither procedures, host objects nor void in it
(`Value.IsDatum`).  Data are what forms write down, and a datum has the text of the form that writes
it down; so it can be read back if its symbols can.

A symbol is not any string, and no evaluation makes a symbol that was not read: **all symbols that
come up in a program are read as symbols** (`Script.Yields.isSymbol`).  Hence every datum that a
program yields is read back from its text behind a quotation mark, and the text of such data tells
them apart (`data_read_back`).
-/

namespace TimelineLisp

open Reader

namespace Value

/-! ### Data -/

/-- The value is made of atoms and lists alone. -/
inductive IsDatum : Value → Prop
  | number (n : Number) : IsDatum (.number n)
  | text (content : String) : IsDatum (.text content)
  | char (c : Char) : IsDatum (.char c)
  | bool (b : Bool) : IsDatum (.bool b)
  | symbol (name : String) : IsDatum (.symbol name)
  | list {items : List Value} (h : ∀ v ∈ items, IsDatum v) : IsDatum (.list items)

theorem exists_forms {items : List Value}
    (h : ∀ v ∈ items, ∃ f : Form, f.Readable ∧ ofForm f = v) :
    ∃ fs : List Form, (∀ f ∈ fs, f.Readable) ∧ ofForms fs = items := by
  induction items with
  | nil => exact ⟨[], List.forall_mem_nil _, rfl⟩
  | cons v vs ih =>
    obtain ⟨⟨f, hf, rfl⟩, hvs⟩ := List.forall_mem_cons.1 h
    obtain ⟨fs, hfs, rfl⟩ := ih hvs
    exact ⟨f :: fs, List.forall_mem_cons.2 ⟨hf, hfs⟩, rfl⟩

/-- A datum whose symbols are read as symbols is written down by a readable form. -/
theorem IsDatum.exists_form {v : Value} (h : v.IsDatum)
    (hsymbols : ∀ name, v.Names name → IsSymbol name.toList) :
    ∃ f : Form, f.Readable ∧ ofForm f = v := by
  induction h with
  | number n => exact ⟨.number n, .number n, rfl⟩
  | text content => exact ⟨.text content, .text content, rfl⟩
  | char c => exact ⟨.char c, .char c, rfl⟩
  | bool b => exact ⟨.bool b, .bool b, rfl⟩
  | symbol name => exact ⟨.symbol name, .symbol (hsymbols name .here), rfl⟩
  | list _ ih =>
    obtain ⟨fs, hfs, rfl⟩ := exists_forms fun v hv =>
      ih v hv fun name hname => hsymbols name (.item hv hname)
    exact ⟨.list fs, .list hfs, rfl⟩

mutual

/-- A datum has the text of the form that writes it down. -/
theorem write_ofForm : ∀ (f : Form) (tail : List Char), (ofForm f).write tail = f.write tail
  | .symbol _, _ => rfl
  | .number _, _ => rfl
  | .text _, _ => rfl
  | .char _, _ => rfl
  | .bool _, _ => rfl
  | .list items, tail => congrArg ('(' :: ·) (writeItems_ofForms items (')' :: tail))

theorem writeItems_ofForms : ∀ (fs : List Form) (tail : List Char),
    writeItems (ofForms fs) tail = Form.writeItems fs tail
  | [], _ => rfl
  | [f], tail => write_ofForm f tail
  | f :: g :: fs, tail => by
    have hrest := writeItems_ofForms (g :: fs) tail
    rw [ofForms, ofForms, writeItems, ← ofForms, hrest, write_ofForm f, Form.writeItems]

end

theorem render_ofForm (f : Form) : (ofForm f).render = f.render := by
  rw [render, write_ofForm, Form.render]

/-! ### Sameness -/

theorem sameItems_iff {items items' : List Value}
    (h : ∀ v ∈ items, ∀ u, v.same u = true ↔ v = u) :
    sameItems items items' = true ↔ items = items' := by
  induction items generalizing items' with
  | nil => cases items' <;> simp [sameItems]
  | cons v vs ih =>
    obtain ⟨hv, hvs⟩ := List.forall_mem_cons.1 h
    cases items' with
    | nil => simp [sameItems]
    | cons u us => simp only [sameItems, Bool.and_eq_true, hv, ih hvs, List.cons.injEq]

/-- A datum is the same as itself alone. -/
theorem IsDatum.same_iff {v : Value} (h : v.IsDatum) (u : Value) : v.same u = true ↔ v = u := by
  induction h generalizing u with
  | list _ ih => cases u <;> simp [same, sameItems_iff ih]
  | _ => cases u <;> simp [same]

end Value

/-! ### Reading behind a quotation mark -/

theorem written_quote (cs : List Char) : Written .quote ('\'' :: cs) cs :=
  written_of_scanToken (by decide) (by decide) (by simp) fun _ _ => ⟨['\''], rfl⟩

theorem read_quote_render {f : Form} (h : f.Readable) :
    read ("'" ++ f.render) = ⟨[.quoted f], none⟩ := by
  have htext : ("'" ++ f.render).toList = '\'' :: f.write [] := by simp [Form.render]
  obtain ⟨lexeme, q, hquote⟩ := written_quote (f.write []) .start []
  obtain ⟨r, hf⟩ := h.readsBack ⟨[.quote .start], []⟩ q [] .nothing
  rw [read_eq, Cursor.ofString, htext, readFrom_taken hquote rfl]
  exact hf.trans (readFrom_finished rfl)

/-- A quoted form has the datum that it writes down as its value, in every scope. -/
theorem eval_quoted (fuel : ℕ) (f : Form) (scope : ScopeId) (w : World) :
    Evaluation.eval (fuel + 1) (.quoted f) scope w = .value (.ofForm f) w := rfl

/-! ### Values of programs -/

namespace Script

/-- One of the forms, evaluated one after the other, has this value. -/
inductive Yields (scope : ScopeId) (v : Value) : List Form → World → Prop
  | here {fuel : ℕ} {f : Form} {fs : List Form} {w w' : World} :
    Evaluation.eval fuel f scope w = .value v w' → Yields scope v (f :: fs) w
  | later {fuel : ℕ} {f : Form} {fs : List Form} {u : Value} {w w' : World} :
    Evaluation.eval fuel f scope w = .value u w' → Yields scope v fs w' →
    Yields scope v (f :: fs) w

/-- What the entries of a script hold is yielded. -/
theorem yields_of_interpretForms {fuel : ℕ} {scope : ScopeId} {fault : Option ReadError}
    {fs : List Form} {w w' : World} {entries : List Entry} {e : Entry} {v : Value}
    (h : interpretForms fuel scope fault fs w = some (entries, w')) (he : e ∈ entries)
    (hv : e.result = .ok v) : Yields scope v fs w := by
  induction fs generalizing w entries with
  | nil =>
    cases h
    obtain ⟨e', -, rfl⟩ := List.mem_map.1 he
    cases hv
  | cons f fs ih =>
    rw [interpretForms] at h
    split at h
    · cases h
    · cases h
      rw [List.mem_singleton.1 he] at hv
      cases hv
    · next u w₁ heval =>
      split at h
      · cases h
      · next more w₂ hmore =>
        cases h
        rcases List.mem_cons.1 he with rfl | he
        · cases hv
          exact .here heval
        · exact .later heval (ih hmore he)

/-- The forms and symbols that can be read. -/
def readable : Fragment where
  forms := Form.Readable
  symbols name := IsSymbol name.toList
  hidden _ _ := False
  items h hf := by
    cases h with
    | list h => exact h _ hf
  datum h := by
    cases h with
    | symbol h => exact h
  apart _ _ h := h

theorem within_readable_of_initial {s : Store} (h : s.Initial) : s.Within readable := by
  have hstandard : Store.standard.Within readable := by
    intro id name v _ hv
    obtain ⟨n, rfl⟩ := Store.local?_standard hv
    exact ⟨nofun, nofun⟩
  cases h with
  | standard => exact hstandard
  | levels table =>
    have hrate : (Value.number table.rate).Within readable := ⟨nofun, nofun⟩
    have htimebase := hstandard.define hrate rootScope timebaseSymbol
    refine htimebase.newIdentity.define ?_ rootScope levelsSymbol
    exact ⟨nofun, nofun⟩

/-- **All symbols that come up in a program are read as symbols.** -/
theorem Yields.isSymbol {scope : ScopeId} {v : Value} {fs : List Form} {w : World}
    (h : Yields scope v fs w) (hfs : ∀ f ∈ fs, f.Readable) (hw : w.store.Within readable) :
    ∀ name, v.Names name → IsSymbol name.toList := by
  induction h with
  | @here fuel f fs w w' heval =>
    have hf : readable.forms f := hfs f List.mem_cons_self
    have halike := readable.eval_alike (.refl _ w.store) hw hf fuel scope
    rw [heval] at halike
    cases halike with
    | value _ hv => exact hv.symbols
  | @later fuel f fs u w w' heval _ ih =>
    obtain ⟨hf, hfs⟩ := List.forall_mem_cons.1 hfs
    have halike := readable.eval_alike (.refl _ w.store) hw hf fuel scope
    rw [heval] at halike
    cases halike with
    | value h _ => exact ih hfs h.within

end Script

/-- Some text, evaluated in a standard root scope, perhaps with levels, yields the value. -/
def Value.IsComputed (v : Value) : Prop :=
  ∃ s source shown, Store.Initial s ∧ Script.Yields rootScope v (read source).forms ⟨s, shown⟩

/-- A datum that is computed is written down by a readable form. -/
theorem Value.IsComputed.exists_form {v : Value} (h : v.IsComputed) (hv : v.IsDatum) :
    ∃ f : Form, f.Readable ∧ ofForm f = v := by
  obtain ⟨s, source, shown, hs, hyields⟩ := h
  have hforms : ∀ f ∈ (read source).forms, f.Readable := fun f hf => readable_of_mem_read hf
  exact hv.exists_form (hyields.isSymbol hforms (Script.within_readable_of_initial hs))

/-- **Data that programs compute are read back**: behind a quotation mark, the text of the datum has
the same datum as its value, in every scope and store.  Hence two such data have the same text if
and only if they are the same. -/
theorem data_read_back {v : Value} (hv : v.IsComputed) (hdatum : v.IsDatum) :
    (∀ fuel scope w, ∃ u,
      Script.run (fuel + 1) scope ("'" ++ v.render) w = some (.ok u, w) ∧ u.same v = true) ∧
    ∀ u : Value, u.IsComputed → u.IsDatum → (u.render = v.render ↔ u.same v = true) := by
  obtain ⟨f, hf, rfl⟩ := hv.exists_form hdatum
  constructor
  · intro fuel scope w
    refine ⟨.ofForm f, ?_, (hdatum.same_iff _).2 rfl⟩
    rw [Script.run, Script.interpret, Value.render_ofForm, read_quote_render hf]
    simp only [Script.interpretForms, eval_quoted]
    rfl
  · intro u hu hudatum
    obtain ⟨g, hg, rfl⟩ := hu.exists_form hudatum
    rw [hudatum.same_iff, Value.render_ofForm, Value.render_ofForm]
    constructor
    · intro hrender
      have hread := read_render hg
      rw [hrender, read_render hf] at hread
      cases hread
      rfl
    · intro heq
      rw [← Value.render_ofForm, heq, Value.render_ofForm]

/-- A list that a program yields. -/
theorem quoted_list_read_back :
    ∃ u, Script.run 1 rootScope "'(a 1/2 \"b\")" .standard = some (.ok u, .standard) ∧
      u.same (.list [.symbol "a", .number (mkRat 1 2), .text "b"]) = true := by
  let f : Form := .list [.symbol "a", .number (mkRat 1 2), .text "b"]
  have hsymbol : IsSymbol "a".toList :=
    ⟨by decide, List.all_eq_true.1 (by decide), by decide, by decide⟩
  have hreadable : f.Readable := by
    refine .list ?_
    rw [List.forall_mem_cons, List.forall_mem_cons, List.forall_mem_singleton]
    exact ⟨.symbol hsymbol, .number _, .text "b"⟩
  have hinterpret : Script.interpret 1 rootScope ("'" ++ f.render) .standard =
      some ([⟨some (.quoted f), .ok (.ofForm f), ""⟩], .standard) := by
    rw [Script.interpret, read_quote_render hreadable]
    rfl
  have hcomputed : (Value.ofForm f).IsComputed := ⟨.standard, _, "", .standard,
    Script.yields_of_interpretForms hinterpret (List.mem_singleton_self _) rfl⟩
  have hdatum : (Value.ofForm f).IsDatum := by
    refine .list ?_
    rw [Value.ofForms, List.forall_mem_cons, Value.ofForms, List.forall_mem_cons, Value.ofForms,
      Value.ofForms, List.forall_mem_singleton]
    exact ⟨.symbol "a", .number _, .text "b"⟩
  have hrender : (Value.ofForm f).render = "(a 1/2 \"b\")" := by cbv
  obtain ⟨hback, -⟩ := data_read_back hcomputed hdatum
  have hrun := hback 0 rootScope .standard
  rw [hrender] at hrun
  exact hrun

end TimelineLisp
