import TimelineLisp.Proofs.Evaluation.Footprint
import TimelineLisp.Proofs.Store.Renaming

/-!
# Evaluating a form again

A form in which neither `define` nor `set!` is written leaves the scopes that were there alone
(`Evaluation.evalAt_changes_own_scope`), as long as no closure assigns anything.  But it leaves new
scopes behind and has used up identities, so that everything it makes when it is evaluated again has
other numbers, and **evaluating it again has the same outcome up to these numbers**
(`Evaluation.evalAt_repeats`): the same fault, or a value of the same text, and the same text shown.

Numbers have no text, and two closures are the same in one run just if their renamed counterparts
are in the other, so no step tells the two runs apart (`Simulation.renamed`).
-/

namespace TimelineLisp

/-! ### Runs from renamed stores -/

namespace Simulation

/-- Two runs of the same form from stores that are renamed to each other, with these texts shown at
the start.  No form is excluded: definitions and assignments are made on both sides. -/
def renamed (r : Renaming) (shown shown' : String) : Simulation where
  Stage := Unit
  order := Fragment.oneStage
  stores _ s t := s.Renamed r t
  texts a b := ∃ text, a = shown ++ text ∧ b = shown' ++ text
  symbols _ := True
  closures _ := r.Closures
  jobs _ _ p q := q = r.scope p
  texts_append more h := by
    obtain ⟨text, rfl, rfl⟩ := h
    exact ⟨text ++ more, String.append_assoc .., String.append_assoc ..⟩
  correspondence _ := r.correspondence
  closures_mono _ h := h
  jobs_mono _ h := h
  items h _ := h
  datum _ := trivial
  find := by
    rintro - s t name p q hst rfl
    exact hst.get? p name
  close := by
    rintro - s t p q name params body hst - hbody hjobs
    obtain ⟨f, hf⟩ := List.exists_mem_of_ne_nil body hbody
    exact ⟨(), trivial, hst.newIdentity, ⟨rfl, rfl, rfl, rfl⟩, hjobs f hf, hst.identity⟩
  define := by
    rintro - s t name operands v u p q hst rfl - hv
    exact ⟨(), trivial, hst.define p name hv⟩
  assign := by
    rintro - s t name operands v u p q hst rfl - hv
    obtain ⟨hbound, hstores⟩ := hst.assign p name hv
    exact ⟨hbound, (), trivial, hstores⟩
  call := by
    rintro - s t c d b b' hst hc hb
    rw [hc.scope]
    exact ⟨(), trivial, hst.newScope c.scope hb.get?, fun _ _ => hst.size⟩
  enter := by
    rintro - s t b b' body p q hst hb hbody hjobs
    obtain ⟨f, hf⟩ := List.exists_mem_of_ne_nil body hbody
    obtain rfl := hjobs f hf
    exact ⟨(), trivial, hst.newScope p hb.get?, fun _ _ => hst.size⟩

end Simulation

namespace Evaluation

/-! ### Repetition -/

/-- The first outcome has led from `w` to `u`, and the second one, from `u`, repeats it: the same
fault or a value of the same text, and the same text shown. -/
inductive Repeats (w u : World) : Outcome Value → Outcome Value → Prop
  | value {v v' : Value} {u' : World} (text : String) (first : u.shown = w.shown ++ text)
    (again : u'.shown = u.shown ++ text) (render : v.render = v'.render) :
    Repeats w u (.value v u) (.value v' u')
  | error {e : EvalError} {u' : World} (text : String) (first : u.shown = w.shown ++ text)
    (again : u'.shown = u.shown ++ text) : Repeats w u (.error e u) (.error e u')

/-- **A form without `define` and `set!` can be evaluated again.**  If its evaluation ends, in a
store none of whose closures has a `set!` in its body, then it ends again from the store that it has
left, with a value of the same text or with the same fault, and it shows the same text.  Scopes and
identities are numbered in order, as they are in every store that is reached (`Reaches.wellFormed`,
`Reaches.numbered`). -/
theorem evalAt_repeats (form : Form) (hdefine : ¬ form.Heads "define") (hset : ¬ form.Heads "set!")
    (w : World) (hw : w.store.WellFormed) (hn : w.store.Numbered)
    (hclosures : UnheadedClosures "set!" w.store) (fuel depth : ℕ) (scope : ScopeId)
    (hscope : scope < w.store.scopes.size) (u : World)
    (hend : (evalAt fuel depth form scope w).world? = some u) :
    Repeats w u (evalAt fuel depth form scope w) (evalAt fuel depth form scope u) := by
  have hspares : w.store.Spares (fun _ => True) u.store :=
    spares_of_evalAt _ hset hclosures (fun h => absurd h hdefine) hend
  have hrenamed := Store.renamed_of_spares hw hn hspares
  let S := Simulation.renamed (w.store.renamingTo u.store) w.shown u.shown
  have hjob : S.jobs () form scope scope := (moveUp_of_lt hscope).symm
  have hworlds : S.Worlds () w u := ⟨hrenamed, "", by simp⟩
  have hrun := Simulation.evalAt_simulates fuel depth hjob () trivial w u hworlds
  generalize evalAt fuel depth form scope w = o at hrun hend ⊢
  generalize evalAt fuel depth form scope u = o' at hrun ⊢
  cases hrun with
  | value _ _ hw' hv =>
    cases hend
    obtain ⟨text, first, again⟩ := hw'.texts
    exact .value text first again (hv.render_eq (w.store.renamingTo u.store).correspondence)
  | error _ _ hw' =>
    cases hend
    obtain ⟨text, first, again⟩ := hw'.texts
    exact .error text first again
  | outOfFuel => cases hend

/-- A form that makes closures, compares two of them and displays a string, evaluated twice after
`(define (f x) (lambda () x))`: the second time there are more scopes, but the closure has the same
text, the two closures differ again and the string is displayed again. -/
theorem comparison_of_closures_repeats :
    ∃ (w u u' : World) (v v' : Value),
      Reaches ⟨.standard, ""⟩ w ∧ UnheadedClosures "set!" w.store ∧
      evalAt 9 0 (.list [.symbol "begin", .list [.symbol "display", .text "a"],
        .list [.symbol "list", .list [.symbol "f", .number 1], .list [.symbol "eq?",
          .list [.symbol "f", .number 1], .list [.symbol "f", .number 1]]]]) rootScope w =
        .value v u ∧
      evalAt 9 0 (.list [.symbol "begin", .list [.symbol "display", .text "a"],
        .list [.symbol "list", .list [.symbol "f", .number 1], .list [.symbol "eq?",
          .list [.symbol "f", .number 1], .list [.symbol "f", .number 1]]]]) rootScope u =
        .value v' u' ∧
      w.store.scopes.size < u.store.scopes.size ∧
      v.render = "(#<procedure> #f)" ∧ v'.render = "(#<procedure> #f)" ∧
      u.shown = "a" ∧ u'.shown = "aa" := by
  let form : Form := .list [.symbol "begin", .list [.symbol "display", .text "a"],
    .list [.symbol "list", .list [.symbol "f", .number 1], .list [.symbol "eq?",
      .list [.symbol "f", .number 1], .list [.symbol "f", .number 1]]]]
  let definition : Form := .list [.symbol "define", .list [.symbol "f", .symbol "x"],
    .list [.symbol "lambda", .list [], .symbol "x"]]
  let c : Closure := ⟨Store.standard.nextIdentity, some "f", ["x"], none,
    [.list [.symbol "lambda", .list [], .symbol "x"]], rootScope⟩
  let w : World :=
    ⟨Store.standard.newIdentity.2.define rootScope "f" (.procedure (.closure c)), ""⟩
  let called (s : Store) : Store := (s.newScope (some rootScope) [("x", .number 1)]).2.newIdentity.2
  let u : World := ⟨called (called (called w.store)), "a"⟩
  let v : Value := .list [.procedure (.closure ⟨1, none, [], none, [.symbol "x"], 1⟩), .bool false]
  have hreached : Reaches ⟨.standard, ""⟩ w := by
    have heval : eval 2 definition rootScope ⟨.standard, ""⟩ = .value .void w := rfl
    exact .single (passes_eval (by decide) (congrArg Outcome.world? heval))
  have hwf : w.store.WellFormed := hreached.wellFormed Store.Initial.standard.wellFormed
  have hn : w.store.Numbered := hreached.numbered Store.Initial.standard.numbered
  have hclosures : UnheadedClosures "set!" w.store := by
    intro id n v d hv hd
    rw [Store.local?_define] at hv
    split_ifs at hv
    · cases hv
      cases hd
      simp [c, Form.heads_list_iff]
    · obtain ⟨native, rfl⟩ := Store.local?_standard hv
      cases hd
  have heval : evalAt 9 0 form rootScope w = .value v u := by cbv
  have hrepeats := evalAt_repeats form (by simp [form, Form.heads_list_iff])
    (by simp [form, Form.heads_list_iff]) w hwf hn hclosures 9 0 rootScope (by decide) u
    (by rw [heval]; rfl)
  rw [heval] at hrepeats
  generalize hagain : evalAt 9 0 form rootScope u = o at hrepeats
  cases hrepeats with
  | @value _ v' u' text first again render =>
    have htext : text = "a" := by simpa [w, u] using first.symm
    have hrender : v.render = "(#<procedure> #f)" := by cbv
    refine ⟨w, u, u', v, v', hreached, hclosures, heval, hagain, by decide, hrender,
      render.symm.trans hrender, rfl, ?_⟩
    rw [again, htext]
    decide

end Evaluation

end TimelineLisp
