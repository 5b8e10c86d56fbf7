import Mathlib.Data.List.Forall2
import TimelineLisp.Value.Printer

/-!
# Values that differ in their closures alone

Two runs of a program have values of the same shape at the same points: the same data, lists of the
same lengths, and closures in the same places, which need not be the same closures.

`Value.Related symbols closures` says so.  It is a **parameter of a comparison of runs**: `closures`
tells which closures stand for each other, and `symbols` what is known of every symbol.  What
cannot see into a closure cannot tell related values apart: neither their text
(`Value.Related.render_eq`) nor their sameness (`Value.Related.same_eq`) differs.

With closures that stand for themselves alone the relation says of one value what all its closures
and symbols are like (`Value.related_self_iff`); they are found by `Value.Holds` and `Value.Names`.
-/

namespace TimelineLisp

/-! ### Closures -/

/-- The closures differ at most in their identity and their scope. -/
structure Closure.Alike (c c' : Closure) : Prop where
  name : c.name = c'.name
  params : c.params = c'.params
  rest : c.rest = c'.rest
  body : c.body = c'.body

/-- Closures that stand for each other are alike, and which of them are the same closure is the same
on both sides. -/
structure Closure.Correspondence (closures : Closure → Closure → Prop) : Prop where
  alike : ∀ {c c' : Closure}, closures c c' → c.Alike c'
  identity : ∀ {c c' d d' : Closure}, closures c c' → closures d d' →
    (c.identity = d.identity ↔ c'.identity = d'.identity)

/-- Closures that stand for themselves alone. -/
theorem Closure.correspondence_self (P : Closure → Prop) :
    Correspondence fun c c' => c = c' ∧ P c where
  alike := by
    rintro c _ ⟨rfl, -⟩
    exact ⟨rfl, rfl, rfl, rfl⟩
  identity := by
    rintro c _ d _ ⟨rfl, -⟩ ⟨rfl, -⟩
    exact Iff.rfl

namespace Value

/-! ### What a value holds -/

/-- The closure is the value or is inside the lists that it is made of. -/
inductive Holds (c : Closure) : Value → Prop
  | here : Holds c (.procedure (.closure c))
  | item {items : List Value} {v : Value} : v ∈ items → Holds c v → Holds c (.list items)

/-- The symbol is the value or is inside the lists that it is made of. -/
inductive Names (name : String) : Value → Prop
  | here : Names name (.symbol name)
  | item {items : List Value} {v : Value} : v ∈ items → Names name v → Names name (.list items)

/-! ### Related values -/

/-- The values have the same shape, with closures that stand for each other. -/
inductive Related (symbols : String → Prop) (closures : Closure → Closure → Prop) :
    Value → Value → Prop
  | number (n : Number) : Related symbols closures (.number n) (.number n)
  | text (content : String) : Related symbols closures (.text content) (.text content)
  | char (c : Char) : Related symbols closures (.char c) (.char c)
  | bool (b : Bool) : Related symbols closures (.bool b) (.bool b)
  | symbol {name : String} (h : symbols name) :
    Related symbols closures (.symbol name) (.symbol name)
  | list {items items' : List Value} (length : items.length = items'.length)
    (h : ∀ {v v' : Value}, (v, v') ∈ items.zip items' → Related symbols closures v v') :
    Related symbols closures (.list items) (.list items')
  | native (n : Native) :
    Related symbols closures (.procedure (.native n)) (.procedure (.native n))
  | closure {c c' : Closure} (h : closures c c') :
    Related symbols closures (.procedure (.closure c)) (.procedure (.closure c'))
  | void : Related symbols closures .void .void
  | host (h : Host) : Related symbols closures (.host h) (.host h)

variable {symbols : String → Prop} {closures : Closure → Closure → Prop}

theorem related_list_iff {items items' : List Value} :
    Related symbols closures (.list items) (.list items') ↔
      List.Forall₂ (Related symbols closures) items items' := by
  rw [List.forall₂_iff_zip]
  constructor
  · intro h
    cases h with
    | list length h => exact ⟨length, h⟩
  · rintro ⟨length, h⟩
    exact .list length h

namespace Related

theorem mono {closures' : Closure → Closure → Prop} (hc : ∀ c c', closures c c' → closures' c c')
    {v v' : Value} (h : Related symbols closures v v') : Related symbols closures' v v' := by
  induction h with
  | symbol h => exact .symbol h
  | list length _ ih => exact .list length ih
  | closure h => exact .closure (hc _ _ h)
  | number n => exact .number n
  | text content => exact .text content
  | char c => exact .char c
  | bool b => exact .bool b
  | native n => exact .native n
  | void => exact .void
  | host h => exact .host h

theorem isTrue_eq {v v' : Value} (h : Related symbols closures v v') : v.isTrue = v'.isTrue := by
  cases h <;> rfl

/-! ### Texts -/

theorem writeItems_eq {items items' : List Value}
    (h : List.Forall₂ (fun v v' => ∀ tail, write v tail = write v' tail) items items')
    (tail : List Char) : writeItems items tail = writeItems items' tail := by
  induction h with
  | nil => rfl
  | cons hv hrest ih =>
    cases hrest with
    | nil => exact hv tail
    | cons hu hrest => simp only [writeItems, hv, ih]

theorem writeRawItems_eq {items items' : List Value}
    (h : List.Forall₂ (fun v v' => ∀ tail, writeRaw v tail = writeRaw v' tail) items items')
    (tail : List Char) : writeRawItems items tail = writeRawItems items' tail := by
  induction h with
  | nil => rfl
  | cons hv hrest ih =>
    cases hrest with
    | nil => exact hv tail
    | cons hu hrest => simp only [writeRawItems, hv, ih]

section Correspondence

variable (hcor : Closure.Correspondence closures)

include hcor

theorem write_eq {v v' : Value} (h : Related symbols closures v v') (tail : List Char) :
    v.write tail = v'.write tail := by
  induction h generalizing tail with
  | list length _ ih =>
    simp only [write, writeItems_eq (List.forall₂_iff_zip.2 ⟨length, fun hv => ih hv⟩)]
  | closure hc =>
    simp only [write, Procedure.write, Procedure.name?, (hcor.alike hc).name]
  | _ => rfl

theorem writeRaw_eq {v v' : Value} (h : Related symbols closures v v') (tail : List Char) :
    v.writeRaw tail = v'.writeRaw tail := by
  induction h generalizing tail with
  | list length _ ih =>
    simp only [writeRaw, writeRawItems_eq (List.forall₂_iff_zip.2 ⟨length, fun hv => ih hv⟩)]
  | @closure c c' hc =>
    have h : Related symbols closures (.procedure (.closure c)) (.procedure (.closure c')) :=
      .closure hc
    simpa only [writeRaw] using h.write_eq hcor tail
  | _ => rfl

/-- Related values have the same text. -/
theorem render_eq {v v' : Value} (h : Related symbols closures v v') : v.render = v'.render := by
  rw [render, render, h.write_eq hcor]

/-- Related values are displayed alike. -/
theorem renderRaw_eq {v v' : Value} (h : Related symbols closures v v') :
    v.renderRaw = v'.renderRaw := by
  rw [renderRaw, renderRaw, h.writeRaw_eq hcor]

end Correspondence

/-! ### Sameness -/

theorem sameItems_eq {items items' others others' : List Value}
    (h : List.Forall₂ (fun v v' => ∀ {u u' : Value}, Related symbols closures u u' →
      v.same u = v'.same u') items items')
    (ho : List.Forall₂ (Related symbols closures) others others') :
    sameItems items others = sameItems items' others' := by
  induction h generalizing others others' with
  | nil => cases ho <;> simp only [sameItems]
  | cons hv _ ih =>
    cases ho with
    | nil => simp only [sameItems]
    | cons hu hrest => simp only [sameItems, hv hu, ih hrest]

/-- Related values are the same as related ones. -/
theorem same_eq (hcor : Closure.Correspondence closures) {v v' u u' : Value}
    (hv : Related symbols closures v v') (hu : Related symbols closures u u') :
    v.same u = v'.same u' := by
  induction hv generalizing u u' with
  | list length _ ih =>
    cases hu with
    | list length' hu =>
      simp only [same]
      exact sameItems_eq (List.forall₂_iff_zip.2 ⟨length, fun hv => ih hv⟩)
        (List.forall₂_iff_zip.2 ⟨length', hu⟩)
    | _ => simp only [same]
  | closure hc =>
    cases hu with
    | closure hd =>
      simp only [same, Procedure.same]
      rw [Bool.eq_iff_iff, beq_iff_eq, beq_iff_eq]
      exact hcor.identity hc hd
    | _ => simp only [same, Procedure.same]
  | _ => cases hu <;> simp only [same, Procedure.same]

end Related

/-! ### One value -/

theorem related_self {v : Value} (hc : ∀ c, v.Holds c → closures c c)
    (hn : ∀ name, v.Names name → symbols name) : Related symbols closures v v := by
  match v with
  | .number n => exact .number n
  | .text content => exact .text content
  | .char c => exact .char c
  | .bool b => exact .bool b
  | .symbol name => exact .symbol (hn name .here)
  | .list items =>
    refine related_list_iff.2 (List.forall₂_same.2 fun u hu => ?_)
    have : sizeOf u < sizeOf items := List.sizeOf_lt_of_mem hu
    exact related_self (fun c h => hc c (.item hu h)) fun name h => hn name (.item hu h)
  | .procedure (.native n) => exact .native n
  | .procedure (.closure c) => exact .closure (hc c .here)
  | .void => exact .void
  | .host h => exact .host h
termination_by sizeOf v
decreasing_by simp only [list.sizeOf_spec]; omega

/-- **Closures that stand for themselves alone**: related values are equal, and what is asked of
closures and symbols holds of all that the value holds. -/
theorem related_self_iff {P : Closure → Prop} {v v' : Value} :
    Related symbols (fun c c' => c = c' ∧ P c) v v' ↔
      v = v' ∧ (∀ c, v.Holds c → P c) ∧ ∀ name, v.Names name → symbols name := by
  constructor
  · intro h
    induction h with
    | @symbol name h =>
      refine ⟨rfl, nofun, fun name hn => ?_⟩
      cases hn
      exact h
    | @closure c c' h =>
      obtain ⟨rfl, hP⟩ := h
      refine ⟨rfl, fun d hd => ?_, nofun⟩
      cases hd
      exact hP
    | @list items items' length _ ih =>
      have hitems := List.forall₂_iff_zip.2 ⟨length, fun hv => ih hv⟩
      obtain rfl : items = items' := by
        rw [← List.forall₂_eq_eq_eq]
        exact hitems.imp fun v v' hv => hv.1
      have hself := List.forall₂_same.1 hitems
      refine ⟨rfl, fun c hc => ?_, fun name hn => ?_⟩
      · cases hc with
        | item hv hc => exact (hself _ hv).2.1 c hc
      · cases hn with
        | item hv hn => exact (hself _ hv).2.2 name hn
    | _ => exact ⟨rfl, nofun, nofun⟩
  · rintro ⟨rfl, hc, hn⟩
    exact related_self (fun c h => ⟨rfl, hc c h⟩) hn

end Value

end TimelineLisp
