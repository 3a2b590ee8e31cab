import Mathlib.Algebra.Ring.Nat
import LambdaText.Library.Functions
import LambdaText.Proofs.Eval.Stages
import LambdaText.Proofs.Eval.Written
import LambdaText.Proofs.Function.Templates

/-!
# Calls that fill a template

Calling a function that was made with a template fills its holes. As long as there are holes left
and the items can be written for the log, the call only makes a new template; when there are none,
it is one call of the function. Rows of arguments in turn do what one row does into which they are
filled.
-/

namespace LambdaText

open LambdaText.Code LambdaText.Function

/-- Holds a template of arguments, and calls what that gives with rows of arguments in turn. -/
def fillInTurn (m : Machine) (f : Value) (items : List Value) (rows : List (List Value)) :
    Run Value := do
  callInTurn m (← holdTemplate m f items) rows

/-- Whether two states differ in the log and in new serial numbers only. -/
def OnlyLogged (s t : State) : Prop := ∃ log serial, t = { s with log, serial } ∧ s.serial ≤ serial

theorem OnlyLogged.trans {s t u : State} (h : OnlyLogged s t) (h' : OnlyLogged t u) :
    OnlyLogged s u := by
  obtain ⟨_, _, rfl, hle⟩ := h
  obtain ⟨log, serial, rfl, hle'⟩ := h'
  exact ⟨log, serial, rfl, hle.trans hle'⟩

theorem OnlyLogged.cells {s t : State} (h : OnlyLogged s t) : t.cells = s.cells := by
  obtain ⟨_, _, rfl, -⟩ := h
  rfl

def CanWrite (s : State) (v : Value) : Prop := ∃ text, (shown v).ends s = some (.ok text, s)

theorem canWrite_of_cells {s t : State} (h : t.cells = s.cells) {v : Value} :
    CanWrite t v ↔ CanWrite s v := by
  obtain ⟨look, hlook⟩ := reads_shown v
  simp [CanWrite, hlook, h]

/-- A template that a call keeps: it has holes, and its items can be written. -/
structure IsKept (s : State) (items : List Value) : Prop where
  holes : items.any Value.isHole = true
  written : ∀ v ∈ items, CanWrite s v

/-- How filling a template up to these items ends for a function: with a new template, with the
error of the first item that cannot be written, or with one call of the function. -/
inductive FilledEnd (f : Value) (items : List Value) (s : State) :
    Option (Except Value Value × State) → Prop
  | kept (h : IsKept s items) (serial : Nat) {t : State} (ht : OnlyLogged s t) :
    FilledEnd f items s (some (.ok (.template serial ⟨f, items⟩), t))
  | unwritten (h : items.any Value.isHole = true) {before after : List Value} {v e : Value}
    (hitems : items = before ++ v :: after) (hbefore : ∀ u ∈ before, CanWrite s u)
    (hv : (shown v).ends s = some (.error e, s)) {t : State} (ht : OnlyLogged s t) :
    FilledEnd f items s (some (.error e, t))
  | called (h : items.any Value.isHole = false) {t : State} (ht : OnlyLogged s t) :
    FilledEnd f items s (((machineAt (topLevel - 1)).call f items []).ends t)

/-! ### Writing the items -/

theorem ends_mapM_shown_error {before after : List Value} {v e : Value} {s : State}
    (hbefore : ∀ u ∈ before, CanWrite s u) (hv : (shown v).ends s = some (.error e, s)) :
    ((before ++ v :: after).mapM shown).ends s = some (.error e, s) := by
  induction before with
  | nil =>
    rw [List.nil_append, List.mapM_cons]
    exact Run.ends_bind_of_error hv _
  | cons u before ih =>
    obtain ⟨text, htext⟩ := hbefore u (List.mem_cons_self)
    have hrest := ih fun w hw => hbefore w (List.mem_cons_of_mem _ hw)
    rw [List.cons_append, List.mapM_cons, Run.ends_bind_of_ok htext]
    exact Run.ends_bind_of_error hrest _

theorem canWrite_or (s : State) (items : List Value) :
    (∀ v ∈ items, CanWrite s v) ∨ ∃ before v after e, items = before ++ v :: after ∧
      (∀ u ∈ before, CanWrite s u) ∧ (shown v).ends s = some (.error e, s) := by
  induction items with
  | nil => exact .inl (by simp)
  | cons v items ih =>
    obtain ⟨look, hlook⟩ := reads_shown v
    cases hv : look s.cells with
    | error e => exact .inr ⟨[], v, items, e, rfl, by simp, by rw [hlook, hv]⟩
    | ok text =>
      have hwritten : CanWrite s v := ⟨text, by rw [hlook, hv]⟩
      rcases ih with hall | ⟨before, u, after, e, rfl, hbefore, hu⟩
      · exact .inl (List.forall_mem_cons.2 ⟨hwritten, hall⟩)
      · exact .inr ⟨v :: before, u, after, e, rfl, List.forall_mem_cons.2 ⟨hwritten, hbefore⟩, hu⟩

/-! ### One call -/

/-- Coercion leaves what can be called as it is. -/
theorem coerce_eq_pure {f : Value} (hf : f.isCallable = true) (m : Machine) :
    coerce m f = pure f := by
  cases f <;> first | rfl | cases hf

theorem coerce_callable {f : Value} (hf : f.isCallable = true) (m : Machine) (s : State) :
    (coerce m f).ends s = some (.ok f, s) := by
  rw [coerce_eq_pure hf, Run.ends_pure]

theorem ends_holdTemplate {f : Value} (hf : f.isCallable = true) (m : Machine)
    (items : List Value) (s : State) :
    (holdTemplate m f items).ends s =
      some (.ok (.template s.serial ⟨f, items⟩), { s with serial := s.serial + 1 }) := by
  rw [holdTemplate, Run.ends_bind_of_ok (coerce_callable hf m s)]
  rfl

theorem ends_deferTemplate (t : Template Value) {s : State} (h : ∀ v ∈ t.items, CanWrite s v) :
    ∃ log, (deferTemplate t).ends s =
      some (.ok (.template s.serial t), { s with serial := s.serial + 1, log }) := by
  obtain ⟨texts, htexts⟩ := Run.exists_ends_mapM h
  refine ⟨s.log.push ⟨Log.partialLog, .debug,
    s!"Partial call still has holes: [{commaList texts}]"⟩, ?_⟩
  rw [deferTemplate, Run.ends_bind_of_ok htexts]
  rfl

theorem ends_call_template (n serial : Nat) (f : Value) (items row : List Value) (s : State) :
    ((machineAt (n + 1)).call (.template serial ⟨f, items⟩) row []).ends s =
      if (fill Value.isHole items row).any Value.isHole then
        (deferTemplate ⟨f, fill Value.isHole items row⟩).ends s
      else ((machineAt n).call f (fill Value.isHole items row) []).ends s := by
  change
    ((Template.call Value.isHole deferTemplate (callPlain (machineAt n)) ⟨f, items⟩ row).ends s) = _
  rw [Template.call]
  split <;> rfl

theorem filledEnd_call {f : Value} (items row : List Value) (serial : Nat) {s t : State}
    (ht : OnlyLogged s t) :
    FilledEnd f (fill Value.isHole items row) s
      ((machine.call (.template serial ⟨f, items⟩) row []).ends t) := by
  obtain ⟨n, hn⟩ : ∃ n, topLevel = n + 1 := ⟨topLevel - 1, by decide⟩
  have hlevel : n = topLevel - 1 := by omega
  rw [machine, hn, ends_call_template]
  split
  · next hholes =>
    rcases canWrite_or s (fill Value.isHole items row) with hall | ⟨before, v, after, e, hitems,
      hbefore, hv⟩
    · obtain ⟨log, hdefer⟩ := ends_deferTemplate ⟨f, fill Value.isHole items row⟩ (s := t)
        fun v hv => (canWrite_of_cells ht.cells).2 (hall v hv)
      rw [hdefer]
      exact .kept ⟨hholes, hall⟩ _ (ht.trans ⟨log, _, rfl, Nat.le_succ _⟩)
    · have herror : (shown v).ends t = some (.error e, t) := by
        obtain ⟨look, hlook⟩ := reads_shown v
        rw [hlook] at hv ⊢
        rw [ht.cells]
        simpa using hv
      rw [deferTemplate, hitems, Run.ends_bind_of_error (ends_mapM_shown_error
        (fun u hu => (canWrite_of_cells ht.cells).2 (hbefore u hu)) herror), ← hitems]
      exact .unwritten hholes hitems hbefore hv ht
  · next hholes =>
    rw [hlevel]
    exact .called (by simpa using hholes) ht

/-! ### Calls in turn -/

/-- Rows that leave holes make templates only. -/
theorem ends_callInTurn_template {f : Value} {items : List Value} {rows : List (List Value)}
    {s t : State} (serial : Nat) (ht : OnlyLogged s t)
    (hkept : ∀ j < rows.length, IsKept s ((rows.take (j + 1)).foldl (fill Value.isHole) items)) :
    ∃ serial' u, (callInTurn machine (.template serial ⟨f, items⟩) rows).ends t =
        some (.ok (.template serial' ⟨f, rows.foldl (fill Value.isHole) items⟩), u) ∧
      OnlyLogged s u := by
  induction rows generalizing items serial t with
  | nil => exact ⟨serial, t, rfl, ht⟩
  | cons row rows ih =>
    have hfirst : IsKept s (fill Value.isHole items row) := by simpa using hkept 0 (by simp)
    have hcall := filledEnd_call (f := f) items row serial ht
    generalize hresult : (machine.call (.template serial ⟨f, items⟩) row []).ends t = result
      at hcall
    cases hcall with
    | kept _ serial' ht' =>
      obtain ⟨serial'', u, hrun, hu⟩ := ih serial' ht' fun j hj => by
        simpa using hkept (j + 1) (by simpa using hj)
      exact ⟨serial'', u, by rw [callInTurn, Run.ends_bind_of_ok hresult, hrun, List.foldl_cons],
        hu⟩
    | unwritten _ hitems _ hv =>
      obtain ⟨text, htext⟩ := hfirst.written _ (hitems ▸ List.mem_append_right _ List.mem_cons_self)
      rw [htext] at hv
      cases hv
    | called hholes =>
      rw [hfirst.holes] at hholes
      cases hholes

/-- The same callable, held without a template. -/
theorem ends_hold {f : Value} (hf : f.isCallable = true) (m : Machine) (right : Bool)
    (held : List Value) (s : State) :
    (hold m right f held).ends s = some (.ok (.curried s.serial ⟨f, held, none, .bool right⟩),
      { s with serial := s.serial + 1 }) := by
  rw [hold, Run.ends_bind_of_ok (coerce_callable hf m s)]
  rfl

/-- Rows of arguments in turn fill a template like the one row into which they are filled, as long
as every row but the last one leaves a template that is kept. What is filled up in the end is a new
template with the positions of its holes, or goes to one call of the function and has no holes; only
items that cannot be written stand in the way of a new template. Each row goes to the positions of
the holes that are left, and behind the template when they are used up. No row moves what is no hole,
and without holes a template is a row of held arguments. -/
theorem calls_fill_template {f : Value} (hf : f.isCallable = true) (items : List Value)
    (rows : List (List Value)) (row : List Value) (s : State)
    (hkept : ∀ j < rows.length, IsKept s ((rows.take (j + 1)).foldl (fill Value.isHole) items)) :
    let full := (rows ++ [row]).foldl (fill Value.isHole) items
    let once := (rows ++ [row]).foldl (fill Value.isHole) []
    FilledEnd f full s ((fillInTurn machine f items (rows ++ [row])).ends s) ∧
    FilledEnd f full s ((fillInTurn machine f items [once]).ends s) ∧
    (∀ serial t, (libraryAttribute? (.template serial ⟨f, full⟩) "positions").ends t =
      some (.ok (some (.tuple (((List.range full.length).filter fun i =>
        full[i]?.any Value.isHole).map fun (i : Nat) => Value.int i))), t)) ∧
    (∀ (j : Nat) (next : List Value), (rows ++ [row])[j]? = some next →
      let held := ((rows ++ [row]).take j).foldl (fill Value.isHole) items
      let positions := holePositions Value.isHole 0 held
      ((rows ++ [row]).take (j + 1)).foldl (fill Value.isHole) items =
        (positions.zip next).foldl (fun out e => out.set e.1 e.2)
          (held ++ next.drop positions.length)) ∧
    (∀ j ≤ rows.length, ∀ (i : Nat) (v : Value),
      ((rows.take j).foldl (fill Value.isHole) items)[i]? = some v → v.isHole = false →
        full[i]? = some v) ∧
    (items.any Value.isHole = false → row.any Value.isHole = false →
      (fillInTurn machine f items [row]).ends s =
        (hold machine false f items >>= fun g => callInTurn machine g [row]).ends s) := by
  intro full once
  have honce : fill Value.isHole items once = full := (foldl_fill items (rows ++ [row])).symm
  have hfull : fill Value.isHole (rows.foldl (fill Value.isHole) items) row = full := by
    simp only [full, List.foldl_append, List.foldl_cons, List.foldl_nil]
  have hheld := ends_holdTemplate hf machine items s
  have hlogged : OnlyLogged s { s with serial := s.serial + 1 } := ⟨s.log, _, rfl, Nat.le_succ _⟩
  refine ⟨?_, ?_, fun serial t => ?_, fun j next h => foldl_fill_take_succ h items,
    fun j hj i v hv hplain => ?_, fun hitems hrow => ?_⟩
  · obtain ⟨serial, u, hrun, hu⟩ := ends_callInTurn_template s.serial hlogged hkept
    rw [fillInTurn, Run.ends_bind_of_ok hheld, ends_callInTurn_append,
      Run.ends_bind_of_ok hrun, ends_callInTurn_one, ← hfull]
    exact filledEnd_call _ row serial hu
  · rw [fillInTurn, Run.ends_bind_of_ok hheld, ends_callInTurn_one, ← honce]
    exact filledEnd_call items once s.serial hlogged
  · change some (_, t) = _
    simp only [holePositions_eq, Nat.zero_add, List.map_map]
    rfl
  · have hsplit : full = (rows.drop j ++ [row]).foldl (fill Value.isHole)
        ((rows.take j).foldl (fill Value.isHole) items) := by
      rw [← List.foldl_append, ← List.append_assoc, List.take_append_drop]
    rw [hsplit]
    exact getElem?_foldl_fill hv hplain _
  · obtain ⟨n, hn⟩ : ∃ n, topLevel = n + 1 := ⟨topLevel - 1, by decide⟩
    have hrest : (fill Value.isHole items row).any Value.isHole = false := by
      rw [fill_of_no_hole hitems, List.any_append, hitems, hrow, Bool.or_self]
    rw [fillInTurn, Run.ends_bind_of_ok hheld, Run.ends_bind_of_ok (ends_hold hf _ _ _ s),
      ends_callInTurn_one, ends_callInTurn_one, machine, hn, ends_call_template,
      if_neg (by simp [hrest]), fill_of_no_hole hitems]
    rfl

/-! ### Integers that are too long to be written -/

theorem ends_integerText_of_long {n : Nat} (h : 10 ^ maxDecimalDigits ≤ n) (s : State) :
    ∃ message, (integerText n).ends s =
      some (.error (.error "ValueError" [.text message] none), s) := by
  have hlong : maxDecimalDigits < (toString n).length := by
    rw [Nat.toString_eq_ofList_toDigits, String.length_ofList]
    by_contra hle
    rw [Nat.not_lt, Nat.length_toDigits_le_iff (by decide) (by decide)] at hle
    omega
  have hint : maxDecimalDigits < (toString (n : Int)).length := hlong
  simp only [integerText, hint, Int.natAbs_natCast, hlong, decide_true, Bool.and_self, if_true]
  exact ⟨_, rfl⟩

/-- A template may be left with holes and yet not be made, because of an item that cannot be
written. -/
theorem holes_left_unwritten :
    (fill Value.isHole [.hole, .hole] [.int ((10 ^ 5000 : Nat) : Int)]).any Value.isHole = true ∧
    ∃ message t, (fillInTurn machine (.builtin "max") [.hole, .hole]
        [[.int ((10 ^ 5000 : Nat) : Int)]]).ends {} =
      some (.error (.error "ValueError" [.text message] none), t) := by
  have hlong := Nat.pow_le_pow_right (show 10 > 0 by decide)
    (show maxDecimalDigits ≤ 5000 by decide)
  generalize 10 ^ 5000 = i at hlong ⊢
  have hholes : (fill Value.isHole [.hole, .hole] [.int (i : Int)]).any Value.isHole = true := rfl
  obtain ⟨n, hn⟩ : ∃ n, topLevel = n + 1 := ⟨topLevel - 1, by decide⟩
  obtain ⟨message, hshown⟩ := ends_integerText_of_long hlong { serial := 1 }
  refine ⟨hholes, message, { serial := 1 }, ?_⟩
  rw [fillInTurn, Run.ends_bind_of_ok (ends_holdTemplate rfl machine _ {}), ends_callInTurn_one,
    machine, hn, ends_call_template, if_pos hholes]
  exact Run.ends_bind_of_error (@ends_mapM_shown_error [] _ (.int i) _ _ (by simp) hshown) _

/-- Two rows, the first one of which leaves a hole. -/
theorem calls_fill_template_twice :
    IsKept {} [.int 1, .int 2, .hole] ∧
    FilledEnd (.builtin "max") [.int 1, .int 2, .int 3] {}
      ((fillInTurn machine (.builtin "max") [.hole, .int 2, .hole] [[.int 1], [.int 3]]).ends
        {}) := by
  have hkept : IsKept {} [.int 1, .int 2, .hole] := by
    refine ⟨rfl, ?_⟩
    simp only [List.forall_mem_cons]
    exact ⟨⟨_, rfl⟩, ⟨_, rfl⟩, ⟨_, rfl⟩, by simp⟩
  refine ⟨hkept, ?_⟩
  refine (calls_fill_template (show (Value.builtin "max").isCallable = true from rfl)
    [.hole, .int 2, .hole] [[.int 1]] [.int 3] {} fun j hj => ?_).1
  obtain rfl : j = 0 := by simpa using hj
  exact hkept

end LambdaText
