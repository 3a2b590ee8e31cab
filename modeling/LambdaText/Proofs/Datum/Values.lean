import LambdaText.Proofs.Datum.Written
import LambdaText.Proofs.Eval.Written
import LambdaText.Value.Datum

/-!
# Values of data

The value that is made of a datum is written in the form of the datum. Its cells are made one behind
the other, those of its parts first.
-/

namespace LambdaText

open LambdaText.Code

/-- Whether a value is written as a text wherever these cells are the first ones, within a depth
and inside of containers that were made later. -/
def Shows (cells : Array Cell) (n : Nat) (v : Value) (text : String) : Prop :=
  ∀ (t : State) (active : List Nat) (depth : Nat), (∃ more, t.cells = cells ++ more) →
    (∀ a ∈ active, cells.size ≤ a) → n < depth →
    (shownWithin depth active v).ends t = some (.ok text, t)

theorem Shows.more {cells : Array Cell} {n : Nat} {v : Value} {text : String}
    (h : Shows cells n v text) (more : Array Cell) : Shows (cells ++ more) n v text := by
  rintro t active depth ⟨rest, ht⟩ hactive hdepth
  refine h t active depth ⟨more ++ rest, by rw [ht, Array.append_assoc]⟩ (fun a ha => ?_) hdepth
  have hsize := hactive a ha
  rw [Array.size_append] at hsize
  omega

theorem ends_mapM_ok {α β : Type} {f : α → Run β} {items : List α} {results : List β} {s : State}
    (h : List.Forall₂ (fun a b => (f a).ends s = some (.ok b, s)) items results) :
    (items.mapM f).ends s = some (.ok results, s) := by
  induction h with
  | nil => rfl
  | cons hfirst _ ih =>
    rw [List.mapM_cons, Run.ends_bind_of_ok hfirst, Run.ends_bind_of_ok ih]
    rfl

/-- Parts that are written inside of a container. -/
theorem ends_mapM_shows {cells : Array Cell} {n : Nat} {values : List Value} {texts : List String}
    (h : List.Forall₂ (Shows cells n) values texts) {t : State} {active : List Nat} {depth : Nat}
    (ht : ∃ more, t.cells = cells ++ more) (hactive : ∀ a ∈ active, cells.size ≤ a)
    (hdepth : n < depth) :
    (values.mapM (shownWithin depth active)).ends t = some (.ok texts, t) :=
  ends_mapM_ok (h.imp fun _ _ hv => hv t active depth ht hactive hdepth)

theorem shows_of_ends {cells : Array Cell} {n : Nat} {v : Value} {text : String}
    (h : ∀ (t : State) (active : List Nat) (depth : Nat), (∃ more, t.cells = cells ++ more) →
      (∀ a ∈ active, cells.size ≤ a) → n ≤ depth →
      (shownWithin (depth + 1) active v).ends t = some (.ok text, t)) : Shows cells n v text := by
  intro t active depth ht hactive hdepth
  obtain ⟨k, rfl⟩ := Nat.exists_eq_add_of_lt hdepth
  exact h t active _ ht hactive (Nat.le_add_right n k)

theorem shows_constant {cells : Array Cell} {n : Nat} {v : Value} {text : String}
    (h : ∀ depth active, shownWithin (depth + 1) active v = pure text) : Shows cells n v text :=
  shows_of_ends fun t active depth _ _ _ => by rw [h]; rfl

theorem shows_int (cells : Array Cell) (n : Nat) {i : Int}
    (hi : (Nat.toDigits 10 i.natAbs).length ≤ maxDecimalDigits) :
    Shows cells n (.int i) (toString i) := by
  refine shows_constant fun depth active => ?_
  have hlength : (toString i.natAbs).length ≤ maxDecimalDigits := by
    rw [← String.length_toList]
    exact (congrArg List.length Nat.toList_repr).trans_le hi
  have hint : shownWithin (depth + 1) active (.int i) = integerText i := rfl
  rw [hint, integerText]
  simp only [Nat.not_lt.2 hlength, decide_false, Bool.and_false, Bool.false_eq_true, if_false]

theorem shows_tuple {cells : Array Cell} {n : Nat} {values : List Value} {texts : List String}
    (h : List.Forall₂ (Shows cells n) values texts) :
    Shows cells (n + 1) (.tuple values) (tupleText texts) := by
  refine shows_of_ends fun t active depth ht hactive hdepth => ?_
  have hitems := ends_mapM_shows h ht hactive hdepth
  exact Run.ends_bind_of_ok hitems _

/-! ### Containers with a cell -/

section Cells

variable {cells : Array Cell} {c : Cell} {active : List Nat} {t : State}

/-- The address of a new cell is none of the later ones. -/
theorem contains_eq_false (hactive : ∀ a ∈ active, (cells.push c).size ≤ a) :
    active.contains cells.size = false := by
  rw [List.contains_eq_mem, decide_eq_false_iff_not]
  intro hmem
  have hsize := hactive _ hmem
  rw [Array.size_push] at hsize
  omega

theorem inside_active (hactive : ∀ a ∈ active, (cells.push c).size ≤ a) :
    ∀ a ∈ cells.size :: active, cells.size ≤ a := by
  refine List.forall_mem_cons.2 ⟨Nat.le_refl _, fun a ha => ?_⟩
  have hsize := hactive a ha
  rw [Array.size_push] at hsize
  omega

theorem inside_cells (ht : ∃ more, t.cells = cells.push c ++ more) :
    ∃ more, t.cells = cells ++ more := by
  obtain ⟨more, ht⟩ := ht
  exact ⟨#[c] ++ more, by rw [ht, ← Array.append_assoc, Array.push_eq_append]⟩

theorem ends_cell_new (ht : ∃ more, t.cells = cells.push c ++ more) :
    (Run.cell cells.size).ends t = some (.ok c, t) := by
  obtain ⟨more, ht⟩ := ht
  have hcell : t.cells[cells.size]? = some c := by
    rw [ht, Array.getElem?_append_left (by simp), Array.getElem?_push_size]
  change some (Except.ok (t.cells[cells.size]?.getD (.list #[])), t) = _
  rw [hcell]
  rfl

end Cells

theorem shows_list {cells : Array Cell} {n : Nat} {values : List Value} {texts : List String}
    (h : List.Forall₂ (Shows cells n) values texts) :
    Shows (cells.push (.list values.toArray)) (n + 1) (.list cells.size)
      ("[" ++ commaList texts ++ "]") := by
  refine shows_of_ends fun t active depth ht hactive hdepth => ?_
  have hread : (Run.listItems cells.size).ends t = some (.ok values.toArray, t) :=
    Run.ends_bind_of_ok (ends_cell_new ht) _
  have hitems := ends_mapM_shows h (inside_cells ht) (inside_active hactive) hdepth
  have hwithin : shownWithin (depth + 1) active (.list cells.size) = do
      if active.contains cells.size then return "[...]"
      return "[" ++ commaList (← (← Run.listItems cells.size).toList.mapM
        (shownWithin depth (cells.size :: active))) ++ "]" := rfl
  rw [hwithin, contains_eq_false hactive, if_neg Bool.false_ne_true]
  exact (Run.ends_bind_of_ok hread _).trans (Run.ends_bind_of_ok hitems _)

/-- Whether an entry of a dictionary is written as a text. -/
def ShowsEntry (cells : Array Cell) (n : Nat) (e : Value × Value) (text : String) : Prop :=
  ∃ key value, Shows cells n e.1 key ∧ Shows cells n e.2 value ∧ text = key ++ ": " ++ value

/-- The written form of an entry inside of containers. -/
def shownEntry (depth : Nat) (active : List Nat) (e : Value × Value) : Run String := do
  return (← shownWithin depth active e.1) ++ ": " ++ (← shownWithin depth active e.2)

theorem shows_dict {cells : Array Cell} {n : Nat} {entries : List (Value × Value)}
    {texts : List String} (h : List.Forall₂ (ShowsEntry cells n) entries texts) :
    Shows (cells.push (.dict entries.toArray)) (n + 1) (.dict cells.size)
      ("\x7b" ++ commaList texts ++ "\x7d") := by
  refine shows_of_ends fun t active depth ht hactive hdepth => ?_
  have hread : (Run.dictEntries cells.size).ends t = some (.ok entries.toArray, t) :=
    Run.ends_bind_of_ok (ends_cell_new ht) _
  have hentries :
      (entries.mapM (shownEntry depth (cells.size :: active))).ends t = some (.ok texts, t) := by
    refine ends_mapM_ok (h.imp fun e text he => ?_)
    obtain ⟨key, value, hkey, hvalue, rfl⟩ := he
    have hcells := inside_cells ht
    have hinside := inside_active hactive
    exact (Run.ends_bind_of_ok (hkey t _ depth hcells hinside hdepth) _).trans
      (Run.ends_bind_of_ok (hvalue t _ depth hcells hinside hdepth) _)
  have hwithin : shownWithin (depth + 1) active (.dict cells.size) = do
      if active.contains cells.size then return "\x7b...\x7d"
      let entries ← (← Run.dictEntries cells.size).toList.mapM
        (shownEntry depth (cells.size :: active))
      return "\x7b" ++ commaList entries ++ "\x7d" := rfl
  rw [hwithin, contains_eq_false hactive, if_neg Bool.false_ne_true]
  exact (Run.ends_bind_of_ok hread _).trans (Run.ends_bind_of_ok hentries _)

/-! ### Making values -/

/-- Whether a computation makes something by adding cells to these, and neither reads nor changes
anything else. -/
def MakesFrom {α : Type} (r : Run α) (cells : Array Cell) (P : Array Cell → α → Prop) : Prop :=
  ∃ a more, (∀ s : State, s.cells = cells →
    r.ends s = some (.ok a, { s with cells := cells ++ more })) ∧ P (cells ++ more) a

/-- What only reads makes what it gives. -/
theorem makesFrom_of_ends {α : Type} {r : Run α} {a : α} {cells : Array Cell}
    {P : Array Cell → α → Prop}
    (h : ∀ s : State, s.cells = cells → r.ends s = some (.ok a, s)) (ha : P cells a) :
    MakesFrom r cells P := by
  refine ⟨a, #[], fun s hs => ?_, by rwa [Array.append_empty]⟩
  rw [Array.append_empty, ← hs]
  exact h s hs

theorem makesFrom_pure {α : Type} {a : α} {cells : Array Cell} {P : Array Cell → α → Prop}
    (h : P cells a) : MakesFrom (pure a) cells P :=
  makesFrom_of_ends (fun _ _ => rfl) h

theorem makesFrom_alloc {α : Type} {c : Cell} {cells : Array Cell} {wrap : Nat → α}
    {P : Array Cell → α → Prop} (h : P (cells.push c) (wrap cells.size)) :
    MakesFrom (do return wrap (← Run.alloc c)) cells P := by
  refine ⟨wrap cells.size, #[c], fun s hs => ?_, by rwa [← Array.push_eq_append]⟩
  rw [← Array.push_eq_append, ← hs]
  rfl

theorem MakesFrom.bind {α β : Type} {r : Run α} {f : α → Run β} {cells : Array Cell}
    {P : Array Cell → α → Prop} {Q : Array Cell → β → Prop} (hr : MakesFrom r cells P)
    (hf : ∀ cells a, P cells a → MakesFrom (f a) cells Q) : MakesFrom (r >>= f) cells Q := by
  obtain ⟨a, more, hend, ha⟩ := hr
  obtain ⟨b, more', hend', hb⟩ := hf _ a ha
  refine ⟨b, more ++ more', fun s hs => ?_, by rwa [← Array.append_assoc]⟩
  rw [Run.ends_bind_of_ok (hend s hs), hend' _ rfl, Array.append_assoc]

theorem MakesFrom.mono {α : Type} {r : Run α} {cells : Array Cell} {P Q : Array Cell → α → Prop}
    (hr : MakesFrom r cells P) (h : ∀ more a, P (cells ++ more) a → Q (cells ++ more) a) :
    MakesFrom r cells Q := by
  obtain ⟨a, more, hend, ha⟩ := hr
  exact ⟨a, more, hend, h more a ha⟩

theorem MakesFrom.exists_ends {α : Type} {r : Run α} {s : State} {P : Array Cell → α → Prop}
    (h : MakesFrom r s.cells P) :
    ∃ a more, r.ends s = some (.ok a, { s with cells := s.cells ++ more }) ∧
      P (s.cells ++ more) a := by
  obtain ⟨a, more, hend, ha⟩ := h
  exact ⟨a, more, hend s rfl, ha⟩

theorem makesFrom_mapM {α β : Type} {f : α → Run β} {P : Array Cell → β → α → Prop}
    (hmore : ∀ {cells b a} more, P cells b a → P (cells ++ more) b a) {row : List α}
    (h : ∀ a ∈ row, ∀ cells, MakesFrom (f a) cells fun cells b => P cells b a)
    (cells : Array Cell) :
    MakesFrom (row.mapM f) cells fun cells results => List.Forall₂ (P cells) results row := by
  induction row generalizing cells with
  | nil => exact makesFrom_pure .nil
  | cons a row ih =>
    rw [List.forall_mem_cons] at h
    rw [List.mapM_cons]
    refine (h.1 cells).bind fun cells b hb => ?_
    have hrest : MakesFrom (row.mapM f) cells fun cells results =>
        P cells b a ∧ List.Forall₂ (P cells) results row :=
      (ih h.2 cells).mono fun more _ hresults => ⟨hmore more hb, hresults⟩
    exact hrest.bind fun cells results hresults => makesFrom_pure (.cons hresults.1 hresults.2)

theorem valuesOf_eq_mapM (items : List Datum) : valuesOf items = items.mapM Datum.value := by
  induction items with
  | nil => rfl
  | cons d items ih => rw [valuesOf, ih, List.mapM_cons]

theorem entriesOf_eq_mapM (entries : List (Datum × Datum)) :
    entriesOf entries = entries.mapM entryOf := by
  induction entries with
  | nil => rfl
  | cons e entries ih => rw [entriesOf, ih, List.mapM_cons]

theorem makesFrom_valuesOf {n : Nat} {items : List Datum}
    (h : ∀ d ∈ items, ∀ cells, MakesFrom d.value cells fun cells v =>
      Shows cells n v d.writtenForm) (cells : Array Cell) :
    MakesFrom (valuesOf items) cells fun cells values =>
      List.Forall₂ (Shows cells n) values (Datum.writtenForms items) := by
  simp only [valuesOf_eq_mapM, Datum.writtenForms_eq, List.forall₂_map_right_iff]
  exact makesFrom_mapM (fun more hv => Shows.more hv more) h cells

theorem ShowsEntry.more {cells : Array Cell} {n : Nat} {e : Value × Value} {text : String}
    (h : ShowsEntry cells n e text) (more : Array Cell) : ShowsEntry (cells ++ more) n e text := by
  obtain ⟨key, value, hkey, hvalue, htext⟩ := h
  exact ⟨key, value, hkey.more more, hvalue.more more, htext⟩

theorem makesFrom_entriesOf {n : Nat} {entries : List (Datum × Datum)}
    (hkeys : ∀ e ∈ entries, ∀ cells, MakesFrom e.1.value cells fun cells v =>
      Shows cells n v e.1.writtenForm)
    (hvalues : ∀ e ∈ entries, ∀ cells, MakesFrom e.2.value cells fun cells v =>
      Shows cells n v e.2.writtenForm) (cells : Array Cell) :
    MakesFrom (entriesOf entries) cells fun cells values =>
      List.Forall₂ (ShowsEntry cells n) values (Datum.writtenEntries entries) := by
  simp only [entriesOf_eq_mapM, Datum.writtenEntries_eq, List.forall₂_map_right_iff]
  refine makesFrom_mapM (fun more he => ShowsEntry.more he more) (fun e he cells => ?_) cells
  obtain ⟨k, d⟩ := e
  refine (hkeys _ he cells).bind fun cells key hkey => ?_
  have hvalue : MakesFrom d.value cells fun cells v =>
      Shows cells n key k.writtenForm ∧ Shows cells n v d.writtenForm :=
    (hvalues _ he cells).mono fun more _ hv => ⟨hkey.more more, hv⟩
  exact hvalue.bind fun cells v hv => makesFrom_pure ⟨_, _, hv.1, hv.2, rfl⟩

theorem Datum.IsPlain.makesFrom_value {n : Nat} {d : Datum} (h : d.IsPlain n)
    (cells : Array Cell) :
    MakesFrom d.value cells fun cells v => Shows cells n v d.writtenForm := by
  induction h generalizing cells with
  | none n => exact makesFrom_pure (shows_constant fun _ _ => rfl)
  | bool n b => exact makesFrom_pure (shows_constant fun _ _ => rfl)
  | int n hi => exact makesFrom_pure (shows_int cells n hi)
  | text n s => exact makesFrom_pure (shows_constant fun _ _ => rfl)
  | tuple _ ih =>
    exact (makesFrom_valuesOf ih cells).bind fun _ _ hvalues => makesFrom_pure (shows_tuple hvalues)
  | list _ ih =>
    exact (makesFrom_valuesOf ih cells).bind fun _ _ hvalues => makesFrom_alloc (shows_list hvalues)
  | dict _ _ _ _ ihkeys ihvalues =>
    exact (makesFrom_entriesOf ihkeys ihvalues cells).bind fun _ _ hentries =>
      makesFrom_alloc (shows_dict hentries)

/-- What a value of a datum with few brackets is written as. -/
theorem Shows.ends_shown {cells : Array Cell} {v : Value} {text : String}
    (h : Shows cells maxBrackets v text) {t : State} (ht : t.cells = cells) :
    (shown v).ends t = some (.ok text, t) :=
  h t [] maxValueDepth ⟨#[], by rw [ht, Array.append_empty]⟩
    (fun a ha => absurd ha List.not_mem_nil) (by decide)

end LambdaText
