import LambdaText.Proofs.Datum.Values
import LambdaText.Proofs.Function.Transposition
import LambdaText.Proofs.Library.Walks

/-!
# Rows and columns of sequences

Zipping sequences makes a list of lists, which hold the columns of the sequences as far as the
shortest one goes. Zipping these lists makes lists of the sequences, up to there.
-/

namespace LambdaText

open LambdaText.Code LambdaText.Function

/-! ### Lists of lists -/

/-- Whether a value is a list of these items. -/
inductive HoldsList (cells : Array Cell) : Value → List Value → Prop
  | list {address : Nat} {items : List Value} (h : cells[address]? = some (.list items.toArray)) :
    HoldsList cells (.list address) items

/-- Whether a value is a list of lists of the items of these rows. -/
def HoldsRows (cells : Array Cell) (v : Value) (rows : List (List Value)) : Prop :=
  ∃ lists, HoldsList cells v lists ∧ List.Forall₂ (HoldsList cells) lists rows

variable {cells : Array Cell} {m : Machine} {v : Value} {items vs : List Value}
  {rows : List (List Value)} {s t : State}

theorem HoldsList.more (h : HoldsList cells v items) (more : Array Cell) :
    HoldsList (cells ++ more) v items := by
  cases h with
  | list h =>
    exact .list (by rw [Array.getElem?_append_left (Array.getElem?_eq_some_iff.1 h).1, h])

theorem HoldsList.isSequence (h : HoldsList s.cells v items) : s.IsSequence v items := by
  cases h with
  | list h => exact .list h

theorem makesFrom_newList (items : List Value) (cells : Array Cell) :
    MakesFrom (Run.newList items.toArray) cells fun cells v => HoldsList cells v items :=
  makesFrom_alloc (.list (by simp))

theorem makesFrom_newRows (rows : List (List Value)) (cells : Array Cell) :
    MakesFrom (newRows rows) cells fun cells v => HoldsRows cells v rows := by
  have hlists : MakesFrom (rows.mapM fun row => Run.newList row.toArray) cells
      fun cells lists => List.Forall₂ (HoldsList cells) lists rows :=
    makesFrom_mapM (fun more h => HoldsList.more h more) (fun row _ => makesFrom_newList row) cells
  refine hlists.bind fun cells lists hlists => (makesFrom_newList lists cells).mono ?_
  exact fun more v hv => ⟨lists, hv, hlists.imp fun _ _ h => h.more more⟩

/-! ### Zipping -/

theorem makesFrom_iterator (h : s.IsSequence v items) (cells : Array Cell) :
    MakesFrom (iterator v) cells fun _ _ => True := by
  cases h with
  | @fixed v items h =>
    cases v <;> first
      | (cases h; done)
      | exact makesFrom_alloc trivial
  | range => exact makesFrom_alloc trivial
  | list => exact makesFrom_alloc trivial

theorem ends_rowsAtHand? (h : List.Forall₂ s.IsSequence vs rows) (m : Machine) :
    (rowsAtHand? m vs).ends s = some (.ok (some rows), s) := by
  induction h with
  | nil => rfl
  | @cons v items vs rows hv _ ih =>
    have hrow : rowsAtHand? m (v :: vs) =
        rowsAtHand? m vs >>= fun rest => itemsOf m v >>= fun items =>
          return rest.map (items :: ·) := by
      cases hv with
      | @fixed v _ h => cases v <;> first | (cases h; done) | rfl
      | range => rfl
      | list => rfl
    rw [hrow, Run.ends_bind_of_ok ih, Run.ends_bind_of_ok (ends_itemsOf hv m)]
    rfl

/-- Sequences are zipped to a list of lists, their columns. -/
theorem makesFrom_zipItems (h : List.Forall₂ s.IsSequence vs rows) (m : Machine) :
    MakesFrom (zipItems m vs) s.cells fun cells w => HoldsRows cells w (transpose rows) := by
  have heach : List.Forall₂ (fun v items =>
      (∀ cells, MakesFrom (iterator v) cells fun _ _ => True) ∧ s.IsSequence v items) vs rows :=
    h.imp fun v items hv => ⟨makesFrom_iterator hv, hv⟩
  have hiterators : MakesFrom (vs.mapM iterator) s.cells fun cells _ =>
      ∃ more, cells = s.cells ++ more :=
    (makesFrom_mapM (fun _ _ => trivial) ((List.forall₂_and_left vs rows).1 heach).1 s.cells).mono
      fun more _ _ => ⟨more, rfl⟩
  refine hiterators.bind fun cells iterators hcells => ?_
  have hrows : MakesFrom (rowsAtHand? m vs) cells fun _ given => given = some rows :=
    makesFrom_of_ends (fun t ht => ends_rowsAtHand? (h.imp fun _ _ hv => hv.more (ht ▸ hcells)) m)
      rfl
  refine hrows.bind fun cells given hgiven => ?_
  subst hgiven
  exact makesFrom_newRows (transpose rows) cells

/-- Zips sequences, and then what that gives. -/
def zipTwice (m : Machine) (vs : List Value) : Run Value := do
  let columns ← Operation.zipItems.run m [] vs
  Operation.zipItems.run m [] (← itemsOf m columns)

theorem makesFrom_zipTwice (h : List.Forall₂ s.IsSequence vs rows) (m : Machine) :
    MakesFrom (zipTwice m vs) s.cells fun cells w =>
      HoldsRows cells w (transpose (transpose rows)) := by
  refine (makesFrom_zipItems h m).bind fun cells columns hcolumns => ?_
  obtain ⟨lists, hlist, hlists⟩ := hcolumns
  have hitems : MakesFrom (itemsOf m columns) cells fun cells given =>
      given = lists ∧ List.Forall₂ (HoldsList cells) lists (transpose rows) :=
    makesFrom_of_ends (fun t ht => ends_itemsOf (HoldsList.isSequence (ht ▸ hlist)) m) ⟨rfl, hlists⟩
  refine hitems.bind fun cells given hgiven => ?_
  obtain ⟨rfl, hlists⟩ := hgiven
  exact makesFrom_zipItems (s := { cells }) (hlists.imp fun _ _ => HoldsList.isSequence) m

/-- Zipping transposes, and zipping twice gives the sequences back up to the length of the shortest
one. It does nothing else than to make lists. The lists that it makes are as many as the shortest
sequence has items, each with one item per sequence, which is the item of the sequence at the place
of the list. -/
theorem zip_transposes (h : List.Forall₂ s.IsSequence vs rows) (m : Machine) :
    (rows ≠ [] → (∃ row ∈ rows, row.length = shortest rows) ∧
      ∀ row ∈ rows, shortest rows ≤ row.length) ∧
    (∃ w more columns, (Operation.zipItems.run m [] vs).ends s =
        some (.ok w, { s with cells := s.cells ++ more }) ∧
      HoldsRows (s.cells ++ more) w columns ∧
      (rows = [] ∨ shortest rows = 0 → columns = []) ∧
      columns.length = shortest rows ∧ (∀ column ∈ columns, column.length = rows.length) ∧
      ∀ (i j : Nat) (row column : List Value), rows[i]? = some row →
        columns[j]? = some column → column[i]? = row[j]?) ∧
    (0 < shortest rows → ∃ w more, (zipTwice m vs).ends s =
        some (.ok w, { s with cells := s.cells ++ more }) ∧
      HoldsRows (s.cells ++ more) w (rows.map (List.take (shortest rows)))) := by
  refine ⟨fun hrows => ⟨exists_length_eq_shortest hrows, fun row => shortest_le⟩, ?once,
    fun hpos => ?twice⟩
  case once =>
    obtain ⟨w, more, hend, hw⟩ := (makesFrom_zipItems h m).exists_ends
    refine ⟨w, more, transpose rows, hend, hw, fun hempty => ?_, length_transpose rows,
      fun column => length_of_mem_transpose, fun i j row column hrow hcolumn => ?_⟩
    · have hzero : shortest rows = 0 := hempty.elim (fun hrows => by rw [hrows]; rfl) id
      rw [← List.length_eq_zero_iff, length_transpose, hzero]
    · have hj : j < shortest rows := by
        rw [← length_transpose]
        exact (List.getElem?_eq_some_iff.1 hcolumn).1
      have hitem := item_transpose hj i
      rwa [hrow, hcolumn] at hitem
  case twice =>
    rw [← transpose_transpose hpos]
    exact (makesFrom_zipTwice h m).exists_ends

/-- A text of two characters and a list of three numbers. -/
theorem zip_transposes_ragged :
    ∃ w more, (zipTwice (machineAt 1) [.text "ab", .list 0]).ends
        { cells := #[.list #[.int 1, .int 2, .int 3]] } =
          some (.ok w, { cells := #[.list #[.int 1, .int 2, .int 3]] ++ more }) ∧
      HoldsRows (#[.list #[.int 1, .int 2, .int 3]] ++ more) w
        [[.text "a", .text "b"], [.int 1, .int 2]] := by
  have hsequences : List.Forall₂
      (State.IsSequence { cells := #[.list #[.int 1, .int 2, .int 3]] })
      [.text "ab", .list 0] [[.text "a", .text "b"], [.int 1, .int 2, .int 3]] :=
    .cons (.fixed rfl) (.cons (.list rfl) .nil)
  exact (zip_transposes hsequences (machineAt 1)).2.2 (by decide)

end LambdaText
