import Mathlib.Data.List.Basic
import LambdaText.Function.Sequence

/-!
# Rows and columns

The columns of rows go as far as the shortest row does. An item of a column is the item of its row
at the place of the column, and the columns of the columns are what the columns hold of the rows.
-/

namespace LambdaText.Function

variable {α : Type} {rows : List (List α)} {row : List α} {i j : Nat}

/-! ### The shortest row -/

theorem shortest_le (h : row ∈ rows) : shortest rows ≤ row.length := by
  have hlength : row.length ∈ rows.map List.length := List.mem_map_of_mem h
  rw [shortest, List.min?_eq_some_min (List.ne_nil_of_mem hlength), Option.getD_some]
  exact List.min_le_of_mem hlength

theorem exists_length_eq_shortest (h : rows ≠ []) : ∃ row ∈ rows, row.length = shortest rows := by
  have hlengths : rows.map List.length ≠ [] := by simpa using h
  rw [shortest, List.min?_eq_some_min hlengths, Option.getD_some]
  exact List.mem_map.1 (List.min_mem hlengths)

theorem shortest_of_lengths {n : Nat} (h : rows ≠ []) (hlengths : ∀ row ∈ rows, row.length = n) :
    shortest rows = n := by
  obtain ⟨row, hrow, heq⟩ := exists_length_eq_shortest h
  rw [← heq, hlengths row hrow]

/-! ### Columns -/

/-- A column that no row is too short for has an item of every row. -/
theorem getElem?_column (h : ∀ row ∈ rows, j < row.length) (i : Nat) :
    (rows.filterMap fun row => row[j]?)[i]? = rows[i]?.bind fun row => row[j]? := by
  induction rows generalizing i with
  | nil => rfl
  | cons row rows ih =>
    have hlong : j < row.length := h row List.mem_cons_self
    have hitem : row[j]? = some row[j] := List.getElem?_eq_getElem hlong
    have hrows := ih fun row hrow => h row (List.mem_cons_of_mem _ hrow)
    simp only [List.filterMap_cons, hitem]
    cases i with
    | zero => exact hitem.symm
    | succ i => exact hrows i

@[simp] theorem length_transpose (rows : List (List α)) :
    (transpose rows).length = shortest rows := by
  rw [transpose, List.length_map, List.length_range]

theorem getElem?_transpose (h : j < shortest rows) :
    (transpose rows)[j]? = some (rows.filterMap fun row => row[j]?) := by
  rw [transpose, List.getElem?_map, List.getElem?_range h, Option.map_some]

theorem item_transpose (h : j < shortest rows) (i : Nat) :
    ((transpose rows)[j]?.bind fun column => column[i]?) = rows[i]?.bind fun row => row[j]? := by
  rw [getElem?_transpose h, Option.bind_some]
  exact getElem?_column (fun row hrow => Nat.lt_of_lt_of_le h (shortest_le hrow)) i

theorem length_of_mem_transpose {column : List α} (h : column ∈ transpose rows) :
    column.length = rows.length := by
  obtain ⟨j, hj, rfl⟩ := List.mem_map.1 h
  refine List.filterMap_length_eq_length.2 fun row hrow => ?_
  have hlong : j < row.length := Nat.lt_of_lt_of_le (List.mem_range.1 hj) (shortest_le hrow)
  simpa using hlong

/-- The columns of the columns are the rows, as far as the shortest one goes. -/
theorem transpose_transpose (h : 0 < shortest rows) :
    transpose (transpose rows) = rows.map (List.take (shortest rows)) := by
  have hcolumns : transpose rows ≠ [] := by
    rw [← List.length_pos_iff, length_transpose]
    exact h
  have hshortest : shortest (transpose rows) = rows.length :=
    shortest_of_lengths hcolumns fun _ => length_of_mem_transpose
  refine List.ext_getElem (by simp [hshortest]) fun i hi hi' => Option.some.inj ?_
  rw [length_transpose] at hi
  rw [List.length_map] at hi'
  rw [← List.getElem?_eq_getElem, getElem?_transpose hi, List.getElem_map]
  refine congrArg some (List.ext_getElem? fun j => ?_)
  rw [getElem?_column fun column hcolumn => Nat.lt_of_lt_of_le hi (shortest_le hcolumn)]
  rcases Nat.lt_or_ge j (shortest rows) with hj | hj
  · rw [item_transpose hj, List.getElem?_eq_getElem hi', Option.bind_some,
      List.getElem?_take_of_lt hj]
  · rw [List.getElem?_eq_none (by rwa [length_transpose]), Option.bind_none,
      List.getElem?_take_eq_none hj]

end LambdaText.Function
