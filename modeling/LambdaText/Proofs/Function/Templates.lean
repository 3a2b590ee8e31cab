import LambdaText.Function.Template
import Mathlib.Data.List.Induction

/-!
# Filling templates

Filling is a monoid: filling a template twice is filling it once with what the first row of
arguments becomes when the second one fills it. What is no hole stays where it is, and the positions
of the holes say where the arguments go.
-/

namespace LambdaText.Function

variable {α : Type} {isHole : α → Bool}

@[simp] theorem fill_nil (arguments : List α) : fill isHole [] arguments = arguments := rfl

@[simp] theorem fill_no_arguments (items : List α) : fill isHole items [] = items := by
  cases items <;> rfl

theorem fill_hole {item : α} (h : isHole item = true) (items : List α) (a : α)
    (arguments : List α) :
    fill isHole (item :: items) (a :: arguments) = a :: fill isHole items arguments :=
  if_pos h

theorem fill_kept {item : α} (h : isHole item = false) (items arguments : List α) :
    fill isHole (item :: items) arguments = item :: fill isHole items arguments := by
  cases arguments with
  | nil => simp
  | cons a arguments => exact if_neg (by simp [h])

/-- Two rows of arguments, one after the other, do what the first row does when it is filled with
the second one. -/
theorem fill_fill (items arguments more : List α) :
    fill isHole (fill isHole items arguments) more =
      fill isHole items (fill isHole arguments more) := by
  induction items generalizing arguments more with
  | nil => simp
  | cons item items ih =>
    by_cases hitem : isHole item = true
    · cases arguments with
      | nil => simp
      | cons a arguments =>
        rw [fill_hole hitem]
        by_cases ha : isHole a = true
        · cases more with
          | nil => rw [fill_no_arguments, fill_no_arguments, fill_hole hitem]
          | cons b more => rw [fill_hole ha, fill_hole ha, fill_hole hitem, ih]
        · rw [Bool.not_eq_true] at ha
          rw [fill_kept ha, fill_kept ha, fill_hole hitem, ih]
    · rw [Bool.not_eq_true] at hitem
      rw [fill_kept hitem, fill_kept hitem, fill_kept hitem, ih]

/-- Rows of arguments in turn fill a template as their own filling does. -/
theorem foldl_fill (items : List α) (rows : List (List α)) :
    rows.foldl (fill isHole) items = fill isHole items (rows.foldl (fill isHole) []) := by
  induction rows using List.reverseRecOn with
  | nil => simp
  | append_singleton rows row ih =>
    simp only [List.foldl_append, List.foldl_cons, List.foldl_nil, ih, fill_fill]

/-- Without holes, arguments go to the end. -/
theorem fill_of_no_hole {items : List α} (h : items.any isHole = false) (arguments : List α) :
    fill isHole items arguments = items ++ arguments := by
  induction items with
  | nil => simp
  | cons item items ih =>
    rw [List.any_cons, Bool.or_eq_false_iff] at h
    rw [fill_kept h.1, ih h.2, List.cons_append]

/-- What is no hole stays where it is. -/
theorem getElem?_fill {items : List α} {i : Nat} {item : α} (hitem : items[i]? = some item)
    (h : isHole item = false) (arguments : List α) :
    (fill isHole items arguments)[i]? = some item := by
  induction items generalizing i arguments with
  | nil => simp at hitem
  | cons first items ih =>
    cases i with
    | zero =>
      rw [List.getElem?_cons_zero, Option.some.injEq] at hitem
      subst hitem
      rw [fill_kept h, List.getElem?_cons_zero]
    | succ i =>
      rw [List.getElem?_cons_succ] at hitem
      by_cases hfirst : isHole first = true
      · cases arguments with
        | nil => simpa using hitem
        | cons a arguments => simpa [fill_hole hfirst] using ih hitem arguments
      · rw [Bool.not_eq_true] at hfirst
        simpa [fill_kept hfirst] using ih hitem arguments

/-- What is no hole stays where it is, however many rows of arguments come. -/
theorem getElem?_foldl_fill {items : List α} {i : Nat} {item : α} (hitem : items[i]? = some item)
    (h : isHole item = false) (rows : List (List α)) :
    (rows.foldl (fill isHole) items)[i]? = some item := by
  rw [foldl_fill]
  exact getElem?_fill hitem h _

/-! ### Positions -/

/-- The positions of a template are those of its holes, in order. -/
theorem holePositions_eq (start : Nat) (items : List α) :
    holePositions isHole start items =
      ((List.range items.length).filter fun i => items[i]?.any isHole).map (start + ·) := by
  induction items generalizing start with
  | nil => rfl
  | cons item items ih =>
    have hshift : (fun i => start + i) ∘ Nat.succ = fun i => start + 1 + i := by
      funext i
      simp only [Function.comp_apply]
      omega
    rw [holePositions, ih, List.length_cons, List.range_succ_eq_map, List.filter_cons,
      List.filter_map, List.getElem?_cons_zero, Option.any_some]
    by_cases hitem : isHole item = true
    · simp only [hitem, if_true, List.map_cons, List.map_map, Nat.add_zero, hshift]
      rfl
    · simp only [hitem, if_false, List.map_map, hshift, Bool.false_eq_true]
      rfl

theorem holePositions_succ (start : Nat) (items : List α) :
    holePositions isHole (start + 1) items = (holePositions isHole start items).map (· + 1) := by
  rw [holePositions_eq, holePositions_eq, List.map_map]
  refine List.map_congr_left fun i _ => ?_
  simp only [Function.comp_apply]
  omega

/-- Setting items behind the first one leaves the first one. -/
theorem foldl_set_cons (item : α) (items : List α) (positions : List Nat) (arguments : List α) :
    ((positions.map (· + 1)).zip arguments).foldl (fun out e => out.set e.1 e.2) (item :: items) =
      item :: (positions.zip arguments).foldl (fun out e => out.set e.1 e.2) items := by
  induction positions generalizing items arguments with
  | nil => rfl
  | cons i positions ih =>
    cases arguments with
    | nil => rfl
    | cons a arguments => exact ih _ _

/-- Arguments are put at the positions of the holes, and those for which there is none go to the
end. -/
theorem fill_eq_foldl_set (items arguments : List α) :
    fill isHole items arguments =
      ((holePositions isHole 0 items).zip arguments).foldl (fun out e => out.set e.1 e.2)
        (items ++ arguments.drop (holePositions isHole 0 items).length) := by
  induction items generalizing arguments with
  | nil => simp [holePositions]
  | cons item items ih =>
    by_cases hitem : isHole item = true
    · rw [holePositions, if_pos hitem, holePositions_succ]
      cases arguments with
      | nil => simp
      | cons a arguments =>
        rw [fill_hole hitem, ih, List.zip_cons_cons, List.foldl_cons, List.length_cons,
          List.length_map, List.drop_succ_cons, List.cons_append, List.set_cons_zero,
          foldl_set_cons]
    · rw [holePositions, if_neg hitem, holePositions_succ, List.length_map, List.cons_append,
        foldl_set_cons, ← ih]
      rw [Bool.not_eq_true] at hitem
      exact fill_kept hitem items arguments

/-- What the next row of arguments makes of a template. -/
theorem foldl_fill_take_succ {rows : List (List α)} {j : Nat} {row : List α}
    (h : rows[j]? = some row) (items : List α) :
    let held := (rows.take j).foldl (fill isHole) items
    (rows.take (j + 1)).foldl (fill isHole) items =
      ((holePositions isHole 0 held).zip row).foldl (fun out e => out.set e.1 e.2)
        (held ++ row.drop (holePositions isHole 0 held).length) := by
  intro held
  rw [List.take_add_one, h, Option.toList_some, List.foldl_append]
  exact fill_eq_foldl_set held row

end LambdaText.Function
