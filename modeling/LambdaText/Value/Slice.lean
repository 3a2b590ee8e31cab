/-!
# Slices

Which positions of a row a slice selects. Negative bounds count from the end, and bounds beyond the
row are moved to it.
-/

namespace LambdaText

/-- A bound of a slice, moved into the row; `low` and `high` are the outermost positions. -/
def clampBound (size : Nat) (low high : Int) (bound : Int) : Int :=
  let b := if bound < 0 then bound + size else bound
  if b < low then low else if high < b then high else b

/-- The first position of a slice and the one that ends it, for a row of a size. -/
def sliceBounds (size : Nat) (first last : Option Int) (step : Int) : Int × Int :=
  if 0 < step then
    ((first.map (clampBound size 0 size)).getD 0, (last.map (clampBound size 0 size)).getD size)
  else
    let clamp := clampBound size (-1) ((size : Int) - 1)
    ((first.map clamp).getD ((size : Int) - 1), (last.map clamp).getD (-1))

/-- The number of positions from one bound to another by a step. -/
def stepCount (first last step : Int) : Nat :=
  if 0 < step then
    if first < last then ((last - first - 1) / step + 1).toNat else 0
  else if step < 0 then
    if last < first then ((first - last - 1) / (-step) + 1).toNat else 0
  else 0

def slicePositions (size : Nat) (first last : Option Int) (step : Int) : List Nat :=
  let (a, b) := sliceBounds size first last step
  (List.range (stepCount a b step)).map fun (i : Nat) => (a + i * step).toNat

/-- A position of a row, counted from the end if it is negative. -/
def position? (size : Nat) (index : Int) : Option Nat :=
  let i := if index < 0 then index + size else index
  if 0 ≤ i ∧ i < size then some i.toNat else none

def window {α : Type} (items : List α) (first last : Option Int) : List α :=
  let (a, b) := sliceBounds items.length first last 1
  (items.take b.toNat).drop a.toNat

def replaceWindow {α : Type} (items : List α) (first last : Option Int) (part : List α) : List α :=
  let (a, b) := sliceBounds items.length first last 1
  items.take a.toNat ++ part ++ items.drop (max a b).toNat

end LambdaText
