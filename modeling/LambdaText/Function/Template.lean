/-!
# Templates with holes

An argument list in which some positions are open. Arguments fill the holes from left to right, and
those that are left over go to the end.
-/

namespace LambdaText.Function

/-- A function with a template for its arguments. -/
structure Template (α : Type) where
  function : α
  items : List α

/-- Puts arguments into the holes of a template, and what is left over behind it. -/
def fill {α : Type} (isHole : α → Bool) : List α → List α → List α
  | [], arguments => arguments
  | items, [] => items
  | item :: items, a :: arguments =>
    if isHole item then a :: fill isHole items arguments
    else item :: fill isHole items (a :: arguments)

/-- The positions of the holes in a template, counted from `start`. -/
def holePositions {α : Type} (isHole : α → Bool) (start : Nat) : List α → List Nat
  | [] => []
  | item :: items =>
    if isHole item then start :: holePositions isHole (start + 1) items
    else holePositions isHole (start + 1) items

/-- Calls a function whose template is full, or gives a new template. -/
def Template.call {α : Type} {m : Type → Type} (isHole : α → Bool) (defer : Template α → m α)
    (invoke : α → List α → m α) (t : Template α) (arguments : List α) : m α :=
  let items := fill isHole t.items arguments
  if items.any isHole then defer { t with items } else invoke t.function items

end LambdaText.Function
