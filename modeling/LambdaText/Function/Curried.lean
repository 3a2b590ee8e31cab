/-!
# Held arguments

A function that holds some of its arguments, before or behind the ones that are still to come. With
a count it waits until that many arguments are there.
-/

namespace LambdaText.Function

/-- A function with held arguments. -/
structure Curried (α : Type) where
  function : α
  held : List α
  count : Option α
  right : α

/-- Held and new arguments in the order in which the function takes them. -/
def combine {α : Type} (right : Bool) (held more : List α) : List α :=
  if right then more ++ held else held ++ more

/-- Calls a function with held arguments, or gives a new one that holds more. `behind` reads the
side, `lacks` compares a number of arguments with the count, and `defer` makes the new function. -/
def Curried.call {α : Type} {m : Type → Type} [Monad m] (behind : α → m Bool)
    (lacks : Nat → α → m Bool) (defer : Curried α → m α) (invoke : α → List α → m α)
    (c : Curried α) (more : List α) : m α := do
  let arguments := combine (← behind c.right) c.held more
  match c.count with
  | some count =>
    if ← lacks arguments.length count then defer { c with held := arguments }
    else invoke c.function arguments
  | none => invoke c.function arguments

end LambdaText.Function
