import LambdaText.Library.Sequences

/-!
# Making functions from functions

Every function that is made from others makes its parts callable first, once and in order, so that
nothing is called and no text is read later than at the making.
-/

namespace LambdaText

open LambdaText.Function LambdaText.Log

variable (m : Machine)

def newCurried (c : Curried Value) : Run Value := return .curried (← Run.fresh) c

def newCombined (c : Combinator Value) : Run Value := return .combined (← Run.fresh) c

/-- The functions for values that stand for functions. -/
def coerceAll : List Value → Run (List Value)
  | [] => return []
  | v :: rest => do
    let f ← coerce m v
    return f :: (← coerceAll rest)

/-- A value that may be absent. -/
def present? : Value → Option Value
  | .none => none
  | v => some v

/-- The function for a value that may be absent. -/
def coercePresent (v : Value) : Run (Option Value) := do
  match present? v with
  | some v => return some (← coerce m v)
  | none => return none

/-! ### Held arguments -/

/-- Whether a value is a number of arguments. -/
def isCount : Value → Bool
  | .int i => decide (0 ≤ i)
  | _ => false

def checkCount (n : Value) : Run Value := do
  if isCount n then return n else fail (.invalidCount (← shown n))

def hold (right : Bool) (f : Value) (arguments : List Value) : Run Value := do
  let function ← coerce m f
  newCurried { function, held := arguments, count := none, right := .bool right }

def holdCounted (right : Bool) (n f : Value) (arguments : List Value) : Run Value := do
  let function ← coerce m f
  let count ← checkCount n
  newCurried { function, held := arguments, count := some count, right := .bool right }

def holdTemplate (f : Value) (items : List Value) : Run Value := do
  let function ← coerce m f
  return .template (← Run.fresh) { function, items }

/-! ### Combined functions -/

def combineOne (make : Value → Combinator Value) (f : Value) : Run Value := do
  newCombined (make (← coerce m f))

def combineTwo (make : Value → Value → Combinator Value) (f g : Value) : Run Value := do
  let f ← coerce m f
  newCombined (make f (← coerce m g))

def combineRow (make : List Value → Combinator Value) (fs : List Value) : Run Value := do
  newCombined (make (← coerceAll m fs))

def combineGuarded (f test fallback : Value) : Run Value := do
  let f ← coerce m f
  let test ← coercePresent m test
  newCombined (.guarded f test (← coercePresent m fallback))

end LambdaText
