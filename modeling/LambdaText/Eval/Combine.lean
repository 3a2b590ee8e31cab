import LambdaText.Builtin.Functions
import LambdaText.Eval.Invoke
import LambdaText.Log.Names

/-!
# Calls of functions made from functions

What happens when a function with held arguments, a template or a combined function is called. The
parts are called by the machine, with positions only.
-/

namespace LambdaText

open LambdaText.Function LambdaText.Log

variable (m : Machine)

def callPlain (f : Value) (positions : List Value) : Run Value := m.call f positions []

/-! ### Held arguments and templates -/

def lacksArguments (n : Nat) (count : Value) : Run Bool := ordered .lt (.int n) count

/-- Keeps the arguments of a call that were not enough. -/
def deferCurried (c : Curried Value) : Run Value := do
  let count ← formatValue (c.count.getD .none) ""
  Run.log partialLog .debug
    s!"Curried call has {c.held.length} of {count} arguments; deferring"
  return .curried (← Run.fresh) c

def callCurried (c : Curried Value) (positions : List Value) (keywords : Keywords) :
    Run Value := do
  noKeywords "CurriedCallable.__call__" keywords
  c.call truth lacksArguments deferCurried (callPlain m) positions

def deferTemplate (t : Template Value) : Run Value := do
  let items ← t.items.mapM shown
  Run.log partialLog .debug s!"Partial call still has holes: [{commaList items}]"
  return .template (← Run.fresh) t

def callTemplate (t : Template Value) (positions : List Value) (keywords : Keywords) :
    Run Value := do
  noKeywords "PartialCallable.__call__" keywords
  t.call Value.isHole deferTemplate (callPlain m) positions

/-! ### Combined functions -/

def combinedParameters (c : Combinator Value) : List Code.Parameter :=
  c.demanded.map Code.Parameter.plain ++
    if c.takesMore then [.mk "" .variadic none] else []

/-- The demanded arguments of a combined function and the further ones. -/
def shareCombined (c : Combinator Value) (positions : List Value) (keywords : Keywords) :
    Run (List Value × List Value) := do
  let values ← bindArguments c.name (combinedParameters c) [] positions keywords
  let demanded := c.demanded.map fun n => (values.lookup n).getD .none
  match values.lookup "" with
  | some (.tuple more) => return (demanded, more)
  | _ => return (demanded, [])

/-- Replaces the arguments that a slice selects by what a function makes of a list of them. -/
def filterSelected (f slice filter : Value) (positions : List Value) : Run Value := do
  let row ← Run.newList positions.toArray
  let v ← callPlain m filter [← getItem row slice]
  setItem row slice v (itemsOf m v)
  callPlain m f (← itemsOf m row)

/-- Replaces the argument at an index by what a function makes of it. -/
def filterArgument (f index filter : Value) (positions : List Value) : Run Value := do
  match index with
  | .slice _ _ _ => filterSelected m f index filter positions
  | _ =>
    let i ← rowPosition "list" positions.length index
    let v ← callPlain m filter [positions[i]?.getD .none]
    callPlain m f (positions.set i v)

/-- Replaces a window of arguments by what a function makes of it. -/
def filterWindow (f filter first last : Value) (positions : List Value) : Run Value := do
  let (a, b, _) ← sliceParts first last .none
  let v ← callPlain m filter (window positions a b)
  let part ← match v with
    | .list address => pure (← Run.listItems address).toList
    | .tuple items => pure items
    | _ => pure [v]
  callPlain m f (replaceWindow positions a b part)

def callNamed (v name : Value) (positions : List Value) : Run Value := do
  match name with
  | .text n => callPlain m (← attributeOf v n) positions
  | _ => Run.raise "TypeError" s!"attribute name must be string, not '{name.kindName}'"

def isInteger (v : Value) : Bool := belongsTo v.kindName "int"

/-- Looks a name up: an item of a dictionary, an item at an integer, or an attribute. -/
def pluckFrom (v name : Value) : Run Value := do
  let byItem := match v with
    | .dict _ => true
    | _ => isInteger name
  if byItem then getItem v name
  else match name with
    | .text n => attributeOf v n
    | _ => Run.raise "TypeError" s!"attribute name must be string, not '{name.kindName}'"

def iterationStep (test f v : Value) : Run (Value ⊕ Value) := do
  if ← truth (← callPlain m test [v]) then return .inr v
  else return .inl (← callPlain m f [v])

def iterateUntil (test f v : Value) : Run Value := Run.iterate (iterationStep m test f) v

def callCombined (c : Combinator Value) (positions : List Value) (keywords : Keywords) :
    Run Value := do
  let (demanded, more) ← shareCombined c positions keywords
  let receiver := demanded.headD .none
  let call := callPlain m
  match c with
  | .constant v => return v
  | .compose fs => callInSequence call .none fs.reverse more
  | .sequence fs => callInSequence call .none fs more
  | .flip f => call f (exchange more)
  | .uncurry f => callUncurried call f more
  | .guarded f test fallback => callGuarded call truth .none f test fallback more
  | .returning f => callReturning call f receiver more
  | .filterAt f index filter => filterArgument m f index filter more
  | .filterSlice f filter first last => filterWindow m f filter first last more
  | .negate f => return .bool !(← truth (← call f more))
  | .invoke name arguments => callNamed m receiver name (more ++ arguments)
  | .pluck name => pluckFrom receiver name
  | .iterate test f => iterateUntil m test f receiver
  | .saturate f arguments => call f arguments

end LambdaText
