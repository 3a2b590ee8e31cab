import LambdaText.Builtin.Arguments
import LambdaText.Eval.Iteration

/-!
# Items, entries and arguments

Evaluating the parts of displays and calls in order, where a part may be spread: the items of a
sequence, or the entries of a mapping.
-/

namespace LambdaText

open LambdaText.Code

variable (m : Machine)

def spreadItems (v : Value) : Run (List Value) := do
  match v with
  | .iterator _ _ => drain m v
  | _ =>
    match ← itemsAtHand? v with
    | some items => return items
    | none => Run.raise "TypeError" s!"Value after * must be an iterable, not {v.kindName}"

def evalItems (scope : Scope) : List Expr → Run (List Value)
  | [] => return []
  | .star e :: rest => do
    let items ← spreadItems m (← m.expr scope e)
    return items ++ (← evalItems scope rest)
  | e :: rest => do
    let v ← m.expr scope e
    return v :: (← evalItems scope rest)

def spreadEntries (v : Value) : Run (Array (Value × Value)) := do
  match v with
  | .dict a => Run.dictEntries a
  | _ => Run.raise "TypeError" s!"'{v.kindName}' object is not a mapping"

def addChecked (entries : Array (Value × Value)) :
    List (Value × Value) → Run (Array (Value × Value))
  | [] => return entries
  | (k, v) :: rest => do
    demandKey k
    addChecked (addEntry entries k v) rest

/-- The entries of a dictionary display. Pairs in a row, the last ones in `waiting`, are all
evaluated before they are added. -/
def evalEntries (scope : Scope) (entries : Array (Value × Value))
    (waiting : List (Value × Value)) : List Entry → Run (Array (Value × Value))
  | [] => addChecked entries waiting.reverse
  | .pair k e :: rest => do
    let key ← m.expr scope k
    let v ← m.expr scope e
    evalEntries scope entries ((key, v) :: waiting) rest
  | .spread e :: rest => do
    let entries ← addChecked entries waiting.reverse
    let more ← spreadEntries (← m.expr scope e)
    evalEntries scope (more.foldl (fun out (k, v) => addEntry out k v) entries) [] rest

def evalPositions (scope : Scope) : List Argument → Run (List Value)
  | [] => return []
  | .positional e :: rest => do
    let v ← m.expr scope e
    return v :: (← evalPositions scope rest)
  | .star e :: rest => do
    let items ← spreadItems m (← m.expr scope e)
    return items ++ (← evalPositions scope rest)
  | _ :: rest => evalPositions scope rest

def addKeyword (keywords : Keywords) (name : String) (v : Value) : Run Keywords := do
  if (keywords.lookup name).isSome then
    Run.raise "TypeError" s!"got multiple values for keyword argument '{name}'"
  else return keywords ++ [(name, v)]

def addSpread (keywords : Keywords) : List (Value × Value) → Run Keywords
  | [] => return keywords
  | (k, v) :: rest => do
    match k with
    | .text name => addSpread (← addKeyword keywords name v) rest
    | _ => Run.raise "TypeError" "keywords must be strings"

def evalKeywords (scope : Scope) (keywords : Keywords) : List Argument → Run Keywords
  | [] => return keywords
  | .keyword name e :: rest => do
    let v ← m.expr scope e
    evalKeywords scope (← addKeyword keywords name v) rest
  | .spread e :: rest => do
    let entries ← spreadEntries (← m.expr scope e)
    evalKeywords scope (← addSpread keywords entries.toList) rest
  | _ :: rest => evalKeywords scope keywords rest

def evalDefaults (scope : Scope) : List Parameter → Run (List (String × Value))
  | [] => return []
  | .mk n _ (some e) :: rest => do
    let v ← m.expr scope e
    return (n, v) :: (← evalDefaults scope rest)
  | .mk _ _ none :: rest => evalDefaults scope rest

end LambdaText
