import LambdaText.Builtin.Attribute
import LambdaText.Code.Scope
import LambdaText.Eval.Iteration

/-!
# Assignment

Giving a value to a target: a name, an attribute, an item, or a row of targets among which the
items of the value are shared out.
-/

namespace LambdaText

open LambdaText.Code

variable (m : Machine)

/-- Shares the items of a value out among targets: how many stand before a spread target, and how
many behind it if there is one. -/
def shareOut (v : Value) (before : Nat) (behind : Option Nat) : Run (List Value) := do
  match behind with
  | none => unpackExactly m v before
  | some behind =>
    let items ← match ← itemsAtHand? v with
      | some items => pure items
      | none =>
        match v with
        | .iterator _ _ => drain m v
        | _ => Run.raise "TypeError" s!"cannot unpack non-iterable {v.kindName} object"
    if items.length < before + behind then
      Run.raise "ValueError"
        s!"not enough values to unpack (expected at least {before + behind}, got {items.length})"
    else
      let middle := (items.drop before).take (items.length - before - behind)
      let spread ← Run.newList middle.toArray
      return items.take before ++ spread :: items.drop (items.length - behind)

mutual

def assign (scope : Scope) : Expr → Value → Run Unit
  | .name n, v => bindName scope n v
  | .attribute o n, _ => do setAttribute (← m.expr scope o) n
  | .subscript o i, v => do
    let object ← m.expr scope o
    let index ← m.expr scope i
    setItem object index v (itemsOf m v)
  | .tuple targets, v => do
    let before := (targets.takeWhile fun t => !t.isStar).length
    let behind := if targets.any Expr.isStar then some (targets.length - before - 1) else none
    assignRow scope targets (← shareOut m v before behind)
  | .list targets, v => do
    let before := (targets.takeWhile fun t => !t.isStar).length
    let behind := if targets.any Expr.isStar then some (targets.length - before - 1) else none
    assignRow scope targets (← shareOut m v before behind)
  | .star t, v => assign scope t v
  | _, _ => return ()

def assignRow (scope : Scope) : List Expr → List Value → Run Unit
  | t :: targets, v :: values => do
    assign scope t v
    assignRow scope targets values
  | _, _ => return ()

end

def delete (scope : Scope) : Expr → Run Unit
  | .name n => removeName scope n
  | .attribute o n => do setAttribute (← m.expr scope o) n
  | .subscript o i => do deleteItem (← m.expr scope o) (← m.expr scope i)
  | .tuple targets => deleteAll targets
  | .list targets => deleteAll targets
  | _ => return ()
where
  deleteAll : List Expr → Run Unit
    | [] => return ()
    | t :: targets => do
      delete scope t
      deleteAll targets

end LambdaText
