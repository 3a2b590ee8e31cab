import LambdaText.Eval.Machine
import LambdaText.Eval.Names

/-!
# Iteration

Making iterators, and going through the items of a value.
-/

namespace LambdaText

/-- The name of the class of iterators over a list and so on. -/
def iteratorKind (v : Value) : String :=
  match v with
  | .text s => if s.toList.all fun c => c.toNat < 0x80 then "str_ascii_iterator" else "str_iterator"
  | .view kind _ => kind.dropEnd 1 |>.toString |> (· ++ "iterator")
  | .dict _ => "dict_keyiterator"
  | .bytes _ => "bytes_iterator"
  | v => v.kindName ++ "_iterator"

def notIterable {α : Type} (v : Value) : Run α :=
  Run.raise "TypeError" s!"'{v.kindName}' object is not iterable"

/-- The first state of an iteration over a value; none if it has no items. -/
def iterationOf? (v : Value) : Run (Option Iterator) := do
  match v with
  | .list a => return some (.list a 0)
  | .tuple items => return some (.items items)
  | .text s => return some (.items (s.toList.map fun c => Value.text c.toString))
  | .bytes b => return some (.items (b.map fun x => Value.int x.toNat))
  | .range first last step => return some (.range first (rangeLength first last step) step)
  | .dict a => return some (.dict "dict_keys" a 0 (← Run.dictEntries a).size)
  | .view kind a => return some (.dict kind a 0 (← Run.dictEntries a).size)
  | .set a => return some (.set a 0 (← Run.setItems a).size)
  | _ => return none

def iterator (v : Value) : Run Value := do
  match v with
  | .iterator _ _ => return v
  | _ =>
    match ← iterationOf? v with
    | some i => Run.newIterator (iteratorKind v) i
    | none => notIterable v

variable (m : Machine)

def next? (it : Value) : Run (Option Value) := do
  match it with
  | .iterator _ a => m.advance a
  | _ => notIterable it

/-- Goes through the items of an iterator until a step gives a result or the items end. -/
def foldItems {σ α : Type} (it : Value) (step : σ → Value → Run (σ ⊕ α)) (final : σ → Run α)
    (s : σ) : Run α :=
  Run.iterate (fun s => do
    match ← next? m it with
    | some v => step s v
    | none => return .inr (← final s)) s

def itemsAtHand? (v : Value) : Run (Option (List Value)) := do
  match v with
  | .list a => return some (← Run.listItems a).toList
  | .tuple items => return some items
  | .text s => return some (s.toList.map fun c => Value.text c.toString)
  | .bytes b => return some (b.map fun x => Value.int x.toNat)
  | .range first last step => return some (rangeItems first last step)
  | .dict a => return some ((← Run.dictEntries a).toList.map Prod.fst)
  | .view kind a =>
    return some ((← Run.dictEntries a).toList.map fun (k, e) =>
      match kind with
      | "dict_keys" => k
      | "dict_values" => e
      | _ => .tuple [k, e])
  | .set a => return some (← Run.setItems a).toList
  | _ => return none

/-- The items that an iterator still gives. -/
def drain (it : Value) : Run (List Value) := do
  let items ← foldItems m it (fun (out : Array Value) v => return .inl (out.push v)) pure #[]
  return items.toList

def itemsOf (v : Value) : Run (List Value) := do
  match ← itemsAtHand? v with
  | some items => return items
  | none => drain m (← iterator v)

/-- Takes items until there are `n` or no more. -/
def takeItems (it : Value) : Nat → Run (List Value)
  | 0 => return []
  | n + 1 => do
    match ← next? m it with
    | some v => return v :: (← takeItems it n)
    | none => return []

def unpackExactly (v : Value) (n : Nat) : Run (List Value) := do
  let it ← match v with
    | .iterator _ _ => pure v
    | _ =>
      match ← iterationOf? v with
      | some i => Run.newIterator (iteratorKind v) i
      | none =>
        Run.raise "TypeError" s!"cannot unpack non-iterable {v.kindName} object"
  let items ← takeItems m it n
  if items.length < n then
    Run.raise "ValueError"
      s!"not enough values to unpack (expected {n}, got {items.length})"
  else match ← next? m it with
    | some _ => Run.raise "ValueError" s!"too many values to unpack (expected {n})"
    | none => return items

end LambdaText
