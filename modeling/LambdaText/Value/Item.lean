import LambdaText.Value.Arithmetic
import LambdaText.Value.Slice

/-!
# Items of values

Reading, replacing and deleting the items of rows and dictionaries, and asking whether an item is
there.
-/

namespace LambdaText

def sliceBound (v : Value) : Run (Option Int) := do
  match v with
  | .none => return none
  | v =>
    match v.index? with
    | some i => return some i
    | none =>
      Run.raise "TypeError"
        "slice indices must be integers or None or have an __index__ method"

def sliceParts (first last step : Value) : Run (Option Int × Option Int × Int) := do
  let step ← sliceBound step
  let first ← sliceBound first
  let last ← sliceBound last
  match step with
  | some 0 => Run.raise "ValueError" "slice step cannot be zero"
  | some k => return (first, last, k)
  | none => return (first, last, 1)

def sliced {α : Type} (items : Array α) (first last step : Value) : Run (List α) := do
  let (first, last, step) ← sliceParts first last step
  return (slicePositions items.size first last step).filterMap fun i => items[i]?

def rowPosition (what : String) (size : Nat) (index : Value) : Run Nat := do
  match index.index? with
  | some i =>
    match position? size i with
    | some n => return n
    | none => Run.raise "IndexError" s!"{what} index out of range"
  | none =>
    let what := if what == "list assignment" then "list" else what
    Run.raise "TypeError"
      s!"{what} indices must be integers or slices, not {index.kindName}"

def demandKey (key : Value) : Run Unit := do
  match key.unhashable? with
  | some kind => Run.raise "TypeError" s!"unhashable type: '{kind}'"
  | none => return ()

def dictGet? (address : Nat) (key : Value) : Run (Option Value) := do
  demandKey key
  let entries ← Run.dictEntries address
  return (Value.findKey entries key).bind fun i => entries[i]?.map Prod.snd

def dictSet (address : Nat) (key value : Value) : Run Unit := do
  demandKey key
  let entries ← Run.dictEntries address
  Run.setCell address (.dict (addEntry entries key value))

def dictRemove? (address : Nat) (key : Value) : Run (Option Value) := do
  demandKey key
  let entries ← Run.dictEntries address
  match Value.findKey entries key with
  | some i =>
    Run.setCell address (.dict (entries.eraseIdxIfInBounds i))
    return entries[i]?.map Prod.snd
  | none => return none

def getItem (v index : Value) : Run Value := do
  match v, index with
  | .list a, .slice f l s => Run.newList (← sliced (← Run.listItems a) f l s).toArray
  | .tuple items, .slice f l s => return .tuple (← sliced items.toArray f l s)
  | .text t, .slice f l s => return .ofChars (← sliced t.toList.toArray f l s)
  | .bytes b, .slice f l s => return .bytes (← sliced b.toArray f l s)
  | .range a b c, .slice f l s =>
    let (f, l, s) ← sliceParts f l s
    let (i, j) := sliceBounds (rangeLength a b c) f l s
    return .range (a + i * c) (a + j * c) (c * s)
  | .list a, _ =>
    let items ← Run.listItems a
    return items[← rowPosition "list" items.size index]?.getD .none
  | .tuple items, _ =>
    return (items[← rowPosition "tuple" items.length index]?).getD .none
  | .text t, _ =>
    let chars := t.toList
    let i ← rowPosition "string" chars.length index
    return .ofChars (chars[i]?.toList)
  | .bytes b, _ =>
    let i ← rowPosition "byte" b.length index
    return .int ((b[i]?.map fun x => (x.toNat : Int)).getD 0)
  | .range a b c, _ =>
    let i ← rowPosition "range object" (rangeLength a b c) index
    return .int (a + i * c)
  | .dict a, key =>
    match ← dictGet? a key with
    | some value => return value
    | none => throw (.error "KeyError" [key] none)
  | .type name, _ =>
    if ["list", "dict", "tuple", "set", "type"].contains name then return v
    else Run.raise "TypeError" s!"type '{name}' is not subscriptable"
  | _, _ => Run.raise "TypeError" s!"'{v.kindName}' object is not subscriptable"

def setSlice (address : Nat) (first last step : Value) (part : List Value) : Run Unit := do
  let items ← Run.listItems address
  let (first, last, step) ← sliceParts first last step
  if step = 1 then
    Run.setCell address (.list (replaceWindow items.toList first last part).toArray)
  else
    let positions := slicePositions items.size first last step
    if positions.length ≠ part.length then
      Run.raise "ValueError"
        s!"attempt to assign sequence of size {part.length} to extended slice of size {positions.length}"
    else
      Run.setCell address
        (.list ((positions.zip part).foldl (fun out (i, v) => out.setIfInBounds i v) items))

def setItem (v index value : Value) (part : Run (List Value)) : Run Unit := do
  match v, index with
  | .list a, .slice f l s => setSlice a f l s (← part)
  | .list a, _ =>
    let items ← Run.listItems a
    let i ← rowPosition "list assignment" items.size index
    Run.setCell a (.list (items.setIfInBounds i value))
  | .dict a, key => dictSet a key value
  | _, _ =>
    Run.raise "TypeError" s!"'{v.kindName}' object does not support item assignment"

def deleteItem (v index : Value) : Run Unit := do
  match v, index with
  | .list a, .slice f l s =>
    let items ← Run.listItems a
    let (f, l, s) ← sliceParts f l s
    let positions := slicePositions items.size f l s
    let kept := (items.toList.zipIdx.filter fun (_, i) => !positions.contains i).map Prod.fst
    Run.setCell a (.list kept.toArray)
  | .list a, _ =>
    let items ← Run.listItems a
    let i ← rowPosition "list assignment" items.size index
    Run.setCell a (.list (items.eraseIdxIfInBounds i))
  | .dict a, key =>
    match ← dictRemove? a key with
    | some _ => return ()
    | none => throw (.error "KeyError" [key] none)
  | _, _ => Run.raise "TypeError" s!"'{v.kindName}' object doesn't support item deletion"

def occursIn (part text : List Char) : Bool :=
  part.isPrefixOf text || match text with
    | [] => false
    | _ :: rest => occursIn part rest

/-- Whether one of the items is the same as a value or equal to it. -/
def anyMatches (v : Value) : List Value → Run Bool
  | [] => return false
  | item :: rest => do if ← matches_ item v then return true else anyMatches v rest

def inRange (first last step i : Int) : Bool :=
  let k := Int.fdiv (i - first) step
  step != 0 && k * step == i - first && 0 ≤ k && k < rangeLength first last step

/-- Whether a value is in a container that need not be gone through; none for other containers. -/
def contains? (container v : Value) : Run (Option Bool) := do
  match container, v with
  | .text s, .text t => return some (occursIn t.toList s.toList)
  | .text _, _ =>
    Run.raise "TypeError"
      s!"'in <string>' requires string as left operand, not {v.kindName}"
  | .bytes b, _ =>
    match v with
    | .bytes c =>
      let letters := fun (bytes : List UInt8) => bytes.map fun x => Char.ofNat x.toNat
      return some (occursIn (letters c) (letters b))
    | _ =>
      match v.index? with
      | some i =>
        if 0 ≤ i ∧ i < 256 then return some (b.any fun x => (x.toNat : Int) == i)
        else Run.raise "ValueError" "byte must be in range(0, 256)"
      | none =>
        Run.raise "TypeError" s!"a bytes-like object is required, not '{v.kindName}'"
  | .tuple items, _ => return some (← anyMatches v items)
  | .list a, _ => return some (← anyMatches v (← Run.listItems a).toList)
  | .dict a, _ | .view "dict_keys" a, _ => return some (← dictGet? a v).isSome
  | .set _, .set _ => return some false
  | .set a, _ =>
    demandKey v
    return some ((← Run.setItems a).any (Value.sameKey v))
  | .range a b c, _ =>
    match v.index? with
    | some i => return some (inRange a b c i)
    | none => return some (← anyMatches v (rangeItems a b c))
  | _, _ => return none

end LambdaText
