import LambdaText.Builtin.Arguments
import LambdaText.Eval.Iteration

/-!
# Methods of rows, dictionaries and sets
-/

namespace LambdaText

variable (m : Machine)

def listMethods : List String :=
  ["append", "clear", "copy", "count", "extend", "index", "insert", "pop", "remove", "reverse",
   "sort"]

def tupleMethods : List String := ["count", "index"]

def dictMethods : List String :=
  ["clear", "copy", "get", "items", "keys", "pop", "popitem", "setdefault", "update", "values"]

def setMethods : List String :=
  ["add", "clear", "copy", "difference", "discard", "intersection", "isdisjoint", "issubset",
   "issuperset", "pop", "remove", "symmetric_difference", "union", "update"]

/-- The number of items that are the same as a value or equal to it. -/
def countMatches (v : Value) : List Value → Run Nat
  | [] => return 0
  | item :: rest => do
    let n ← countMatches v rest
    return if ← matches_ item v then n + 1 else n

/-- The first position, from `start` on, of an item that is the same as a value or equal to it. -/
def indexOf? (v : Value) (start : Nat) : List Value → Run (Option Nat)
  | [] => return none
  | item :: rest => do
    if ← matches_ item v then return some start else indexOf? v (start + 1) rest

def searchBound (v : Option Value) (size : Nat) (default : Nat) : Run Nat := do
  match v with
  | none => return default
  | some v =>
    match v.index? with
    | some i => return (clampBound size 0 size i).toNat
    | none =>
      Run.raise "TypeError" "slice indices must be integers or have an __index__ method"

/-- Looks an item of a row up between bounds. -/
def indexMethod (items : List Value) (missing : Value → Run String) (positions : List Value) :
    Run Value := do
  let v := positions.headD .none
  let first ← searchBound positions[1]? items.length 0
  let last ← searchBound positions[2]? items.length items.length
  match ← indexOf? v first ((items.take last).drop first) with
  | some i => return .int i
  | none => Run.raise "ValueError" (← missing v)

def sortValues (key : Value) (backwards : Bool) (items : List Value) : Run (List Value) := do
  let keyed ← items.mapM fun v => do
    match key with
    | .none => return (v, v)
    | key => return (← m.call key [v] [], v)
  sortKeyed backwards keyed

def sortOptions (name : String) (keywords : Keywords) : Run (Value × Bool) := do
  match ← shareArguments name ["key", "reverse"] 0 0 [] keywords with
  | [key, backwards] =>
    let backwards ← match backwards with
      | some v => (· != 0) <$> demandIndex v
      | none => pure false
    return (key.getD .none, backwards)
  | _ => return (.none, false)

def callListMethod (address : Nat) (name : String) (positions : List Value)
    (keywords : Keywords) : Run Value := do
  let items ← Run.listItems address
  let put := fun (items : Array Value) => do
    Run.setCell address (.list items)
    return Value.none
  let argument := positions.headD .none
  match name with
  | "append" =>
    demandCount "list.append" 1 1 positions keywords
    put (items.push argument)
  | "clear" =>
    demandCount "list.clear" 0 0 positions keywords
    put #[]
  | "copy" =>
    demandCount "list.copy" 0 0 positions keywords
    Run.newList items
  | "count" =>
    demandCount "list.count" 1 1 positions keywords
    return .int (← countMatches argument items.toList)
  | "extend" =>
    demandCount "list.extend" 1 1 positions keywords
    let more ← itemsOf m argument
    put ((← Run.listItems address) ++ more.toArray)
  | "index" =>
    demandCount "index" 1 3 positions keywords
    indexMethod items.toList (fun v => do return (← shown v) ++ " is not in list") positions
  | "insert" =>
    demandCount "insert" 2 2 positions keywords
    let i := clampBound items.size 0 items.size (← demandIndex argument)
    let (before, behind) := (items.toList.take i.toNat, items.toList.drop i.toNat)
    put (before ++ (positions[1]?.getD .none) :: behind).toArray
  | "pop" =>
    demandCount "pop" 0 1 positions keywords
    let i ← match positions with
      | v :: _ => demandIndex v
      | [] => pure (-1)
    if items.isEmpty then Run.raise "IndexError" "pop from empty list"
    else match position? items.size i with
      | some n =>
        let _ ← put (items.eraseIdxIfInBounds n)
        return items[n]?.getD .none
      | none => Run.raise "IndexError" "pop index out of range"
  | "remove" =>
    demandCount "list.remove" 1 1 positions keywords
    match ← indexOf? argument 0 items.toList with
    | some i => put (items.eraseIdxIfInBounds i)
    | none => Run.raise "ValueError" "list.remove(x): x not in list"
  | "reverse" =>
    demandCount "list.reverse" 0 0 positions keywords
    put items.reverse
  | "sort" =>
    if !positions.isEmpty then
      Run.raise "TypeError" "sort() takes no positional arguments"
    let (key, backwards) ← sortOptions "sort" keywords
    put (← sortValues m key backwards items.toList).toArray
  | _ => Run.raise "AttributeError" s!"'list' object has no attribute '{name}'"

def callTupleMethod (items : List Value) (name : String) (positions : List Value)
    (keywords : Keywords) : Run Value := do
  match name with
  | "count" =>
    demandCount "tuple.count" 1 1 positions keywords
    return .int (← countMatches (positions.headD .none) items)
  | "index" =>
    demandCount "index" 1 3 positions keywords
    indexMethod items (fun _ => return "tuple.index(x): x not in tuple") positions
  | _ => Run.raise "AttributeError" s!"'tuple' object has no attribute '{name}'"

def addPairs (entries : Array (Value × Value)) : Nat → List Value → Run (Array (Value × Value))
  | _, [] => return entries
  | n, v :: rest => do
    let items? ← match ← itemsAtHand? v with
      | some items => pure (some items)
      | none =>
        match v with
        | .iterator _ _ => pure (some (← drain m v))
        | _ => pure none
    match items? with
    | some [key, value] =>
      demandKey key
      addPairs (addEntry entries key value) (n + 1) rest
    | some items =>
      Run.raise "ValueError"
        s!"dictionary update sequence element #{n} has length {items.length}; 2 is required"
    | none =>
      Run.raise "TypeError"
        s!"cannot convert dictionary update sequence element #{n} to a sequence"

/-- Adds the entries of a mapping, or the pairs of a row, and then keywords. -/
def updateEntries (entries : Array (Value × Value)) (source : Option Value)
    (keywords : Keywords) : Run (Array (Value × Value)) := do
  let entries ← match source with
    | none => pure entries
    | some (.dict a) =>
      pure ((← Run.dictEntries a).foldl (fun out (k, v) => addEntry out k v) entries)
    | some v => addPairs m entries 0 (← itemsOf m v)
  return keywords.foldl (fun out (k, v) => addEntry out (.text k) v) entries

def callDictMethod (address : Nat) (name : String) (positions : List Value)
    (keywords : Keywords) : Run Value := do
  let entries ← Run.dictEntries address
  let argument := positions.headD .none
  match name with
  | "clear" =>
    demandCount "dict.clear" 0 0 positions keywords
    Run.setCell address (.dict #[])
    return .none
  | "copy" =>
    demandCount "dict.copy" 0 0 positions keywords
    Run.newDict entries
  | "get" =>
    demandCount "get" 1 2 positions keywords
    return (← dictGet? address argument).getD (positions[1]?.getD .none)
  | "items" =>
    demandCount "dict.items" 0 0 positions keywords
    return .view "dict_items" address
  | "keys" =>
    demandCount "dict.keys" 0 0 positions keywords
    return .view "dict_keys" address
  | "values" =>
    demandCount "dict.values" 0 0 positions keywords
    return .view "dict_values" address
  | "pop" =>
    demandCount "pop" 1 2 positions keywords
    match ← dictRemove? address argument, positions[1]? with
    | some v, _ => return v
    | none, some v => return v
    | none, none => throw (.error "KeyError" [argument] none)
  | "popitem" =>
    demandCount "dict.popitem" 0 0 positions keywords
    match entries.back? with
    | some (k, v) =>
      Run.setCell address (.dict entries.pop)
      return .tuple [k, v]
    | none => Run.raise "KeyError" "popitem(): dictionary is empty"
  | "setdefault" =>
    demandCount "setdefault" 1 2 positions keywords
    match ← dictGet? address argument with
    | some v => return v
    | none =>
      let v := positions[1]?.getD .none
      dictSet address argument v
      return v
  | "update" =>
    demandCount "update" 0 1 positions []
    let entries ← updateEntries m entries positions.head? keywords
    Run.setCell address (.dict entries)
    return .none
  | _ => Run.raise "AttributeError" s!"'dict' object has no attribute '{name}'"

def addItems (items : Array Value) : List Value → Run (Array Value)
  | [] => return items
  | v :: rest => do
    demandKey v
    addItems (addItem items v) rest

def setItemsOf (v : Value) : Run (Array Value) := do addItems #[] (← itemsOf m v)

def callSetMethod (address : Nat) (name : String) (positions : List Value)
    (keywords : Keywords) : Run Value := do
  noKeywords ("set." ++ name) keywords
  let items ← Run.setItems address
  let argument := positions.headD .none
  let has := fun (v : Value) => items.any (Value.sameKey v)
  let put := fun (items : Array Value) => do
    Run.setCell address (.set items)
    return Value.none
  match name with
  | "add" =>
    demandCount "set.add" 1 1 positions []
    demandKey argument
    put (addItem items argument)
  | "clear" =>
    demandCount "set.clear" 0 0 positions []
    put #[]
  | "copy" =>
    demandCount "set.copy" 0 0 positions []
    Run.newSet items
  | "discard" | "remove" =>
    demandCount ("set." ++ name) 1 1 positions []
    demandKey argument
    if has argument then put (items.filter fun v => !Value.sameKey argument v)
    else if name == "remove" then throw (.error "KeyError" [argument] none)
    else return .none
  | "pop" =>
    demandCount "set.pop" 0 0 positions []
    match items[0]? with
    | some v =>
      let _ ← put (items.eraseIdxIfInBounds 0)
      return v
    | none => Run.raise "KeyError" "pop from an empty set"
  | "isdisjoint" | "issubset" | "issuperset" =>
    demandCount ("set." ++ name) 1 1 positions []
    let others ← setItemsOf m argument
    return .bool (match name with
      | "isdisjoint" => !items.any fun v => others.any (Value.sameKey v)
      | "issubset" => isPart items others
      | _ => isPart others items)
  | "union" | "update" | "difference" | "intersection" | "symmetric_difference" =>
    let parts ← positions.mapM (setItemsOf m)
    let other := fun (part : Array Value) (v : Value) => part.any (Value.sameKey v)
    let result := parts.foldl (fun out part =>
      match name with
      | "difference" => out.filter fun v => !other part v
      | "intersection" => out.filter (other part)
      | "symmetric_difference" =>
        out.filter (fun v => !other part v) ++ part.filter fun v => !other out v
      | _ => part.foldl addItem out) items
    if name == "update" then put result else Run.newSet result
  | _ => Run.raise "AttributeError" s!"'set' object has no attribute '{name}'"

end LambdaText
