import LambdaText.Eval.Assign

/-!
# Advancing iterators

The next item of every kind of iterator. A comprehension keeps the iterators of the loops it is in;
its next item is found by advancing the innermost one and entering the loops inside it.

The body of a function that gives items runs as a whole when the first item is asked for. What it
does between two items therefore comes earlier than at the host, which stops at each of them; the
items are the same if the body changes nothing and sees no change.
-/

namespace LambdaText

open LambdaText.Code

variable (m : Machine)

/-- Puts an iterator into a new state and gives an item. -/
def proceed (address : Nat) (i : Iterator) (v : Value) : Run (Option Value) := do
  Run.setCell address (.iterator i)
  return some v

def finish (address : Nat) : Run (Option Value) := do
  Run.setCell address (.iterator .ended)
  return none

/-- The entry of a dictionary as its keys, values or items show it. -/
def viewItem (kind : String) : Value × Value → Value
  | (k, v) =>
    match kind with
    | "dict_keys" => k
    | "dict_values" => v
    | _ => .tuple [k, v]

/-- Takes one item of every source in turn; none if one of them has no more. -/
def nextRow : List Value → Run (Option (List Value))
  | [] => return some []
  | it :: rest => do
    match ← next? m it with
    | none => return none
    | some v => return (← nextRow rest).map (v :: ·)

def allEnded : List Value → Run Bool
  | [] => return true
  | it :: rest => do
    match ← next? m it with
    | some _ => return false
    | none => allEnded rest

/-- Fails because the sources of a row have different lengths, if they may not. -/
def checkRow (strict : Bool) (sources : List Value) : Nat → List Value → Run (Option (List Value))
  | _, [] => return some []
  | i, it :: rest => do
    match ← next? m it with
    | some v => return (← checkRow strict sources (i + 1) rest).map (v :: ·)
    | none =>
      if strict then
        if i = 0 then
          if ← allEnded m rest then return none
          else Run.raise "ValueError" "zip() argument 2 is longer than argument 1"
        else
          Run.raise "ValueError" s!"zip() argument {i + 1} is shorter than argument {i}"
      else return none

def allHold (scope : Scope) : List Expr → Run Bool
  | [] => return true
  | e :: rest => do
    if ← truth (← m.expr scope e) then allHold scope rest else return false

def comprehendedItem (scope : Scope) (item : Expr) (value : Option Expr) : Run Value := do
  let first ← m.expr scope item
  match value with
  | some e => return .tuple [first, ← m.expr scope e]
  | none => return first

def comprehensionStep (address : Nat) (scope : Scope) (item : Expr) (value : Option Expr)
    (loops : List Loop) (opened : List Value) : Run (List Value ⊕ Option Value) := do
  match opened with
  | [] => return .inr (← finish address)
  | it :: outer =>
    match loops[outer.length]?, ← next? m it with
    | some l, some v =>
      assign m scope l.target v
      if !(← allHold m scope l.conditions) then return .inl opened
      else match loops[outer.length + 1]? with
        | some inner => return .inl ((← iterator (← m.expr scope inner.sequence)) :: opened)
        | none =>
          let v ← comprehendedItem m scope item value
          return .inr (← proceed address (.comprehension scope item value loops opened) v)
    | _, _ => return .inl outer

/-- The error that leaves a function that gives items: that there are no more items is not for it
to say. -/
def leavingError (error : Value) : Value :=
  match error with
  | .error "StopIteration" _ _ =>
    .error "RuntimeError" [.text "generator raised StopIteration"] none
  | _ => error

def advanceComprehension (address : Nat) (scope : Scope) (item : Expr) (value : Option Expr)
    (loops : List Loop) (opened : List Value) : Run (Option Value) :=
  tryCatch
    (Run.deeper (Run.iterate (comprehensionStep m address scope item value loops) opened))
    fun error => do
      let _ ← finish address
      if (pathName scope.path).endsWith "<genexpr>" then throw (leavingError error)
      else throw error

/-- Runs a function that gives items and collects what it gives. -/
def startRoutine (address : Nat) (scope : Scope) (code : Routine) : Run Unit := do
  let result ← tryCatch
    (do
      match code.body with
      | .value e => let _ ← m.expr scope e
      | .block b => let _ ← m.block scope b
      return none)
    fun error => return some error
  let items ← match scope.frames with
    | a :: _ => pure (← Run.frame a).yielded.toList
    | [] => pure []
  Run.setCell address (.iterator (match result with
    | some error => .failing items (leavingError error)
    | none => .items items))

/-- Looks for the next item that passes a test. -/
def advanceFilter (test source : Value) : Run (Option Value) :=
  foldItems m source
    (fun _ v => do
      let result ← match test with
        | .none => pure v
        | _ => m.call test [v] []
      if ← truth result then return .inr (some v) else return .inl ())
    (fun _ => return none) ()

/-- Takes the next item of the iterator in a cell. -/
def advanceStep (address : Nat) : Run (Option Value) := do
  let state ← match ← Run.cell address with
    | .iterator i => pure i
    | _ => pure .ended
  match state with
  | .ended => return none
  | .items [] => finish address
  | .items (v :: rest) => proceed address (.items rest) v
  | .list a n =>
    match (← Run.listItems a)[n]? with
    | some v => proceed address (.list a (n + 1)) v
    | none => finish address
  | .backwards _ 0 => finish address
  | .backwards a (n + 1) =>
    match (← Run.listItems a)[n]? with
    | some v => proceed address (.backwards a n) v
    | none => finish address
  | .range _ 0 _ => finish address
  | .range i (n + 1) step => proceed address (.range (i + step) n step) (.int i)
  | .dict kind a n size =>
    let entries ← Run.dictEntries a
    if entries.size ≠ size then
      Run.raise "RuntimeError" "dictionary changed size during iteration"
    else match entries[n]? with
      | some e => proceed address (.dict kind a (n + 1) size) (viewItem kind e)
      | none => finish address
  | .set a n size =>
    let items ← Run.setItems a
    if items.size ≠ size then
      Run.raise "RuntimeError" "Set changed size during iteration"
    else match items[n]? with
      | some v => proceed address (.set a (n + 1) size) v
      | none => finish address
  | .enumerate source i =>
    match ← next? m source with
    | some v => proceed address (.enumerate source (i + 1)) (.tuple [.int i, v])
    | none => return none
  | .zip [] _ => return none
  | .zip sources strict =>
    return (← checkRow m strict sources 0 sources).map Value.tuple
  | .map f sources =>
    match ← nextRow m sources with
    | some row => return some (← m.call f row [])
    | none => return none
  | .filter test source => advanceFilter m test source
  | .calls f stop =>
    let v ← m.call f [] []
    if ← matches_ v stop then finish address else return some v
  | .comprehension scope item value loops opened =>
    advanceComprehension m address scope item value loops opened
  | .routine scope code =>
    startRoutine m address scope code
    m.advance address
  | .failing [] error => do
    let _ ← finish address
    throw error
  | .failing (v :: rest) error => proceed address (.failing rest error) v

end LambdaText
