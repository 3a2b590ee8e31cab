import LambdaText.Value.Shown

/-!
# Comparison of values

Equality of values by what they hold, and the order of numbers, texts, bytes and rows. Items of
rows that are the same value count as equal without being compared.
-/

namespace LambdaText

open LambdaText.Code LambdaText.Number

def rangeLength (first last step : Int) : Nat :=
  if 0 < step then
    if first < last then ((last - first - 1) / step + 1).toNat else 0
  else if step < 0 then
    if last < first then ((first - last - 1) / (-step) + 1).toNat else 0
  else 0

def rangeItems (first last step : Int) : List Value :=
  (List.range (rangeLength first last step)).map fun (i : Nat) => .int (first + i * step)

def sameRange (a b c d e f : Int) : Bool :=
  let m := rangeLength a b c
  let n := rangeLength d e f
  m == n && (m == 0 || (a == d && (m == 1 || c == f)))

/-- Whether two rows are equal item by item, given how items are compared. -/
def rowsEqual (eq : Value → Value → Run Bool) : List Value → List Value → Run Bool
  | [], [] => return true
  | a :: as, b :: bs => do
    if a.same b then rowsEqual eq as bs
    else if ← eq a b then rowsEqual eq as bs
    else return false
  | _, _ => return false

/-- Whether entries are found in a dictionary, given how their values are compared. -/
def entriesEqual (eq : Value → Value → Run Bool) (others : Array (Value × Value)) :
    List (Value × Value) → Run Bool
  | [] => return true
  | (k, v) :: rest => do
    match others.find? fun entry => entry.1.sameKey k with
    | some (_, w) =>
      if v.same w then entriesEqual eq others rest
      else if ← eq v w then entriesEqual eq others rest
      else return false
    | none => return false

def equalWithin : Nat → Value → Value → Run Bool
  | 0, _, _ => Run.raise "RecursionError" "maximum recursion depth exceeded in comparison"
  | n + 1, a, b => do
    match a, b with
    | .tuple as, .tuple bs => rowsEqual (equalWithin n) as bs
    | .slice a b c, .slice d e f => rowsEqual (equalWithin n) [a, b, c] [d, e, f]
    | .list a, .list b =>
      let as ← Run.listItems a
      let bs ← Run.listItems b
      if as.size = bs.size then rowsEqual (equalWithin n) as.toList bs.toList else return false
    | .dict a, .dict b =>
      let as ← Run.dictEntries a
      let bs ← Run.dictEntries b
      if as.size = bs.size then entriesEqual (equalWithin n) bs as.toList else return false
    | .set a, .set b =>
      let as ← Run.setItems a
      let bs ← Run.setItems b
      return as.size == bs.size && as.all fun x => bs.any (Value.sameKey x)
    | .range a b c, .range d e f => return sameRange a b c d e f
    | .view kind a, .view kind' b =>
      if kind = kind' ∧ a = b ∧ kind ≠ "dict_values" then return true else Run.leaveOpen
    | .view _ _, .set _ | .set _, .view _ _ => Run.leaveOpen
    | .source _ s, .source _ t => return s = t
    | .settings _ s, .settings _ t => return s = t
    | a, b =>
      match a.amount?, b.amount? with
      | some x, some y => return x.equal y
      | _, _ => return a.same b

def equal (a b : Value) : Run Bool := equalWithin maxValueDepth a b

/-- Whether two values are the same or equal. -/
def matches_ (a b : Value) : Run Bool := do
  if a.same b then return true else equal a b

def orderHolds (op : CompareOp) : Standing → Bool
  | .less => op = .lt || op = .le
  | .equal => op = .le || op = .ge
  | .greater => op = .gt || op = .ge
  | .unordered => false

def Amount.standing? : Amount → Amount → Option Standing
  | .int a, .int b => some (Standing.ofInts a b)
  | .int a, .float b => some (Standing.ofIntFloat a b)
  | .float a, .int b => some (Standing.ofIntFloat b a).swap
  | .float a, .float b => some (Standing.ofFloats a b)
  | _, _ => none

def rowStanding : List Nat → List Nat → Standing
  | [], [] => .equal
  | [], _ :: _ => .less
  | _ :: _, [] => .greater
  | a :: as, b :: bs => if a < b then .less else if b < a then .greater else rowStanding as bs

/-- The first two items at which two rows differ, or what is left of the rows. -/
def firstDifference : List Value → List Value → Run (List Value × List Value)
  | a :: as, b :: bs => do
    if ← matches_ a b then firstDifference as bs else return (a :: as, b :: bs)
  | as, bs => return (as, bs)

def CompareOp.sign : CompareOp → String
  | .eq => "=="
  | .ne => "!="
  | .lt => "<"
  | .le => "<="
  | .gt => ">"
  | .ge => ">="
  | .is => "is"
  | .isNot => "is not"
  | .isIn => "in"
  | .notIn => "not in"

def noOrder {α : Type} (op : CompareOp) (a b : Value) : Run α :=
  Run.raise "TypeError"
    s!"'{CompareOp.sign op}' not supported between instances of '{a.kindName}' and '{b.kindName}'"

def isPart (as bs : Array Value) : Bool := as.all fun x => bs.any (Value.sameKey x)

def orderedWithin : Nat → CompareOp → Value → Value → Run Bool
  | 0, _, _, _ => Run.raise "RecursionError" "maximum recursion depth exceeded in comparison"
  | n + 1, op, a, b => do
    let rows := fun (as bs : List Value) => do
      match ← firstDifference as bs with
      | (x :: _, y :: _) => orderedWithin n op x y
      | (as, bs) => return orderHolds op (Standing.ofInts as.length bs.length)
    match a, b with
    | .text s, .text t =>
      return orderHolds op (rowStanding (s.toList.map Char.toNat) (t.toList.map Char.toNat))
    | .bytes s, .bytes t =>
      return orderHolds op (rowStanding (s.map UInt8.toNat) (t.map UInt8.toNat))
    | .tuple as, .tuple bs => rows as bs
    | .list x, .list y => rows (← Run.listItems x).toList (← Run.listItems y).toList
    | .set x, .set y =>
      let as ← Run.setItems x
      let bs ← Run.setItems y
      match op with
      | .lt => return isPart as bs && as.size < bs.size
      | .le => return isPart as bs
      | .gt => return isPart bs as && bs.size < as.size
      | _ => return isPart bs as
    | .view _ _, .view _ _ | .view _ _, .set _ | .set _, .view _ _ => Run.leaveOpen
    | _, _ =>
      match a.amount?, b.amount? with
      | some x, some y =>
        match x.standing? y with
        | some s => return orderHolds op s
        | none => noOrder op a b
      | _, _ => noOrder op a b

def ordered (op : CompareOp) (a b : Value) : Run Bool := orderedWithin maxValueDepth op a b

/-- Merges two sorted rows of keyed values; of equal keys the left one comes first. -/
def mergeSorted : Nat → List (Value × Value) → List (Value × Value) → Run (List (Value × Value))
  | 0, as, bs => return as ++ bs
  | n + 1, a :: as, b :: bs => do
    if ← ordered .lt b.1 a.1 then return b :: (← mergeSorted n (a :: as) bs)
    else return a :: (← mergeSorted n as (b :: bs))
  | _, as, bs => return as ++ bs

/-- Sorts keyed values by their keys, keeping the order of equal ones, with a bound on halving. -/
def sortWithin : Nat → List (Value × Value) → Run (List (Value × Value))
  | 0, items => return items
  | n + 1, items => do
    if items.length ≤ 1 then return items
    else
      let half := items.length / 2
      let left ← sortWithin n (items.take half)
      let right ← sortWithin n (items.drop half)
      mergeSorted items.length left right

def sortKeyed (backwards : Bool) (items : List (Value × Value)) : Run (List Value) := do
  let items := if backwards then items.reverse else items
  let sorted ← sortWithin items.length items
  let values := sorted.map Prod.snd
  return if backwards then values.reverse else values

end LambdaText
