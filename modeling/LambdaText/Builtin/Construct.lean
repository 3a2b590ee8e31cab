import LambdaText.Builtin.Containers
import LambdaText.Value.Numeric

/-!
# Calls of classes

Making a value of a class from arguments: numbers from texts and from other numbers, rows from
anything that has items, iterators over other iterators, and errors.
-/

namespace LambdaText

open LambdaText.Text

def constructInteger (positions : List Value) (keywords : Keywords) : Run Value := do
  match ← shareArguments "int" ["x", "base"] 1 0 positions keywords with
  | [none, none] => return .int 0
  | [none, some _] => Run.raise "TypeError" "int() missing string argument"
  | [some v, none] => return .int (← integerOf v)
  | [some v, some base] =>
    let base ← demandIndex base
    if base = 0 ∨ (2 ≤ base ∧ base ≤ 36) then
      let text ← match v with
        | .text s => pure s.toList
        | .bytes b => pure (asciiText b)
        | _ => Run.raise "TypeError" "int() can't convert non-string with explicit base"
      return .int (← readInteger base.toNat (← shown v) text)
    else Run.raise "ValueError" "int() base must be >= 2 and <= 36, or 0"
  | _ => return .none

def complexParts (v : Value) : Run (Float × Float) := do
  match v.amount? with
  | some (.complex re im) => return (re, im)
  | some n => return (← n.toFloat, 0)
  | none =>
    match v with
    | .text _ => Run.leaveOpen
    | _ =>
      Run.raise "TypeError"
        s!"complex() first argument must be a string or a number, not '{v.kindName}'"

def constructComplex (positions : List Value) (keywords : Keywords) : Run Value := do
  match ← shareArguments "complex" ["real", "imag"] 0 0 positions keywords with
  | [re, im] =>
    let (a, b) ← complexParts (re.getD (.int 0))
    let (c, d) ← complexParts (im.getD (.int 0))
    return .complex (a - d) (b + c)
  | _ => return .none

/-- The text of bytes, which have to be in UTF-8. -/
def decoded (bytes : List UInt8) : Run Value := do
  match decodeUtf8? bytes with
  | some s => return .text s
  | none => Run.raise "UnicodeDecodeError" "'utf-8' codec can't decode bytes"

def constructText (positions : List Value) (keywords : Keywords) : Run Value := do
  match ← shareArguments "str" ["object", "encoding", "errors"] 0 0 positions keywords with
  | none :: _ => return .text ""
  | [some v, none, none] => return .text (← plain v)
  | some (.bytes b) :: names =>
    if utf8Named (names.filterMap id) then decoded b else Run.leaveOpen
  | some v :: _ =>
    Run.raise "TypeError" s!"decoding to str: need a bytes-like object, {v.kindName} found"
  | _ => return .none

variable (m : Machine)

def byteOf (v : Value) : Run UInt8 := do
  let i ← demandIndex v
  if 0 ≤ i ∧ i < 256 then return UInt8.ofNat i.toNat
  else Run.raise "ValueError" "bytes must be in range(0, 256)"

def constructBytes (positions : List Value) : Run Value := do
  match positions with
  | [] => return .bytes []
  | .text _ :: [] => Run.raise "TypeError" "string argument without an encoding"
  | .text s :: names => if utf8Named names then return .bytes s.toUTF8.toList else Run.leaveOpen
  | _ :: _ :: _ => Run.raise "TypeError" "encoding without a string argument"
  | [.bytes b] => return .bytes b
  | [v] =>
    match v.index? with
    | some i =>
      if i < 0 then Run.raise "ValueError" "negative count"
      else return .bytes (List.replicate (← repetition 1 i) 0)
    | none => return .bytes (← (← itemsOf m v).mapM byteOf)

def constructRange (positions : List Value) : Run Value := do
  match ← positions.mapM demandIndex with
  | [last] => return .range 0 last 1
  | [first, last] => return .range first last 1
  | [first, last, step] =>
    if step = 0 then Run.raise "ValueError" "range() arg 3 must not be zero"
    else return .range first last step
  | _ => return .none

/-- An iterator that goes through a row backwards. -/
def constructReversed (v : Value) : Run Value := do
  match v with
  | .list a => Run.newIterator "list_reverseiterator" (.backwards a (← Run.listItems a).size)
  | .range first _ step =>
    let n := rangeLength first (match v with | .range _ b _ => b | _ => first) step
    Run.newIterator "range_iterator" (.range (first + (n - 1) * step) n (-step))
  | .tuple items => Run.newIterator "reversed" (.items items.reverse)
  | .text s =>
    Run.newIterator "reversed" (.items (s.toList.reverse.map fun c => .text c.toString))
  | .bytes b => Run.newIterator "reversed" (.items (b.reverse.map fun x => .int x.toNat))
  | .dict _ =>
    return ← Run.newIterator "dict_reversekeyiterator" (.items (← itemsOf m v).reverse)
  | .view kind _ =>
    let kind := "dict_reverse" ++ (kind.drop "dict_".length).dropEnd 1 ++ "iterator"
    Run.newIterator kind (.items (← itemsOf m v).reverse)
  | _ => Run.raise "TypeError" s!"'{v.kindName}' object is not reversible"

def constructEnumerate (positions : List Value) (keywords : Keywords) : Run Value := do
  match ← shareArguments "enumerate" ["iterable", "start"] 0 1 positions keywords with
  | [some v, start] =>
    let start ← match start with
      | some s => demandIndex s
      | none => pure 0
    Run.newIterator "enumerate" (.enumerate (← iterator v) start)
  | _ => return .none

/-- A function with held arguments from its parts. -/
def constructCurried (positions : List Value) (keywords : Keywords) : Run Value := do
  let parameters := ["fn", "args", "arity", "right"]
  match ← shareArguments "CurriedCallable" parameters 0 1 positions keywords with
  | [some function, held, count, right] =>
    let held ← match held with
      | some v => itemsOf m v
      | none => pure []
    let count := match count with
      | some .none => none
      | count => count
    return .curried (← Run.fresh) { function, held, count, right := right.getD (.bool false) }
  | _ => return .none

def constructTemplate (positions : List Value) (keywords : Keywords) : Run Value := do
  match ← shareArguments "PartialCallable" ["fn", "template"] 0 2 positions keywords with
  | [some function, some v] =>
    return .template (← Run.fresh) { function, items := ← itemsOf m v }
  | _ => return .none

/-- Calls a class. The classes that are not named here are left open, and so is the making of new
ones. -/
def construct (kind : String) (positions : List Value) (keywords : Keywords) : Run Value := do
  let count := fun (least most : Nat) => demandCount kind least most positions keywords
  let items : Run (List Value) := match positions with
    | v :: _ => itemsOf m v
    | [] => pure []
  match kind with
  | "bool" => count 0 1; return .bool (← truth (positions.headD (.bool false)))
  | "int" => constructInteger positions keywords
  | "float" => count 0 1; return .float (← floatOf (positions.headD (.int 0)))
  | "complex" => constructComplex positions keywords
  | "str" => constructText positions keywords
  | "bytes" => count 0 3; constructBytes m positions
  | "list" => count 0 1; Run.newList (← items).toArray
  | "tuple" => count 0 1; return .tuple (← items)
  | "set" => count 0 1; Run.newSet (← addItems #[] (← items))
  | "dict" =>
    demandCount kind 0 1 positions []
    Run.newDict (← updateEntries m #[] positions.head? keywords)
  | "range" => count 1 3; constructRange positions
  | "slice" =>
    count 1 3
    match positions with
    | [last] => return .slice .none last .none
    | [first, last] => return .slice first last .none
    | [first, last, step] => return .slice first last step
    | _ => return .none
  | "reversed" => count 1 1; constructReversed m (positions.headD .none)
  | "enumerate" => constructEnumerate positions keywords
  | "zip" =>
    match ← shareArguments kind ["strict"] 0 0 [] keywords with
    | [strict] =>
      let strict ← match strict with
        | some v => truth v
        | none => pure false
      Run.newIterator kind (.zip (← positions.mapM iterator) strict)
    | _ => return .none
  | "map" =>
    noKeywords kind keywords
    match positions with
    | f :: v :: more => Run.newIterator kind (.map f (← (v :: more).mapM iterator))
    | _ => Run.raise "TypeError" "map() must have at least two arguments."
  | "filter" =>
    count 2 2
    match positions with
    | [test, v] => Run.newIterator kind (.filter test (← iterator v))
    | _ => return .none
  | "type" =>
    if positions.length = 3 || !keywords.isEmpty then Run.leaveOpen
    else count 1 1; return .type (positions.headD .none).kindName
  | "Hole" => count 0 0; return .hole
  | "CurriedCallable" => constructCurried m positions keywords
  | "PartialCallable" => constructTemplate m positions keywords
  | _ =>
    if isErrorKind kind && !libraryErrors.contains kind then
      noKeywords kind keywords
      return .error kind positions none
    else Run.leaveOpen

end LambdaText
