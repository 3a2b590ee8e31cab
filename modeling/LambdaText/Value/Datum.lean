import LambdaText.Datum.Basic
import LambdaText.Value.Shown

/-!
# Values and data

What a value holds, without its identity, and the value that a datum makes. A source is given by its
fields.
-/

namespace LambdaText

def Source.datum : Source → Datum
  | .last text form parameters body =>
    .dict [(.text "text", .text text), (.text "form", .text form.name),
      (.text "params", .list (parameters.map .text)), (.text "body", .text body)]
  | .stage text form parameters inner =>
    .dict [(.text "text", .text text), (.text "form", .text form.name),
      (.text "params", .list (parameters.map .text)), (.text "inner", inner.datum)]

def Value.datumWithin : Nat → Value → Run Datum
  | 0, _ => return .foreign
  | n + 1, v => do
    match v with
    | .none => return .none
    | .bool b => return .bool b
    | .int i => return .int i
    | .float x => return .float x
    | .complex re im => return .complex re im
    | .text s => return .text s
    | .bytes b => return .bytes b
    | .ellipsis => return .ellipsis
    | .tuple items => return .tuple (← items.mapM (datumWithin n))
    | .list a => return .list (← (← Run.listItems a).toList.mapM (datumWithin n))
    | .set a => return .set (← (← Run.setItems a).toList.mapM (datumWithin n))
    | .dict a =>
      return .dict (← (← Run.dictEntries a).toList.mapM fun (k, e) => do
        return (← datumWithin n k, ← datumWithin n e))
    | .source _ s => return s.datum
    | _ => return .foreign

def Value.datum (v : Value) : Run Datum := v.datumWithin maxValueDepth

mutual

/-- Makes a value of a datum. What a text with surrogates does as a value is left open. -/
def Datum.value : Datum → Run Value
  | .none | .foreign => return .none
  | .bool b => return .bool b
  | .int i => return .int i
  | .float x => return .float x
  | .complex re im => return .complex re im
  | .text s => return .text s
  | .points _ => Run.leaveOpen
  | .bytes b => return .bytes b
  | .ellipsis => return .ellipsis
  | .tuple items => do return .tuple (← valuesOf items)
  | .list items => do Run.newList (← valuesOf items).toArray
  | .set items => do Run.newSet (← valuesOf items).toArray
  | .dict entries => do Run.newDict (← entriesOf entries).toArray

def valuesOf : List Datum → Run (List Value)
  | [] => return []
  | d :: rest => do
    let v ← d.value
    return v :: (← valuesOf rest)

def entriesOf : List (Datum × Datum) → Run (List (Value × Value))
  | [] => return []
  | e :: rest => do
    let entry ← entryOf e
    return entry :: (← entriesOf rest)

def entryOf : Datum × Datum → Run (Value × Value)
  | (k, d) => do
    let key ← k.value
    return (key, ← d.value)

end

end LambdaText
