import LambdaText.Builtin.Fields
import LambdaText.Builtin.Functions
import LambdaText.Builtin.Construct
import LambdaText.Eval.Compile

/-!
# Calls of methods

A method goes to the operations of the class of its receiver. Operations that many classes share
stand under their own names.
-/

namespace LambdaText

open LambdaText.Code LambdaText.Number

variable (m : Machine)

/-- A float as a quotient of integers in lowest terms. -/
def ratioOf (x : Float) : Run Value := do
  match exactRatio? x with
  | some (num, den) =>
    let g := num.natAbs.gcd den
    return .tuple [.int (num / g), .int (den / g)]
  | none =>
    if x.isNaN then Run.raise "ValueError" "cannot convert NaN to integer ratio"
    else Run.raise "OverflowError" "cannot convert Infinity to integer ratio"

def callNumberMethod (v : Value) (name : String) (positions : List Value)
    (keywords : Keywords) : Run Value := do
  demandCount name 0 0 positions keywords
  match name, v.amount? with
  | "bit_length", some (.int i) => return .int (bitLength i)
  | "bit_count", some (.int i) =>
    return .int ((Nat.toDigits 2 i.natAbs).count '1')
  | "conjugate", some (.int i) => return .int i
  | "conjugate", some (.float x) => return .float x
  | "conjugate", some (.complex re im) => return .complex re (-im)
  | "is_integer", some (.float x) => return .bool (isIntegral x)
  | "as_integer_ratio", some (.float x) => ratioOf x
  | _, _ => Run.raise "AttributeError" s!"'{v.kindName}' object has no attribute '{name}'"

def callBytesMethod (bytes : List UInt8) (name : String) (positions : List Value)
    (keywords : Keywords) : Run Value := do
  match name with
  | "decode" =>
    demandCount name 0 2 positions keywords
    if utf8Named positions then decoded bytes else Run.leaveOpen
  | _ =>
    demandCount name 0 2 positions keywords
    if !positions.isEmpty then Run.leaveOpen
    else return .ofChars (bytes.flatMap fun b => Text.hexPadded 2 b.toNat)

def cacheValue (address : Nat) : Run Value := do
  match ← cacheInfo address with
  | some (hits, misses, capacity, size) =>
    return .tuple [.int hits, .int misses, .int capacity, .int size]
  | none => return .none

def callCompilerMethod (address : Nat) (name : String) (positions : List Value)
    (keywords : Keywords) : Run Value := do
  match name with
  | "cache_info" =>
    demandCount name 0 0 positions keywords
    cacheValue address
  | _ =>
    match ← shareArguments name ["text", "namespace"] 0 1 positions keywords with
    | [some text, names] =>
      let names := names.getD .none
      if name == "compile" then compileWith m address text names else compileBlock m text names
    | _ => return .none

def containsItem (container v : Value) : Run Bool := do
  match ← contains? container v with
  | some b => return b
  | none =>
    let items ← match ← iterationOf? container, container with
      | _, .iterator _ _ => pure container
      | some i, _ => Run.newIterator (iteratorKind container) i
      | none, _ => Run.raise "TypeError" s!"argument of type '{container.kindName}' is not iterable"
    foldItems m items
      (fun _ item => do
        if ← matches_ item v then return .inr true else return .inl ())
      (fun _ => return false) ()

def callOperation (v : Value) (name : String) (positions : List Value) (keywords : Keywords) :
    Run Value := do
  let argument := positions.headD .none
  let count := fun (n : Nat) => demandCount name n n positions keywords
  match name with
  | "__call__" => m.call v positions keywords
  | "__len__" => count 0; return .int (← lengthOf v)
  | "__iter__" => count 0; iterator v
  | "__next__" => count 0; nextOf m v none
  | "__getitem__" => count 1; getItem v argument
  | "__contains__" => count 1; return .bool (← containsItem m v argument)
  | "__eq__" => count 1; return .bool (← equal v argument)
  | "__ne__" => count 1; return .bool !(← equal v argument)
  | "__repr__" => count 0; return .text (← shown v)
  | "__str__" => count 0; return .text (← plain v)
  | "__hash__" => count 0; hashOf v
  | _ => Run.raise "AttributeError" s!"'{v.kindName}' object has no attribute '{name}'"

def callMethod (v : Value) (name : String) (positions : List Value) (keywords : Keywords) :
    Run Value := do
  if (methodsOf v.kindName).contains name then
    match v with
    | .text s =>
      match name with
      | "format" => formatText s positions keywords
      | "format_map" =>
        demandCount name 1 1 positions keywords
        formatTextFrom s (positions.headD .none)
      | _ => callTextMethod m s name positions keywords
    | .list a => callListMethod m a name positions keywords
    | .tuple items => callTupleMethod items name positions keywords
    | .dict a => callDictMethod m a name positions keywords
    | .set a => callSetMethod m a name positions keywords
    | .range a b c => callTupleMethod (rangeItems a b c) name positions keywords
    | .bytes b => callBytesMethod b name positions keywords
    | _ => callNumberMethod v name positions keywords
  else
    match v with
    | .compiler a =>
      if ["compile", "compile_statements", "cache_info"].contains name then
        callCompilerMethod m a name positions keywords
      else callOperation m v name positions keywords
    | .source _ s =>
      if name == "final_body" then
        demandCount name 0 0 positions keywords
        return .text s.finalBody
      else callOperation m v name positions keywords
    | _ => callOperation m v name positions keywords

/-- Calls a method of a class, whose receiver is the first argument. -/
def callClassMethod (owner name : String) (positions : List Value) (keywords : Keywords) :
    Run Value := do
  match positions with
  | [] => Run.raise "TypeError" s!"unbound method {owner}.{name}() needs an argument"
  | receiver :: rest =>
    if belongsTo receiver.kindName owner then callMethod m receiver name rest keywords
    else
      Run.raise "TypeError"
        s!"descriptor '{name}' for '{owner}' objects doesn't apply to a '{receiver.kindName}' object"

end LambdaText
