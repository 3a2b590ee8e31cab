import LambdaText.Number.Complex
import LambdaText.Value.Compare

/-!
# Arithmetic on values

The operators on numbers of all kinds, and joining and repeating of texts, bytes and rows. Integers
are exact; with a float an integer becomes a float, with a complex number both become complex.
-/

namespace LambdaText

open LambdaText.Code LambdaText.Number

def BinaryOp.sign : BinaryOp → String
  | .add => "+"
  | .subtract => "-"
  | .multiply => "*"
  | .divide => "/"
  | .floorDivide => "//"
  | .remainder => "%"
  | .power => "** or pow()"
  | .matrixMultiply => "@"
  | .shiftLeft => "<<"
  | .shiftRight => ">>"
  | .bitAnd => "&"
  | .bitOr => "|"
  | .bitXor => "^"

/-- Fails because an operator does not take such operands. -/
def unsupported {α : Type} (op : BinaryOp) (a b : Value) : Run α :=
  Run.raise "TypeError"
    s!"unsupported operand type(s) for {BinaryOp.sign op}: '{a.kindName}' and '{b.kindName}'"

def divisionByZero {α : Type} (message : String) : Run α := Run.raise "ZeroDivisionError" message

def toFloat (i : Int) : Run Float := do
  let x := floatOfInt i
  if x.isInf then Run.raise "OverflowError" "int too large to convert to float" else return x

/-- The exact quotient of two integers, rounded to a float. -/
def divideInts (a b : Int) : Run Value := do
  if b = 0 then divisionByZero "division by zero"
  else
    let x := floatOfRatio (decide (a < 0) != decide (b < 0)) a.natAbs b.natAbs
    if x.isInf then Run.raise "OverflowError" "integer division result too large for a float"
    else return .float x

def powerFloats (x y : Float) : Run Value := do
  if x == 0 && y < 0 then divisionByZero "0.0 cannot be raised to a negative power"
  else if x < 0 && x.isFinite && y.isFinite && y != y.floor then
    match ComplexFloat.pow? ⟨x, 0⟩ ⟨y, 0⟩ with
    | some c => return .complex c.re c.im
    | none => divisionByZero "0.0 to a negative or complex power"
  else
    let r := Float.pow x y
    if r.isInf && x.isFinite && y.isFinite then
      throw (.error "OverflowError" [.int 34, .text "Numerical result out of range"] none)
    else return .float r

/-- The number of bits from which an integer does not fit into memory. -/
def memoryBits : Nat := Nat.pow 2 32

/-- The power of two integers: exact, unless the exponent is negative. -/
def powerInts (a b : Int) : Run Value := do
  if b < 0 then powerFloats (← toFloat a) (← toFloat b)
  else if a.natAbs ≤ 1 then return .int (if b = 0 then 1 else if b % 2 = 0 then a * a else a)
  else if memoryBits ≤ a.natAbs.log2 * b.toNat then throw (.error "MemoryError" [] none)
  else return .int (power a b.toNat)

def impossibleBits : Nat := 30 * Nat.pow 2 61

def shiftInts (a b : Int) : Run Value := do
  if b < 0 then Run.raise "ValueError" "negative shift count"
  else if a = 0 then return .int 0
  else if (impossibleBits : Int) ≤ b then
    Run.raise "OverflowError" "too many digits in integer"
  else if (memoryBits : Int) ≤ b then throw (.error "MemoryError" [] none)
  else return .int (shiftLeft a b.toNat)

def intOperator (op : BinaryOp) (a b : Int) : Run Value := do
  match op with
  | .add => return .int (a + b)
  | .subtract => return .int (a - b)
  | .multiply => return .int (a * b)
  | .divide => divideInts a b
  | .floorDivide =>
    if b = 0 then divisionByZero "integer division or modulo by zero"
    else return .int (Int.fdiv a b)
  | .remainder =>
    if b = 0 then divisionByZero "integer modulo by zero" else return .int (Int.fmod a b)
  | .power => powerInts a b
  | .matrixMultiply => unsupported op (.int a) (.int b)
  | .shiftLeft => shiftInts a b
  | .shiftRight =>
    if b < 0 then Run.raise "ValueError" "negative shift count"
    else if (memoryBits : Int) ≤ b then return .int (if a < 0 then -1 else 0)
    else return .int (shiftRight a b.toNat)
  | .bitAnd => return .int (bitAnd a b)
  | .bitOr => return .int (bitOr a b)
  | .bitXor => return .int (bitXor a b)

def floatOperator (op : BinaryOp) (x y : Float) : Run Value := do
  match op with
  | .add => return .float (x + y)
  | .subtract => return .float (x - y)
  | .multiply => return .float (x * y)
  | .divide =>
    if y == 0 then divisionByZero "float division by zero" else return .float (x / y)
  | .floorDivide =>
    if y == 0 then divisionByZero "float floor division by zero"
    else return .float (floorDivMod x y).1
  | .remainder =>
    if y == 0 then divisionByZero "float modulo" else return .float (floorDivMod x y).2
  | .power => powerFloats x y
  | _ => unsupported op (.float x) (.float y)

def complexOperator (op : BinaryOp) (a b : ComplexFloat) : Run Value := do
  let value := fun (c : ComplexFloat) => Value.complex c.re c.im
  match op with
  | .add => return value (a.add b)
  | .subtract => return value (a.sub b)
  | .multiply => return value (a.mul b)
  | .divide =>
    match a.div? b with
    | some c => return value c
    | none => divisionByZero "complex division by zero"
  | .power =>
    match a.pow? b with
    | some c => return value c
    | none => divisionByZero "0.0 to a negative or complex power"
  | _ => unsupported op (value a) (value b)

def hasFloats : BinaryOp → Bool
  | .add | .subtract | .multiply | .divide | .floorDivide | .remainder | .power => true
  | _ => false

def hasComplex : BinaryOp → Bool
  | .add | .subtract | .multiply | .divide | .power => true
  | _ => false

def Amount.toFloat : Amount → Run Float
  | .int i => LambdaText.toFloat i
  | .float x => return x
  | .complex _ _ => Run.raise "TypeError" "can't convert complex to float"

def Amount.toComplex : Amount → Run ComplexFloat
  | .complex re im => return ⟨re, im⟩
  | n => return ⟨← n.toFloat, 0⟩

def numberOperator (op : BinaryOp) (a b : Value) (m n : Amount) : Run Value := do
  match m, n with
  | .int i, .int j =>
    match op, a, b with
    | .bitAnd, .bool p, .bool q => return .bool (p && q)
    | .bitOr, .bool p, .bool q => return .bool (p || q)
    | .bitXor, .bool p, .bool q => return .bool (p != q)
    | .matrixMultiply, _, _ => unsupported op a b
    | _, _, _ => intOperator op i j
  | .complex _ _, _ | _, .complex _ _ =>
    if hasComplex op then complexOperator op (← m.toComplex) (← n.toComplex)
    else unsupported op a b
  | _, _ =>
    if hasFloats op then floatOperator op (← m.toFloat) (← n.toFloat) else unsupported op a b

/-- The greatest number of items that a repetition may have. -/
def maxItems : Nat := Nat.pow 2 32

def repetition (size : Nat) (times : Int) : Run Nat := do
  if Nat.pow 2 63 ≤ times.natAbs then
    Run.raise "OverflowError" "cannot fit 'int' into an index-sized integer"
  else if maxItems < size * times.toNat then Run.raise "MemoryError" ""
  else return times.toNat

def repeated (v : Value) (times : Int) : Run Value := do
  match v with
  | .text s => return .text (String.join (List.replicate (← repetition s.length times) s))
  | .bytes b => return .bytes (List.replicate (← repetition b.length times) b).flatten
  | .tuple items => return .tuple (List.replicate (← repetition items.length times) items).flatten
  | .list a =>
    let items ← Run.listItems a
    let n ← repetition items.size times
    Run.newList ((List.replicate n items.toList).flatten.toArray)
  | _ => return v

def isRow : Value → Bool
  | .text _ | .bytes _ | .tuple _ | .list _ => true
  | _ => false

def Value.index? : Value → Option Int
  | .int i => some i
  | .bool b => some (if b then 1 else 0)
  | _ => Option.none

/-- Adds entries to a dictionary; a key that is there keeps its place. -/
def addEntry (entries : Array (Value × Value)) (key value : Value) : Array (Value × Value) :=
  match Value.findKey entries key with
  | some i => entries.modify i fun (k, _) => (k, value)
  | none => entries.push (key, value)

def addItem (items : Array Value) (item : Value) : Array Value :=
  if items.any (Value.sameKey item) then items else items.push item

def setOperator (op : BinaryOp) (a b : Value) (as bs : Array Value) : Run Value := do
  let inB := fun x => bs.any (Value.sameKey x)
  let inA := fun x => as.any (Value.sameKey x)
  match op with
  | .bitOr => Run.newSet (bs.foldl addItem as)
  | .bitAnd => Run.newSet (as.filter inB)
  | .subtract => Run.newSet (as.filter fun x => !inB x)
  | .bitXor => Run.newSet ((as.filter fun x => !inB x) ++ bs.filter fun x => !inA x)
  | _ => unsupported op a b

def repeatOperands (a b : Value) : Run Value := do
  match isRow a, isRow b with
  | true, _ =>
    match b.index? with
    | some times => repeated a times
    | none =>
      Run.raise "TypeError" s!"can't multiply sequence by non-int of type '{b.kindName}'"
  | _, true =>
    match a.index? with
    | some times => repeated b times
    | none =>
      Run.raise "TypeError" s!"can't multiply sequence by non-int of type '{a.kindName}'"
  | _, _ => unsupported .multiply a b

def joinOperands (a b : Value) : Run Value := do
  match a, b with
  | .text s, .text t => return .text (s ++ t)
  | .text _, _ =>
    Run.raise "TypeError" s!"can only concatenate str (not \"{b.kindName}\") to str"
  | .bytes s, .bytes t => return .bytes (s ++ t)
  | .bytes _, _ => Run.raise "TypeError" s!"can't concat {b.kindName} to bytes"
  | .tuple s, .tuple t => return .tuple (s ++ t)
  | .tuple _, _ =>
    Run.raise "TypeError" s!"can only concatenate tuple (not \"{b.kindName}\") to tuple"
  | .list s, .list t => Run.newList ((← Run.listItems s) ++ (← Run.listItems t))
  | .list _, _ =>
    Run.raise "TypeError" s!"can only concatenate list (not \"{b.kindName}\") to list"
  | _, _ => unsupported .add a b

def Value.isView : Value → Bool
  | .view _ _ => true
  | _ => false

def Value.isType : Value → Bool
  | .type _ => true
  | _ => false

/-- Whether an operator is left open: on views of dictionaries as sets, on types as a union, or on
bytes as a template. -/
def leavesOperatorOpen : BinaryOp → Value → Value → Bool
  | .bitOr, a, b => a.isView || b.isView || a.isType || b.isType
  | .bitAnd, a, b | .bitXor, a, b | .subtract, a, b => a.isView || b.isView
  | .remainder, .bytes _, _ => true
  | _, _, _ => false

/-- An operator on two values; a remainder of a text is none of its business. -/
def operate (op : BinaryOp) (a b : Value) : Run Value := do
  match a.amount?, b.amount? with
  | some m, some n => numberOperator op a b m n
  | _, _ =>
    match op, a, b with
    | .add, _, _ => joinOperands a b
    | .multiply, _, _ => repeatOperands a b
    | _, .set x, .set y => setOperator op a b (← Run.setItems x) (← Run.setItems y)
    | .bitOr, .dict x, .dict y =>
      Run.newDict ((← Run.dictEntries y).foldl (fun out (k, v) => addEntry out k v)
        (← Run.dictEntries x))
    | _, _, _ => if leavesOperatorOpen op a b then Run.leaveOpen else unsupported op a b

def UnaryOp.sign : UnaryOp → String
  | .negate => "-"
  | .plus => "+"
  | .invert => "~"
  | .not => "not"

def operateUnary (op : UnaryOp) (v : Value) : Run Value := do
  match op, v.amount? with
  | .not, _ => return .bool !(← truth v)
  | .negate, some (.int i) => return .int (-i)
  | .negate, some (.float x) => return .float (-x)
  | .negate, some (.complex re im) => return .complex (-re) (-im)
  | .plus, some (.int i) => return .int i
  | .plus, some (.float x) => return .float x
  | .plus, some (.complex re im) => return .complex re im
  | .invert, some (.int i) => return .int (complement i)
  | _, _ =>
    Run.raise "TypeError" s!"bad operand type for unary {UnaryOp.sign op}: '{v.kindName}'"

end LambdaText
