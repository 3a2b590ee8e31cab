import LambdaText.Datum.Validation
import LambdaText.Number.Complex
import LambdaText.Value.Format

/-!
# Conversion to numbers

Integers and floats from texts and from numbers of other kinds.
-/

namespace LambdaText

open LambdaText.Code LambdaText.Number LambdaText.Text

def plainDigits (text : List Char) : List Char :=
  text.map fun c => match decimalValue? c with
    | some n => Char.ofNat ('0'.toNat + n)
    | none => c

def takeSign : List Char → Bool × List Char
  | '-' :: rest => (true, rest)
  | '+' :: rest => (false, rest)
  | text => (false, text)

def digitValue? (base : Nat) (c : Char) : Option Nat :=
  let n? :=
    if isAsciiDigit c then some (c.toNat - '0'.toNat)
    else if 'a' ≤ c ∧ c ≤ 'z' then some (c.toNat - 'a'.toNat + 10)
    else if 'A' ≤ c ∧ c ≤ 'Z' then some (c.toNat - 'A'.toNat + 10)
    else none
  n?.filter (· < base)

/-- The digits of a number with single underscores between them. -/
def underscoredDigits? (base : Nat) (text : List Char) : Option (List Nat) :=
  if text.isEmpty then none
  else match dropUnderscores text with
    | some ds => ds.mapM (digitValue? base)
    | none => none

def markedBase? : Char → Option Nat
  | 'x' | 'X' => some 16
  | 'o' | 'O' => some 8
  | 'b' | 'B' => some 2
  | _ => none

/-- The base and the digits of a number, whose base may be written in front. -/
def splitBase (base : Nat) (text : List Char) : Nat × List Char :=
  match text with
  | '0' :: c :: rest =>
    match markedBase? c with
    | some marked =>
      if base = 0 ∨ base = marked then
        (marked, match rest with
          | '_' :: digits => digits
          | digits => digits)
      else (base, text)
    | none => (if base = 0 then 10 else base, text)
  | _ => (if base = 0 then 10 else base, text)

def readInteger (base : Nat) (shownText : String) (text : List Char) : Run Int := do
  let bad : Run Int :=
    Run.raise "ValueError" s!"invalid literal for int() with base {base}: {shownText}"
  let (negative, unsigned) := takeSign (trim (plainDigits text))
  let (actual, digits) := splitBase base unsigned
  match underscoredDigits? actual digits with
  | none => bad
  | some ds =>
    if base = 0 ∧ actual = 10 ∧ ds.head? = some 0 ∧ !ds.all (· == 0) then bad
    else if actual ∉ [2, 4, 8, 16, 32] ∧ maxDecimalDigits < ds.length then
      Run.raise "ValueError"
        s!"Exceeds the limit (4300 digits) for integer string conversion: value has {ds.length} digits; use sys.set_int_max_str_digits() to increase the limit"
    else
      let n : Nat := ds.foldl (fun n d => actual * n + d) 0
      return if negative then -(n : Int) else n

def truncateFloat (x : Float) : Run Int := do
  match truncate? x with
  | some i => return i
  | none =>
    if x.isNaN then Run.raise "ValueError" "cannot convert float NaN to integer"
    else Run.raise "OverflowError" "cannot convert float infinity to integer"

def floatDigits? (text : List Char) : Option (List Char) :=
  if text.isEmpty then some []
  else (dropUnderscores text).filter fun ds => ds.all isAsciiDigit

def unsignedFloat? (text : List Char) : Option Float :=
  let lower := text.map Char.toLower
  if lower == "inf".toList || lower == "infinity".toList then some (1.0 / 0.0)
  else if lower == "nan".toList then some (0.0 / 0.0)
  else
    let isMark := fun (c : Char) => c == 'e' || c == 'E'
    let mantissa := text.takeWhile fun c => !isMark c
    let exponent := (text.dropWhile fun c => !isMark c)
    let whole := mantissa.takeWhile (· != '.')
    let fraction := (mantissa.dropWhile (· != '.')).drop 1
    do
      let whole ← floatDigits? whole
      let fraction ← floatDigits? fraction
      if whole.isEmpty && fraction.isEmpty then none
      let e ← match exponent with
        | [] => some 0
        | _ :: rest =>
          let (negative, ds) := takeSign rest
          let ds ← floatDigits? ds
          if ds.isEmpty then none
          else some (if negative then -(digitsValue 10 ds : Int) else digitsValue 10 ds)
      some (floatOfDecimal false (digitsValue 10 (whole ++ fraction)) (e - fraction.length))

def readFloat (shownText : String) (text : List Char) : Run Float := do
  let (negative, unsigned) := takeSign (trim (plainDigits text))
  match unsignedFloat? unsigned with
  | some x => return if negative then -x else x
  | none => Run.raise "ValueError" s!"could not convert string to float: {shownText}"

def asciiText (bytes : List UInt8) : List Char := bytes.map fun b => Char.ofNat b.toNat

def integerOf (v : Value) : Run Int := do
  match v with
  | .text s => readInteger 10 (← shown v) s.toList
  | .bytes b => readInteger 10 (← shown v) (asciiText b)
  | .float x => truncateFloat x
  | _ =>
    match v.index? with
    | some i => return i
    | none =>
      Run.raise "TypeError"
        s!"int() argument must be a string, a bytes-like object or a real number, not '{v.kindName}'"

def floatOf (v : Value) : Run Float := do
  match v with
  | .text s => readFloat (← shown v) s.toList
  | .bytes b => readFloat (← shown v) (asciiText b)
  | .float x => return x
  | _ =>
    match v.index? with
    | some i => toFloat i
    | none =>
      Run.raise "TypeError"
        s!"float() argument must be a string or a real number, not '{v.kindName}'"

def roundValue (v : Value) (places : Option Value) : Run Value := do
  let places := places.filter fun p => match p with
    | .none => false
    | _ => true
  let count : Run (Option Int) := do
    match places with
    | none => return none
    | some p =>
      match p.index? with
      | some i => return some i
      | none =>
        Run.raise "TypeError" s!"'{p.kindName}' object cannot be interpreted as an integer"
  match v.amount? with
  | some (.int i) =>
    match ← count with
    | some n => return .int (if n < 0 then roundToTens i (-n).toNat else i)
    | none => return .int i
  | some (.float x) =>
    match ← count with
    | some n =>
      let r := roundPlaces x n
      if r.isInf && x.isFinite then
        Run.raise "OverflowError" "rounded value too large to represent"
      else return .float r
    | none =>
      match roundHalfEven? x with
      | some i => return .int i
      | none => return .int (← truncateFloat x)
  | _ => Run.raise "TypeError" s!"type {v.kindName} doesn't define __round__ method"

/-- The power of three integers: a power modulo a number, with inverses for negative exponents. -/
def powerModulo (a b c : Int) : Run Value := do
  if c = 0 then Run.raise "ValueError" "pow() 3rd argument cannot be 0"
  else
    let n := c.natAbs
    let finish := fun (r : Nat) => Value.int (if c < 0 ∧ r ≠ 0 then (r : Int) - n else r)
    let positive := fun (base : Nat) (e : Nat) =>
      let step := fun ((r, b) : Nat × Nat) (i : Nat) =>
        (if e.testBit i then r * b % n else r, b * b % n)
      ((List.range (bitLength e)).foldl step (1 % n, base % n)).1
    let base := (Int.emod a n).toNat
    if 0 ≤ b then return finish (positive base b.toNat)
    else
      let inverse := inverseModulo base n
      match inverse with
      | some i => return finish (positive i (-b).toNat)
      | none => Run.raise "ValueError" "base is not invertible for the given modulus"
where
  inverseModulo (a n : Nat) : Option Nat :=
    let rec go : Nat → Int → Int → Int → Int → Option Nat
      | 0, _, _, _, _ => none
      | k + 1, r, s, x, y =>
        if s = 0 then (if r = 1 then some (Int.emod x n).toNat else none)
        else go k s (r - r / s * s) y (x - r / s * y)
    if n = 1 then some 0 else go (2 * bitLength n + 4) a n 1 0

end LambdaText
