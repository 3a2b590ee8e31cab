import LambdaText.Number.Binary64

/-!
# Shortest decimals

The fewest digits that read back as a double. On the decimal grids of one, two, and up to seventeen
digits the two neighbours of the value are tried; the first grid with a neighbour that rounds to
the double wins, and on it the nearer neighbour.
-/

namespace LambdaText.Number

def decimalDigits (n : Nat) : List Char := Nat.toDigits 10 n

/-- The largest `e` with `10^e ≤ num / den`. -/
def decimalExponent (num den : Nat) : Int :=
  if den ≤ num then ((decimalDigits (num / den)).length : Int) - 1
  else
    let count := (decimalDigits (den / num)).length
    if den ≤ num * Nat.pow 10 (count - 1) then -((count : Int) - 1) else -(count : Int)

/-- A positive decimal `digits · 10^exponent`. -/
structure Decimal where
  digits : Nat
  exponent : Int

/-- The reals that round to a double: `value`, the bounds `low` and `high` on both sides, all over
the common denominator `unit`, and whether the bounds round to it too. -/
structure RoundingInterval where
  value : Nat
  low : Nat
  high : Nat
  unit : Nat
  closed : Bool

/-- The interval of a finite double with a mantissa other than zero. -/
def Dyadic.interval (d : Dyadic) : RoundingInterval :=
  let (scale, unit) :=
    if 0 ≤ d.exponent then (Nat.pow 2 d.exponent.toNat, 4)
    else (1, 4 * Nat.pow 2 (-d.exponent).toNat)
  let m := 4 * d.mantissa
  let below := if d.mantissa = Nat.pow 2 52 && d.exponent != -1074 then 1 else 2
  ⟨m * scale, (m - below) * scale, (m + 2) * scale, unit, d.mantissa % 2 = 0⟩

/-- `d · 10^g` over the unit of the interval, with the factor the other numerators need. -/
def RoundingInterval.onGrid (i : RoundingInterval) (g : Int) (d : Nat) : Nat × Nat :=
  if 0 ≤ g then (d * Nat.pow 10 g.toNat * i.unit, 1) else (d * i.unit, Nat.pow 10 (-g).toNat)

def RoundingInterval.accepts (i : RoundingInterval) (g : Int) (d : Nat) : Bool :=
  let (n, f) := i.onGrid g d
  if i.closed then i.low * f ≤ n && n ≤ i.high * f else i.low * f < n && n < i.high * f

/-- The distance of `d · 10^g` from the double, in a unit that depends on `g` alone. -/
def RoundingInterval.distance (i : RoundingInterval) (g : Int) (d : Nat) : Nat :=
  let (n, f) := i.onGrid g d
  max n (i.value * f) - min n (i.value * f)

/-- The nearer neighbour on the grid of `10^g` that rounds to the double, ties to even. -/
def RoundingInterval.neighbour? (i : RoundingInterval) (g : Int) : Option Nat :=
  let below :=
    if 0 ≤ g then i.value / (Nat.pow 10 g.toNat * i.unit)
    else i.value * Nat.pow 10 (-g).toNat / i.unit
  let nearer :=
    if i.distance g below < i.distance g (below + 1) then below
    else if i.distance g (below + 1) < i.distance g below then below + 1
    else if below % 2 = 0 then below else below + 1
  if i.accepts g nearer then some nearer
  else if i.accepts g below then some below
  else if i.accepts g (below + 1) then some (below + 1)
  else none

def RoundingInterval.shortest (i : RoundingInterval) : Decimal :=
  let top := decimalExponent i.value i.unit
  let grids := (List.range 17).map fun (k : Nat) => top - (k : Int)
  ((grids.findSome? fun g => (i.neighbour? g).map fun d => (⟨d, g⟩ : Decimal))).getD
    ⟨i.value / i.unit, 0⟩

structure DecimalLayout where
  /-- The least exponent of the first digit that is written positionally. -/
  least : Int
  limit : Int
  exponentDigits : Nat

/-- Positional from `0.0001` to below ten to the sixteenth, with a fraction always shown; an
exponent has a sign and two digits at least. -/
def plainLayout : DecimalLayout := ⟨-4, 16, 2⟩

def significant (n : Nat) : List Char :=
  match ((decimalDigits n).reverse.dropWhile (· == '0')).reverse with
  | [] => ['0']
  | ds => ds

def DecimalLayout.exponentText (l : DecimalLayout) (e : Int) : List Char :=
  let ds := decimalDigits e.natAbs
  (if e < 0 then '-' else '+') :: List.replicate (l.exponentDigits - ds.length) '0' ++ ds

/-- Digits with the point after the digit of exponent zero; `top` is the exponent of the first. -/
def positional (ds : List Char) (top : Int) : List Char :=
  if top < 0 then
    '0' :: '.' :: List.replicate (-top - 1).toNat '0' ++ ds
  else
    let whole := top.toNat + 1
    let padded := ds ++ List.replicate (whole - ds.length) '0'
    padded.take whole ++ '.' :: (if padded.length ≤ whole then ['0'] else padded.drop whole)

def DecimalLayout.write (l : DecimalLayout) (d : Decimal) : List Char :=
  let ds := significant d.digits
  let top := d.exponent + (decimalDigits d.digits).length - 1
  if l.least ≤ top ∧ top < l.limit then positional ds top
  else
    let fraction := match ds.drop 1 with
      | [] => []
      | rest => '.' :: rest
    ds.take 1 ++ fraction ++ 'e' :: l.exponentText top

/-- The shortest text that reads back as a double. -/
def floatText (x : Float) : List Char :=
  match Dyadic.ofFloat? x with
  | some d =>
    let body := if d.mantissa = 0 then ['0', '.', '0'] else plainLayout.write d.interval.shortest
    if d.negative then '-' :: body else body
  | none =>
    if x.isNaN then "nan".toList else if x < 0 then "-inf".toList else "inf".toList

end LambdaText.Number
