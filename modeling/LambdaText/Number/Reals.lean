import LambdaText.Number.Binary64
import LambdaText.Number.Integers

/-!
# Operations on doubles

Comparison of doubles with integers, exact remainders, division toward minus infinity and rounding
to decimal places. Everything that the hardware does not give is computed on exact ratios.
-/

namespace LambdaText.Number

/-- A finite double as an exact ratio: a signed numerator over a positive denominator. -/
def exactRatio? (x : Float) : Option (Int × Nat) :=
  (Dyadic.ofFloat? x).map fun d =>
    let (n, u) := d.ratio
    (if d.negative then -(n : Int) else n, u)

/-- How two numbers stand to each other; not-a-number stands in no relation. -/
inductive Standing where
  | less
  | equal
  | greater
  | unordered
  deriving DecidableEq

def Standing.ofInts (a b : Int) : Standing :=
  if a < b then .less else if a = b then .equal else .greater

def Standing.ofFloats (a b : Float) : Standing :=
  if a < b then .less else if a == b then .equal else if b < a then .greater else .unordered

def Standing.ofIntFloat (i : Int) (x : Float) : Standing :=
  match exactRatio? x with
  | some (n, d) => Standing.ofInts (i * d) n
  | none => if x.isNaN then .unordered else if x < 0 then .greater else .less

/-- The same relation seen from the other side. -/
def Standing.swap : Standing → Standing
  | .less => .greater
  | .greater => .less
  | s => s

def truncate? (x : Float) : Option Int :=
  (exactRatio? x).map fun (n, d) => Int.tdiv n d

def isIntegral (x : Float) : Bool :=
  match exactRatio? x with
  | some (n, d) => n % d == 0
  | none => false

def signedZero (negative : Bool) : Float := Float.ofBits (signBit negative).toUInt64

def withSign (magnitude sign : Float) : Float :=
  Float.ofBits (signBit (signBitSet sign) + magnitude.toBits.toNat % Nat.pow 2 63).toUInt64

def truncatedRemainder (x y : Float) : Float :=
  match exactRatio? x, exactRatio? y with
  | some (a, c), some (b, d) =>
    if b = 0 then 0.0 / 0.0
    else
      let r := (a.natAbs * d) % (b.natAbs * c)
      floatOfRatio (signBitSet x) r (c * d)
  | some _, none => if y.isNaN then y else x
  | none, _ => 0.0 / 0.0

/-- Quotient toward minus infinity and remainder with the sign of the divisor, which is not zero. -/
def floorDivMod (x y : Float) : Float × Float :=
  let m := truncatedRemainder x y
  let d := (x - m) / y
  let (m, d) :=
    if m != 0 then (if decide (y < 0) != decide (m < 0) then (m + y, d - 1) else (m, d))
    else (withSign 0.0 y, d)
  let q :=
    if d != 0 then
      let f := d.floor
      if d - f > 0.5 then f + 1 else f
    else withSign 0.0 (x / y)
  (q, m)

/-- The nearest integer of a finite double, ties to even. -/
def roundHalfEven? (x : Float) : Option Int :=
  (exactRatio? x).map fun (n, d) => roundQuotient n d

/-- A finite double rounded to decimal places, exact ties to even. -/
def roundPlaces (x : Float) (places : Int) : Float :=
  match exactRatio? x with
  | none => x
  | some (n, d) =>
    if 323 < places then x
    else if places < -308 then signedZero (signBitSet x)
    else if 0 ≤ places then
      let k := roundQuotient (n * Nat.pow 10 places.toNat) d
      floatOfRatio (signBitSet x) k.natAbs (Nat.pow 10 places.toNat)
    else
      let k := roundQuotient n (d * Nat.pow 10 (-places).toNat)
      floatOfRatio (signBitSet x) (k.natAbs * Nat.pow 10 (-places).toNat) 1

def isFinite (x : Float) : Bool := (Dyadic.ofFloat? x).isSome

end LambdaText.Number
