/-!
# Binary floating point, exactly

A finite double is `±m · 2^e`. Decoding gives `m` and `e`; encoding takes any ratio of naturals to
the nearest double, ties going to the even neighbour, so that conversion from integers and decimals
is correctly rounded.
-/

namespace LambdaText.Number

/-- A finite double: `mantissa · 2^exponent`, negated if `negative`. -/
structure Dyadic where
  negative : Bool
  mantissa : Nat
  exponent : Int

/-- Decodes a double; infinities and not-a-number have no finite value. -/
def Dyadic.ofFloat? (x : Float) : Option Dyadic :=
  let bits : Nat := x.toBits.toNat
  let negative := bits / Nat.pow 2 63 == 1
  let field : Nat := bits / Nat.pow 2 52 % Nat.pow 2 11
  let fraction : Nat := bits % Nat.pow 2 52
  if field = 0x7FF then none
  else if field = 0 then some ⟨negative, fraction, -1074⟩
  else some ⟨negative, fraction + Nat.pow 2 52, (field : Int) - 1075⟩

def Dyadic.ratio (d : Dyadic) : Nat × Nat :=
  if 0 ≤ d.exponent then (d.mantissa * Nat.pow 2 d.exponent.toNat, 1)
  else (d.mantissa, Nat.pow 2 (-d.exponent).toNat)

def roundRatio (num den : Nat) : Nat :=
  let q := num / den
  let r := num % den
  if 2 * r < den then q
  else if den < 2 * r then q + 1
  else if q % 2 = 0 then q else q + 1

def scaleRatio (num den : Nat) (e : Int) : Nat × Nat :=
  if 0 ≤ e then (num, den * Nat.pow 2 e.toNat) else (num * Nat.pow 2 (-e).toNat, den)

def unitExponent (num den : Nat) : Int :=
  let guess : Int := (num.log2 : Int) - den.log2 - 52
  let (n, d) := scaleRatio num den guess
  max (if n / d < Nat.pow 2 52 then guess - 1 else guess) (-1074)

def signBit (negative : Bool) : Nat := if negative then Nat.pow 2 63 else 0

/-- The bits of the double nearest to `num / den`; past the largest double, those of infinity. -/
def ratioBits (num den : Nat) : Nat :=
  if num = 0 then 0
  else
    let e := unitExponent num den
    let (n, d) := scaleRatio num den e
    let m := roundRatio n d
    let bits := if m < Nat.pow 2 52 then m else (e + 1074).toNat * Nat.pow 2 52 + m
    if 0x7FF * Nat.pow 2 52 ≤ bits then 0x7FF * Nat.pow 2 52 else bits

def floatOfRatio (negative : Bool) (num den : Nat) : Float :=
  Float.ofBits (signBit negative + ratioBits num den).toUInt64

def floatOfInt (i : Int) : Float := floatOfRatio (i < 0) i.natAbs 1

/-- The double nearest to `±digits · 10^exponent`. Decimals far outside the range of doubles are
settled by their magnitude, without forming the power. -/
def floatOfDecimal (negative : Bool) (digits : Nat) (exponent : Int) : Float :=
  let magnitude := ((Nat.toDigits 10 digits).length : Int) + exponent
  if digits = 0 ∨ magnitude < -330 then floatOfRatio negative 0 1
  else if 320 < magnitude then floatOfRatio negative (Nat.pow 10 320) 1
  else if 0 ≤ exponent then floatOfRatio negative (digits * Nat.pow 10 exponent.toNat) 1
  else floatOfRatio negative digits (Nat.pow 10 (-exponent).toNat)

def signBitSet (x : Float) : Bool := x.toBits.toNat / Nat.pow 2 63 == 1

end LambdaText.Number
