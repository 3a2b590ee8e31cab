import LambdaText.Number.Reals

/-!
# Complex numbers

Products, quotients and powers of pairs of doubles. A power with a small integral exponent is
computed by repeated multiplication, any other one by its length and its angle.
-/

namespace LambdaText.Number

/-- A real and an imaginary part. -/
structure ComplexFloat where
  re : Float
  im : Float

namespace ComplexFloat

def add (a b : ComplexFloat) : ComplexFloat := ⟨a.re + b.re, a.im + b.im⟩

def sub (a b : ComplexFloat) : ComplexFloat := ⟨a.re - b.re, a.im - b.im⟩

def mul (a b : ComplexFloat) : ComplexFloat :=
  ⟨a.re * b.re - a.im * b.im, a.re * b.im + a.im * b.re⟩

/-- The quotient, scaled by the larger part of the divisor; none by zero. -/
def div? (a b : ComplexFloat) : Option ComplexFloat :=
  let absRe := b.re.abs
  let absIm := b.im.abs
  if absRe >= absIm then
    if absRe == 0 then none
    else
      let ratio := b.im / b.re
      let denom := b.re + b.im * ratio
      some ⟨(a.re + a.im * ratio) / denom, (a.im - a.re * ratio) / denom⟩
  else if absIm >= absRe then
    let ratio := b.re / b.im
    let denom := b.re * ratio + b.im
    some ⟨(a.re * ratio + a.im) / denom, (a.im * ratio - a.re) / denom⟩
  else some ⟨0.0 / 0.0, 0.0 / 0.0⟩

def length (a : ComplexFloat) : Float :=
  let x := a.re.abs
  let y := a.im.abs
  if x.isInf || y.isInf then 1.0 / 0.0
  else
    let big := if x < y then y else x
    let small := if x < y then x else y
    if big == 0 then 0 else if small == 0 then big
    else big * (1 + (small / big) * (small / big)).sqrt

/-- The power with a natural exponent, by squaring within so many steps. -/
def powNat (a : ComplexFloat) : Nat → Nat → ComplexFloat → ComplexFloat
  | 0, _, result => result
  | steps + 1, n, result =>
    if n = 0 then result
    else powNat (mul a a) steps (n / 2) (if n % 2 = 1 then mul result a else result)

/-- The power; none for a power of zero that does not exist. -/
def pow? (a b : ComplexFloat) : Option ComplexFloat :=
  if b.im == 0 && b.re == b.re.floor && b.re.abs <= 100.0 then
    let n := b.re.abs.toUInt64.toNat
    let p := powNat a 8 n ⟨1, 0⟩
    if b.re < 0 then div? ⟨1, 0⟩ p else some p
  else if a.re == 0 && a.im == 0 then
    if b.im == 0 && 0 < b.re then some ⟨0, 0⟩ else none
  else
    let size := a.length
    let angle := Float.atan2 a.im a.re
    let len := Float.pow size b.re
    let phase := angle * b.re
    if b.im == 0 then some ⟨len * phase.cos, len * phase.sin⟩
    else
      let len := len / (angle * b.im).exp
      let phase := phase + b.im * size.log
      some ⟨len * phase.cos, len * phase.sin⟩

end ComplexFloat

end LambdaText.Number
