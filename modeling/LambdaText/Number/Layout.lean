import LambdaText.Number.Reals
import LambdaText.Number.Shortest

/-!
# Laid out numbers

Decimal forms with a given precision, rounded exactly with ties to even, and fields: a sign, digits
in groups, and filling to a width.
-/

namespace LambdaText.Number

/-- Digits with zeros in front, so that there are more of them than places. -/
def withPlaces (places n : Nat) : List Char :=
  let ds := decimalDigits n
  List.replicate (places + 1 - ds.length) '0' ++ ds

def pointBefore (places : Nat) (alternate : Bool) (ds : List Char) : List Char :=
  let whole := ds.take (ds.length - places)
  if places = 0 then (if alternate then whole ++ ['.'] else whole)
  else whole ++ '.' :: ds.drop (ds.length - places)

/-- A non-negative ratio with so many decimal places. -/
def fixedText (num den places : Nat) (alternate : Bool) : List Char :=
  let scaled := (roundQuotient (num * Nat.pow 10 places : Nat) den).natAbs
  pointBefore places alternate (withPlaces places scaled)

/-- The digits of a positive ratio, so many of them, and the power of ten of the first one. -/
def leadingDigits (num den digits : Nat) : List Char × Int :=
  let e := decimalExponent num den
  let at_ := fun (e : Int) =>
    let shift : Int := digits - 1 - e
    if 0 ≤ shift then (roundQuotient (num * Nat.pow 10 shift.toNat : Nat) den).natAbs
    else (roundQuotient (num : Nat) (den * Nat.pow 10 (-shift).toNat)).natAbs
  let adjust := fun (e : Int) =>
    let ds := decimalDigits (at_ e)
    if digits < ds.length then (ds.take digits, e + 1) else (ds, e)
  let (ds, e) := adjust e
  if ds.length < digits then adjust (e - 1) else (ds, e)

/-- An exponent with its sign and at least two digits. -/
def exponentText (mark : Char) (e : Int) : List Char :=
  let ds := decimalDigits e.natAbs
  mark :: (if e < 0 then '-' else '+') :: (List.replicate (2 - ds.length) '0' ++ ds)

/-- Digits with a point behind the first one, and an exponent. -/
def scientific (mark : Char) (alternate : Bool) (ds : List Char) (e : Int) : List Char :=
  pointBefore (ds.length - 1) alternate ds ++ exponentText mark e

def digitsOf (num den digits : Nat) : List Char × Int :=
  if num = 0 then (List.replicate digits '0', 0) else leadingDigits num den digits

/-- Drops zeros at the end of the digits behind a point, and the point if nothing is left. -/
def dropTrailingZeros (ds : List Char) : List Char :=
  if ds.contains '.' then
    let kept := (ds.reverse.dropWhile (· == '0'))
    (if kept.head? = some '.' then kept.drop 1 else kept).reverse
  else ds

/-- A ratio with so many significant digits, positional unless its exponent is far off. -/
def generalText (num den digits : Nat) (mark : Char) (alternate keepPoint : Bool) : List Char :=
  let digits := max digits 1
  let (ds, e) := digitsOf num den digits
  let limit : Int := if keepPoint then digits - 1 else digits
  let trimmed := fun (text : List Char) => if alternate then text else dropTrailingZeros text
  if e < -4 ∨ limit ≤ e then
    trimmed (pointBefore (ds.length - 1) alternate ds) ++ exponentText mark e
  else
    let body :=
      if 0 ≤ e then pointBefore (ds.length - 1 - e.toNat) alternate ds
      else pointBefore (ds.length - 1 + (-e).toNat) alternate
        (List.replicate (-e).toNat '0' ++ ds)
    let body := trimmed body
    if keepPoint && !body.contains '.' then body ++ ".0".toList else body

def grouped (separator : Char) (size : Nat) (ds : List Char) : List Char :=
  let step := fun (c : Char) ((out, n) : List Char × Nat) =>
    if n = size then (c :: separator :: out, 1) else (c :: out, n + 1)
  (ds.foldr step ([], 0)).1

end LambdaText.Number
