/-!
# Integer operations

Division toward minus infinity, bitwise operations on two's complement numbers of unbounded width,
and rounding to powers of ten.
-/

namespace LambdaText.Number

/-- The complement of a natural number, as the magnitude of a negative one. -/
def complement (i : Int) : Int := -i - 1

/-- Bitwise "and" of two's complement numbers. -/
def bitAnd : Int → Int → Int
  | .ofNat a, .ofNat b => Int.ofNat (a &&& b)
  | .ofNat a, .negSucc b => Int.ofNat (a ^^^ (a &&& b))
  | .negSucc a, .ofNat b => Int.ofNat (b ^^^ (b &&& a))
  | .negSucc a, .negSucc b => Int.negSucc (a ||| b)

/-- Bitwise "or" of two's complement numbers. -/
def bitOr (a b : Int) : Int := complement (bitAnd (complement a) (complement b))

/-- Bitwise "exclusive or" of two's complement numbers. -/
def bitXor : Int → Int → Int
  | .ofNat a, .ofNat b => Int.ofNat (a ^^^ b)
  | .ofNat a, .negSucc b => Int.negSucc (a ^^^ b)
  | .negSucc a, .ofNat b => Int.negSucc (a ^^^ b)
  | .negSucc a, .negSucc b => Int.ofNat (a ^^^ b)

def shiftLeft (a : Int) (n : Nat) : Int := a * Nat.pow 2 n

def shiftRight (a : Int) (n : Nat) : Int := Int.fdiv a (Nat.pow 2 n)

def power (a : Int) (n : Nat) : Int :=
  let magnitude : Nat := Nat.pow a.natAbs n
  if a < 0 ∧ n % 2 = 1 then -(magnitude : Int) else magnitude

def roundQuotient (num : Int) (den : Nat) : Int :=
  let q := Int.fdiv num den
  let r := Int.fmod num den
  if 2 * r < den then q
  else if (den : Int) < 2 * r then q + 1
  else if q % 2 = 0 then q else q + 1

def roundToTens (i : Int) (n : Nat) : Int := roundQuotient i (Nat.pow 10 n) * Nat.pow 10 n

def bitLength (i : Int) : Nat := if i = 0 then 0 else i.natAbs.log2 + 1

/-- The digits of an integer in a base up to sixteen, after a mark. -/
def inBase (mark : String) (base : Nat) (i : Int) : String :=
  (if i < 0 then "-" else "") ++ mark ++ String.ofList (Nat.toDigits base i.natAbs)

end LambdaText.Number
