import LambdaText.Number.Reals

/-!
# Numbers of any kind

Integers, doubles and complex numbers side by side. Two of them are equal if they stand for the same
number, whatever their kinds.
-/

namespace LambdaText

open LambdaText.Number

/-- A number of any kind. -/
inductive Amount where
  | int (i : Int)
  | float (x : Float)
  | complex (re im : Float)

def equalIntFloat (i : Int) (x : Float) : Bool :=
  match Standing.ofIntFloat i x with
  | .equal => true
  | _ => false

/-- Whether two numbers are equal, whatever their kinds. -/
def Amount.equal : Amount → Amount → Bool
  | .int a, .int b => a == b
  | .int a, .float b => equalIntFloat a b
  | .float a, .int b => equalIntFloat b a
  | .float a, .float b => a == b
  | .complex a b, .complex c d => a == c && b == d
  | .complex a b, .int c => b == 0 && equalIntFloat c a
  | .int c, .complex a b => b == 0 && equalIntFloat c a
  | .complex a b, .float c => b == 0 && a == c
  | .float c, .complex a b => b == 0 && a == c

end LambdaText
