import LambdaText.Number.Amount

/-!
# Residues of numbers

Equal numbers have the same residue, whatever their kinds: a fraction is taken modulo the prime
`2^61 - 1`, with the sign of the number. A row of residues has one of its own.
-/

namespace LambdaText

open LambdaText.Number

def residueModulus : Nat := 0x1FFFFFFFFFFFFFFF

def infiniteResidue : Int := 314159

/-- The residue minus one is not used. -/
def usableResidue (h : Int) : Int := if h = -1 then -2 else h

def signedResidue (negative : Bool) (magnitude : Nat) : Int :=
  let h : Int := (magnitude % residueModulus : Nat)
  usableResidue (if negative then -h else h)

/-- The residue of a float. Two to the power of 61 is one modulo the prime, so only the exponent
modulo 61 counts. -/
def floatResidue (x : Float) : Int :=
  match Dyadic.ofFloat? x with
  | some d => signedResidue d.negative (d.mantissa * Nat.pow 2 (d.exponent.emod 61).toNat)
  | none => if x.isNaN then 0 else if x < 0 then -infiniteResidue else infiniteResidue

def Amount.residue : Amount → Int
  | .int i => signedResidue (i < 0) i.natAbs
  | .float x => floatResidue x
  | .complex re im =>
    usableResidue (Int.bmod (floatResidue re + 1000003 * floatResidue im) 0x10000000000000000)

def rowFactors : UInt64 × UInt64 × UInt64 :=
  (0x9E3779B185EBCA87, 0xC2B2AE3D27D4EB4F, 0x27D4EB2F165667C5)

def rowResidue (row : List Int) : Int :=
  let (p, q, r) := rowFactors
  let mix := fun (acc : UInt64) (h : Int) =>
    let acc := acc + UInt64.ofInt h * q
    ((acc <<< 31) ||| (acc >>> 33)) * p
  let acc := row.foldl mix r + (UInt64.ofNat row.length ^^^ (r ^^^ 3527539))
  if acc = 0xFFFFFFFFFFFFFFFF then 1546275796 else Int.bmod acc.toNat 0x10000000000000000

end LambdaText
