/-!
# Tables of code points

A table is written as text: inclusive ranges `lo-hi` or single points `lo`, in hexadecimal,
separated by blanks. Reading happens once, and membership is a search through the ranges.
-/

namespace LambdaText.Text

/-- The value of a hexadecimal digit in either case. -/
def hexValue? (c : Char) : Option Nat :=
  if '0' ≤ c ∧ c ≤ '9' then some (c.toNat - '0'.toNat)
  else if 'a' ≤ c ∧ c ≤ 'f' then some (c.toNat - 'a'.toNat + 10)
  else if 'A' ≤ c ∧ c ≤ 'F' then some (c.toNat - 'A'.toNat + 10)
  else none

/-- The number a word of hexadecimal digits denotes; other characters count as zero. -/
def readHex (word : List Char) : Nat :=
  word.foldl (fun n c => 16 * n + (hexValue? c).getD 0) 0

/-- The pieces of a text between the occurrences of one character. -/
def pieces (mark : Char) (text : List Char) : List (List Char) :=
  text.foldr
    (fun c out => if c = mark then [] :: out else
      match out with
      | [] => [[c]]
      | piece :: rest => (c :: piece) :: rest)
    [[]]

/-- Inclusive ranges of code points. -/
structure RangeTable where
  ranges : Array (Nat × Nat)

def readRange (word : List Char) : Nat × Nat :=
  match pieces '-' word with
  | [lo, hi] => (readHex lo, readHex hi)
  | _ => (readHex word, readHex word)

def RangeTable.ofLines (lines : List String) : RangeTable :=
  ⟨(lines.flatMap fun line => (pieces ' ' line.toList).map readRange).toArray⟩

def RangeTable.contains (t : RangeTable) (n : Nat) : Bool :=
  t.ranges.any fun (lo, hi) => lo ≤ n && n ≤ hi

end LambdaText.Text
