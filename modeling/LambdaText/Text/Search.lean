import LambdaText.Text.Blank

/-!
# Search in texts

Finding, counting, splitting at and replacing the occurrences of a part. Occurrences do not overlap
and are taken from the left, unless said otherwise.
-/

namespace LambdaText.Text

/-- The position of the first occurrence of a part, counted from `start`. -/
def findFrom (part : List Char) (start : Nat) : List Char → Option Nat
  | [] => if part.isEmpty then some start else none
  | c :: rest => if part.isPrefixOf (c :: rest) then some start else findFrom part (start + 1) rest

/-- The position of the first occurrence of a part. -/
def find? (part text : List Char) : Option Nat := findFrom part 0 text

def findLast? (part text : List Char) : Option Nat :=
  (find? part.reverse text.reverse).map fun i => text.length - i - part.length

/-- Splits a text at the occurrences of a part that is not empty, at most `n` times. -/
def splitAt (part : List Char) : Nat → List Char → List (List Char)
  | 0, text => [text]
  | n + 1, text =>
    match find? part text with
    | some i => text.take i :: splitAt part n (text.drop (i + part.length))
    | none => [text]

/-- Splits a text at the occurrences of a part from the right, at most `n` times. -/
def splitAtLast (part : List Char) (n : Nat) (text : List Char) : List (List Char) :=
  ((splitAt part.reverse n text.reverse).map List.reverse).reverse

/-- Splits a text at runs of blanks, at most `n` times; blanks at the ends are dropped. -/
def splitBlanks : Nat → List Char → List (List Char)
  | n, text =>
    match n, text.dropWhile isBlank with
    | _, [] => []
    | 0, rest => [trimEnd rest]
    | n + 1, rest =>
      rest.takeWhile (fun c => !isBlank c) :: splitBlanks n (rest.dropWhile fun c => !isBlank c)

/-- Splits a text at runs of blanks from the right, at most `n` times. -/
def splitBlanksLast (n : Nat) (text : List Char) : List (List Char) :=
  ((splitBlanks n text.reverse).map List.reverse).reverse

/-- Puts a text before each of the first `n` characters, and behind the last one if `n` is left. -/
def interleave (new : List Char) : Nat → List Char → List Char
  | 0, text => text
  | _ + 1, [] => new
  | n + 1, c :: rest => new ++ c :: interleave new n rest

/-- Replaces the first `n` occurrences of a part; an empty part occurs around every character. -/
def replace (old new : List Char) (n : Nat) (text : List Char) : List Char :=
  if old.isEmpty then interleave new n text
  else List.intercalate new (splitAt old n text)

/-- The number of occurrences of a part; an empty part occurs around every character. -/
def count (part text : List Char) : Nat :=
  if part.isEmpty then text.length + 1 else (splitAt part text.length text).length - 1

def stripBoth (test : Char → Bool) (text : List Char) : List Char :=
  ((text.dropWhile test).reverse.dropWhile test).reverse

def zeroFill (width : Nat) (text : List Char) : List Char :=
  let zeros := List.replicate (width - text.length) '0'
  match text with
  | c :: rest => if c = '+' ∨ c = '-' then c :: (zeros ++ rest) else zeros ++ text
  | [] => zeros

end LambdaText.Text
