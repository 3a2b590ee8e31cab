import LambdaText.Source.Literal
import LambdaText.Text.Identifier

/-!
# Free names

The names of a text that become its parameters when none are written. Literals, capitalized words,
attributes, labels and one word for the receiver are blanked out first; the words that remain and
may be names are listed once, in the order in which they come.
-/

namespace LambdaText.Source

open LambdaText.Text

/-- The length of a capitalized word, or of a point with the attribute behind it. -/
def capitalOrAttribute? (before : Option Char) : List Char → Option Nat
  | [] => none
  | c :: rest =>
    if 'A' ≤ c ∧ c ≤ 'Z' then
      if isBoundary before (some c) then some (1 + (rest.takeWhile isWordChar).length) else none
    else if c = '.' then
      match rest with
      | d :: rest =>
        if isAsciiNameStart d then some (2 + (rest.takeWhile isWordChar).length) else none
      | [] => none
    else none

/-- The length of a label: a word with a colon directly behind it. -/
def label? (before : Option Char) : List Char → Option Nat
  | [] => none
  | c :: rest =>
    if isAsciiNameStart c && isBoundary before (some c) then
      match rest.dropWhile isWordChar with
      | ':' :: _ => some (2 + (rest.takeWhile isWordChar).length)
      | _ => none
    else none

/-- The length of the receiver's word, where it stands between boundaries. -/
def receiver? (receiver : List Char) (before : Option Char) (text : List Char) : Option Nat :=
  if !receiver.isEmpty && receiver.isPrefixOf text && isBoundary before text.head? &&
      isBoundary receiver.getLast? (text.drop receiver.length).head? then
    some receiver.length
  else none

/-- The length of a span that holds no free name. -/
def excluded? (receiver : List Char) (before : Option Char) (text : List Char) : Option Nat :=
  literal? before text <|> capitalOrAttribute? before text <|> label? before text <|>
    receiver? receiver before text

/-- Whether a word may be a name: it starts with an ASCII letter or underscore, and is not
reserved. -/
def mayBeName (word : List Char) : Bool :=
  (word.head?.map isAsciiNameStart).getD false && !isReserved (String.ofList word)

def firstOccurrences {α : Type} [BEq α] (items : List α) : List α :=
  items.foldl (fun seen a => if seen.contains a then seen else seen ++ [a]) []

def freeNames (receiver text : List Char) : List String :=
  let remaining := blankMatches (excluded? receiver) 0 none text
  firstOccurrences (((words remaining).filter mayBeName).map String.ofList)

end LambdaText.Source
