import LambdaText.Text.Blank

/-!
# Lines

Cutting a text into lines, taking the common margin off a block and putting a margin on it. Margins
are measured between line feeds only, while a margin is put on after every line break, also after
the breaks that are no line feeds.
-/

namespace LambdaText.Text

def isLineBreak (c : Char) : Bool :=
  let n := c.toNat
  (0x0A ≤ n && n ≤ 0x0D) || (0x1C ≤ n && n ≤ 0x1E) || n == 0x85 || n == 0x2028 || n == 0x2029

/-- The lines of a text with their line breaks; a carriage return and a line feed are one break. -/
def linesWithBreaks : List Char → List (List Char)
  | [] => []
  | '\r' :: '\n' :: rest => ['\r', '\n'] :: linesWithBreaks rest
  | c :: rest =>
    if isLineBreak c then [c] :: linesWithBreaks rest
    else match linesWithBreaks rest with
      | [] => [[c]]
      | line :: lines => (c :: line) :: lines

def lines (text : List Char) : List (List Char) :=
  (linesWithBreaks text).map fun line => (line.reverse.dropWhile isLineBreak).reverse

def feedLines (text : List Char) : List (List Char) :=
  text.foldr
    (fun c out => if c = '\n' then [] :: out else
      match out with
      | [] => [[c]]
      | line :: rest => (c :: line) :: rest)
    [[]]

def joinFeedLines (parts : List (List Char)) : List Char :=
  List.intercalate ['\n'] parts

def isMarginChar (c : Char) : Bool := c == ' ' || c == '\t'

def commonStart : List Char → List Char → List Char
  | a :: as, b :: bs => if a = b then a :: commonStart as bs else []
  | _, _ => []

def margin? (line : List Char) : Option (List Char) :=
  if (line.dropWhile isMarginChar).isEmpty then none else some (line.takeWhile isMarginChar)

def commonMargin (block : List (List Char)) : List Char :=
  match block.filterMap margin? with
  | [] => []
  | first :: rest => rest.foldl commonStart first

/-- Takes the common margin off a block; lines of margin alone become empty. -/
def dedent (text : List Char) : List Char :=
  let block := (feedLines text).map fun line =>
    if (line.dropWhile isMarginChar).isEmpty then [] else line
  let width := (commonMargin block).length
  joinFeedLines (block.map fun line => line.drop width)

/-- Puts a margin on every line that is not blank. -/
def indent (margin text : List Char) : List Char :=
  (linesWithBreaks text).flatMap fun line =>
    if line.all isBlank then line else margin ++ line

def trimFeeds (text : List Char) : List Char :=
  ((text.dropWhile (· == '\n')).reverse.dropWhile (· == '\n')).reverse

/-- Every line break of carriage returns becomes a line feed. -/
def unifyBreaks : List Char → List Char
  | [] => []
  | '\r' :: '\n' :: rest => '\n' :: unifyBreaks rest
  | '\r' :: rest => '\n' :: unifyBreaks rest
  | c :: rest => c :: unifyBreaks rest

end LambdaText.Text
