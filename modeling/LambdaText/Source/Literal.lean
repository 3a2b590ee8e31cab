import LambdaText.Text.Letters

/-!
# Quoted literals in raw text

Where a quoted literal starts and ends when the text has not been read as code: a quote, then
anything but that quote, a backslash or a line feed, where a backslash takes the next character with
it, then the quote again. One or two marking letters at the start of a word belong to the literal.
-/

namespace LambdaText.Source

open LambdaText.Text

/-- The length of a literal's rest up to and with its closing quote. -/
def closing? (q : Char) : List Char → Option Nat
  | [] => none
  | ['\\'] => none
  | '\\' :: c :: rest => if c = '\n' then none else (closing? q rest).map (· + 2)
  | c :: rest =>
    if c = q then some 1
    else if c = '\n' then none
    else (closing? q rest).map (· + 1)

/-- The length of a literal without marks at the start of a text. -/
def bareLiteral? : List Char → Option Nat
  | [] => none
  | c :: rest => if c = '\'' ∨ c = '"' then (closing? c rest).map (· + 1) else none

def isLiteralMark (c : Char) : Bool := "rRbBuUfF".toList.contains c

/-- Whether exactly one of two neighbours is a word character. -/
def isBoundary (before after : Option Char) : Bool :=
  (before.any isWordChar) != (after.any isWordChar)

/-- The length of a literal that starts here, given the character before. -/
def literal? (before : Option Char) (text : List Char) : Option Nat :=
  match text with
  | a :: b :: rest =>
    if isLiteralMark a && isBoundary before (some a) then
      if isLiteralMark b then (bareLiteral? rest).map (· + 2)
      else (bareLiteral? (b :: rest)).map (· + 1)
    else bareLiteral? text
  | _ => bareLiteral? text

/-- Replaces every match, leftmost first, by one blank. The matcher gets the character before and
the text from here on and gives the length of a match. -/
def blankMatches (matcher : Option Char → List Char → Option Nat) :
    Nat → Option Char → List Char → List Char
  | _, _, [] => []
  | skip + 1, _, c :: rest => blankMatches matcher skip (some c) rest
  | 0, before, c :: rest =>
    match matcher before (c :: rest) with
    | some n => ' ' :: blankMatches matcher (n - 1) (some c) rest
    | none => c :: blankMatches matcher 0 (some c) rest

def stripLiterals (text : List Char) : List Char := blankMatches literal? 0 none text

def addToRuns (joined : Bool) (c : Char) : List (List Char) → List (List Char)
  | [] => if joined then [[c]] else [[], []]
  | run :: runs => if joined then (c :: run) :: runs else [] :: run :: runs

/-- The maximal runs of characters that satisfy a test, in order. -/
def runs (test : Char → Bool) (text : List Char) : List (List Char) :=
  (text.foldr (fun c => addToRuns (test c) c) [[]]).filter fun run => !run.isEmpty

def words (text : List Char) : List (List Char) := runs isWordChar text

/-- Whether a text has the word "return", so that it is a block of statements. -/
def hasReturn (text : List Char) : Bool := (words text).contains "return".toList

end LambdaText.Source
