import LambdaText.Number.Binary64
import LambdaText.Text.Ranges
import LambdaText.Text.Letters

/-!
# Numerals

Integers in four bases, decimals with point and exponent, and imaginary numbers. Single underscores
may stand between digits. A numeral may be followed directly by one of the words that continue an
expression, but by no other letter.
-/

namespace LambdaText.Code

open LambdaText.Text LambdaText.Number

/-- A number as it is written. -/
inductive Numeral where
  | int (n : Nat)
  | float (x : Float)
  | imaginary (x : Float)

/-- The most digits of a decimal integer that is read or written. -/
def maxDecimalDigits : Nat := 4300

/-- The digits that go on after a digit, and the rest; an underscore has to be followed by one. -/
def moreDigits (isDig : Char → Bool) : List Char → Option (List Char × List Char)
  | [] => some ([], [])
  | ['_'] => none
  | '_' :: d :: rest =>
    if isDig d then (moreDigits isDig rest).map fun (ds, r) => (d :: ds, r) else none
  | d :: rest =>
    if isDig d then (moreDigits isDig rest).map fun (ds, r) => (d :: ds, r)
    else some ([], d :: rest)

/-- Digits with single underscores between them; fails unless the text starts with a digit and
every underscore is followed by one. -/
def digitRun (isDig : Char → Bool) : List Char → Option (List Char × List Char)
  | [] => none
  | c :: rest =>
    if isDig c then (moreDigits isDig rest).map fun (ds, r) => (c :: ds, r) else none

def digitsValue (base : Nat) (ds : List Char) : Nat :=
  ds.foldl (fun n c => base * n + (hexValue? c).getD 0) 0

def mayBelongToName (c : Char) : Bool :=
  isAsciiLetter c || isAsciiDigit c || c == '_' || 0x80 ≤ c.toNat

def followingWords : List String := ["and", "else", "for", "if", "in", "is", "or", "not"]

def endsNumeral (rest : List Char) : Bool :=
  followingWords.any (fun word => word.toList.isPrefixOf rest) ||
  !((rest.head?.map mayBelongToName).getD false)

def closeNumeral (n : Numeral) (rest : List Char) : Option (Numeral × List Char) :=
  if endsNumeral rest then some (n, rest) else none

/-- Reads the digits after the mark of a base. -/
def basedNumeral (base : Nat) (isDig : Char → Bool) (text : List Char) :
    Option (Numeral × List Char) := do
  let text := match text with
    | '_' :: rest => rest
    | _ => text
  let (ds, rest) ← digitRun isDig text
  closeNumeral (.int (digitsValue base ds)) rest

/-- Reads an exponent after its mark: the value and the rest. -/
def exponent? : List Char → Option (Int × List Char)
  | '+' :: rest => (digitRun isAsciiDigit rest).map fun (ds, r) => ((digitsValue 10 ds : Int), r)
  | '-' :: rest => (digitRun isAsciiDigit rest).map fun (ds, r) => (-(digitsValue 10 ds : Int), r)
  | rest => (digitRun isAsciiDigit rest).map fun (ds, r) => ((digitsValue 10 ds : Int), r)

/-- Ends a decimal with whole digits `whole` and fraction digits `fraction`, after its exponent. -/
def closeDecimal (whole fraction : List Char) (e : Int) (rest : List Char) :
    Option (Numeral × List Char) :=
  let x := floatOfDecimal false (digitsValue 10 (whole ++ fraction)) (e - fraction.length)
  match rest with
  | c :: rest' =>
    if c = 'j' ∨ c = 'J' then closeNumeral (.imaginary x) rest' else closeNumeral (.float x) rest
  | [] => closeNumeral (.float x) rest

/-- Goes on after the digits of a decimal: an exponent, if one follows, and the end. -/
def decimalTail (whole fraction rest : List Char) : Option (Numeral × List Char) :=
  match rest with
  | c :: rest' =>
    if c = 'e' ∨ c = 'E' then
      match rest' with
      | d :: _ =>
        if d = '+' ∨ d = '-' ∨ isAsciiDigit d then do
          let (e, r) ← exponent? rest'
          closeDecimal whole fraction e r
        else closeDecimal whole fraction 0 rest
      | [] => none
    else closeDecimal whole fraction 0 rest
  | [] => closeDecimal whole fraction 0 rest

def fraction? (whole rest : List Char) : Option (Numeral × List Char) :=
  match rest with
  | d :: _ =>
    if isAsciiDigit d then do
      let (ds, r) ← digitRun isAsciiDigit rest
      decimalTail whole ds r
    else decimalTail whole [] rest
  | [] => decimalTail whole [] rest

/-- Ends a decimal integer; leading zeros stand only before zeros, of which there may be any
number. -/
def closeInteger (ds rest : List Char) : Option (Numeral × List Char) :=
  if ds.all (· == '0') || (ds.head? != some '0' && ds.length ≤ maxDecimalDigits) then
    closeNumeral (.int (digitsValue 10 ds)) rest
  else none

def decimalNumeral (text : List Char) : Option (Numeral × List Char) := do
  let (ds, rest) ← digitRun isAsciiDigit text
  match rest with
  | '.' :: rest' => fraction? ds rest'
  | c :: rest' =>
    if c = 'j' ∨ c = 'J' then
      closeNumeral (.imaginary (floatOfDecimal false (digitsValue 10 ds) 0)) rest'
    else if c = 'e' ∨ c = 'E' then
      match rest' with
      | d :: _ =>
        if d = '+' ∨ d = '-' ∨ isAsciiDigit d then decimalTail ds [] rest
        else closeInteger ds rest
      | [] => none
    else closeInteger ds rest
  | [] => closeInteger ds rest

def isOctalDigit (c : Char) : Bool := '0' ≤ c && c ≤ '7'

def isBinaryDigit (c : Char) : Bool := c == '0' || c == '1'

def isHexDigit (c : Char) : Bool := (hexValue? c).isSome

def startsNumeral : List Char → Bool
  | '.' :: d :: _ => isAsciiDigit d
  | c :: _ => isAsciiDigit c
  | [] => false

def numeral? : List Char → Option (Numeral × List Char)
  | '.' :: rest => fraction? [] rest
  | '0' :: c :: rest =>
    if c = 'x' ∨ c = 'X' then basedNumeral 16 isHexDigit rest
    else if c = 'o' ∨ c = 'O' then basedNumeral 8 isOctalDigit rest
    else if c = 'b' ∨ c = 'B' then basedNumeral 2 isBinaryDigit rest
    else decimalNumeral ('0' :: c :: rest)
  | text => decimalNumeral text

end LambdaText.Code
