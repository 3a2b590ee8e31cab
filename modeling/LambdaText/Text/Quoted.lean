import LambdaText.Text.Printable

/-!
# Quoted texts

The written form of texts and bytes. Single quotes stand around a text unless it has single quotes
and no double ones; the quote and the backslash are escaped, and so is every character that is not
printable.
-/

namespace LambdaText.Text

def hexDigit (n : Nat) : Char :=
  if n < 10 then Char.ofNat ('0'.toNat + n) else Char.ofNat ('a'.toNat + (n - 10))

def hexPadded (width n : Nat) : List Char :=
  (List.range width).reverse.map fun k => hexDigit (n / Nat.pow 16 k % 16)

/-- The quote put around a text that contains the given characters. -/
def chooseQuote (text : List Char) : Char :=
  if text.contains '\'' && !text.contains '"' then '"' else '\''

def escapeChar (q c : Char) : List Char :=
  if c = q ∨ c = '\\' then ['\\', c]
  else if c = '\n' then ['\\', 'n']
  else if c = '\r' then ['\\', 'r']
  else if c = '\t' then ['\\', 't']
  else if isPrintable c then [c]
  else if c.toNat < 0x100 then '\\' :: 'x' :: hexPadded 2 c.toNat
  else if c.toNat < 0x10000 then '\\' :: 'u' :: hexPadded 4 c.toNat
  else '\\' :: 'U' :: hexPadded 8 c.toNat

def quoted (text : List Char) : List Char :=
  let q := chooseQuote text
  q :: text.flatMap (escapeChar q) ++ [q]

def escapeByte (q : Char) (b : UInt8) : List Char :=
  if b < 0x7F && 0x20 ≤ b then
    let c := Char.ofNat b.toNat
    if c = q ∨ c = '\\' then ['\\', c] else [c]
  else if b == 0x0A then ['\\', 'n']
  else if b == 0x0D then ['\\', 'r']
  else if b == 0x09 then ['\\', 't']
  else '\\' :: 'x' :: hexPadded 2 b.toNat

def quotedBytes (bytes : List UInt8) : List Char :=
  let q := chooseQuote (bytes.map fun b => Char.ofNat b.toNat)
  'b' :: q :: bytes.flatMap (escapeByte q) ++ [q]

def quote (s : String) : String := String.ofList (quoted s.toList)

/-- Writes the characters of a text that are not ASCII as escapes. -/
def asciiForm (text : String) : String :=
  String.ofList (text.toList.flatMap fun c =>
    if c.toNat < 0x80 then [c]
    else if c.toNat < 0x100 then '\\' :: 'x' :: hexPadded 2 c.toNat
    else if c.toNat < 0x10000 then '\\' :: 'u' :: hexPadded 4 c.toNat
    else '\\' :: 'U' :: hexPadded 8 c.toNat)

end LambdaText.Text
