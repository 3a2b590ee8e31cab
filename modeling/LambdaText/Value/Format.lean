import LambdaText.Number.Layout
import LambdaText.Value.Item

/-!
# Formats

The mini-language for fields of templates: filling, alignment, sign, width, grouping, precision and
kind of presentation; and the older one in which a text is the pattern of a remainder.
-/

namespace LambdaText

open LambdaText.Number LambdaText.Text LambdaText.Code

structure Format where
  fill : Char := ' '
  align : Option Char := none
  sign : Option Char := none
  plainZero : Bool := false
  alternate : Bool := false
  width : Nat := 0
  grouping : Option Char := none
  precision : Option Nat := none
  kind : Option Char := none

def isAlign (c : Char) : Bool := c == '<' || c == '>' || c == '=' || c == '^'

/-- Decimal digits at the start of a text as a number, and the rest. -/
def leadingNumber (text : List Char) : Option Nat × List Char :=
  let ds := text.takeWhile isAsciiDigit
  (if ds.isEmpty then none else some (digitsValue 10 ds), text.dropWhile isAsciiDigit)

/-- Takes a character off the start of a text, if it is there. -/
def takeMark (c : Char) (text : List Char) : Bool × List Char :=
  match text with
  | d :: rest => if c = d then (true, rest) else (false, text)
  | [] => (false, text)

/-- What separates groups of digits, and the rest; there is at most one such sign. -/
def readGrouping (text : List Char) : Option (Option Char × List Char) :=
  let isMark := fun (c : Char) => c == ',' || c == '_'
  match text with
  | c :: rest =>
    if isMark c then
      if (rest.head?.map isMark).getD false then none else some (some c, rest)
    else some (none, text)
  | [] => some (none, text)

def admitsGroups (mark : Char) (kind : Option Char) : Bool :=
  match kind with
  | none => true
  | some k => "deEfFgG%".toList.contains k || (mark == '_' && "boxX".toList.contains k)

/-- Reads a format; `right` says whether values are usually put to the right. -/
def Format.read? (right : Bool) (text : List Char) : Option Format := do
  let (fill, align, text) := match text with
    | f :: a :: rest =>
      if isAlign a then (some f, some a, rest)
      else if isAlign f then (none, some f, a :: rest) else (none, none, text)
    | [a] => if isAlign a then (none, some a, []) else (none, none, text)
    | [] => (none, none, text)
  let (sign, text) := match text with
    | c :: rest => if c = '+' ∨ c = '-' ∨ c = ' ' then (some c, rest) else (none, text)
    | [] => (none, text)
  let (plainZero, text) := takeMark 'z' text
  let (alternate, text) := takeMark '#' text
  let (zero, text) := takeMark '0' text
  let (width, text) := leadingNumber text
  let (grouping, text) ← readGrouping text
  let (precision, text) ← match text with
    | '.' :: rest =>
      match leadingNumber rest with
      | (some p, rest) => some (some p, rest)
      | (none, _) => none
    | _ => some (none, text)
  let kind ← match text with
    | [] => some none
    | [c] => some (some c)
    | _ => none
  let fill := if zero && fill.isNone then some '0' else fill
  let align := if zero && right && align.isNone then some '=' else align
  if (grouping.map fun mark => admitsGroups mark kind).getD true then
    some { fill := fill.getD ' ', align, sign, plainZero, alternate, width := width.getD 0,
           grouping, precision, kind }
  else none

/-- Fills a field up; `lead` is the sign with the mark of the base, and `usual` the alignment where
none is asked for. -/
def Format.place (f : Format) (usual : Char) (lead body : List Char) : String :=
  let missing := f.width - (lead.length + body.length)
  let filling := fun n => List.replicate n f.fill
  String.ofList (match f.align.getD usual with
    | '<' => lead ++ body ++ filling missing
    | '^' => filling (missing / 2) ++ lead ++ body ++ filling (missing - missing / 2)
    | '=' => lead ++ filling missing ++ body
    | _ => filling missing ++ lead ++ body)

def Format.signText (f : Format) (negative : Bool) : List Char :=
  if negative then ['-'] else (f.sign.filter (· != '-')).toList

/-- Fails because a kind of presentation does not suit a value. -/
def unknownFormat {α : Type} (kind : Char) (what : String) : Run α :=
  Run.raise "ValueError"
    s!"Unknown format code '{kind}' for object of type '{what}'"

def Format.text (f : Format) (s : String) : Run String := do
  if f.sign.isSome then
    Run.raise "ValueError" "Sign not allowed in string format specifier"
  else if f.plainZero then
    Run.raise "ValueError" "Negative zero coercion (z) not allowed in string format specifier"
  else if f.alternate then
    Run.raise "ValueError" "Alternate form (#) not allowed in string format specifier"
  else if f.align = some '=' then
    Run.raise "ValueError" "'=' alignment not allowed in string format specifier"
  else match f.grouping, f.kind.getD 's' with
    | some c, _ => Run.raise "ValueError" s!"Cannot specify '{c}' with 's'."
    | none, 's' =>
      let chars := s.toList
      return f.place '<' [] (match f.precision with
        | some p => chars.take p
        | none => chars)
    | none, k => unknownFormat k "str"

/-- Groups the whole digits of a number, filling with grouped zeros where zeros fill. -/
def Format.groupWhole (f : Format) (size lead tail : Nat) (whole : List Char) : List Char :=
  match f.grouping with
  | none => whole
  | some c =>
    let least := if f.fill = '0' ∧ f.align = some '=' then f.width - lead - tail else 0
    let plain := grouped c size whole
    if plain.length < least then
      let padded := List.replicate (least - whole.length) '0' ++ whole
      let all := grouped c size padded
      let cut := all.drop (all.length - least)
      if cut.head? = some c then '0' :: cut else cut
    else plain

/-- Puts a point behind the first digits of a text that has none. -/
def withPoint (text : List Char) : List Char :=
  if text.contains '.' then text
  else text.takeWhile isAsciiDigit ++ '.' :: text.dropWhile isAsciiDigit

/-- The digits of a float without its sign; without a kind they are the fewest that suffice. A
percentage is a product in floats. -/
def Format.floatBody (f : Format) (x : Float) : List Char :=
  let x := if f.kind = some '%' then x * 100 else x
  let upper := (f.kind.map Char.isUpper).getD false
  match exactRatio? x.abs with
  | none =>
    let name := if x.isNaN then "nan".toList else "inf".toList
    let name := if upper then name.map Char.toUpper else name
    if f.kind = some '%' then name ++ ['%'] else name
  | some (num, den) =>
    let num := num.natAbs
    let p := f.precision.getD 6
    let digits := digitsOf num den (p + 1)
    match f.kind with
    | some 'f' | some 'F' => fixedText num den p f.alternate
    | some '%' => fixedText num den p f.alternate ++ ['%']
    | some 'e' => scientific 'e' f.alternate digits.1 digits.2
    | some 'E' => scientific 'E' f.alternate digits.1 digits.2
    | some _ => generalText num den p (if upper then 'E' else 'e') f.alternate false
    | none =>
      match f.precision with
      | none => if f.alternate then withPoint (floatText x.abs) else floatText x.abs
      | some p => generalText num den p 'e' f.alternate true

/-- The sign of a float with these digits, and its digits in groups. -/
def Format.floatParts (f : Format) (x : Float) (body : List Char) : List Char × List Char :=
  let whole := body.takeWhile isAsciiDigit
  let tail := body.dropWhile isAsciiDigit
  let isZero := !whole.isEmpty && body.all fun c => c == '0' || !('1' ≤ c && c ≤ '9')
  let lead := f.signText (signBitSet x && !x.isNaN && !(f.plainZero && isZero))
  if whole.isEmpty then (lead, body)
  else (lead, f.groupWhole 3 lead.length tail.length whole ++ tail)

/-- Fails because of a kind of presentation that does not suit numbers of this sort. -/
def Format.checkKind (f : Format) (kinds what : String) : Run Unit :=
  match f.kind with
  | some k => if kinds.toList.contains k then pure () else unknownFormat k what
  | none => pure ()

def Format.float (f : Format) (x : Float) : Run String := do
  f.checkKind "eEfFgGn%" "float"
  let (lead, body) := f.floatParts x (f.floatBody x)
  return f.place '>' lead body

/-- The digits of a part of a complex number: whole numbers have no point without a kind. -/
def Format.partBody (f : Format) (x : Float) : List Char :=
  match f.kind, f.precision with
  | none, none =>
    let text := (partText x.abs).toList
    if f.alternate && x.isFinite then withPoint text else text
  | none, some _ => { f with kind := some 'g' }.floatBody x
  | some _, _ => f.floatBody x

/-- Formats a complex number. Without a kind a real part of zero is left out, and any other number
stands in brackets. -/
def Format.complex (f : Format) (re im : Float) : Run String := do
  f.checkKind "eEfFgGn" "complex"
  if f.fill = '0' then
    Run.raise "ValueError" "Zero padding is not allowed in complex format specifier"
  else if f.align = some '=' then
    Run.raise "ValueError" "'=' alignment flag is not allowed in complex format specifier"
  else
    let part := fun (f : Format) (x : Float) =>
      let (lead, body) := f.floatParts x (f.partBody x)
      lead ++ body
    if f.kind.isNone && re == 0 && !signBitSet re then return f.place '>' [] (part f im ++ ['j'])
    else
      let both := part f re ++ part { f with sign := some '+' } im ++ ['j']
      return f.place '>' [] (if f.kind.isNone then '(' :: both ++ [')'] else both)

def Format.character (f : Format) (i : Int) : Run String := do
  if f.sign.isSome then
    Run.raise "ValueError" "Sign not allowed with integer format specifier 'c'"
  else if f.alternate then
    Run.raise "ValueError" "Alternate form (#) not allowed with integer format specifier 'c'"
  else if isSurrogate i.toNat then Run.leaveOpen
  else if 0 ≤ i ∧ i < 0x110000 then return f.place '>' [] [Char.ofNat i.toNat]
  else Run.raise "OverflowError" "%c arg not in range(0x110000)"

def Format.integer (f : Format) (i : Int) : Run String := do
  let kind := f.kind.getD 'd'
  let lead := f.signText (i < 0)
  let based := fun (base : Nat) (mark : String) (size : Nat) => do
    let ds := Nat.toDigits base i.natAbs
    let lead := lead ++ (if f.alternate then mark.toList else [])
    let ds := if kind = 'X' then ds.map Char.toUpper else ds
    return f.place '>' lead (f.groupWhole size lead.length 0 ds)
  if "eEfFgG%".toList.contains kind then f.float (← toFloat i)
  else if !"dnboxXc".toList.contains kind then unknownFormat kind "int"
  else if f.precision.isSome then
    Run.raise "ValueError" "Precision not allowed in integer format specifier"
  else if f.plainZero then
    Run.raise "ValueError" "Negative zero coercion (z) not allowed in integer format specifier"
  else match kind with
    | 'b' => based 2 "0b" 4
    | 'o' => based 8 "0o" 4
    | 'x' => based 16 "0x" 4
    | 'X' => based 16 "0X" 4
    | 'c' => f.character i
    | _ => based 10 "" 3

def formatValue (v : Value) (format : String) : Run String := do
  if format.isEmpty then plain v
  else
    let simple := match v with
      | .text _ | .bool _ | .int _ | .float _ | .complex .. => true
      | _ => false
    let right := match v with
      | .text _ => false
      | _ => true
    if !simple then
      Run.raise "TypeError"
        s!"unsupported format string passed to {v.kindName}.__format__"
    else match Format.read? right format.toList, v with
      | some f, .text s => f.text s
      | some f, .bool b => f.integer (if b then 1 else 0)
      | some f, .int i => f.integer i
      | some f, .float x => f.float x
      | some f, .complex re im => f.complex re im
      | _, _ => Run.raise "ValueError" "Invalid format specifier"

/-! ### Patterns -/

def patternFlags : List Char := "-+ #0".toList

/-- A width or precision of a field of a pattern: digits, or a star for the next argument. -/
def patternNumber (text : List Char) (arguments : List Value) :
    Run (Option Int × List Char × List Value) := do
  match text, arguments with
  | '*' :: rest, a :: more =>
    match a.index? with
    | some i =>
      if i.natAbs < Nat.pow 2 63 then return (some i, rest, more)
      else Run.raise "OverflowError" "Python int too large to convert to C ssize_t"
    | none => Run.raise "TypeError" "* wants int"
  | '*' :: _, [] => Run.raise "TypeError" "not enough arguments for format string"
  | _, _ =>
    let (n, rest) := leadingNumber text
    return (n.map fun k => (k : Int), rest, arguments)

def patternInteger (kind : Char) (v : Value) : Run Int := do
  match v with
  | .float x =>
    if kind = 'd' ∨ kind = 'i' ∨ kind = 'u' then
      match truncate? x with
      | some i => return i
      | none =>
        if x.isNaN then Run.raise "ValueError" "cannot convert float NaN to integer"
        else Run.raise "OverflowError" "cannot convert float infinity to integer"
    else Run.raise "TypeError" s!"%{kind} format: an integer is required, not float"
  | v =>
    match v.index? with
    | some i => return i
    | none =>
      if kind = 'd' ∨ kind = 'i' ∨ kind = 'u' then
        Run.raise "TypeError" s!"%{kind} format: a real number is required, not {v.kindName}"
      else Run.raise "TypeError" s!"%{kind} format: an integer is required, not {v.kindName}"

def patternCharacter (v : Value) : Run Char := do
  match v with
  | .text s =>
    match s.toList with
    | [c] => return c
    | _ => Run.raise "TypeError" "%c requires int or char"
  | _ =>
    match v.index? with
    | some i =>
      if isSurrogate i.toNat then Run.leaveOpen
      else if 0 ≤ i ∧ i < 0x110000 then return Char.ofNat i.toNat
      else Run.raise "OverflowError" "%c arg not in range(0x110000)"
    | none => Run.raise "TypeError" "%c requires int or char"

def patternField (f : Format) (kind : Char) (v : Value) : Run String := do
  let plainly : Format :=
    { width := f.width
      precision := f.precision
      align := some (if f.align = some '<' then '<' else '>') }
  match kind with
  | 's' => plainly.text (← plain v)
  | 'r' => plainly.text (← shown v)
  | 'a' => plainly.text (asciiForm (← shown v))
  | 'c' => Format.text { plainly with precision := none } (← patternCharacter v).toString
  | 'd' | 'i' | 'u' | 'x' | 'X' | 'o' =>
    let i ← patternInteger kind v
    let kind := if kind = 'i' ∨ kind = 'u' then 'd' else kind
    let base := if kind = 'd' then 10 else if kind = 'o' then 8 else 16
    let ds := Nat.toDigits base i.natAbs
    let ds := List.replicate (f.precision.getD 0 - ds.length) '0' ++ ds
    let ds := if kind = 'X' then ds.map Char.toUpper else ds
    let mark := if !f.alternate ∨ kind = 'd' then [] else ['0', kind]
    return f.place '>' (f.signText (i < 0) ++ mark) ds
  | 'e' | 'E' | 'f' | 'F' | 'g' | 'G' =>
    match v.amount? with
    | some n => Format.float { f with kind := some kind } (← n.toFloat)
    | none => Run.raise "TypeError" s!"must be real number, not {v.kindName}"
  | c =>
    Run.raise "ValueError"
      s!"unsupported format character '{c}' (0x{String.ofList (Nat.toDigits 16 c.toNat)})"

/-- The key of a field up to the bracket that closes it, and the rest; brackets may nest. -/
def patternKey? : Nat → List Char → Option (List Char × List Char)
  | _, [] => none
  | open_, c :: rest =>
    if c = ')' then
      match open_ with
      | 0 => some ([], rest)
      | n + 1 => (patternKey? n rest).map fun (key, rest) => (c :: key, rest)
    else
      (patternKey? (if c = '(' then open_ + 1 else open_) rest).map fun (key, rest) =>
        (c :: key, rest)

/-- The arguments of a field that may begin with a key, and the rest. The items of the mapping are
found by `item`, if there is a mapping. -/
def patternArguments (item : Option (Value → Run Value)) (text : List Char)
    (arguments : List Value) : Run (List Char × List Value) := do
  match text with
  | '(' :: rest =>
    match item with
    | none => Run.raise "TypeError" "format requires a mapping"
    | some item =>
      match patternKey? 0 rest with
      | some (key, rest) => return (rest, [← item (.ofChars key)])
      | none => Run.raise "ValueError" "incomplete format key"
  | _ => return (text, arguments)

/-- Fills the fields of a pattern with arguments, with a bound on its length. -/
def fillPattern (item : Option (Value → Run Value)) :
    Nat → List Char → List Value → String → Run (String × List Value)
  | 0, _, arguments, out => return (out, arguments)
  | _, [], arguments, out => return (out, arguments)
  | n + 1, '%' :: '%' :: rest, arguments, out => fillPattern item n rest arguments (out ++ "%")
  | n + 1, '%' :: rest, arguments, out => do
    let (rest, arguments) ← patternArguments item rest arguments
    let flags := rest.takeWhile patternFlags.contains
    let rest := rest.dropWhile patternFlags.contains
    let (width, rest, arguments) ← patternNumber rest arguments
    let (precision, rest, arguments) ← match rest with
      | '.' :: rest =>
        let (p, rest, arguments) ← patternNumber rest arguments
        pure (some (p.getD 0).toNat, rest, arguments)
      | _ => pure (none, rest, arguments)
    let rest := match rest with
      | c :: more => if c = 'h' ∨ c = 'l' ∨ c = 'L' then more else rest
      | [] => rest
    match rest, arguments with
    | [], _ => Run.raise "ValueError" "incomplete format"
    | _, [] => Run.raise "TypeError" "not enough arguments for format string"
    | kind :: rest, a :: arguments =>
      let left := flags.contains '-' || width.any (· < 0)
      let zero := flags.contains '0' && !left
      let f : Format :=
        { fill := if zero then '0' else ' '
          align := some (if left then '<' else if zero then '=' else '>')
          sign :=
            if flags.contains '+' then some '+' else if flags.contains ' ' then some ' ' else none
          alternate := flags.contains '#'
          width := (width.getD 0).natAbs
          precision }
      fillPattern item n rest arguments (out ++ (← patternField f kind a))
  | n + 1, c :: rest, arguments, out => fillPattern item n rest arguments (out.push c)

/-- Whether items of a value can be looked up by a key in a pattern. -/
def hasPatternItems : Value → Bool
  | .dict _ | .list _ | .bytes _ | .range _ _ _ => true
  | _ => false

/-- Fills a pattern with the items of a tuple, or with one value. -/
def formatPattern (pattern : String) (v : Value) : Run Value := do
  let arguments := match v with
    | .tuple items => items
    | v => [v]
  let chars := pattern.toList
  let item := if hasPatternItems v then some (getItem v) else none
  let (out, rest) ← fillPattern item (chars.length + 1) chars arguments ""
  if !rest.isEmpty && !hasPatternItems v then
    Run.raise "TypeError" "not all arguments converted during string formatting"
  else return .text out

def binaryOperation (op : BinaryOp) (a b : Value) : Run Value := do
  match op, a with
  | .remainder, .text s => formatPattern s b
  | _, _ => operate op a b

end LambdaText
