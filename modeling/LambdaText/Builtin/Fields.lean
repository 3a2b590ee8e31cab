import LambdaText.Builtin.Attribute
import LambdaText.Value.Format

/-!
# Texts with fields

A field stands in braces: the name of an argument with attributes and items of it, a conversion and
a format, which may have fields itself. Doubled braces stand for themselves. Fields without a name
take the positions in order.
-/

namespace LambdaText

open LambdaText.Code LambdaText.Text

/-- How a text names the positions of its fields. -/
inductive Numbering where
  | undecided
  | counted (next : Nat)
  | given

structure BracedField where
  name : List Char
  conversion : Option Char := none
  format : List Char := []

/-- What the fields of a text are looked up in. -/
structure FieldArguments where
  positions : Option (List Value)
  named : String → Run Value

/-- Fails because a text with fields is malformed. -/
def badFields {α : Type} (message : String) : Run α := Run.raise "ValueError" message

/-- The name of a field with what ends it, and the rest. Square brackets hide what they hold. -/
def fieldName : Bool → List Char → Run (List Char × Option Char × List Char)
  | _, [] => return ([], none, [])
  | inBrackets, c :: rest => do
    if inBrackets then
      let (name, mark, rest) ← fieldName (c != ']') rest
      return (c :: name, mark, rest)
    else if c = '{' then badFields "unexpected '\x7b' in field name"
    else if c = '}' ∨ c = ':' ∨ c = '!' then return ([], some c, rest)
    else
      let (name, mark, rest) ← fieldName (c == '[') rest
      return (c :: name, mark, rest)

/-- The format of a field up to the brace that closes it, and the rest; braces nest. -/
def fieldFormat : Nat → List Char → Run (List Char × List Char)
  | _, [] => badFields "unmatched '\x7b' in format spec"
  | depth, c :: rest => do
    match c, depth with
    | '}', 0 => return ([], rest)
    | '}', n + 1 =>
      let (format, rest) ← fieldFormat n rest
      return (c :: format, rest)
    | _, n =>
      let (format, rest) ← fieldFormat (if c = '{' then n + 1 else n) rest
      return (c :: format, rest)

def readField (text : List Char) : Run (BracedField × List Char) := do
  let (name, mark, rest) ← fieldName false text
  match mark, rest with
  | some '}', _ => return ({ name }, rest)
  | some '!', [] => badFields "end of string while looking for conversion specifier"
  | some '!', c :: '}' :: rest => return ({ name, conversion := some c }, rest)
  | some '!', [_] => badFields "unmatched '\x7b' in format spec"
  | some '!', c :: ':' :: rest =>
    let (format, rest) ← fieldFormat 0 rest
    return ({ name, conversion := some c, format }, rest)
  | some '!', _ => badFields "expected ':' after conversion specifier"
  | some _, _ =>
    let (format, rest) ← fieldFormat 0 rest
    return ({ name, format }, rest)
  | none, _ => badFields "expected '\x7d' before end of string"

def fieldNumber? (text : List Char) : Option Nat :=
  let digits := plainDigits text
  if text.isEmpty || !digits.all isAsciiDigit then none else some (digitsValue 10 digits)

/-- Whether a character ends the name of an argument or attribute. -/
def endsPart (c : Char) : Bool := c == '.' || c == '['

/-- Follows attributes and items from a value, within so many steps. -/
def followParts : Nat → Value → List Char → Run Value
  | 0, v, _ => return v
  | _ + 1, v, [] => return v
  | n + 1, v, '.' :: rest => do
    let name := rest.takeWhile fun c => !endsPart c
    if name.isEmpty then badFields "Empty attribute in format string"
    else
      let part ← attributeOf v (String.ofList name)
      followParts n part (rest.dropWhile fun c => !endsPart c)
  | n + 1, v, '[' :: rest => do
    let name := rest.takeWhile (· != ']')
    match rest.dropWhile (· != ']') with
    | [] => badFields "Missing ']' in format string"
    | _ :: more =>
      if name.isEmpty then badFields "Empty attribute in format string"
      else
        let index := match fieldNumber? name with
          | some i => Value.int i
          | none => .ofChars name
        followParts n (← getItem v index) more
  | _ + 1, _, _ => badFields "Only '.' or '[' may follow ']' in format field specifier"

/-- The position that a name stands for, if it is none or a number, and how positions are named from
then on. -/
def Numbering.position (numbering : Numbering) (name : List Char) :
    Run (Option Nat × Numbering) := do
  match fieldNumber? name, name, numbering with
  | none, [], .undecided => return (some 0, .counted 1)
  | none, [], .counted next => return (some next, .counted (next + 1))
  | none, [], .given =>
    badFields "cannot switch from manual field specification to automatic field numbering"
  | some _, _, .counted _ =>
    badFields "cannot switch from automatic field numbering to manual field specification"
  | some i, _, _ => return (some i, .given)
  | none, _, _ => return (none, numbering)

def fieldValue (arguments : FieldArguments) (numbering : Numbering) (name : List Char) :
    Run (Value × Numbering) := do
  let first := name.takeWhile fun c => !endsPart c
  let parts := name.dropWhile fun c => !endsPart c
  let (position, numbering) ← numbering.position first
  let v ← match position, arguments.positions with
    | none, _ => arguments.named (String.ofList first)
    | some _, none => badFields "Format string contains positional fields"
    | some i, some positions =>
      match positions[i]? with
      | some v => pure v
      | none =>
        Run.raise "IndexError" s!"Replacement index {i} out of range for positional args tuple"
  return (← followParts (parts.length + 1) v parts, numbering)

def convertField (conversion : Option Char) (v : Value) : Run Value := do
  match conversion with
  | none => return v
  | some 's' => return .text (← plain v)
  | some 'r' => return .text (← shown v)
  | some 'a' => return .text (asciiForm (← shown v))
  | some c => badFields s!"Unknown conversion specifier {c}"

/-- Fills the fields of a text, given how fields in formats are filled, within so many steps. -/
def fillFields (inner : Numbering → List Char → Run (String × Numbering))
    (arguments : FieldArguments) :
    Nat → Numbering → List Char → Run (String × Numbering)
  | 0, numbering, _ => return ("", numbering)
  | n + 1, numbering, text => do
    let isBrace := fun (c : Char) => c == '{' || c == '}'
    let literal := String.ofList (text.takeWhile fun c => !isBrace c)
    match text.dropWhile fun c => !isBrace c with
    | [] => return (literal, numbering)
    | ['{'] => badFields "Single '\x7b' encountered in format string"
    | ['}'] => badFields "Single '\x7d' encountered in format string"
    | c :: d :: rest =>
      if c = d then
        let (more, numbering) ← fillFields inner arguments n numbering rest
        return (literal ++ toString c ++ more, numbering)
      else if c = '}' then badFields "Single '\x7d' encountered in format string"
      else
        let (field, rest) ← readField (d :: rest)
        let (v, numbering) ← fieldValue arguments numbering field.name
        let v ← convertField field.conversion v
        let (format, numbering) ←
          if field.format.contains '{' then inner numbering field.format
          else pure (String.ofList field.format, numbering)
        let shownField ← formatValue v format
        let (more, numbering) ← fillFields inner arguments n numbering rest
        return (literal ++ shownField ++ more, numbering)
    | rest => return (literal ++ String.ofList rest, numbering)

/-- Fills the fields of a text; fields may stand in formats so many times. -/
def fillNested (arguments : FieldArguments) :
    Nat → Numbering → List Char → Run (String × Numbering)
  | 0, _, _ => badFields "Max string recursion exceeded"
  | depth + 1, numbering, text =>
    fillFields (fillNested arguments depth) arguments (text.length + 1) numbering text

def formatText (text : String) (positions : List Value) (keywords : Keywords) : Run Value := do
  let named := fun name => match keywords.lookup name with
    | some v => pure v
    | none => throw (.error "KeyError" [.text name] none)
  let (result, _) ← fillNested ⟨some positions, named⟩ 2 .undecided text.toList
  return .text result

def formatTextFrom (text : String) (items : Value) : Run Value := do
  let named := fun name => getItem items (.text name)
  let (result, _) ← fillNested ⟨none, named⟩ 2 .undecided text.toList
  return .text result

end LambdaText
