import LambdaText.Datum.Basic
import LambdaText.Number.Reals
import LambdaText.Text.Blank
import LambdaText.Text.Letters

/-!
# Validation of fields

Reading a datum as a text, an integer or a list of texts. What is wrong with a datum is an issue:
where it is, and what. Integers may be given as integral floats or as decimal texts.
-/

namespace LambdaText

open LambdaText.Text LambdaText.Number

/-- What is wrong with a datum. -/
inductive Defect where
  | missing
  | notText
  | notUnicode
  | notList
  | notInteger
  | unreadableInteger
  | oversizedInteger
  | fractional
  | infinite
  | negative
  | unknownForm
  | notModel
  | rule (message : String)
  deriving DecidableEq, Repr

namespace Defect

def kind : Defect → String
  | missing => "missing"
  | notText => "string_type"
  | notUnicode => "string_unicode"
  | notList => "list_type"
  | notInteger => "int_type"
  | unreadableInteger => "int_parsing"
  | oversizedInteger => "int_parsing_size"
  | fractional => "int_from_float"
  | infinite => "finite_number"
  | negative => "greater_than_equal"
  | unknownForm => "enum"
  | notModel => "model_type"
  | rule _ => "value_error"

def message : Defect → String
  | missing => "Field required"
  | notText => "Input should be a valid string"
  | notUnicode => "Input should be a valid string, unable to parse raw data as a unicode string"
  | notList => "Input should be a valid list"
  | notInteger => "Input should be a valid integer"
  | unreadableInteger => "Input should be a valid integer, unable to parse string as an integer"
  | oversizedInteger => "Unable to parse input string as an integer, exceeded maximum size"
  | fractional => "Input should be a valid integer, got a number with a fractional part"
  | infinite => "Input should be a finite number"
  | negative => "Input should be greater than or equal to 0"
  | unknownForm =>
    "Input should be 'arrow', 'underscore', 'section', 'implicit' or 'statement'"
  | notModel => "Input should be a valid dictionary or instance of LambdaSource"
  | rule message => s!"Value error, {message}"

end Defect

/-- A defect and the path to where it is. -/
structure Issue where
  path : List String
  defect : Defect
  deriving DecidableEq, Repr

def Issue.under (step : String) (issue : Issue) : Issue := { issue with path := step :: issue.path }

abbrev Checked (α : Type) := Except (List Issue) α

def Checked.fail {α : Type} (defect : Defect) : Checked α := .error [⟨[], defect⟩]

def Checked.at {α : Type} (step : String) (c : Checked α) : Checked α :=
  c.mapError fun issues => issues.map (Issue.under step)

def Checked.issues {α : Type} : Checked α → List Issue
  | .ok _ => []
  | .error issues => issues

def decodeUtf8? (bytes : List UInt8) : Option String :=
  String.fromUTF8? (ByteArray.mk bytes.toArray)

def Datum.asText : Datum → Checked String
  | .text s => .ok s
  | .bytes b =>
    match decodeUtf8? b with
    | .some s => .ok s
    | .none => .fail .notUnicode
  | _ => .fail .notText

/-- Whether a blank may surround the text of an integer; the information separators may not. -/
def isNumeralBlank (c : Char) : Bool := isBlank c && !(0x1C ≤ c.toNat && c.toNat ≤ 0x1F)

/-- Takes the blanks around the text of an integer off. -/
def trimNumeral (text : List Char) : List Char :=
  ((text.dropWhile isNumeralBlank).reverse.dropWhile isNumeralBlank).reverse

/-- Drops zeros and underscores in front of the first other digit; `last` is the one before. -/
def dropZeros (last : Char) : List Char → Option (List Char)
  | [] => some [last]
  | c :: rest =>
    if c = '0' ∨ c = '_' then dropZeros c rest
    else if '1' ≤ c ∧ c ≤ '9' then some (c :: rest)
    else if c = '.' then some (last :: c :: rest)
    else none

/-- The text of an integer from its first digit that counts, or from its minus sign. -/
def significantPart : List Char → Option (List Char)
  | [] => none
  | c :: rest =>
    if c = '0' then dropZeros c rest
    else if ('1' ≤ c ∧ c ≤ '9') ∨ c = '-' then some (c :: rest)
    else none

def dropFraction (text : List Char) : List Char :=
  let fraction := text.dropWhile (· != '.')
  if !fraction.isEmpty && (fraction.drop 1).all (· == '0') then text.takeWhile (· != '.') else text

def hasDoubleUnderscore : List Char → Bool
  | '_' :: '_' :: _ => true
  | _ :: rest => hasDoubleUnderscore rest
  | [] => false

def dropUnderscores (text : List Char) : Option (List Char) :=
  if text.head? = some '_' || text.getLast? = some '_' || hasDoubleUnderscore text then none
  else some (text.filter (· != '_'))

def decimalDigitsValue? (ds : List Char) : Option Nat :=
  if ds.isEmpty || !ds.all isAsciiDigit then none
  else some (ds.foldl (fun n c => 10 * n + (c.toNat - '0'.toNat)) 0)

def signedValue? : List Char → Option Int
  | '-' :: ds => (decimalDigitsValue? ds).map fun n => -(n : Int)
  | ds => (decimalDigitsValue? ds).map fun n => (n : Int)

def maxIntegerLength : Nat := 4300

def integerOfText (text : List Char) : Checked Int :=
  let trimmed := trimNumeral text
  let unsigned := match trimmed with
    | '+' :: rest => rest
    | _ => trimmed
  if trimmed.head? = some '+' && unsigned.head? = some '-' then .fail .unreadableInteger
  else match (significantPart unsigned).map dropFraction >>= dropUnderscores with
    | none => .fail .unreadableInteger
    | some ds =>
      if maxIntegerLength < ds.length then .fail .oversizedInteger
      else match signedValue? ds with
        | some i => .ok i
        | none => .fail .unreadableInteger

def integerOfFloat (x : Float) : Checked Int :=
  match truncate? x with
  | none => .fail .infinite
  | some i =>
    if !isIntegral x then .fail .fractional
    else if i.natAbs < Nat.pow 2 63 then .ok i
    else .fail .oversizedInteger

def Datum.asInteger : Datum → Checked Int
  | .int i => .ok i
  | .bool b => .ok (if b then 1 else 0)
  | .float x => integerOfFloat x
  | .text s => integerOfText s.toList
  | .bytes b =>
    match decodeUtf8? b with
    | .some s => integerOfText s.toList
    | .none => .fail .unreadableInteger
  | _ => .fail .notInteger

def Datum.asNatural (d : Datum) : Checked Nat := do
  let i ← d.asInteger
  if i < 0 then .fail .negative else .ok i.toNat

def checkItems {α : Type} (check : Datum → Checked α) : Nat → List Datum → Checked (List α)
  | _, [] => .ok []
  | n, d :: rest =>
    match (check d).at (toString n), checkItems check (n + 1) rest with
    | .ok a, .ok as => .ok (a :: as)
    | first, others => .error (first.issues ++ others.issues)

def Datum.asTexts : Datum → Checked (List String)
  | .list items | .tuple items | .set items => checkItems Datum.asText 0 items
  | _ => .fail .notList

end LambdaText
