import LambdaText.Builtin.Arguments
import LambdaText.Eval.Iteration
import LambdaText.Text.Case
import LambdaText.Text.Identifier
import LambdaText.Text.Lines
import LambdaText.Text.Printable
import LambdaText.Text.Search

/-!
# Methods of texts
-/

namespace LambdaText

open LambdaText.Text

def textMethods : List String :=
  ["capitalize", "casefold", "center", "count", "encode", "endswith", "find", "format",
   "format_map", "index", "isalnum", "isalpha", "isascii", "isdecimal", "isdigit", "isidentifier", "islower", "isnumeric",
   "isprintable", "isspace", "istitle", "isupper", "join", "ljust", "lower", "lstrip", "partition",
   "removeprefix", "removesuffix", "replace", "rfind", "rindex", "rjust", "rpartition", "rsplit",
   "rstrip", "split", "splitlines", "startswith", "strip", "swapcase", "title", "upper", "zfill"]

def newTexts (texts : List (List Char)) : Run Value :=
  Run.newList (texts.map Value.ofChars).toArray

def joinTexts (separator : String) : Nat → List Value → Run (List String)
  | _, [] => return []
  | n, v :: rest => do
    match v with
    | .text s => return s :: (← joinTexts separator (n + 1) rest)
    | _ =>
      Run.raise "TypeError" s!"sequence item {n}: expected str instance, {v.kindName} found"

def optionalBound (v : Option Value) : Run (Option Int) := do
  match v with
  | some v => sliceBound v
  | none => return none

/-- The part of a text between bounds, and where it starts; none if the bounds leave nothing, not
even an empty part. -/
def boundedPart (text : List Char) (first last : Option Value) :
    Run (Option (Nat × List Char)) := do
  let (a, b) := sliceBounds text.length (← optionalBound first) (← optionalBound last) 1
  let rawStart := match ← optionalBound first with
    | some i => if i < 0 then i + text.length else i
    | none => 0
  if b < a || (text.length : Int) < rawStart then return none
  else return some (a.toNat, (text.take b.toNat).drop a.toNat)

def limitOf (v : Option Value) (text : List Char) : Run Nat := do
  match v with
  | none => return text.length + 1
  | some v =>
    let i ← demandIndex v
    return if i < 0 then text.length + 1 else i.toNat

/-- Whether a text starts or ends with a part, or with one of several. -/
def hasEnd (name : String) (test : List Char → Bool) (v : Value) : Run Bool := do
  match v with
  | .text s => return test s.toList
  | .tuple items =>
    let parts ← items.mapM fun item => match item with
      | .text s => pure s.toList
      | other =>
        Run.raise "TypeError"
          s!"tuple for {name} must only contain str, not {other.kindName}"
    return parts.any test
  | _ =>
    Run.raise "TypeError"
      s!"{name} first arg must be str or a tuple of str, not {v.kindName}"

def fillChar (v : Option Value) : Run Char := do
  match v with
  | none => return ' '
  | some (.text s) =>
    match s.toList with
    | [c] => return c
    | _ => Run.raise "TypeError" "The fill character must be exactly one character long"
  | some v =>
    Run.raise "TypeError"
      s!"The fill character must be a unicode character, not {v.kindName}"

def allOf (test : Char → Bool) (text : List Char) : Value :=
  .bool (!text.isEmpty && text.all test)

def cutAt (text separator : List Char) (position : Option Nat) (whole : Bool) : Value :=
  match position with
  | some i =>
    .tuple [.ofChars (text.take i), .ofChars separator,
      .ofChars (text.drop (i + separator.length))]
  | none =>
    if whole then .tuple [.ofChars text, .text "", .text ""]
    else .tuple [.text "", .text "", .ofChars text]

/-- Calls a method that takes no arguments; none if there is no such method. -/
def plainTextMethod? (text : List Char) (name : String) : Option Value :=
  match name with
  | "capitalize" => some (.ofChars (capitalize text))
  | "casefold" => some (.ofChars (foldCase text))
  | "isalnum" => some (allOf isAlphanumeric text)
  | "isalpha" => some (allOf isLetter text)
  | "isascii" => some (.bool (text.all fun c => c.toNat < 0x80))
  | "isdecimal" => some (allOf isDecimal text)
  | "isdigit" => some (allOf isDigit text)
  | "isidentifier" => some (.bool (isIdentifier text))
  | "islower" => some (.bool (allSmall text))
  | "isnumeric" => some (allOf isNumeric text)
  | "isprintable" => some (.bool (text.all isPrintable))
  | "isspace" => some (allOf isBlank text)
  | "istitle" => some (.bool (isTitled text))
  | "isupper" => some (.bool (allCapital text))
  | "lower" => some (.ofChars (toLower text))
  | "swapcase" => some (.ofChars (swapCase text))
  | "title" => some (.ofChars (toTitle text))
  | "upper" => some (.ofChars (toUpper text))
  | _ => none

def stripMethod (text : List Char) (name : String) (argument : Option Value) : Run Value := do
  let test ← match argument with
    | none | some .none => pure isBlank
    | some (.text s) => pure s.toList.contains
    | some _ => Run.raise "TypeError" s!"{name} arg must be None or str"
  return .ofChars (match name with
    | "lstrip" => text.dropWhile test
    | "rstrip" => (text.reverse.dropWhile test).reverse
    | _ => stripBoth test text)

def searchMethod (text : List Char) (name : String) (positions : List Value) : Run Value := do
  let part ← demandText s!"{name} argument" (positions.headD .none)
  let bounded ← boundedPart text positions[1]? positions[2]?
  if name == "count" then
    return .int ((bounded.map fun (_, window) => (count part window : Int)).getD 0)
  else
    let found := bounded.bind fun (start, window) =>
      ((if name.startsWith "r" then findLast? part window else find? part window)).map (· + start)
    match found with
    | some i => return .int i
    | none =>
      if name.endsWith "index" then Run.raise "ValueError" "substring not found"
      else return .int (-1)

def splitMethod (text : List Char) (name : String) (positions : List Value)
    (keywords : Keywords) : Run Value := do
  match ← shareArguments name ["sep", "maxsplit"] 0 0 positions keywords with
  | [separator, limit] =>
    let limit ← limitOf limit text
    match separator with
    | none | some .none =>
      newTexts (if name == "split" then splitBlanks limit text else splitBlanksLast limit text)
    | some v =>
      let part ← demandText "must be str or None, not" v
      if part.isEmpty then Run.raise "ValueError" "empty separator"
      else newTexts (if name == "split" then splitAt part limit text
        else splitAtLast part limit text)
  | _ => return .none

def fillMethod (text : List Char) (name : String) (positions : List Value) : Run Value := do
  let width ← demandIndex (positions.headD .none)
  if name == "zfill" then return .ofChars (zeroFill width.toNat text)
  else
    let c ← fillChar positions[1]?
    let missing := width.toNat - text.length
    let left := match name with
      | "ljust" => 0
      | "rjust" => missing
      | _ => missing / 2 + (if missing % 2 = 1 ∧ width.toNat % 2 = 1 then 1 else 0)
    return .ofChars (List.replicate left c ++ text ++ List.replicate (missing - left) c)

variable (m : Machine)

def callTextMethod (s : String) (name : String) (positions : List Value) (keywords : Keywords) :
    Run Value := do
  let text := s.toList
  match plainTextMethod? text name with
  | some v =>
    demandCount ("str." ++ name) 0 0 positions keywords
    return v
  | none =>
    match name with
    | "strip" | "lstrip" | "rstrip" =>
      demandCount name 0 1 positions keywords
      stripMethod text name positions.head?
    | "count" | "find" | "index" | "rfind" | "rindex" =>
      demandCount name 1 3 positions keywords
      searchMethod text name positions
    | "split" | "rsplit" => splitMethod text name positions keywords
    | "splitlines" =>
      match ← shareArguments name ["keepends"] 0 0 positions keywords with
      | [some v] =>
        newTexts (if (← demandIndex v) = 0 then lines text else linesWithBreaks text)
      | _ => newTexts (lines text)
    | "startswith" | "endswith" =>
      demandCount name 1 3 positions keywords
      match ← boundedPart text positions[1]? positions[2]? with
      | none =>
        let _ ← hasEnd name (fun _ => false) (positions.headD .none)
        return .bool false
      | some (_, window) =>
        let test := fun (part : List Char) =>
          if name == "startswith" then part.isPrefixOf window else part.isSuffixOf window
        return .bool (← hasEnd name test (positions.headD .none))
    | "join" =>
      demandCount name 1 1 positions keywords
      let v := positions.headD .none
      let items ← match ← itemsAtHand? v with
        | some items => pure items
        | none =>
          match v with
          | .iterator _ _ => drain m v
          | _ => Run.raise "TypeError" "can only join an iterable"
      return .text (s.intercalate (← joinTexts s 0 items))
    | "replace" =>
      demandCount name 2 3 positions keywords
      let old ← demandText "replace() argument 1" (positions.headD .none)
      let new ← demandText "replace() argument 2" (positions[1]?.getD .none)
      return .ofChars (replace old new (← limitOf positions[2]? text) text)
    | "zfill" =>
      demandCount name 1 1 positions keywords
      fillMethod text name positions
    | "center" | "ljust" | "rjust" =>
      demandCount name 1 2 positions keywords
      fillMethod text name positions
    | "partition" | "rpartition" =>
      demandCount name 1 1 positions keywords
      let separator ← demandText "must be str, not" (positions.headD .none)
      if separator.isEmpty then Run.raise "ValueError" "empty separator"
      else
        let first := name == "partition"
        return cutAt text separator
          (if first then find? separator text else findLast? separator text) first
    | "removeprefix" | "removesuffix" =>
      demandCount name 1 1 positions keywords
      let part ← demandText (name ++ "() argument") (positions.headD .none)
      if name == "removeprefix" then
        return .ofChars (if part.isPrefixOf text then text.drop part.length else text)
      else
        return .ofChars (if !part.isEmpty && part.isSuffixOf text then
          text.take (text.length - part.length) else text)
    | "encode" =>
      demandCount name 0 2 positions keywords
      if utf8Named positions then return .bytes s.toUTF8.toList else Run.leaveOpen
    | _ => Run.raise "AttributeError" s!"'str' object has no attribute '{name}'"

end LambdaText
