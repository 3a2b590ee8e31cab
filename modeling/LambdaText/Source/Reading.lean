import LambdaText.Fault
import LambdaText.Source.Basic
import LambdaText.Source.FreeNames
import LambdaText.Text.Blank

/-!
# Reading a text

The grammars are tried in order. A text with an arrow is a chain of parameter lists and a body; a
text with the word `_` takes one argument; a text that starts or ends with an operator lacks an
operand there; any other text takes its free names.
-/

namespace LambdaText.Source

open LambdaText.Text

def splitArrows : List Char → List (List Char)
  | [] => [[]]
  | '-' :: '>' :: rest => [] :: splitArrows rest
  | c :: rest =>
    match splitArrows rest with
    | [] => [[c]]
    | piece :: pieces => (c :: piece) :: pieces

/-- Takes the blanks next to arrows off the pieces after the first arrow. -/
def trimLater : List (List Char) → List (List Char)
  | [] => []
  | [body] => [trimStart body]
  | piece :: pieces => trim piece :: trimLater pieces

/-- The pieces of a text between its arrows, without the blanks next to arrows. -/
def sections (text : List Char) : List (List Char) :=
  match splitArrows text with
  | [] => []
  | [only] => [only]
  | first :: rest => trimEnd first :: trimLater rest

/-- The tokens of a parameter list: what stands between blanks and commas. -/
def parameterTokens (segment : List Char) : List String :=
  (runs (fun c => !isBlank c && c != ',') segment).map String.ofList

def isParameterName (name : String) : Bool := isIdentifier name.toList && !isReserved name

/-- The first token that is no parameter or repeats one, given the tokens before. -/
def parameterFault? (text : String) (seen : List String) : List String → Option Fault
  | [] => none
  | name :: rest =>
    if !isParameterName name then some (.invalidParameter name text)
    else if seen.contains name then some (.repeatedParameter name text)
    else parameterFault? text (name :: seen) rest

def readParameters (text : String) (segment : List Char) : Except Fault (List String) :=
  let names := parameterTokens segment
  match parameterFault? text [] names with
  | some fault => .error fault
  | none => .ok names

/-- The text of a later stage: the remaining pieces with plain arrows between them. -/
def stageText (pieces : List (List Char)) : String :=
  String.ofList (List.intercalate " -> ".toList pieces)

/-- The stages of a chain, `own` being the text of the first one. The innermost parameter list is
read first. -/
def readChain (text own : String) : List (List Char) → Except Fault Source
  | [] => .ok (.last own .arrow [] "")
  | [body] => .ok (.last own .arrow [] (String.ofList body))
  | [segment, body] => do
    let parameters ← readParameters text segment
    pure (.last own .arrow parameters (String.ofList body))
  | segment :: rest => do
    let inner ← readChain text (stageText rest) rest
    let parameters ← readParameters text segment
    pure (.stage own .arrow parameters inner)

def hasUnderscore (text : List Char) : Bool := (words (stripLiterals text)).contains ['_']

def isLeadingOperator (c : Char) : Bool := "+*/%&|^!.=<>".toList.contains c

/-- Whether an operand may be lacking behind a character; a minus sign is one only here. -/
def isTrailingOperator (c : Char) : Bool := "+-*/%&|^!.=<>".toList.contains c

def lacksFirst (text : List Char) : Bool := (trimStart text).head?.any isLeadingOperator

def lacksLast (text : List Char) : Bool := (trimEnd text).getLast?.any isTrailingOperator

/-- The names that a text uses up: in every word, what follows from its first ASCII letter or
underscore. -/
def takenNames (text : List Char) : List (List Char) :=
  ((words text).map fun word => word.dropWhile fun c => !isAsciiNameStart c).filter
    fun name => !name.isEmpty

/-- Adds underscores to a name until it is not taken; as many as there are taken names suffice. -/
def freshWithin (taken : List (List Char)) : Nat → List Char → List Char
  | 0, name => name
  | tries + 1, name =>
    if taken.contains name then freshWithin taken tries (name ++ ['_']) else name

/-- A name that is not taken: the candidate and as few underscores as possible. -/
def freshName (taken : List (List Char)) (candidate : List Char) : List Char :=
  freshWithin taken taken.length candidate

/-- The parameters and the body of a text that lacks an operand. -/
def fillOperands (operandName text : List Char) : List String × List Char :=
  let taken := takenNames text
  let first := freshName taken (operandName ++ ['1'])
  let last := freshName taken (operandName ++ ['2'])
  match lacksFirst text, lacksLast text with
  | true, true => ([String.ofList first, String.ofList last], first ++ text ++ last)
  | true, false => ([String.ofList first], first ++ text)
  | false, true => ([String.ofList last], text ++ last)
  | false, false => ([], text)

def readPlain (operandName receiver : List Char) (text : String) : Source :=
  let chars := text.toList
  if hasUnderscore chars then .last text .underscore ["_"] text
  else if lacksFirst chars || lacksLast chars then
    let (parameters, body) := fillOperands operandName chars
    .last text .openEnded parameters (String.ofList body)
  else .last text .implicit (freeNames receiver chars) text

/-- Reads a text, given the start of the names for lacking operands and the receiver's word. -/
def read (operandName receiver : List Char) (text : String) : Except Fault Source :=
  match sections text.toList with
  | first :: second :: rest => readChain text text (first :: second :: rest)
  | _ => .ok (readPlain operandName receiver text)

def ofBlock (text : String) : Source := .last text .statement [] text

end LambdaText.Source
