import LambdaText.Code.Expression

/-!
# Reading statements

The grammar of statement blocks. `Stmt.suite` reads an indented block or the rest of a line, given
a reader for the blocks nested in it; `Stmt.readBlock?` closes the knot for a whole text.

Left out are imports, classes, `with`, `match`, decorators, `except*`, and whatever is asynchronous:
a block with one of them is not read, although the host knows it.
-/

namespace LambdaText.Code

open LambdaText.Text Reader

def augmentSigns : List (String × BinaryOp) :=
  [("+=", .add), ("-=", .subtract), ("*=", .multiply), ("/=", .divide), ("//=", .floorDivide),
   ("%=", .remainder), ("**=", .power), ("@=", .matrixMultiply), ("<<=", .shiftLeft),
   (">>=", .shiftRight), ("&=", .bitAnd), ("|=", .bitOr), ("^=", .bitXor)]

/-- The operator of a combined assignment. -/
def augmentSign? : Token → Option BinaryOp
  | .sign s => (augmentSigns.find? fun entry => entry.1 == s).map Prod.snd
  | _ => none

def endsSmall : Token → Bool
  | .newline => true
  | .sign s => s == ";"
  | _ => false

def isNewline : Token → Bool
  | .newline => true
  | _ => false

def isIndent : Token → Bool
  | .indent => true
  | _ => false

def isDedent : Token → Bool
  | .dedent => true
  | _ => false

def Expr.isDeletable : Expr → Bool
  | .tuple items => items.attach.all fun ⟨e, _⟩ => e.isDeletable
  | .list items => items.attach.all fun ⟨e, _⟩ => e.isDeletable
  | e => e.isSingleTarget

section Small

variable (level : Goal → Reader Expr)

def valueRow : Reader Expr := do
  if ← acceptWord "yield" then
    yieldRest level fun t => endsSmall t || t.isSign ")" || t.isSign "=" else level .spreadRow

def assignRest (first : Expr) : Reader Stmt := do
  let (targets, value) ← iterate (fun ((targets, last) : List Expr × Expr) => do
    if ← acceptSign "=" then
      if last.isTarget then return some (last :: targets, ← valueRow level) else failure
    else return none) ([], first)
  return .assign targets.reverse value

def expressionStatement : Reader Stmt := do
  let bare ← next isName
  let first ← valueRow level
  match ← peek? with
  | some (.sign "=") => assignRest level first
  | some (.sign ":") =>
    if !first.isSingleTarget then failure
    skip
    let hint ← level .expression
    let value ← if ← acceptSign "=" then some <$> valueRow level else pure none
    let simple := match first with
      | .name _ => bare
      | _ => false
    return .annotate first hint value simple
  | some t =>
    match augmentSign? t with
    | some op =>
      if !first.isSingleTarget then failure
      skip
      return .augment first op (← valueRow level)
    | none => return .expression first
  | none => return .expression first

def nameRow : Reader (List String) := do
  let (names, comma) ← commaItems name
  if comma then failure else return names

def smallStatement : Reader Stmt := do
  match ← peek? with
  | some (.word "return") =>
    skip
    if ← next endsSmall then return .give none else return .give (some (← level .spreadRow))
  | some (.word "pass") => skip; return .pass
  | some (.word "break") => skip; return .leave
  | some (.word "continue") => skip; return .next
  | some (.word "global") => skip; return .globalNames (← nameRow)
  | some (.word "nonlocal") => skip; return .outerNames (← nameRow)
  | some (.word "assert") =>
    skip
    let test ← level .expression
    if ← acceptSign "," then return .assert test (some (← level .expression))
    else return .assert test none
  | some (.word "raise") =>
    skip
    if ← next endsSmall then return .raise none none
    let value ← level .expression
    if ← acceptWord "from" then return .raise (some value) (some (← level .expression))
    else return .raise (some value) none
  | some (.word "del") =>
    skip
    let (items, _) ← commaItems (level .primary)
    if items.all Expr.isDeletable then return .delete items else failure
  | _ => expressionStatement level

def smallStatements : Reader (List Stmt) := do
  let first ← smallStatement level
  let rest ← iterate (fun (out : List Stmt) => do
    if ← acceptSign ";" then
      if ← next isNewline then return none
      else return some ((← smallStatement level) :: out)
    else return none) [first]
  expect isNewline
  return rest.reverse

end Small

section Blocks

variable (level : Goal → Reader Expr) (suite : Reader (List Stmt))

def block : Reader (List Stmt) := do
  sign ":"
  suite

/-- A block behind a word, if the word is next. -/
def blockAfter (w : String) : Reader (List Stmt) := do
  if ← acceptWord w then block suite else return []

/-- Ends a conditional statement whose word has been read. -/
def conditionalRest : Nat → Reader Stmt
  | 0 => failure
  | fuel + 1 => do
    let test ← level .named
    let yes ← block suite
    if ← acceptWord "elif" then return .conditional test yes [← conditionalRest fuel]
    else return .conditional test yes (← blockAfter suite "else")

def handler : Reader Handler := do
  if ← next (Token.isSign ":") then return .mk none none (← block suite)
  let kind ← level .expression
  let n ← if ← acceptWord "as" then some <$> name else pure none
  return .mk (some kind) n (← block suite)

def Handler.takesAll : Handler → Bool
  | .mk kind _ _ => kind.isNone

def attemptRest : Reader Stmt := do
  let body ← block suite
  let handlers ← iterate (fun (out : List Handler) => do
    if ← acceptWord "except" then return some ((← handler level suite) :: out)
    else return none) []
  if (handlers.drop 1).any Handler.takesAll then failure
  let otherwise ← if handlers.isEmpty then pure [] else blockAfter suite "else"
  let hasFinal ← next (Token.isWord "finally")
  let final ← blockAfter suite "finally"
  if handlers.isEmpty && !hasFinal then failure
  else return .attempt body handlers.reverse otherwise final

def defineRest : Reader Stmt := do
  let n ← name
  sign "("
  let hint : Reader (Option Expr) := do
    if ← acceptSign ":" then
      if ← acceptSign "*" then return some (.star (← level .bitwise))
      else return some (← level .expression)
    else return none
  let (ps, notes) ← parameters hint (level .expression) (Token.isSign ")")
  sign ")"
  let result ← if ← acceptSign "->" then some <$> level .expression else pure none
  return .define n ps (notes ++ result.toList) (← block suite)

def statements : Reader (List Stmt) := do
  match ← peek? with
  | some (.word "if") => skip; return [← conditionalRest level suite ((← get).length + 1)]
  | some (.word "while") =>
    skip
    let test ← level .named
    let body ← block suite
    return [.whileLoop test body (← blockAfter suite "else")]
  | some (.word "for") =>
    skip
    let target ← level .targets
    word "in"
    let sequence ← level .spreadRow
    let body ← block suite
    return [.forLoop target sequence body (← blockAfter suite "else")]
  | some (.word "try") => skip; return [← attemptRest level suite]
  | some (.word "def") => skip; return [← defineRest level suite]
  | _ => smallStatements level

def blockBody : Reader (List Stmt) := do
  if ← accept isNewline then
    expect isIndent
    let first ← statements level suite
    let rest ← iterate (fun (out : List (List Stmt)) => do
      if ← accept isDedent then return none
      else return some ((← statements level suite) :: out)) [first]
    return rest.reverse.flatten
  else smallStatements level

end Blocks

def readBlock (level : Goal → Reader Expr) : Nat → Reader (List Stmt)
  | 0 => failure
  | depth + 1 => blockBody level (readBlock level depth)

def Stmt.readModule? (text : List Char) : Option (List Stmt) := do
  let tokens ← tokens? text
  let level := readLevel (readField (text.length + 1))
  let suite := readBlock level (tokens.length + 1)
  let all : Reader (List Stmt) := do
    let out ← iterate (fun (out : List (List Stmt)) => do
      match ← peek? with
      | none => return none
      | some _ => return some ((← statements level suite) :: out)) []
    return out.reverse.flatten
  match all tokens with
  | some (out, []) => some out
  | _ => none

end LambdaText.Code
