import LambdaText.Code.Parsing
import LambdaText.Code.Quotation

/-!
# Reading expressions

The grammar of expressions. A `Goal` is a level of the grammar at which expressions nest; `read`
says what stands at each level, given readers for the nested levels and for the fields of quoted
texts. `Expr.read?` closes the knot.
-/

namespace LambdaText.Code

open LambdaText.Text Reader

/-- The levels at which expressions nest. -/
inductive Goal where
  | spreadRow
  | item
  | named
  | expression
  | disjunction
  | inversion
  | bitwise
  | factor
  | primary
  | targets
  deriving DecidableEq

def binaryLevels : List (List (String × BinaryOp)) :=
  [[("|", .bitOr)], [("^", .bitXor)], [("&", .bitAnd)],
   [("<<", .shiftLeft), (">>", .shiftRight)],
   [("+", .add), ("-", .subtract)],
   [("*", .multiply), ("/", .divide), ("//", .floorDivide), ("%", .remainder),
    ("@", .matrixMultiply)]]

def levelSign? (level : List (String × BinaryOp)) : Token → Option BinaryOp
  | .sign s => (level.find? fun entry => entry.1 == s).map Prod.snd
  | _ => none

def comparisonSigns : List (String × CompareOp) :=
  [("==", .eq), ("!=", .ne), ("<=", .le), ("<", .lt), (">=", .ge), (">", .gt)]

def comparisonOp? : Reader (Option CompareOp) := do
  match ← peek? with
  | some (.sign s) =>
    match comparisonSigns.find? fun entry => entry.1 == s with
    | some (_, op) => skip; return some op
    | none => return none
  | some (.word "in") => skip; return some .isIn
  | some (.word "not") =>
    if ← second (Token.isWord "in") then skip; skip; return some .notIn
    else return none
  | some (.word "is") =>
    skip
    if ← acceptWord "not" then return some .isNot else return some .is
  | _ => return none

def startsAssignment : Reader Bool := do
  if ← next isName then second (Token.isSign ":=") else return false

def startsClause : Reader Bool := do
  if ← next (Token.isWord "for") then return true
  else if ← next (Token.isWord "async") then second (Token.isWord "for")
  else return false

def rowOf (items : List Expr) (comma : Bool) : Expr :=
  match items, comma with
  | [e], false => e
  | _, _ => .tuple items

/-! ### Parameters -/

/-- Reading of parameters in progress. -/
structure ParameterState where
  read : List Parameter
  slash : Bool
  star : Bool
  owed : Bool
  closed : Bool
  hints : List Expr

def ParameterState.markPositional (s : ParameterState) : ParameterState :=
  { s with
    slash := true
    read := s.read.map fun p => .mk p.name .positionalOnly p.default? }

/-- Whether a positional parameter without a default may still follow. -/
def ParameterState.admitsPlain (s : ParameterState) : Bool :=
  s.star || s.read.all fun p => p.default?.isNone

def ParameterState.add (s : ParameterState) (p : Parameter) (hint : Option Expr) :
    ParameterState :=
  { s with read := p :: s.read, hints := hint.toList ++ s.hints }

/-- Reads one parameter, `hint` reading what may follow its name. -/
def parameterStep (hint : Reader (Option Expr)) (default : Reader Expr)
    (s : ParameterState) : Reader ParameterState := do
  if s.closed then failure
  else if ← acceptSign "/" then
    if s.slash || s.star || s.read.isEmpty then failure
    else return s.markPositional
  else if ← acceptSign "**" then
    if s.owed then failure
    let n ← name
    return { s.add (.mk n .keywords none) (← hint) with closed := true }
  else if ← acceptSign "*" then
    if s.star then failure
    if ← next isName then
      let n ← name
      return { s.add (.mk n .variadic none) (← hint) with star := true }
    else return { s with star := true, owed := true }
  else
    let n ← name
    let note ← hint
    let kind : ParameterKind := if s.star then .keywordOnly else .standard
    if ← acceptSign "=" then
      return { s.add (.mk n kind (some (← default))) note with owed := false }
    else if s.admitsPlain then
      return { s.add (.mk n kind none) note with owed := false }
    else failure

def parameters (hint : Reader (Option Expr)) (default : Reader Expr)
    (closing : Token → Bool) : Reader (List Parameter × List Expr) := do
  if ← next closing then return ([], [])
  let start : ParameterState := ⟨[], false, false, false, false, []⟩
  let first ← parameterStep hint default start
  let last ← iterate (fun s => do
    if ← acceptSign "," then
      if ← next closing then return none
      else return some (← parameterStep hint default s)
    else return none) first
  if last.owed then failure else return (last.read.reverse, last.hints.reverse)

section Levels

variable (self : Goal → Reader Expr) (field : List Char → Option Expr)

/-! ### Quoted texts -/

/-- A text as a part of a text with fields. -/
def pieceOf (points : List Nat) : Piece :=
  match Constant.ofPoints points with
  | .text s => .text s
  | c => .field (.constant c) .plain []

mutual

def readPiece : RawPiece → Option (List Piece)
  | .text points => some [pieceOf points]
  | .field source shown conversion format => do
    let value ← field source
    let spec ← readFormat format
    let conversion := conversion.getD
      (if shown.isSome && format.isNone then .repr else .plain)
    let own := match shown with
      | some s => [Piece.text (String.ofList s)]
      | none => []
    pure (own ++ [.field value conversion spec])

def readFormat : Option (List RawPiece) → Option (List Piece)
  | none => some []
  | some pieces => readPieces pieces

def readPieces : List RawPiece → Option (List Piece)
  | [] => some []
  | p :: rest => do
    let head ← readPiece p
    let tail ← readPieces rest
    pure (head ++ tail)

end

def quotedPart (mark body : List Char) : Option (List UInt8 ⊕ List Piece) :=
  let raw := mark.contains 'r'
  if mark.contains 'b' then (bytesValue? raw body).map .inl
  else if mark.contains 'f' then do
    let pieces ← templatePieces? raw body
    (readPieces field pieces).map .inr
  else (textPoints? raw body).map fun points => .inr [pieceOf points]

def plainPoints : Piece → List Nat
  | .text s => s.toList.map Char.toNat
  | .field (.constant (.points points)) _ _ => points
  | .field _ _ _ => []

/-- Joins neighbouring texts; bytes and texts do not mix. -/
def joinQuoted (parts : List (List UInt8 ⊕ List Piece)) (templated : Bool) : Option Expr :=
  let bytes? := parts.mapM fun p => match p with
    | .inl b => some b
    | .inr _ => none
  let pieces? := parts.mapM fun p => match p with
    | .inl _ => none
    | .inr ps => some ps
  match bytes?, pieces? with
  | some bs, _ => some (.constant (.bytes bs.flatten))
  | none, some pss =>
    if templated then some (.template pss.flatten)
    else some (.constant (.ofPoints (pss.flatten.flatMap plainPoints)))
  | none, none => none

def quotedRow : Reader Expr := do
  let step := fun ((parts, templated) : List (List UInt8 ⊕ List Piece) × Bool) => do
    match ← peek? with
    | some (.quoted mark body) =>
      skip
      match quotedPart field mark body with
      | some part => return some (part :: parts, templated || mark.contains 'f')
      | none => failure
    | _ => return none
  let (parts, templated) ← iterate step ([], false)
  match joinQuoted parts.reverse templated with
  | some e => return e
  | none => failure

/-! ### Comprehensions -/

/-- Reads the clauses of a comprehension, of which the first is next. -/
def clauses : Reader (List Clause) := do
  let step := fun (out : List Clause) => do
    if ← startsClause then
      let isAsync ← acceptWord "async"
      word "for"
      let target ← self .targets
      word "in"
      let sequence ← self .disjunction
      return some (.loop target sequence isAsync :: out)
    else if ← acceptWord "if" then
      return some (.condition (← self .disjunction) :: out)
    else return none
  return (← iterate step []).reverse

/-- Ends a display whose first item has been read: a comprehension or the items of a list. -/
def displayRest (closing : String) (kind : Comprehended) (build : List Expr → Expr)
    (first : Expr) (spread : Bool) : Reader Expr := do
  if ← startsClause then
    if spread then failure
    let cs ← clauses self
    sign closing
    return .comprehension kind first none cs
  else
    let items ← if ← acceptSign "," then
        if ← next (Token.isSign closing) then pure []
        else pure (← commaItems (self .item)).1
      else pure []
    sign closing
    return build (first :: items)

def yieldRest (closes : Token → Bool) : Reader Expr := do
  if ← acceptWord "from" then return .yieldFrom (← self .expression)
  else if ← next closes then return .yield none
  else return .yield (some (← self .spreadRow))

/-- What stands between parentheses, the opening one read: nothing, a group, a tuple or a
generator. -/
def parenthesized : Reader Expr := do
  if ← acceptSign ")" then return .tuple []
  else if ← acceptWord "yield" then
    let e ← yieldRest self (Token.isSign ")")
    sign ")"
    return e
  else
    let spread ← next (Token.isSign "*")
    let first ← self .item
    if ← startsClause then
      if spread then failure
      let cs ← clauses self
      sign ")"
      return .comprehension .generator first none cs
    else if ← acceptSign "," then
      let items ← if ← next (Token.isSign ")") then pure [] else pure (← commaItems (self .item)).1
      sign ")"
      return .tuple (first :: items)
    else if spread then failure
    else
      sign ")"
      return first

def listDisplay : Reader Expr := do
  if ← acceptSign "]" then return .list []
  let spread ← next (Token.isSign "*")
  displayRest self "]" .list Expr.list (← self .item) spread

def entry : Reader Entry := do
  if ← acceptSign "**" then return .spread (← self .bitwise)
  else
    let key ← self .expression
    sign ":"
    return .pair key (← self .expression)

def dictRest (first : Entry) : Reader Expr := do
  let entries ← if ← acceptSign "," then
      if ← next (Token.isSign "\x7d") then pure [] else pure (← commaItems (entry self)).1
    else pure []
  sign "\x7d"
  return .dict (first :: entries)

def braceDisplay : Reader Expr := do
  if ← acceptSign "\x7d" then return .dict []
  else if ← next (Token.isSign "**") then dictRest self (← entry self)
  else
    let spread ← next (Token.isSign "*")
    let assigned ← startsAssignment
    let first ← self .item
    if !spread && !assigned && (← acceptSign ":") then
      let value ← self .expression
      if ← startsClause then
        let cs ← clauses self
        sign "\x7d"
        return .comprehension .dict first (some value) cs
      else dictRest self (.pair first value)
    else displayRest self "\x7d" .set Expr.set first spread

/-! ### Atoms and what follows them -/

def atom : Reader Expr := do
  match ← peek? with
  | some (.name n) => skip; return .name n
  | some (.numeral n) => skip; return .constant (.number n)
  | some (.quoted _ _) => quotedRow field
  | some (.word "None") => skip; return .constant .none
  | some (.word "True") => skip; return .constant (.bool true)
  | some (.word "False") => skip; return .constant (.bool false)
  | some (.sign "...") => skip; return .constant .ellipsis
  | some (.sign "(") => skip; parenthesized self
  | some (.sign "[") => skip; listDisplay self
  | some (.sign "\x7b") => skip; braceDisplay self
  | _ => failure

/-- How far the arguments of a call have come: positions, keywords, or spread keywords. -/
inductive ArgumentPhase where
  | positions
  | keywords
  | spreads
  deriving DecidableEq

def argument (phase : ArgumentPhase) : Reader (Argument × ArgumentPhase) := do
  if ← acceptSign "**" then return (.spread (← self .expression), .spreads)
  else if ← acceptSign "*" then
    if phase = .spreads then failure
    return (.star (← self .expression), phase)
  else if (← next isName) && (← second (Token.isSign "=")) then
    let n ← name
    sign "="
    return (.keyword n (← self .expression), if phase = .spreads then .spreads else .keywords)
  else
    if phase ≠ .positions then failure
    return (.positional (← self .named), phase)

/-- The arguments of a call up to the closing parenthesis, the opening one read. -/
def arguments : Reader (List Argument) := do
  if ← acceptSign ")" then return []
  let (first, phase) ← argument self .positions
  match first, ← startsClause with
  | .positional item, true =>
    let cs ← clauses self
    sign ")"
    return [.positional (.comprehension .generator item none cs)]
  | _, _ =>
    let step := fun ((out, phase) : List Argument × ArgumentPhase) => do
      if ← acceptSign "," then
        if ← next (Token.isSign ")") then return none
        let (a, phase) ← argument self phase
        return some (a :: out, phase)
      else return none
    let (out, _) ← iterate step ([first], phase)
    sign ")"
    return out.reverse

def sliceBound : Reader (Option Expr) := do
  if (← next (Token.isSign ":")) || (← next (Token.isSign ",")) || (← next (Token.isSign "]")) then
    return none
  else return some (← self .expression)

def indexItem : Reader Expr := do
  if ← acceptSign "*" then return .star (← self .expression)
  if ← startsAssignment then self .named
  else
    let first ← if ← next (Token.isSign ":") then pure none else some <$> self .expression
    match first, ← acceptSign ":" with
    | some e, false => return e
    | _, _ =>
      let last ← sliceBound self
      let step ← if ← acceptSign ":" then sliceBound self else pure none
      return .slice first last step

/-- The index up to the closing bracket, the opening one read. -/
def indices : Reader Expr := do
  let (items, comma) ← commaItems (indexItem self)
  sign "]"
  match items, comma with
  | [.star e], _ => return .tuple [.star e]
  | _, _ => return rowOf items comma

/-- An atom with its calls, indices and attributes. -/
def primary : Reader Expr := do
  let first ← atom self field
  iterate (fun e => do
    if ← acceptSign "." then return some (.attribute e (← name))
    else if ← acceptSign "(" then return some (.call e (← arguments self))
    else if ← acceptSign "[" then return some (.subscript e (← indices self))
    else return none) first

/-! ### Operators -/

def unarySigns : List (String × UnaryOp) := [("-", .negate), ("+", .plus), ("~", .invert)]

def factor : Reader Expr := do
  let unary : Option UnaryOp := match ← peek? with
    | some (.sign s) => (unarySigns.find? fun (pair : String × UnaryOp) => pair.1 == s).map Prod.snd
    | _ => none
  match unary with
  | some op => skip; return .unary op (← self .factor)
  | none =>
    let awaited ← acceptWord "await"
    let base ← primary self field
    let base := if awaited then Expr.await base else base
    if ← acceptSign "**" then return .binary .power base (← self .factor) else return base

def bitwise : Reader Expr :=
  binaryLevels.foldr (fun level operand => leftChain operand (levelSign? level) Expr.binary)
    (factor self field)

def comparison : Reader Expr := do
  let first ← bitwise self field
  let rest ← iterate (fun out => do
    match ← comparisonOp? with
    | some op => return some (Comparand.mk op (← bitwise self field) :: out)
    | none => return none) []
  return if rest.isEmpty then first else .comparison first rest.reverse

def inversion : Reader Expr := do
  if ← acceptWord "not" then return .unary .not (← self .inversion)
  else comparison self field

def connected (w : String) (conjunction : Bool) (operand : Reader Expr) : Reader Expr := do
  let first ← operand
  let rest ← iterate (fun out => do
    if ← acceptWord w then return some ((← operand) :: out) else return none) []
  return if rest.isEmpty then first else .connective conjunction (first :: rest.reverse)

def disjunction : Reader Expr :=
  connected "or" false (connected "and" true (inversion self field))

/-- A function without a name, its word read. -/
def lambdaRest : Reader Expr := do
  let (ps, _) ← parameters (pure none) (self .expression) (Token.isSign ":")
  sign ":"
  return .lambda ps (← self .expression)

def expression : Reader Expr := do
  if ← acceptWord "lambda" then lambdaRest self
  else
    let value ← disjunction self field
    if ← acceptWord "if" then
      let test ← self .disjunction
      word "else"
      return .conditional test value (← self .expression)
    else return value

def named : Reader Expr := do
  if ← startsAssignment then
    let n ← name
    sign ":="
    return .assignment n (← self .expression)
  else expression self field

def item : Reader Expr := do
  if ← acceptSign "*" then return .star (← self .bitwise)
  else named self field

def spreadRow : Reader Expr := do
  let one : Reader Expr := do
    if ← acceptSign "*" then return .star (← self .bitwise) else self .expression
  let (items, comma) ← commaItems one
  return rowOf items comma

def targets : Reader Expr := do
  let one : Reader Expr := do
    if ← acceptSign "*" then return .star (← self .primary) else self .primary
  let (items, comma) ← commaItems one
  let row := rowOf items comma
  if row.isTarget then return row else failure

def readGoal : Goal → Reader Expr
  | .spreadRow => spreadRow self
  | .item => item self field
  | .named => named self field
  | .expression => expression self field
  | .disjunction => disjunction self field
  | .inversion => inversion self field
  | .bitwise => bitwise self field
  | .factor => factor self field
  | .primary => primary self field
  | .targets => targets self

end Levels

def readNested (field : List Char → Option Expr) : Nat → Goal → Reader Expr
  | 0, _ => failure
  | depth + 1, goal => readGoal (readNested field depth) field goal

/-- Reads a level of the grammar; nesting is bounded by the number of tokens. -/
def readLevel (field : List Char → Option Expr) (goal : Goal) : Reader Expr := do
  readNested field (3 * (← get).length + 3) goal

/-- Reads a whole token list, with line ends behind it. -/
def readAll {α : Type} (r : Reader α) (tokens : List Token) : Option α :=
  match r tokens with
  | some (a, rest) =>
    if rest.all fun t => match t with
      | .newline => true
      | _ => false
    then some a else none
  | none => none

/-- Reads the source of a field, which stands in parentheses, with a bound on templates within
templates. -/
def readField : Nat → List Char → Option Expr
  | 0, _ => none
  | depth + 1, source => do
    let tokens ← tokens? ('(' :: source ++ [')'])
    readAll (readLevel (readField depth) .spreadRow) tokens

/-- Reads an expression from a text, or a row of them where `row` says so. -/
def Expr.read? (text : List Char) : Option Expr := do
  let tokens ← tokens? text
  let field := readField (text.length + 1)
  let row : Reader Expr := do
    let (items, comma) ← commaItems (readLevel field .expression)
    return rowOf items comma
  readAll row tokens

end LambdaText.Code
