import LambdaText.Code.Token

/-!
# Reading tokens

A reader consumes tokens from the front of a list or fails. The few combinators here look at the
next token, take it up, and repeat a step while it goes on.
-/

namespace LambdaText.Code

abbrev Reader := StateT (List Token) Option

namespace Reader

variable {α : Type}

def peek? : Reader (Option Token) := do return (← get).head?

def next (test : Token → Bool) : Reader Bool := do
  return ((← peek?).map test).getD false

/-- Whether the token after the next one satisfies a test. -/
def second (test : Token → Bool) : Reader Bool := do
  return (((← get).drop 1).head?.map test).getD false

def skip : Reader Unit := modify (List.drop 1)

/-- Takes the next token up if it satisfies a test, and says whether it did. -/
def accept (test : Token → Bool) : Reader Bool := do
  if ← next test then skip; return true
  else return false

/-- Takes up the next token, which has to satisfy a test. -/
def expect (test : Token → Bool) : Reader Unit := do
  unless ← accept test do failure

def acceptSign (s : String) : Reader Bool := accept (Token.isSign s)

/-- Takes up a reserved word, if it is next. -/
def acceptWord (s : String) : Reader Bool := accept (Token.isWord s)

def sign (s : String) : Reader Unit := expect (Token.isSign s)

def word (s : String) : Reader Unit := expect (Token.isWord s)

def name : Reader String := do
  match ← peek? with
  | some (.name n) => skip; return n
  | _ => failure

def isName : Token → Bool
  | .name _ => true
  | _ => false

/-- Repeats a step that consumes tokens until it gives nothing. -/
def iterateFor (step : α → Reader (Option α)) : Nat → α → Reader α
  | 0, _ => failure
  | fuel + 1, a => do
    match ← step a with
    | some b => iterateFor step fuel b
    | none => return a

/-- Repeats a step until it gives nothing; every step that gives something consumes a token. -/
def iterate (step : α → Reader (Option α)) (a : α) : Reader α := do
  iterateFor step ((← get).length + 1) a

def optional (r : Reader α) : Reader (Option α) := fun tokens =>
  match r tokens with
  | some (a, rest) => some (some a, rest)
  | none => some (none, tokens)

/-- One item or more with commas between them and maybe one behind; says whether there was one. -/
def commaItems (item : Reader α) : Reader (List α × Bool) := do
  let first ← item
  let step := fun ((items, comma) : List α × Bool) => do
    if comma then
      match ← optional item with
      | some a => return some (a :: items, false)
      | none => return none
    else if ← acceptSign "," then return some (items, true)
    else return none
  let (items, comma) ← iterate step ([first], false)
  return (items.reverse, comma)

def leftChain {β : Type} (operand : Reader α) (sign? : Token → Option β) (join : β → α → α → α) :
    Reader α := do
  let first ← operand
  iterate (fun left => do
    match (← peek?).bind sign? with
    | some op => skip; return some (join op left (← operand))
    | none => return none) first

end Reader

end LambdaText.Code
