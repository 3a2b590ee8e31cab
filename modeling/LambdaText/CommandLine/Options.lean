import LambdaText.Text.Letters

/-!
# Command lines

Sorting the words of a command line into switches and arguments. A switch may be shortened as long
as it stays unique; what follows two dashes is no switch; negative numbers and words with blanks are
arguments. The first run of arguments gives the expression and what it is applied to.
-/

namespace LambdaText.CommandLine

open LambdaText.Text

inductive Switch where
  | help
  | showParameters
  | debug
  deriving DecidableEq, Repr

def longForms : List (String × Switch) :=
  [("--help", .help), ("--show-params", .showParameters), ("--debug", .debug)]

inductive Word where
  | argument (text : String)
  | divider
  | switch (s : Switch)
  | overloaded
  | unknown
  deriving DecidableEq, Repr

/-- Whether a word is a negative number: digits, or digits around a point; a line may end it. -/
def isNegativeNumber (word : List Char) : Bool :=
  match word with
  | '-' :: rest =>
    let rest := if rest.getLast? = some '\n' then rest.dropLast else rest
    let whole := rest.takeWhile isDecimal
    match rest.dropWhile isDecimal with
    | [] => !whole.isEmpty
    | '.' :: fraction => !fraction.isEmpty && fraction.all isDecimal
    | _ => false
  | _ => false

/-- Letters that follow the short form of the help switch. A further one may repeat it, and any
other ends the row; a sign for a value is wrong. -/
def helpRow : List Char → Word
  | [] => .switch .help
  | c :: rest =>
    if c = '-' ∨ c = '=' then .overloaded
    else if c = 'h' then
      match rest with
      | [] => .switch .help
      | _ => helpRow rest
    else .switch .help

def otherWord (word : List Char) : Word :=
  if isNegativeNumber word || word.contains ' ' then .argument (String.ofList word) else .unknown

/-- What a word with two leading dashes is; none if it may be several switches. -/
def longWord (word : List Char) : Option Word :=
  let stem := word.takeWhile (· != '=')
  let valued := stem.length < word.length
  let fitting := longForms.filter fun f => stem.isPrefixOf f.1.toList
  match longForms.lookup (String.ofList stem), fitting with
  | some s, _ => some (if valued then .overloaded else .switch s)
  | none, [] => some (otherWord word)
  | none, [(_, s)] => some (if valued then .overloaded else .switch s)
  | none, _ => none

/-- What a word is, before two dashes; none if it may be several switches. -/
def readWord (word : String) : Option Word :=
  match word.toList with
  | '-' :: '-' :: rest => longWord ('-' :: '-' :: rest)
  | '-' :: 'h' :: rest => some (helpRow rest)
  | '-' :: c :: rest => some (otherWord ('-' :: c :: rest))
  | _ => some (.argument word)

/-- What the words of a command line are; none if one of them may be several switches. -/
def readWords : List String → Option (List Word)
  | [] => some []
  | word :: rest =>
    if word = "--" then some (.divider :: rest.map .argument)
    else do
      let w ← readWord word
      return w :: (← readWords rest)

/-- What a command line asks for. -/
structure Request where
  expression : String
  arguments : List String
  showParameters : Bool
  debug : Bool
  deriving DecidableEq, Repr

/-- How reading a command line ends. -/
inductive Reading where
  | request (r : Request)
  | help
  | refused
  deriving DecidableEq, Repr

/-- Where the arguments are. -/
inductive Stage where
  | before
  | within (expression : String) (others : List String)
  | behind (expression : String) (others : List String)
  deriving DecidableEq, Repr

/-- What has been read of a command line. -/
structure Progress where
  stage : Stage := .before
  surplus : Bool := false
  showParameters : Bool := false
  debug : Bool := false

def Progress.take (p : Progress) (word : String) : Progress :=
  match p.stage with
  | .before => { p with stage := .within word [] }
  | .within e others => { p with stage := .within e (others ++ [word]) }
  | .behind _ _ => { p with surplus := true }

/-- Takes two dashes; right before or behind the expression they have no meaning of their own. -/
def Progress.divide (p : Progress) : Progress :=
  match p.stage with
  | .before | .within _ [] => p
  | .within e others => { p with stage := .within e (others ++ ["--"]) }
  | .behind _ _ => { p with surplus := true }

/-- Ends the arguments, if there have been some. -/
def Progress.close (p : Progress) : Progress :=
  match p.stage with
  | .within e others => { p with stage := .behind e others }
  | _ => p

/-- What has been asked for; two dashes among the arguments are dropped once. -/
def Progress.finish (p : Progress) : Reading :=
  match p.stage, p.surplus with
  | .within e others, false | .behind e others, false =>
    .request ⟨e, others.erase "--", p.showParameters, p.debug⟩
  | _, _ => .refused

/-- Reads words one by one; asking for help and wrong switches count at once. -/
def walk (p : Progress) : List Word → Reading
  | [] => p.finish
  | .argument word :: rest => walk (p.take word) rest
  | .divider :: rest => walk p.divide rest
  | .switch .help :: _ => .help
  | .switch .showParameters :: rest => walk { p.close with showParameters := true } rest
  | .switch .debug :: rest => walk { p.close with debug := true } rest
  | .overloaded :: _ => .refused
  | .unknown :: rest => walk { p.close with surplus := true } rest

def read (words : List String) : Reading :=
  match readWords words with
  | some ws => walk {} ws
  | none => .refused

end LambdaText.CommandLine
