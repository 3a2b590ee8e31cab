import LambdaText.Code.Numeral
import LambdaText.Text.Compose
import LambdaText.Text.Identifier
import LambdaText.Text.Lines

/-!
# Tokens

The words, numerals, quoted texts and signs of the language of bodies, with the line structure of
statement blocks. Line breaks inside brackets carry no meaning; elsewhere a line ends with a
`newline`, and deeper or shallower margins give `indent` and `dedent`. A malformed text has no
tokens.

Names are in composed form. A name of which the composed form is `True`, `False` or `None` is read as
any other one; the host refuses it when it compiles the body.
-/

namespace LambdaText.Code

open LambdaText.Text

inductive Token where
  | name (s : String)
  | word (s : String)
  | numeral (n : Numeral)
  /-- A quoted text: its mark in small letters and what stands between the quotes. -/
  | quoted (mark body : List Char)
  | sign (s : String)
  | newline
  | indent
  | dedent

def Token.isSign (s : String) : Token → Bool
  | .sign t => t == s
  | _ => false

def Token.isWord (s : String) : Token → Bool
  | .word t => t == s
  | _ => false

def maxBrackets : Nat := 200

def maxMargins : Nat := 100

def signs : List String :=
  ["**=", "//=", ">>=", "<<=", "...",
   "!=", "->", "**", "//", "<<", ">>", "<=", ">=", "==", ":=", "+=", "-=", "*=", "/=", "%=", "&=",
   "|=", "^=", "@=",
   "(", ")", "[", "]", "\x7b", "\x7d", ",", ":", ";", "+", "-", "*", "/", "|", "&", "<", ">", "=",
   ".", "%", "~", "^", "@"]

def sign? (text : List Char) : Option (String × List Char) :=
  (signs.find? fun s => s.toList.isPrefixOf text).map fun s => (s, text.drop s.length)

def quoteMarks : List String := ["b", "u", "r", "f", "br", "rb", "fr", "rf"]

/-- Reads up to the closing quote on the same line. -/
def closeSingle (q : Char) : List Char → Option (List Char × List Char)
  | [] => none
  | ['\\'] => none
  | '\\' :: c :: rest => (closeSingle q rest).map fun (b, r) => ('\\' :: c :: b, r)
  | c :: rest =>
    if c = q then some ([], rest)
    else if c = '\n' then none
    else (closeSingle q rest).map fun (b, r) => (c :: b, r)

def closeTriple (q : Char) : List Char → Option (List Char × List Char)
  | [] => none
  | ['\\'] => none
  | '\\' :: c :: rest => (closeTriple q rest).map fun (b, r) => ('\\' :: c :: b, r)
  | c :: rest =>
    if c = q && [q, q].isPrefixOf rest then some ([], rest.drop 2)
    else (closeTriple q rest).map fun (b, r) => (c :: b, r)

def quotedBody? : List Char → Option (List Char × List Char)
  | q :: rest =>
    if q = '\'' ∨ q = '"' then
      if [q, q].isPrefixOf rest then closeTriple q (rest.drop 2) else closeSingle q rest
    else none
  | [] => none

def startsQuote : List Char → Bool
  | c :: _ => c == '\'' || c == '"'
  | [] => false

def nameToken? (run : List Char) : Option Token :=
  if isReserved (String.ofList run) then some (.word (String.ofList run))
  else if isIdentifier run then some (.name (String.ofList (compose run)))
  else none

/-- The widths of a margin, tabs reaching to multiples of eight or counting as one column, and
what follows it. A line joined to the next one keeps the width it had. -/
def margin (col alt : Nat) (joined : Nat) : List Char → Option (Nat × Nat × List Char)
  | ' ' :: rest => margin (col + 1) (alt + 1) joined rest
  | '\t' :: rest => margin ((col / 8 + 1) * 8) (alt + 1) joined rest
  | '\x0c' :: rest => margin 0 0 joined rest
  | ['\\', '\n'] => none
  | '\\' :: '\n' :: rest => margin col alt (if joined = 0 then col else joined) rest
  | '\\' :: _ => none
  | rest => some (if joined = 0 then (col, alt, rest) else (joined, joined, rest))

/-- Reading in progress: the open brackets and margins, innermost first, and the tokens so far,
last first. -/
structure Lexer where
  brackets : List Char
  margins : List (Nat × Nat)
  tokens : List Token

def Lexer.push (x : Lexer) (t : Token) : Lexer := { x with tokens := t :: x.tokens }

def Lexer.close (col : Nat) : List (Nat × Nat) → List Token → List (Nat × Nat) × List Token
  | (c, a) :: rest, out =>
    if col < c then Lexer.close col rest (.dedent :: out) else ((c, a) :: rest, out)
  | [], out => ([], out)

/-- Opens or closes margins at the start of a line with content. -/
def Lexer.startLine (x : Lexer) (col alt : Nat) : Option Lexer :=
  match x.margins with
  | [] => none
  | (c, a) :: _ =>
    if col = c then (if alt = a then some x else none)
    else if c < col then
      if a < alt && x.margins.length < maxMargins then
        some { x with margins := (col, alt) :: x.margins, tokens := .indent :: x.tokens }
      else none
    else
      match Lexer.close col x.margins x.tokens with
      | ((c', a') :: rest, out) =>
        if c' = col ∧ a' = alt then
          some { x with margins := (c', a') :: rest, tokens := out }
        else none
      | ([], _) => none

/-- Takes up a sign, keeping track of the brackets. -/
def Lexer.sign (x : Lexer) (s : String) : Option Lexer :=
  let open_ := fun (closing : Char) =>
    if x.brackets.length < maxBrackets then
      some { x.push (.sign s) with brackets := closing :: x.brackets }
    else none
  let close_ := fun (closing : Char) =>
    match x.brackets with
    | c :: rest => if c = closing then some { x.push (.sign s) with brackets := rest } else none
    | [] => none
  match s.toList with
  | ['('] => open_ ')'
  | ['['] => open_ ']'
  | ['{'] => open_ '}'
  | [')'] => close_ ')'
  | [']'] => close_ ']'
  | ['}'] => close_ '}'
  | _ => some (x.push (.sign s))

/-- The tokens at the end of the text: the open line ends and the margins are closed. -/
def Lexer.finish (x : Lexer) : Option (List Token) :=
  if x.brackets.isEmpty then
    let ended := match x.tokens with
      | [] => []
      | .newline :: _ => x.tokens
      | .dedent :: _ => x.tokens
      | _ => .newline :: x.tokens
    some ((List.replicate (x.margins.length - 1) Token.dedent ++ ended).reverse)
  else none

/-- Reads tokens; `lineStart` says that no token of the line has been read. -/
def Lexer.run : Nat → Bool → Lexer → List Char → Option (List Token)
  | 0, _, _, _ => none
  | fuel + 1, true, x, text => do
    let (col, alt, rest) ← margin 0 0 0 text
    match rest with
    | '#' :: _ => Lexer.run fuel true x (rest.dropWhile (· != '\n'))
    | '\n' :: rest' => Lexer.run fuel true x rest'
    | [] =>
      if 0 < col && x.brackets.isEmpty then (x.startLine col alt).bind Lexer.finish else x.finish
    | _ =>
      let x ← if x.brackets.isEmpty then x.startLine col alt else some x
      Lexer.run fuel false x rest
  | _, false, x, [] => x.finish
  | fuel + 1, false, x, c :: rest =>
    if c = ' ' ∨ c = '\t' ∨ c = '\x0c' then Lexer.run fuel false x rest
    else if c = '#' then Lexer.run fuel false x (rest.dropWhile (· != '\n'))
    else if c = '\n' then
      if x.brackets.isEmpty then Lexer.run fuel true (x.push .newline) rest
      else Lexer.run fuel true x rest
    else if c = '\\' then
      match rest with
      | '\n' :: next :: rest' => Lexer.run fuel false x (next :: rest')
      | _ => none
    else if startsNumeral (c :: rest) then do
      let (n, rest') ← numeral? (c :: rest)
      Lexer.run fuel false (x.push (.numeral n)) rest'
    else if startsQuote (c :: rest) then do
      let (body, rest') ← quotedBody? (c :: rest)
      Lexer.run fuel false (x.push (.quoted [] body)) rest'
    else if mayBelongToName c then
      let run := c :: rest.takeWhile mayBelongToName
      let rest' := rest.dropWhile mayBelongToName
      let mark := run.map Char.toLower
      if startsQuote rest' && quoteMarks.contains (String.ofList mark) then do
        let (body, rest'') ← quotedBody? rest'
        Lexer.run fuel false (x.push (.quoted mark body)) rest''
      else do
        let t ← nameToken? run
        Lexer.run fuel false (x.push t) rest'
    else do
      let (s, rest') ← sign? (c :: rest)
      let x ← x.sign s
      Lexer.run fuel false x rest'

def tokens? (text : List Char) : Option (List Token) :=
  let text := unifyBreaks text
  Lexer.run (2 * text.length + 2) true ⟨[], [(0, 0)], []⟩ text

end LambdaText.Code
