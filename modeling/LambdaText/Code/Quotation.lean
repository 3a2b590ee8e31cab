import LambdaText.Code.Token
import LambdaText.Code.Syntax
import LambdaText.Text.CharacterNames

/-!
# Quoted texts in code

What a quoted text denotes: escapes in texts and bytes, and the split of a text with fields into
its literal parts and the sources of its fields. A field reaches to the first `!`, `:`, `=` or
closing brace outside its own quotes and brackets.
-/

namespace LambdaText.Code

open LambdaText.Text

def simpleEscape? : Char → Option Char
  | '\\' => some '\\'
  | '\'' => some '\''
  | '"' => some '"'
  | 'a' => some (Char.ofNat 7)
  | 'b' => some (Char.ofNat 8)
  | 'f' => some (Char.ofNat 12)
  | 'n' => some '\n'
  | 'r' => some '\r'
  | 't' => some '\t'
  | 'v' => some (Char.ofNat 11)
  | _ => none

/-- The number of hexadecimal digits after an escape letter. -/
def hexEscapeWidth? : Char → Option Nat
  | 'x' => some 2
  | 'u' => some 4
  | 'U' => some 8
  | _ => none

/-- The code point written by hexadecimal digits, if all of them are digits and it exists. -/
def hexPoint? (width : Nat) (ds : List Char) : Option Nat :=
  if ds.length = width ∧ ds.all isHexDigit ∧ digitsValue 16 ds < 0x110000 then
    some (digitsValue 16 ds)
  else none

/-- Up to three octal digits and what follows. -/
def octalRun (text : List Char) : List Char × List Char :=
  let run := (text.take 3).takeWhile isOctalDigit
  (run, text.drop run.length)

/-- The code point that a name in braces stands for, and what follows. -/
def namedPoint? : List Char → Option (Nat × List Char)
  | '{' :: rest =>
    let name := rest.takeWhile fun c => c ≠ '}'
    if name.length = rest.length then none
    else (characterNamed? name).map fun n => (n, rest.drop (name.length + 1))
  | _ => none

/-- Replaces escapes; `wide` admits the escapes that only texts have. An unknown escape keeps its
backslash. -/
def unescape (wide : Bool) : Nat → List Char → Option (List Nat)
  | 0, _ => some []
  | _, [] => some []
  | fuel + 1, '\\' :: c :: rest =>
    if c = '\n' then unescape wide fuel rest
    else match simpleEscape? c with
      | some e => (unescape wide fuel rest).map (e.toNat :: ·)
      | none =>
        if isOctalDigit c then
          let (run, rest') := octalRun (c :: rest)
          (unescape wide fuel rest').map (digitsValue 8 run :: ·)
        else match hexEscapeWidth? c with
          | some width =>
            if c = 'x' || wide then do
              let n ← hexPoint? width (rest.take width)
              let tail ← unescape wide fuel (rest.drop width)
              pure (n :: tail)
            else (unescape wide fuel rest).map fun tail => '\\'.toNat :: c.toNat :: tail
          | none =>
            if wide && c = 'N' then do
              let (n, rest') ← namedPoint? rest
              let tail ← unescape wide fuel rest'
              pure (n :: tail)
            else (unescape wide fuel rest).map fun tail => '\\'.toNat :: c.toNat :: tail
  | fuel + 1, c :: rest => (unescape wide fuel rest).map (c.toNat :: ·)

/-- The code points of the text between quotes, with its escapes replaced unless it is marked raw. -/
def textPoints? (raw : Bool) (body : List Char) : Option (List Nat) :=
  if raw then some (body.map Char.toNat) else unescape true body.length body

/-- The bytes between quotes; they are written in ASCII. -/
def bytesValue? (raw : Bool) (body : List Char) : Option (List UInt8) :=
  if body.all fun c => c.toNat < 0x80 then
    if raw then some (body.map fun c => c.toNat.toUInt8)
    else (unescape false body.length body).map fun ns => ns.map Nat.toUInt8
  else none

/-- A part of a text with fields, before the fields are read. -/
inductive RawPiece where
  | text (points : List Nat)
  /-- The source of a field, its own text if that is shown too, its conversion and its format. -/
  | field (source : List Char) (shown : Option (List Char)) (conversion : Option Conversion)
      (format : Option (List RawPiece))

/-- The literal part at the start of a template: its source, whether it ends in a doubled brace,
and what follows. At the top a doubled brace stands for one and a lone closing brace is wrong; the
braces around the name of a character, inside of which `named` holds, are none of a field. -/
def literalPart (raw top : Bool) (named : Bool) : List Char → Option (List Char × Bool × List Char)
  | [] => some ([], false, [])
  | '\\' :: c :: rest =>
    if named || raw || c = '{' || c = '}' then
      (literalPart raw top named (c :: rest)).map fun (s, d, r) => ('\\' :: s, d, r)
    else
      (literalPart raw top (c = 'N' && rest.head? = some '{') rest).map fun (s, d, r) =>
        ('\\' :: c :: s, d, r)
  | c :: rest =>
    if named then (literalPart raw top (c ≠ '}') rest).map fun (s, d, r) => (c :: s, d, r)
    else if c = '{' ∨ c = '}' then
      if top then
        if rest.head? = some c then some ([c], true, rest.drop 1)
        else if c = '}' then none
        else some ([], false, c :: rest)
      else some ([], false, c :: rest)
    else (literalPart raw top false rest).map fun (s, d, r) => (c :: s, d, r)

def closingBracket? : Char → Option Char
  | '(' => some ')'
  | '[' => some ']'
  | '{' => some '}'
  | _ => none

/-- The state between two characters of a field. -/
structure FieldState where
  copied : Nat
  quote : Option (Char × Bool)
  due : List Char

inductive FieldStep where
  | goOn (next : FieldState)
  | stop
  | malformed

/-- Reads one character of a field outside quotes and brackets, given the next one. -/
def topLevelStep (c : Char) (next : Option Char) : FieldStep :=
  if next = some '=' ∧ (c = '!' ∨ c = '=' ∨ c = '<' ∨ c = '>') then .goOn ⟨1, none, []⟩
  else if c = '!' ∨ c = ':' ∨ c = '}' ∨ c = '=' then .stop
  else if c = ')' ∨ c = ']' then .malformed
  else .goOn ⟨0, none, []⟩

def FieldState.step (s : FieldState) (c : Char) (rest : List Char) : FieldStep :=
  match s.copied with
  | n + 1 => .goOn { s with copied := n }
  | 0 =>
    if c = '\\' then .malformed
    else match s.quote with
      | some (q, triple) =>
        if c ≠ q then .goOn s
        else if triple then
          if [q, q].isPrefixOf rest then .goOn ⟨2, none, s.due⟩ else .goOn s
        else .goOn { s with quote := none }
      | none =>
        if c = '\'' ∨ c = '"' then
          if [c, c].isPrefixOf rest then .goOn ⟨2, some (c, true), s.due⟩
          else .goOn { s with quote := some (c, false) }
        else match closingBracket? c with
          | some closing => .goOn { s with due := closing :: s.due }
          | none =>
            if c = '#' then .malformed
            else match s.due with
              | [] => topLevelStep c rest.head?
              | closing :: due =>
                if c = ')' ∨ c = ']' ∨ c = '}' then
                  if c = closing then .goOn { s with due := due } else .malformed
                else .goOn s

def fieldSource (s : FieldState) : List Char → Option (List Char × List Char)
  | [] => none
  | c :: rest =>
    match s.step c rest with
    | .goOn s => (fieldSource s rest).map fun (source, r) => (c :: source, r)
    | .stop => some ([], c :: rest)
    | .malformed => none

/-- Whether a field has nothing but blanks. -/
def isVoidSource (source : List Char) : Bool :=
  source.all fun c => c == ' ' || c == '\t' || c == '\n' || c == '\x0c'

def conversion? : Char → Option Conversion
  | 's' => some .str
  | 'r' => some .repr
  | 'a' => some .ascii
  | _ => none

/-- Splits a template at nesting `level` into its parts; returns what follows at an inner level. -/
def splitTemplate (raw : Bool) : Nat → Nat → List Char → Option (List RawPiece × List Char)
  | 0, _, _ => none
  | fuel + 1, level, text => do
    let (s, doubled, rest) ← literalPart raw (level == 0) false text
    let points ← textPoints? raw s
    let cons := fun (pieces : List RawPiece) =>
      if points.isEmpty then pieces else RawPiece.text points :: pieces
    if doubled then
      let (pieces, rest) ← splitTemplate raw fuel level rest
      pure (cons pieces, rest)
    else match rest with
      | '{' :: rest =>
        if 2 ≤ level then none
        let (source, rest) ← fieldSource ⟨0, none, []⟩ rest
        if isVoidSource source then none
        let (shown, rest) := match rest with
          | '=' :: rest =>
            let blanks := rest.takeWhile fun c => isBlank c && c.toNat < 0x80
            (some (source ++ '=' :: blanks), rest.drop blanks.length)
          | _ => (none, rest)
        let (conversion, rest) ← match rest with
          | '!' :: c :: rest => (conversion? c).map fun k => (some k, rest)
          | '!' :: [] => none
          | _ => some (none, rest)
        let (format, rest) ← match rest with
          | ':' :: rest =>
            (splitTemplate raw fuel (level + 1) rest).map fun (pieces, rest) => (some pieces, rest)
          | _ => some (none, rest)
        match rest with
        | '}' :: rest =>
          let (pieces, rest) ← splitTemplate raw fuel level rest
          pure (cons (.field source shown conversion format :: pieces), rest)
        | _ => none
      | '}' :: _ => if level = 0 then none else pure (cons [], rest)
      | _ => if level = 0 then pure (cons [], []) else none

def templatePieces? (raw : Bool) (body : List Char) : Option (List RawPiece) :=
  (splitTemplate raw (2 * body.length + 2) 0 body).map Prod.fst

end LambdaText.Code
