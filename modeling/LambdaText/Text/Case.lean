import LambdaText.Text.CaseTables
import LambdaText.Text.Letters

/-!
# Letter case

Capital, small and title forms of texts. A capital sigma at the end of a word becomes a final
sigma, and some letters become several.
-/

namespace LambdaText.Text

def isCapital (c : Char) : Bool :=
  if c.toNat < 0x80 then 'A' ≤ c && c ≤ 'Z' else capitalTable.contains c.toNat

def isSmall (c : Char) : Bool :=
  if c.toNat < 0x80 then 'a' ≤ c && c ≤ 'z' else smallTable.contains c.toNat

/-- Whether a character is a letter of neither case that has both. -/
def isTitleLetter (c : Char) : Bool := titleLetterTable.contains c.toNat

def hasCase (c : Char) : Bool := isCapital c || isSmall c || isTitleLetter c

/-- Whether the form of a final sigma looks past a character. -/
def isCaseIgnorable (c : Char) : Bool :=
  if c.toNat < 0x80 then c == '\'' || c == '.' || c == ':' || c == '^' || c == '\x60'
  else caseIgnorableTable.contains c.toNat

def expansion? (table : List (Nat × List Nat)) (c : Char) : Option (List Char) :=
  (table.find? fun entry => entry.1 == c.toNat).map fun entry => entry.2.map Char.ofNat

def capitalForm (c : Char) : List Char :=
  if c.toNat < 0x80 then [c.toUpper]
  else (expansion? upperExpansions c).getD
    [((upperTable.image? c.toNat).map Char.ofNat).getD c]

def titleForm (c : Char) : List Char :=
  if c.toNat < 0x80 then [c.toUpper]
  else match titleTable.image? c.toNat with
    | some n => [Char.ofNat n]
    | none => (expansion? titleExpansions c).getD (capitalForm c)

def smallForm (c : Char) : List Char :=
  if c.toNat < 0x80 then [c.toLower]
  else (expansion? lowerExpansions c).getD
    [((lowerTable.image? c.toNat).map Char.ofNat).getD c]

/-- Whether a character is a letter of a script whose capital letters came before its small ones;
case folding turns these into capital letters. -/
def foldsToCapital (c : Char) : Bool :=
  (0x13A0 ≤ c.toNat && c.toNat ≤ 0x13FD) || (0xAB70 ≤ c.toNat && c.toNat ≤ 0xABBF)

/-- The form of a character that is the same for all cases of a letter. A dotless i stays apart from
the i with a dot. -/
def foldedForm (c : Char) : List Char :=
  if c.toNat < 0x80 then [c.toLower]
  else if c.toNat = 0x131 then [c]
  else if foldsToCapital c then capitalForm c
  else ((smallForm c).flatMap capitalForm).flatMap smallForm

/-- Whether a capital sigma between `before` (nearest first) and `after` ends a word. -/
def isFinalSigma (before after : List Char) : Bool :=
  ((before.dropWhile isCaseIgnorable).head?.map hasCase).getD false &&
  !((after.dropWhile isCaseIgnorable).head?.map hasCase).getD false

def smallFormIn (before : List Char) (c : Char) (after : List Char) : List Char :=
  if c.toNat = 0x3A3 then [Char.ofNat (if isFinalSigma before after then 0x3C2 else 0x3C3)]
  else smallForm c

/-- Maps every character, given those before it (nearest first) and those after it. -/
def mapInContext (f : List Char → Char → List Char → List Char) :
    List Char → List Char → List Char
  | _, [] => []
  | before, c :: after => f before c after ++ mapInContext f (c :: before) after

def toUpper (text : List Char) : List Char := text.flatMap capitalForm

def toLower (text : List Char) : List Char := mapInContext smallFormIn [] text

/-- The text with all cases of a letter made the same. -/
def foldCase (text : List Char) : List Char := text.flatMap foldedForm

/-- The text with a title form at the start of every run of letters with case. -/
def toTitle (text : List Char) : List Char :=
  mapInContext (fun before c after =>
    if (before.head?.map hasCase).getD false then smallFormIn before c after
    else titleForm c) [] text

/-- The text with a title form first and small letters after it. -/
def capitalize (text : List Char) : List Char :=
  mapInContext (fun before c after =>
    if before.isEmpty then titleForm c else smallFormIn before c after) [] text

/-- The text with capital and small letters exchanged. -/
def swapCase (text : List Char) : List Char :=
  mapInContext (fun before c after =>
    if isCapital c then smallFormIn before c after
    else if isSmall c then capitalForm c else [c]) [] text

/-- Whether a text has a letter with case and all of those are capital. -/
def allCapital (text : List Char) : Bool :=
  text.any isCapital && !text.any fun c => isSmall c || isTitleLetter c

/-- Whether a text has a letter with case and all of those are small. -/
def allSmall (text : List Char) : Bool :=
  text.any isSmall && !text.any fun c => isCapital c || isTitleLetter c

/-- Whether every run of letters with case starts with a capital and goes on small, and there is
one. -/
def isTitled (text : List Char) : Bool :=
  let step := fun (state : Bool × Bool × Bool) (c : Char) =>
    let (ok, previous, found) := state
    if isCapital c || isTitleLetter c then (ok && !previous, true, true)
    else if isSmall c then (ok && previous, true, true)
    else (ok, false, found)
  let (ok, _, found) := text.foldl step (true, false, false)
  ok && found

end LambdaText.Text
