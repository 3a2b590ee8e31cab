import LambdaText.Text.NameTables
import LambdaText.Text.Ranges

/-!
# Characters by name

The character that has a name. Most names stand in a table and may be written in either case;
Hangul syllables are named after their sounds, and ideographs after their code points.
-/

namespace LambdaText.Text

/-! ### Names in the table -/

def isSmallLetter (c : Char) : Bool := decide ('a' ≤ c ∧ c ≤ 'z')

/-- How many words a letter at an end of an entry takes over. -/
def wordsKept : Option Char → Nat
  | some c => if isSmallLetter c then c.toNat - 'a'.toNat + 1 else 0
  | none => 0

def entryWords (before : List (List Char)) (entry : List Char) : List (List Char) :=
  before.take (wordsKept entry.head?) ++ pieces ' ' (entry.filter fun c => !isSmallLetter c) ++
    before.drop (before.length - wordsKept entry.getLast?)

/-- Looks for a name among entries from a code point on. It fails with the code point that has the
name, and else gives the name that stands last. -/
def searchEntries (name : List (List Char)) :
    Nat → List (List Char) → List (List Char) → Except Nat (List (List Char))
  | _, before, [] => .ok before
  | n, before, entry :: rest =>
    if entry.isEmpty then searchEntries name (n + 1) before rest
    else
      let words := entryWords before entry
      if words = name then .error n else searchEntries name (n + 1) words rest

def searchLine (name before : List (List Char)) (line : String) :
    Except Nat (List (List Char)) :=
  let start := line.toList.takeWhile (· ≠ ' ')
  searchEntries name (readHex start) before (pieces ',' (line.toList.drop (start.length + 1)))

def tabled? (name : List Char) : Option Nat :=
  match nameLines.foldlM (searchLine (pieces ' ' (name.map Char.toUpper))) [] with
  | .error n => some n
  | .ok _ => none

/-! ### Hangul syllables -/

def leadingSounds : List String :=
  ["G", "GG", "N", "D", "DD", "R", "M", "B", "BB", "S", "SS", "", "J", "JJ", "C", "K", "T", "P", "H"]

def vowelSounds : List String :=
  ["A", "AE", "YA", "YAE", "EO", "E", "YEO", "YE", "O", "WA", "WAE", "OE", "YO", "U", "WEO", "WE",
   "WI", "YU", "EU", "YI", "I"]

def trailingSounds : List String :=
  ["", "G", "GG", "GS", "N", "NJ", "NH", "D", "L", "LG", "LM", "LB", "LS", "LT", "LP", "LH", "M",
   "B", "BS", "S", "SS", "NG", "J", "C", "K", "T", "P", "H"]

def longestSound? (sounds : List String) (text : List Char) : Option (Nat × List Char) :=
  let fitting := sounds.zipIdx.filter fun s => s.1.toList.isPrefixOf text
  (fitting.foldl (fun best s => match best with
    | some b => if b.1.length < s.1.length then some s else some b
    | none => some s) none).map fun s => (s.2, text.drop s.1.length)

def syllable? (sounds : List Char) : Option Nat := do
  let (l, rest) ← longestSound? leadingSounds sounds
  let (v, rest) ← longestSound? vowelSounds rest
  let (t, rest) ← longestSound? trailingSounds rest
  if rest.isEmpty then some (0xAC00 + (l * 21 + v) * 28 + t) else none

/-! ### Ideographs -/

def unifiedIdeographs : RangeTable :=
  RangeTable.ofLines
    ["3400-4DBF 4E00-9FFF 20000-2A6DF 2A700-2B738 2B740-2B81D 2B820-2CEA1 2CEB0-2EBE0 30000-3134A"]

/-- Characters that are named after what they belong to and their code point. -/
def numberedCharacters : List (String × RangeTable) :=
  [("CJK COMPATIBILITY IDEOGRAPH-", RangeTable.ofLines ["F900-FA6D FA70-FAD9 2F800-2FA1D"]),
   ("KHITAN SMALL SCRIPT CHARACTER-", RangeTable.ofLines ["18B00-18CD5"]),
   ("NUSHU CHARACTER-", RangeTable.ofLines ["1B170-1B2FB"])]

/-- The code point that large hexadecimal digits write, if it lies in a table. -/
def numbered? (table : RangeTable) (digits : List Char) : Option Nat :=
  if digits.all (fun c => (hexValue? c).isSome && !isSmallLetter c) && table.contains (readHex digits)
  then some (readHex digits) else none

/-- The code point that has a name after what it belongs to. The number is not padded. -/
def numberedCharacter? (name : List Char) : Option Nat :=
  numberedCharacters.findSome? fun (start, table) =>
    let digits := name.drop start.length
    if start.toList.isPrefixOf name && digits.head? != some '0' then numbered? table digits else none

def characterNamed? (name : List Char) : Option Nat :=
  let syllables := "HANGUL SYLLABLE ".toList
  let ideographs := "CJK UNIFIED IDEOGRAPH-".toList
  if syllables.isPrefixOf name then syllable? (name.drop syllables.length)
  else if ideographs.isPrefixOf name then
    let digits := name.drop ideographs.length
    if digits.length = 4 ∨ digits.length = 5 then numbered? unifiedIdeographs digits else none
  else (numberedCharacter? (name.map Char.toUpper)).or (tabled? name)

end LambdaText.Text
