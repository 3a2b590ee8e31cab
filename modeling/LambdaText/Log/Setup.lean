import LambdaText.Log.Names
import LambdaText.Text.Case

/-!
# Setting up the log

From which level on records are written, and where to: to the standard output, or to a file, whose
folders are made if they are missing.
-/

namespace LambdaText.Log

open LambdaText.Text

def ranks : List (String × Nat) :=
  [("CRITICAL", 50), ("DEBUG", 10), ("ERROR", 40), ("FATAL", 50), ("INFO", 20), ("NOTSET", 0),
   ("WARN", 30), ("WARNING", 30)]

/-- The rank of a name, in small or capital letters; any other name stands for the usual rank. -/
def rankOf (name : String) : Nat :=
  (ranks.lookup (String.ofList (toUpper name.toList))).getD Level.info.rank

def layout : String := "%(asctime)s - %(name)s - %(levelname)s - %(message)s"

def folderOf (file : List Char) : List Char :=
  let head := (file.reverse.dropWhile (· != '/')).reverse
  if head.all (· == '/') then head else (head.reverse.dropWhile (· == '/')).reverse

/-- The folders on the way to a folder, outermost first, as they are seen from the current one. -/
def foldersTo (folder : String) : List String :=
  let step := fun ((made, place) : List String × List String) (name : String) =>
    if name = "" ∨ name = "." then (made, place)
    else if name = ".." then (made, place.dropLast)
    else (made ++ ["/".intercalate (place ++ [name])], place ++ [name])
  if folder.startsWith "/" then [] else ((folder.splitOn "/").foldl step ([], [])).1

/-- A log that has been set up. -/
structure Setup where
  rank : Nat
  file : Option String
  folders : List String
  records : List Record
  deriving DecidableEq, Repr

def setUp (level : String) (file : Option String) : Setup :=
  let rank := rankOf level
  let file := file.filter (· != "")
  { rank
    file
    folders := (file.map fun f => foldersTo (String.ofList (folderOf f.toList))).getD []
    records :=
      if rank = Level.debug.rank then
        [⟨packageName, .debug, s!"Logging initialized at {Level.debug.name} level"⟩]
      else [] }

end LambdaText.Log
