/-!
# Data

Values without identity: what a literal denotes and what is given for a field. Two numbers of
different kinds are one key if they are equal.
-/

namespace LambdaText

/-- A value without identity. -/
inductive Datum where
  | none
  | bool (b : Bool)
  | int (i : Int)
  | float (x : Float)
  | complex (re im : Float)
  | text (s : String)
  /-- A text by its code points, of which some are surrogates and so no characters. -/
  | points (points : List Nat)
  | bytes (b : List UInt8)
  | ellipsis
  | tuple (items : List Datum)
  | list (items : List Datum)
  | set (items : List Datum)
  | dict (entries : List (Datum × Datum))
  | foreign

instance : Inhabited Datum := ⟨.none⟩

namespace Datum

/-- The value of a key in a dictionary; the last entry counts. -/
def field? (entries : List (Datum × Datum)) (name : String) : Option Datum :=
  (entries.reverse.find? fun (key, _) => match key with
    | .text s => s == name
    | _ => false).map Prod.snd

end Datum

end LambdaText
