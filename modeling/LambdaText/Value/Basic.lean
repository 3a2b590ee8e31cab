import LambdaText.Code.Syntax
import LambdaText.Datum.Validation
import LambdaText.Fault
import LambdaText.Function.Combinator
import LambdaText.Function.Curried
import LambdaText.Function.Template
import LambdaText.Settings.Basic
import LambdaText.Source.Basic

/-!
# Values

What bodies compute with. Values that change live in cells and are known by their address; values
made by the library or by functions carry a serial number, so that one can tell them apart. Texts
consist of characters: what values with surrogates in them do is left open.
-/

namespace LambdaText

open LambdaText.Code LambdaText.Function

/-- Where code runs: the frames of the functions around, innermost first, the cell of the global
names, and the name of the function that runs. -/
structure Scope where
  frames : List Nat
  globals : Nat
  /-- The name of the running function, with a mark for what is local to it. -/
  path : String

/-- What a function computes. -/
inductive Body where
  | value (e : Expr)
  | block (statements : List Stmt)

/-- A function as it is written. -/
structure Routine where
  name : String
  parameters : List Parameter
  body : Body
  locals : List String
  globals : List String
  yields : Bool

/-- Why the library or a validation failed. -/
inductive Cause where
  | fault (f : Fault)
  | issues (list : List Issue)
  deriving Repr

inductive Value where
  | none
  | bool (b : Bool)
  | int (i : Int)
  | float (x : Float)
  | complex (re im : Float)
  | text (s : String)
  | bytes (b : List UInt8)
  | ellipsis
  | hole
  | tuple (items : List Value)
  | range (first last step : Int)
  | slice (first last step : Value)
  | list (address : Nat)
  | dict (address : Nat)
  | set (address : Nat)
  | view (kind : String) (address : Nat)
  | iterator (kind : String) (address : Nat)
  | builtin (name : String)
  | type (name : String)
  | method (owner name : String)
  | bound (receiver : Value) (name : String)
  | function (serial : Nat) (code : Routine) (scope : Scope) (name : String)
      (defaults : List (String × Value))
  | compiled (serial : Nat) (source : Source) (function : Value)
  | curried (serial : Nat) (c : Curried Value)
  | template (serial : Nat) (t : Template Value)
  | combined (serial : Nat) (c : Combinator Value)
  | error (kind : String) (arguments : List Value) (cause : Option Cause)
  | source (serial : Nat) (s : Source)
  | settings (serial : Nat) (s : Settings)
  | compiler (address : Nat)
  | module (name : String)

instance : Inhabited Value := ⟨.none⟩

/-- One loop of a comprehension with the conditions behind it. -/
structure Loop where
  target : Expr
  sequence : Expr
  conditions : List Expr

/-- What gives items one by one. -/
inductive Iterator where
  | items (rest : List Value)
  | list (address next : Nat)
  /-- The items of a list from a position backwards; the position is counted from one. -/
  | backwards (address next : Nat)
  | range (next : Int) (count : Nat) (step : Int)
  /-- The keys, values or items of a dictionary from a position on; its size may not change. -/
  | dict (kind : String) (address next size : Nat)
  | set (address next size : Nat)
  | enumerate (source : Value) (next : Int)
  | zip (sources : List Value) (strict : Bool)
  | map (function : Value) (sources : List Value)
  | filter (test source : Value)
  | calls (function stop : Value)
  /-- A comprehension: its item, its loops, and the open iterators of its loops, innermost first. -/
  | comprehension (scope : Scope) (item : Expr) (value : Option Expr) (loops : List Loop)
      (opened : List Value)
  | routine (scope : Scope) (code : Routine)
  | failing (rest : List Value) (error : Value)
  | ended

inductive Cell where
  | list (items : Array Value)
  | dict (entries : Array (Value × Value))
  | set (items : Array Value)
  | iterator (i : Iterator)

/-- The names of a running function. -/
structure Frame where
  /-- The names that belong to it, with their values if they have one. -/
  slots : Array (String × Option Value) := #[]
  globals : List String := []
  yielded : Array Value := #[]
  /-- The names that its code leaves to the functions around, unless that is left open. -/
  captured : Option (List String) := none

def Value.isHole : Value → Bool
  | .hole => true
  | _ => false

def Value.ofChars (text : List Char) : Value := .text (String.ofList text)

end LambdaText
