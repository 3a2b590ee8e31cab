import LambdaText.Code.Expression
import LambdaText.Datum.Basic
import LambdaText.Number.Amount
import LambdaText.Number.Complex

/-!
# Literals

The datum that a literal denotes: constants, signed numbers, sums of a real and an imaginary part,
and displays of rows, sets and dictionaries. Keys that cannot be keys are an error of their own;
whatever else is no literal denotes nothing.
-/

namespace LambdaText

open LambdaText.Code LambdaText.Number

/-- Why an expression denotes no datum. -/
inductive LiteralDefect where
  | malformed
  | badKey (kind : String)
  | oversized
  deriving DecidableEq, Repr

namespace Datum

def amount? : Datum → Option Amount
  | .bool b => some (.int (if b then 1 else 0))
  | .int i => some (.int i)
  | .float x => some (.float x)
  | .complex re im => some (.complex re im)
  | _ => Option.none

mutual

def sameKey : Datum → Datum → Bool
  | .tuple a, .tuple b => allSameKey a b
  | .text a, .text b => a == b
  | .points a, .points b => a == b
  | .bytes a, .bytes b => a == b
  | .none, .none | .ellipsis, .ellipsis => true
  | a, b =>
    match a.amount?, b.amount? with
    | some m, some n => m.equal n
    | _, _ => false

def allSameKey : List Datum → List Datum → Bool
  | [], [] => true
  | a :: as, b :: bs => sameKey a b && allSameKey as bs
  | _, _ => false

end

mutual

/-- The kind of the part of a datum because of which it is no key, if there is one. -/
def badKey? : Datum → Option String
  | .list _ => some "list"
  | .set _ => some "set"
  | .dict _ => some "dict"
  | .tuple items => anyBadKey? items
  | _ => Option.none

def anyBadKey? : List Datum → Option String
  | [] => Option.none
  | d :: rest => badKey? d <|> anyBadKey? rest

end

def checkKey (d : Datum) : Except LiteralDefect Unit :=
  match d.badKey? with
  | some kind => .error (.badKey kind)
  | Option.none => .ok ()

/-- Adds an entry to a dictionary; a key that is there keeps its place. -/
def addEntry (key value : Datum) : List (Datum × Datum) → List (Datum × Datum)
  | [] => [(key, value)]
  | (k, v) :: rest =>
    if k.sameKey key then (k, value) :: rest else (k, v) :: addEntry key value rest

def ofConstant : Constant → Datum
  | .none => .none
  | .bool b => .bool b
  | .ellipsis => .ellipsis
  | .number (.int n) => .int n
  | .number (.float x) => .float x
  | .number (.imaginary x) => .complex 0 x
  | .text s => .text s
  | .points ps => .points ps
  | .bytes b => .bytes b

def ofNumber : Expr → Except LiteralDefect Datum
  | .constant (.number n) => .ok (ofConstant (.number n))
  | _ => .error .malformed

def negated : Datum → Datum
  | .int i => .int (-i)
  | .float x => .float (-x)
  | .complex re im => .complex (-re) (-im)
  | d => d

def ofSigned : Expr → Except LiteralDefect Datum
  | .unary .plus e => ofNumber e
  | .unary .negate e => negated <$> ofNumber e
  | e => ofNumber e

def toDouble : Datum → Except LiteralDefect Float
  | .int i =>
    let x := floatOfInt i
    if x.isInf then .error .oversized else .ok x
  | .float x => .ok x
  | _ => .error .malformed

/-- The sum or difference of a real number and an imaginary one. -/
def ofParts (plus : Bool) (a b : Expr) : Except LiteralDefect Datum := do
  let left ← ofSigned a
  let right ← ofNumber b
  match left, right with
  | .complex _ _, _ => .error .malformed
  | _, .complex re im =>
    let x : ComplexFloat := ⟨← toDouble left, 0⟩
    let sum := if plus then x.add ⟨re, im⟩ else x.sub ⟨re, im⟩
    .ok (.complex sum.re sum.im)
  | _, _ => .error .malformed

mutual

def ofExpr : Expr → Except LiteralDefect Datum
  | .constant c => .ok (ofConstant c)
  | .tuple items => Datum.tuple <$> ofExprs items
  | .list items => Datum.list <$> ofExprs items
  | .set items => Datum.set <$> ofMembers [] items
  | .dict entries => Datum.dict <$> ofEntries [] entries
  | .call (.name "set") [] => .ok (.set [])
  | .binary .add a b => ofParts true a b
  | .binary .subtract a b => ofParts false a b
  | e => ofSigned e

def ofExprs : List Expr → Except LiteralDefect (List Datum)
  | [] => .ok []
  | e :: rest => do
    let d ← ofExpr e
    return d :: (← ofExprs rest)

/-- The data that the members of a set denote, without repetitions. -/
def ofMembers (members : List Datum) : List Expr → Except LiteralDefect (List Datum)
  | [] => .ok members
  | e :: rest => do
    let d ← ofExpr e
    checkKey d
    ofMembers (if members.any (sameKey d) then members else members ++ [d]) rest

/-- The data that the entries of a dictionary denote; of equal keys the last value counts. -/
def ofEntries (entries : List (Datum × Datum)) :
    List Entry → Except LiteralDefect (List (Datum × Datum))
  | [] => .ok entries
  | .pair k e :: rest => do
    let key ← ofExpr k
    let value ← ofExpr e
    checkKey key
    ofEntries (addEntry key value entries) rest
  | .spread _ :: _ => .error .malformed

end

/-- Whether a text may not stand before a literal. -/
def isIndent (c : Char) : Bool := c == ' ' || c == '\t'

def ofLiteral (text : List Char) : Except LiteralDefect Datum :=
  if text.contains (Char.ofNat 0) then .error .malformed
  else match Expr.read? (text.dropWhile isIndent) with
    | some e => ofExpr e
    | Option.none => .error .malformed

/-- Reads an argument: the datum that the text denotes if it is a literal, and else the text. -/
def ofArgument (text : String) : Except LiteralDefect Datum :=
  match ofLiteral text.toList with
  | .error .malformed => .ok (.text text)
  | result => result

end Datum

end LambdaText
