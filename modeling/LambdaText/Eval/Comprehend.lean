import LambdaText.Builtin.Containers
import LambdaText.Code.Scope
import LambdaText.Source.FreeNames

/-!
# Comprehensions

A comprehension runs in a frame of its own, which holds the names of its loops; only its first
sequence is computed outside. A generator is left as it is, the others take all its items.
-/

namespace LambdaText

open LambdaText.Code

def comprehensionName : Comprehended → String
  | .list => "<listcomp>"
  | .set => "<setcomp>"
  | .dict => "<dictcomp>"
  | .generator => "<genexpr>"

/-- The conditions that stand before the next loop, and the clauses from there on. -/
def splitConditions : List Clause → List Expr × List Clause
  | .condition e :: rest =>
    let (conditions, others) := splitConditions rest
    (e :: conditions, others)
  | clauses => ([], clauses)

/-- The loops of a comprehension, each with the conditions behind it. -/
def loopsOf : List Clause → List Loop
  | [] => []
  | .condition _ :: rest => loopsOf rest
  | .loop target sequence _ :: rest => ⟨target, sequence, (splitConditions rest).1⟩ :: loopsOf rest

/-- Whether a comprehension waits for something in its own scope. -/
def comprehensionWaits (item : Expr) (value : Option Expr) (clauses : List Clause) : Bool :=
  clauses.any Clause.waits || item.usage.awaits || (optionUsage value).awaits ||
    (clausesUsage (clauses.drop 1)).awaits

/-- Fails because a value does not give items to wait for. -/
def notAwaitable {α : Type} (v : Value) : Run α :=
  Run.raise "TypeError"
    s!"'async for' requires an object with __aiter__ method, got {v.kindName}"

def firstIterator (v : Value) (isAsync : Bool) : Run Value := do
  if isAsync then
    match v with
    | .iterator "async_generator" _ => return v
    | _ => notAwaitable v
  else iterator v

variable (m : Machine)

def comprehensionIterator (scope : Scope) (kind : Comprehended) (item : Expr)
    (value : Option Expr) (clauses : List Clause) : Run Value := do
  match loopsOf clauses, clauses with
  | first :: rest, .loop _ _ isAsync :: _ =>
    let it ← firstIterator (← m.expr scope first.sequence) isAsync
    let names := Source.firstOccurrences (loopNamesOf clauses)
    let a ← Run.enterFrame { slots := (names.map fun n => (n, none)).toArray }
    let inner : Scope :=
      ⟨a :: scope.frames, scope.globals, scope.path ++ comprehensionName kind ++ "."⟩
    let kindName := if comprehensionWaits item value clauses then "async_generator" else "generator"
    Run.newIterator kindName (.comprehension inner item value (first :: rest) [it])
  | _, _ => return .none

/-- Adds an item, or a key with its value, to what a comprehension builds. -/
def addComprehended (entries : Array (Value × Value)) (v : Value) :
    Run (Array (Value × Value)) := do
  let (k, e) := match v with
    | .tuple [k, e] => (k, e)
    | _ => (v, .none)
  demandKey k
  return addEntry entries k e

def comprehend (scope : Scope) (kind : Comprehended) (item : Expr) (value : Option Expr)
    (clauses : List Clause) : Run Value := do
  let it ← comprehensionIterator m scope kind item value clauses
  match kind with
  | .generator => return it
  | .list => Run.newList (← drain m it).toArray
  | .set =>
    foldItems m it
      (fun items v => do
        demandKey v
        return .inl (addItem items v))
      Run.newSet #[]
  | .dict =>
    foldItems m it (fun entries v => return .inl (← addComprehended entries v)) Run.newDict #[]

end LambdaText
