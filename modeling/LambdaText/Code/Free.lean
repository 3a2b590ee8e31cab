import LambdaText.Code.Scope

/-!
# Free names

The names that an expression leaves to the scope around it: those that it looks up itself, and those
that the functions and comprehensions in it look up without having them as their own.
-/

namespace LambdaText.Code

def without (names bound : List String) : List String := names.filter fun n => !bound.contains n

mutual

/-- The names that an expression leaves to the scope around it. -/
def Expr.free : Expr → List String
  | .constant _ => []
  | .name n => [n]
  | .template pieces => freeOfPieces pieces
  | .tuple items | .list items | .set items => freeOfAll items
  | .dict entries => freeOfEntries entries
  | .unary _ e => e.free
  | .binary _ a b => a.free ++ b.free
  | .connective _ es => freeOfAll es
  | .comparison e rest => e.free ++ freeOfComparands rest
  | .conditional a b c => a.free ++ b.free ++ c.free
  | .attribute e _ => e.free
  | .subscript e i => e.free ++ i.free
  | .slice a b c => freeOfOption a ++ freeOfOption b ++ freeOfOption c
  | .call f arguments => f.free ++ freeOfArguments arguments
  | .lambda ps body =>
    freeOfDefaults ps ++ without body.free (ps.map Parameter.name ++ body.usage.bound)
  | .comprehension _ item value clauses =>
    freeOfFirst clauses ++
      without (freeOfClauses clauses ++ item.free ++ freeOfOption value) (loopNamesOf clauses)
  | .assignment _ e | .star e | .await e | .yieldFrom e => e.free
  | .yield e => freeOfOption e

def freeOfAll : List Expr → List String
  | [] => []
  | e :: rest => e.free ++ freeOfAll rest

def freeOfOption : Option Expr → List String
  | none => []
  | some e => e.free

def freeOfPieces : List Piece → List String
  | [] => []
  | .text _ :: rest => freeOfPieces rest
  | .field e _ format :: rest => e.free ++ freeOfPieces format ++ freeOfPieces rest

def freeOfEntries : List Entry → List String
  | [] => []
  | .pair k v :: rest => k.free ++ v.free ++ freeOfEntries rest
  | .spread e :: rest => e.free ++ freeOfEntries rest

def freeOfComparands : List Comparand → List String
  | [] => []
  | .mk _ e :: rest => e.free ++ freeOfComparands rest

def freeOfArguments : List Argument → List String
  | [] => []
  | .positional e :: rest => e.free ++ freeOfArguments rest
  | .star e :: rest => e.free ++ freeOfArguments rest
  | .keyword _ e :: rest => e.free ++ freeOfArguments rest
  | .spread e :: rest => e.free ++ freeOfArguments rest

def freeOfDefaults : List Parameter → List String
  | [] => []
  | .mk _ _ d :: rest => freeOfOption d ++ freeOfDefaults rest

def freeOfFirst : List Clause → List String
  | .loop _ sequence _ :: _ => sequence.free
  | _ => []

/-- The free names of the clauses of a comprehension, from its own scope on. -/
def freeOfClauses : List Clause → List String
  | [] => []
  | .loop target sequence _ :: rest => target.free ++ sequence.free ++ freeOfClauses rest
  | .condition e :: rest => e.free ++ freeOfClauses rest

end

end LambdaText.Code
