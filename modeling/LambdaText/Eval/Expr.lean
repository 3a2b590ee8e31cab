import LambdaText.Builtin.Method
import LambdaText.Eval.Arguments
import LambdaText.Eval.Comprehend
import LambdaText.Value.Format

/-!
# Expressions

The value of an expression in a scope. The machine evaluates the parts, from left to right; parts
that are not needed are not evaluated.
-/

namespace LambdaText

open LambdaText.Code LambdaText.Text

/-- The value of a literal, unless it is left open. -/
def constantValue? : Constant → Option Value
  | .none => some .none
  | .bool b => some (.bool b)
  | .ellipsis => some .ellipsis
  | .number (.int n) => some (.int n)
  | .number (.float x) => some (.float x)
  | .number (.imaginary x) => some (.complex 0 x)
  | .text s => some (.text s)
  | .points _ => none
  | .bytes b => some (.bytes b)

def converted (conversion : Conversion) (v : Value) : Run Value := do
  match conversion with
  | .plain => return v
  | .str => return .text (← plain v)
  | .repr => return .text (← shown v)
  | .ascii => return .text (asciiForm (← shown v))

variable (m : Machine)

/-- The text of a template, the fields of which may have formats with fields of their own. -/
def templateText (scope : Scope) : List Piece → Run String
  | [] => return ""
  | .text s :: rest => return s ++ (← templateText scope rest)
  | .field e conversion format :: rest => do
    let v ← converted conversion (← m.expr scope e)
    let written ← formatValue v (← templateText scope format)
    return written ++ (← templateText scope rest)

def compareValues (op : CompareOp) (a b : Value) : Run Bool := do
  match op with
  | .eq => equal a b
  | .ne => return !(← equal a b)
  | .is => return a.same b
  | .isNot => return !a.same b
  | .isIn => containsItem m b a
  | .notIn => return !(← containsItem m b a)
  | .lt | .le | .gt | .ge => ordered op a b

/-- A chain of comparisons, which ends at the first one that does not hold. -/
def compareChain (scope : Scope) (a : Value) : List Comparand → Run Value
  | [] => return .bool true
  | .mk op e :: rest => do
    let b ← m.expr scope e
    if ← compareValues m op a b then compareChain scope b rest else return .bool false

/-- The first operand that decides a connective, or the last one. -/
def connect (scope : Scope) (conjunction : Bool) : List Expr → Run Value
  | [] => return .bool conjunction
  | [e] => m.expr scope e
  | e :: rest => do
    let v ← m.expr scope e
    if (← truth v) == conjunction then connect scope conjunction rest else return v

def evalOption (scope : Scope) : Option Expr → Run Value
  | some e => m.expr scope e
  | none => return .none

/-- Calls a value from a scope. Two built-in functions show the scope that they are called from. -/
def callIn (scope : Scope) (f : Value) (positions : List Value) (keywords : Keywords) :
    Run Value :=
  match f, positions, keywords with
  | .builtin "dir", [], [] => showNames scope
  | .builtin "globals", [], [] => showGlobals scope
  | _, _, _ => m.call f positions keywords

def evalCall (scope : Scope) (function : Expr) (arguments : List Argument) : Run Value := do
  let f ← m.expr scope function
  let positions ← evalPositions m scope arguments
  let keywords ← evalKeywords m scope [] arguments
  callIn m scope f positions keywords

def yieldItem (scope : Scope) (v : Value) : Run Unit := do
  match scope.frames with
  | a :: _ =>
    let f ← Run.frame a
    Run.setFrame a { f with yielded := f.yielded.push v }
  | [] => return ()

/-- Evaluates an expression. -/
def exprStep (scope : Scope) (e : Expr) : Run Value := do
  match e with
  | .constant c =>
    match constantValue? c with
    | some v => return v
    | none => Run.leaveOpen
  | .name n => nameValue scope n
  | .template pieces => return .text (← templateText m scope pieces)
  | .tuple items => return .tuple (← evalItems m scope items)
  | .list items => Run.newList (← evalItems m scope items).toArray
  | .set items => Run.newSet (← addItems #[] (← evalItems m scope items))
  | .dict entries => Run.newDict (← evalEntries m scope #[] [] entries)
  | .unary op e => operateUnary op (← m.expr scope e)
  | .binary op a b =>
    let a ← m.expr scope a
    binaryOperation op a (← m.expr scope b)
  | .connective conjunction es => connect m scope conjunction es
  | .comparison e rest => compareChain m scope (← m.expr scope e) rest
  | .conditional test yes no =>
    if ← truth (← m.expr scope test) then m.expr scope yes else m.expr scope no
  | .attribute e n => attributeOf (← m.expr scope e) n
  | .subscript e i =>
    let v ← m.expr scope e
    getItem v (← m.expr scope i)
  | .slice a b c =>
    let a ← evalOption m scope a
    let b ← evalOption m scope b
    return .slice a b (← evalOption m scope c)
  | .call f arguments => evalCall m scope f arguments
  | .lambda parameters body =>
    let defaults ← evalDefaults m scope parameters
    makeFunction scope (lambdaRoutine parameters body) defaults
  | .comprehension kind item value clauses => comprehend m scope kind item value clauses
  | .assignment n e =>
    let v ← m.expr scope e
    bindName scope n v
    return v
  | .star e => m.expr scope e
  | .await e => m.expr scope e
  | .yield e =>
    yieldItem scope (← evalOption m scope e)
    return .none
  | .yieldFrom e =>
    foldItems m (← iterator (← m.expr scope e))
      (fun _ v => do
        yieldItem scope v
        return .inl ())
      (fun _ => return .none) ()

end LambdaText
