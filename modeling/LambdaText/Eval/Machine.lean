import LambdaText.Code.Syntax
import LambdaText.Value.Run

/-!
# Machines

A machine evaluates expressions, runs blocks, calls values and advances iterators. The steps of the
evaluator are written for any machine and use it for the parts of what they evaluate.
-/

namespace LambdaText

open LambdaText.Code

/-- How a block ends. -/
inductive Flow where
  | done
  | leave
  | next
  | give (v : Value)

/-- What evaluates the parts of code. -/
structure Machine where
  expr : Scope → Expr → Run Value
  block : Scope → List Stmt → Run Flow
  call : Value → List Value → List (String × Value) → Run Value
  advance : Nat → Run (Option Value)

/-- The machine that never answers. -/
def Machine.silent : Machine where
  expr _ _ := Run.diverge
  block _ _ := Run.diverge
  call _ _ _ := Run.diverge
  advance _ := Run.diverge

end LambdaText
