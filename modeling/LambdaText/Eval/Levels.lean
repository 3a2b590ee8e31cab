import LambdaText.Eval.Advance
import LambdaText.Eval.Call
import LambdaText.Eval.Stmt

/-!
# The evaluator

A machine of every level: the steps of one level use the machine of the level below, and the lowest
level never answers. A value that a level gives is given by all higher levels too.
-/

namespace LambdaText

/-- The machine of a level. -/
def machineAt : Nat → Machine
  | 0 => .silent
  | n + 1 =>
    { expr := fun scope e => exprStep (machineAt n) scope e
      block := fun scope b => blockStep (machineAt n) scope b
      call := fun f positions keywords => callStep (machineAt n) f positions keywords
      advance := fun address => advanceStep (machineAt n) address }

def topLevel : Nat := Nat.pow 2 60

def machine : Machine := machineAt topLevel

end LambdaText
