import LambdaText.Builtin.Method
import LambdaText.Eval.Combine

/-!
# Calls

What a call of a value means, for every kind of value that can be called.
-/

namespace LambdaText

variable (m : Machine)

def callStep (f : Value) (positions : List Value) (keywords : Keywords) : Run Value := do
  match f with
  | .builtin name => callBuiltin m name positions keywords
  | .type kind => construct m kind positions keywords
  | .method owner name => callClassMethod m owner name positions keywords
  | .bound receiver name => callMethod m receiver name positions keywords
  | .function _ code scope name defaults =>
    invoke m code scope name defaults positions keywords
  | .compiled _ _ function =>
    if (keywords.lookup "self").isSome then
      Run.raise "TypeError"
        "CompiledLambda.__call__() got multiple values for argument 'self'"
    else m.call function positions keywords
  | .curried _ c => callCurried m c positions keywords
  | .template _ t => callTemplate m t positions keywords
  | .combined _ c => callCombined m c positions keywords
  | _ => Run.raise "TypeError" s!"'{f.kindName}' object is not callable"

end LambdaText
