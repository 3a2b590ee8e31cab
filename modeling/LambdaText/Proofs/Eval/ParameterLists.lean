import LambdaText.Proofs.Eval.Compiling
import LambdaText.Proofs.Eval.Stages
import LambdaText.Proofs.Source.Acceptance
import LambdaText.Proofs.Source.Standing

/-!
# Parameter lists that are read

Every stage of what is read has distinct parameters, none of them a reserved word. The stages of a
chain have the tokens of its segments for parameters; the parameters of a plain text stand in its
body. So only a body, or a parameter with the locked name, keeps what is read from being a function,
and never a name that is repeated or reserved.
-/

namespace LambdaText

open LambdaText.Code LambdaText.Source LambdaText.Text

/-! ### Sources that make functions -/

theorem isFunction_iff {names : List String} {body : Expr} :
    isFunction names body = true ↔ (names.Nodup ∧ lockedName ∉ names) ∧
      body.usage.awaits = false ∧ body.usage.sound {} = true := by
  simp only [isFunction, Usage.ofFunction, Bool.and_eq_true, Bool.not_eq_true', decide_eq_true_eq,
    List.contains_eq_mem, decide_eq_false_iff_not, and_assoc]

/-- A function inside an expression waits for nothing there, and may stand where it is one. -/
theorem usage_lambda_plain (names : List String) (body : Expr) :
    (Expr.lambda (names.map Parameter.plain) body).usage.awaits = false ∧
      (Expr.lambda (names.map Parameter.plain) body).usage.sound {} = isFunction names body := by
  rw [Expr.usage, defaultsUsage_plain, map_name_plain]
  exact ⟨rfl, rfl⟩

/-- A source makes a function if the parameters of every stage are distinct and not locked, and its
body may stand in a function. -/
theorem isFunction_stageBody (s : Source) (e : Expr) :
    isFunction s.parameters (stageBody s e) = true ↔
      (∀ stage ∈ s.stages, stage.parameters.Nodup ∧ lockedName ∉ stage.parameters) ∧
        e.usage.awaits = false ∧ e.usage.sound {} = true := by
  induction s with
  | last text form names body =>
    rw [isFunction_iff, stages, List.forall_mem_singleton, stageBody]
  | stage text form names inner ih =>
    obtain ⟨hawaits, hsound⟩ := usage_lambda_plain inner.parameters (stageBody inner e)
    rw [isFunction_iff, stages, List.forall_mem_cons, stageBody, hawaits, hsound, ih]
    simp only [true_and, and_assoc]

theorem sourceFunction_eq_ok_iff {s : Source} {e : Expr} (he : parseBody s = .ok e) :
    sourceFunction s = .ok (s.parameters, stageBody s e) ↔
      isFunction s.parameters (stageBody s e) = true := by
  constructor
  · intro h
    obtain ⟨e', he', -, hfunction⟩ := sourceFunction_eq_ok h
    rw [he, Except.ok.injEq] at he'
    exact he' ▸ hfunction
  · intro hfunction
    rw [sourceFunction, he]
    exact if_pos hfunction

/-! ### What is read -/

end LambdaText
