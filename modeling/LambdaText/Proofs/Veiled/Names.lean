import LambdaText.Eval.Comprehend
import LambdaText.Eval.Compile
import LambdaText.Eval.Invoke
import LambdaText.Proofs.Source.Occurrences

/-!
# Names that code leaves to the scope around

The free names of a comprehension are those of its loops, and those of a written function are the
names of its body that do not belong to it.
-/

namespace LambdaText

namespace Code

@[simp] theorem mem_without {names bound : List String} {n : String} :
    n ∈ without names bound ↔ n ∈ names ∧ n ∉ bound := by
  simp [without]

end Code

open LambdaText.Code

def Loop.free (l : Loop) : List String :=
  l.target.free ++ l.sequence.free ++ freeOfAll l.conditions

theorem freeOfAll_splitConditions_subset (clauses : List Clause) :
    freeOfAll (splitConditions clauses).1 ⊆ freeOfClauses clauses := by
  fun_induction splitConditions clauses with
  | case1 e rest conditions others h ih =>
    rw [h] at ih
    simp only [freeOfAll, freeOfClauses]
    exact List.append_subset.2 ⟨List.subset_append_left _ _, List.subset_append_of_subset_right _ ih⟩
  | case2 => simp [freeOfAll]

/-- The free names of the loops of a comprehension are those of its clauses. -/
theorem free_subset_of_mem_loopsOf {clauses : List Clause} {l : Loop} (h : l ∈ loopsOf clauses) :
    l.free ⊆ freeOfClauses clauses := by
  fun_induction loopsOf clauses with
  | case1 => cases h
  | case2 e rest ih => exact List.subset_append_of_subset_right _ (ih h)
  | case3 target sequence isAsync rest ih =>
    rw [freeOfClauses]
    rcases List.mem_cons.1 h with rfl | hrest
    · exact List.append_subset.2 ⟨List.subset_append_left _ _,
        List.subset_append_of_subset_right _ (freeOfAll_splitConditions_subset rest)⟩
    · exact List.subset_append_of_subset_right _ (ih hrest)

/-- What a written function leaves to the scope around it. -/
theorem free_lambdaRoutine (parameters : List Parameter) (body : Expr) :
    (lambdaRoutine parameters body).free ⊆
      without body.free (parameters.map Parameter.name ++ body.usage.bound) := by
  intro n hn
  simpa [Routine.free, lambdaRoutine, Body.free] using hn

end LambdaText
