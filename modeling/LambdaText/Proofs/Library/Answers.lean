import LambdaText.Proofs.Congruence.Operations

/-!
# Machines that answer less

A machine that answers some of the calls of another one, and those alike, is enough for an operation
that needs no more: if the operation ends with the first machine, it ends in the same way with the
second. The machine that never answers is enough for operations that call nothing.
-/

namespace LambdaText

namespace Run

variable {α β σ : Type}

/-- Agreement wherever the first computation ends. -/
def agreeing : Relation := fun α r₀ r =>
  ∀ ⦃s t : State⦄ ⦃result : Except Value α⦄, r₀.ends s = some (result, t) → r.ends s = some (result, t)

/-- A computation that another one agrees with wherever it ends. -/
abbrev Below (r₀ r : Run α) : Prop := Related agreeing r₀ r

theorem Below.ends {r₀ r : Run α} (h : Below r₀ r) {s t : State} {result : Except Value α}
    (hend : r₀.ends s = some (result, t)) : r.ends s = some (result, t) :=
  h.holds hend

theorem agreeing_refl (r : Run α) : agreeing α r r := fun _ _ _ h => h

theorem agreeing_bind {r₀ r : Run α} {f₀ f : α → Run β} (hr : agreeing α r₀ r)
    (hf : ∀ a, agreeing β (f₀ a) (f a)) : agreeing β (r₀ >>= f₀) (r >>= f) := by
  intro s t result h
  obtain ⟨e, herror, rfl⟩ | ⟨a, u, hok, hrest⟩ := ends_bind_cases h
  · exact ends_bind_of_error (hr herror) f
  · rw [ends_bind_of_ok (hr hok)]
    exact hf a hrest

theorem agreeing_iterate {step₀ step : σ → Run (σ ⊕ α)}
    (h : ∀ n s, agreeing α (repeatWithin step₀ n s) (repeatWithin step n s)) (s : σ) :
    agreeing α (iterate step₀ s) (iterate step s) := by
  intro t u result hend
  obtain ⟨n, hn⟩ := exists_repeatWithin hend
  exact ends_iterate_of_repeatWithin (h n s hn)

instance congruence_agreeing : Congruence agreeing where
  pure _ := agreeing_refl _
  throw _ := agreeing_refl _
  diverge {_} := agreeing_refl _
  bind := agreeing_bind
  limit := agreeing_iterate
  modifyGet _ := agreeing_refl _

instance compilingCongruence_agreeing : CompilingCongruence agreeing where
  debug _ _ := agreeing_refl _
  fail _ := agreeing_refl _
  compilerSettings _ := agreeing_refl _
  compilerCache _ := agreeing_refl _
  newCompiler _ := agreeing_refl _

instance libraryCongruence_agreeing : LibraryCongruence agreeing where
  compileWith {m₀ m} _ address text given :=
    (related_compileWith_of_setCache (R := agreeing) m₀ m (fun _ _ => ⟨agreeing_refl _⟩) address text
      given).holds
  refuse _ := agreeing_refl _
  environmentSettings := agreeing_refl _
  sharedCompiler := agreeing_refl _
  resetShared := agreeing_refl _

end Run

instance (m : Machine) : Machine.silent.Related Run.agreeing m where
  call _ _ _ := ⟨fun _ _ _ h => by cases h⟩
  advance _ := ⟨fun _ _ _ h => by cases h⟩

end LambdaText
