import LambdaText.Proofs.Eval.Ends

/-!
# Repetition

A step that is repeated until it gives a result ends as it does with a bound on the repetitions, if
the bound is high enough. So what holds of all bounded repetitions holds without a bound.
-/

namespace LambdaText.Run

variable {α σ : Type} {step : σ → Run (σ ⊕ α)} {s : σ} {t : State} {e : Except Value α × State}

/-! ### Single steps -/

/-- A repetition is one step and the repetition from what it leaves. -/
theorem ends_iterate (step : σ → Run (σ ⊕ α)) (s : σ) (t : State) :
    (iterate step s).ends t = match (step s).ends t with
      | none => none
      | some (.ok (.inl s), t) => (iterate step s).ends t
      | some (.ok (.inr a), t) => some (.ok a, t)
      | some (.error e, t) => some (.error e, t) := by
  change iterateFrom step s t = _
  rw [iterateFrom]
  change ((step s).ends t >>= _) = _
  cases (step s).ends t with
  | none => rfl
  | some result =>
    obtain ⟨⟨e⟩ | ⟨⟨s⟩ | ⟨a⟩⟩, t⟩ := result <;> rfl

theorem ends_repeatWithin_succ (step : σ → Run (σ ⊕ α)) (n : Nat) (s : σ) (t : State) :
    (repeatWithin step (n + 1) s).ends t = match (step s).ends t with
      | none => none
      | some (.ok (.inl s), t) => (repeatWithin step n s).ends t
      | some (.ok (.inr a), t) => some (.ok a, t)
      | some (.error e, t) => some (.error e, t) := by
  rw [repeatWithin, ends_bind]
  cases (step s).ends t with
  | none => rfl
  | some result =>
    obtain ⟨⟨e⟩ | ⟨⟨s⟩ | ⟨a⟩⟩, t⟩ := result <;> rfl

/-! ### Bounds -/

theorem repeatWithin_of_le {n k : Nat} (hle : n ≤ k)
    (h : (repeatWithin step n s).ends t = some e) : (repeatWithin step k s).ends t = some e := by
  induction n generalizing k s t with
  | zero => cases h
  | succ n ih =>
    obtain ⟨k, rfl⟩ := Nat.exists_eq_add_of_le' hle
    rw [← Nat.add_assoc, ends_repeatWithin_succ]
    rw [ends_repeatWithin_succ] at h
    split at h
    · cases h
    · exact ih (Nat.le_add_left n k) h
    · exact h
    · exact h

theorem ends_iterate_of_repeatWithin {n : Nat} (h : (repeatWithin step n s).ends t = some e) :
    (iterate step s).ends t = some e := by
  induction n generalizing s t with
  | zero => cases h
  | succ n ih =>
    rw [ends_repeatWithin_succ] at h
    rw [ends_iterate]
    split at h
    · cases h
    · exact ih h
    · exact h
    · exact h

theorem exists_repeatWithin (h : (iterate step s).ends t = some e) :
    ∃ n, (repeatWithin step n s).ends t = some e := by
  refine iterateFrom.partial_correctness step
    (fun s t e => ∃ n, (repeatWithin step n s).ends t = some e) (fun f ih s t e h => ?_) s t e h
  obtain ⟨⟨result, u⟩, hstep, hrest⟩ := Option.bind_eq_some_iff.1 h
  have hends : (step s).ends t = some (result, u) := hstep
  cases result with
  | error e' =>
    cases hrest
    exact ⟨1, by rw [ends_repeatWithin_succ, hends]⟩
  | ok next =>
    cases next with
    | inl s =>
      obtain ⟨n, hn⟩ := ih s u e hrest
      exact ⟨n + 1, by rw [ends_repeatWithin_succ, hends]; exact hn⟩
    | inr a =>
      cases hrest
      exact ⟨1, by rw [ends_repeatWithin_succ, hends]⟩

/-- With enough repetitions a bound makes no difference. -/
theorem exists_bound (step : σ → Run (σ ⊕ α)) (s : σ) (t : State) :
    ∃ n, ∀ k, n ≤ k → (repeatWithin step k s).ends t = (iterate step s).ends t := by
  cases hend : (iterate step s).ends t with
  | some e =>
    obtain ⟨n, hn⟩ := exists_repeatWithin hend
    exact ⟨n, fun k hk => repeatWithin_of_le hk hn⟩
  | none =>
    refine ⟨0, fun k _ => ?_⟩
    rw [← hend]
    cases hk : (repeatWithin step k s).ends t with
    | none => exact hend.symm
    | some e => exact (ends_iterate_of_repeatWithin hk).symm

/-- One bound is high enough for two starts. -/
theorem exists_bound_two (step : σ → Run (σ ⊕ α)) (s : σ) (t t' : State) :
    ∃ n, (repeatWithin step n s).ends t = (iterate step s).ends t ∧
      (repeatWithin step n s).ends t' = (iterate step s).ends t' := by
  obtain ⟨n, hn⟩ := exists_bound step s t
  obtain ⟨n', hn'⟩ := exists_bound step s t'
  exact ⟨max n n', hn _ (Nat.le_max_left n n'), hn' _ (Nat.le_max_right n n')⟩

end LambdaText.Run
