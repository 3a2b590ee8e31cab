import LambdaText.Source.FreeNames
import Mathlib.Data.List.Induction
import Mathlib.Data.List.Nodup

/-!
# First occurrences

Keeping the first occurrence of every item keeps all items, keeps none of them twice, and keeps them
in the order of these occurrences.
-/

namespace LambdaText.Source

variable {α : Type} [BEq α]

/-- Adds an item that has not been seen. -/
def addOccurrence (seen : List α) (a : α) : List α := if seen.contains a then seen else seen ++ [a]

theorem firstOccurrences_eq (items : List α) :
    firstOccurrences items = items.foldl addOccurrence [] := rfl

variable [LawfulBEq α]

theorem mem_addOccurrence {seen : List α} {a b : α} :
    b ∈ addOccurrence seen a ↔ b ∈ seen ∨ b = a := by
  unfold addOccurrence
  split
  · next h =>
    have ha : a ∈ seen := by simpa using h
    exact ⟨.inl, fun hb => hb.elim id fun hb => hb ▸ ha⟩
  · simp

theorem nodup_addOccurrence {seen : List α} (h : seen.Nodup) (a : α) :
    (addOccurrence seen a).Nodup := by
  unfold addOccurrence
  split
  · exact h
  · next hnew =>
    have ha : a ∉ seen := by simpa using hnew
    refine List.nodup_append.2 ⟨h, List.nodup_singleton a, ?_⟩
    intro b hb c hc
    rw [List.mem_singleton] at hc
    rintro rfl
    exact ha (hc ▸ hb)

theorem mem_foldl_addOccurrence (items seen : List α) (b : α) :
    b ∈ items.foldl addOccurrence seen ↔ b ∈ seen ∨ b ∈ items := by
  induction items generalizing seen with
  | nil => simp
  | cons a items ih => rw [List.foldl_cons, ih, mem_addOccurrence, List.mem_cons, or_assoc]

@[simp] theorem mem_firstOccurrences {items : List α} {b : α} :
    b ∈ firstOccurrences items ↔ b ∈ items := by
  rw [firstOccurrences_eq, mem_foldl_addOccurrence]
  simp

theorem nodup_firstOccurrences (items : List α) : (firstOccurrences items).Nodup := by
  rw [firstOccurrences_eq]
  have key : ∀ seen : List α, seen.Nodup → (items.foldl addOccurrence seen).Nodup := by
    induction items with
    | nil => exact fun _ h => h
    | cons a items ih => exact fun seen h => ih _ (nodup_addOccurrence h a)
  exact key [] List.nodup_nil

/-- Of two items that are kept, the one in front has an occurrence in front of all of the other. -/
theorem pairwise_firstOccurrences (items : List α) :
    (firstOccurrences items).Pairwise fun a b => ∃ front rest, items = front ++ a :: rest ∧
      b ∉ front ∧ b ≠ a := by
  induction items using List.reverseRec with
  | nil => exact .nil
  | append_singleton items last ih =>
    have hlonger : (firstOccurrences items).Pairwise fun a b => ∃ front rest,
        items ++ [last] = front ++ a :: rest ∧ b ∉ front ∧ b ≠ a := by
      refine ih.imp fun ⟨front, rest, hitems, hnew⟩ => ⟨front, rest ++ [last], ?_, hnew⟩
      rw [hitems, List.append_assoc, List.cons_append]
    rw [firstOccurrences_eq, List.foldl_concat, ← firstOccurrences_eq, addOccurrence]
    split
    · exact hlonger
    · next hnew =>
      have hlast : last ∉ items := by simpa using hnew
      refine List.pairwise_append.2 ⟨hlonger, List.pairwise_singleton .., fun a ha b hb => ?_⟩
      obtain ⟨front, rest, rfl⟩ := List.append_of_mem (mem_firstOccurrences.1 ha)
      rw [List.mem_singleton] at hb
      subst hb
      simp only [List.mem_append, List.mem_cons, not_or] at hlast
      exact ⟨front, rest ++ [b], by simp, hlast.1, hlast.2.1⟩

end LambdaText.Source
