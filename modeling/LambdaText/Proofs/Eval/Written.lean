import LambdaText.Proofs.Eval.Ends
import Mathlib.Tactic.Choose

/-!
# What writing a value reads

A value is written by looking at the cells, and at nothing else: writing always ends, changes
nothing, and comes to the same wherever the cells are the same.
-/

namespace LambdaText

open LambdaText.Function

namespace Run

variable {α β : Type}

/-- Whether a computation only looks at the cells. -/
def Reads (r : Run α) : Prop :=
  ∃ look : Array Cell → Except Value α, ∀ s, r.ends s = some (look s.cells, s)

theorem reads_pure (a : α) : Reads (pure a) := ⟨fun _ => .ok a, fun _ => rfl⟩

theorem reads_throw (e : Value) : Reads (throw e : Run α) := ⟨fun _ => .error e, fun _ => rfl⟩

theorem reads_raise (kind message : String) : Reads (raise kind message : Run α) := reads_throw _

theorem Reads.bind {r : Run α} {f : α → Run β} (hr : r.Reads) (hf : ∀ a, (f a).Reads) :
    (r >>= f).Reads := by
  obtain ⟨look, hlook⟩ := hr
  choose next hnext using hf
  refine ⟨fun cells => (look cells).bind fun a => next a cells, fun s => ?_⟩
  rw [ends_bind, hlook]
  change _ = some ((look s.cells).bind fun a => next a s.cells, s)
  cases look s.cells with
  | error e => rfl
  | ok a => exact hnext a s

theorem reads_ite {p : Prop} [Decidable p] {r q : Run α} (hr : r.Reads) (hq : q.Reads) :
    Reads (if p then r else q) := by
  by_cases hp : p
  · rwa [if_pos hp]
  · rwa [if_neg hp]

theorem reads_mapM {f : α → Run β} (hf : ∀ a, (f a).Reads) (items : List α) :
    Reads (items.mapM f) := by
  induction items with
  | nil => exact reads_pure []
  | cons item items ih =>
    rw [List.mapM_cons]
    exact (hf item).bind fun b => ih.bind fun bs => reads_pure (b :: bs)

theorem reads_cell (address : Nat) : Reads (cell address) :=
  ⟨fun cells => .ok (cells[address]?.getD (.list #[])), fun _ => rfl⟩

theorem reads_listItems (address : Nat) : Reads (listItems address) :=
  (reads_cell address).bind fun c => by cases c <;> exact reads_pure _

theorem reads_dictEntries (address : Nat) : Reads (dictEntries address) :=
  (reads_cell address).bind fun c => by cases c <;> exact reads_pure _

theorem reads_setItems (address : Nat) : Reads (setItems address) :=
  (reads_cell address).bind fun c => by cases c <;> exact reads_pure _

end Run

open Run

theorem reads_integerText (i : Int) : Reads (integerText i) :=
  reads_ite (reads_raise _ _) (reads_pure _)

theorem reads_truth (v : Value) : Reads (truth v) := by
  cases v with
  | list a => exact (reads_listItems a).bind fun _ => reads_pure _
  | dict a => exact (reads_dictEntries a).bind fun _ => reads_pure _
  | set a => exact (reads_setItems a).bind fun _ => reads_pure _
  | view _ a => exact (reads_dictEntries a).bind fun _ => reads_pure _
  | _ => exact reads_pure _

/-- The written form of a value within a depth looks at the cells only. -/
theorem reads_shownWithin (n : Nat) (active : List Nat) (v : Value) :
    Reads (shownWithin n active v) := by
  induction n generalizing active v with
  | zero => exact reads_raise _ _
  | succ n ih =>
    have hall : ∀ active items, Reads (List.mapM (shownWithin n active) items) :=
      fun active => reads_mapM (ih active)
    cases v with
    | int i => exact reads_integerText i
    | tuple items => exact (hall active items).bind fun _ => reads_pure _
    | slice a b c => exact (hall active _).bind fun _ => reads_pure _
    | list a =>
      refine reads_ite (reads_pure _) ?_
      exact (reads_listItems a).bind fun _ => (hall _ _).bind fun _ => reads_pure _
    | dict a =>
      refine reads_ite (reads_pure _) ?_
      refine (reads_dictEntries a).bind fun entries => (reads_mapM ?_ _).bind fun _ => reads_pure _
      exact fun e => (ih _ e.1).bind fun _ => (ih _ e.2).bind fun _ => reads_pure _
    | set a =>
      refine (reads_setItems a).bind fun items => reads_ite (reads_pure _) ?_
      exact (hall _ _).bind fun _ => reads_pure _
    | view kind a =>
      exact (reads_dictEntries a).bind fun entries => (hall active _).bind fun _ => reads_pure _
    | iterator kind a =>
      refine (reads_cell a).bind fun c => ?_
      split <;> exact reads_pure _
    | curried _ c =>
      exact (reads_truth c.right).bind fun _ => (ih active _).bind fun _ =>
        (hall active _).bind fun _ => reads_pure _
    | template _ t =>
      exact (ih active _).bind fun _ => (hall active _).bind fun _ => reads_pure _
    | error kind arguments cause => exact (hall active _).bind fun _ => reads_pure _
    | _ => exact reads_pure _

theorem reads_shown (v : Value) : Reads (shown v) := reads_shownWithin maxValueDepth [] v

end LambdaText
