import LambdaText.Value.Run
import LambdaText.Proofs.Eval.Repetition

/-!
# Congruences

A congruence is a relation between computations that passes on to what is put together from related
ones, and that holds between every single step on values and itself. A property that is passed on in
this way is a congruence between a computation and itself. What holds of all congruences, such as
that they relate an operation to itself if they relate the calls that it makes, is shown once for all
such relations and properties.
-/

namespace LambdaText

open LambdaText.Function

/-- The fault of the library that an error comes from, if it does. -/
def Value.fault? : Value → Option Fault
  | .error _ _ (some (.fault fault)) => some fault
  | _ => Option.none

/-- The same state in other surroundings: with another log, other variables of the environment, and
another choice of the shared compiler. -/
def State.within (s : State) (log : Array Log.Record) (environment : List (String × String))
    (shared : Option Nat) : State :=
  { s with log, environment, shared }

@[simp] theorem State.within_within (s : State) (log log' : Array Log.Record)
    (environment environment' : List (String × String)) (shared shared' : Option Nat) :
    (s.within log environment shared).within log' environment' shared' =
      s.within log' environment' shared' := rfl

@[simp] theorem State.within_self (s : State) : s.within s.log s.environment s.shared = s := rfl

namespace Run

/-! ### Relations -/

/-- A relation between computations that come to results of one kind. -/
abbrev Relation := (α : Type) → Run α → Run α → Prop

/-- Two computations that are related. -/
class Related (R : Relation) {α : Type} (r₀ r : Run α) : Prop where
  holds : R α r₀ r

/-- A computation that is related to itself. -/
abbrev Respects (R : Relation) {α : Type} (r : Run α) : Prop := Related R r r

def both (P : (α : Type) → Run α → Prop) : Relation := fun α r₀ r => P α r₀ ∧ P α r

theorem both_self {P : (α : Type) → Run α → Prop} {α : Type} {r : Run α} (h : P α r) :
    both P α r r :=
  ⟨h, h⟩

/-- A step that has to do neither with the surroundings nor with the compilers, and does not take back
that a scope has been shown. -/
structure IsLocal {α : Type} (g : State → α × State) : Prop where
  within (s : State) (log : Array Log.Record) (environment : List (String × String))
    (shared : Option Nat) : g (s.within log environment shared) =
      ((g s).1, (g s).2.within log environment shared)
  compilers (s : State) : (g s).2.compilers = s.compilers
  exposed (s : State) : s.exposed = true → (g s).2.exposed = true

theorem IsLocal.log {α : Type} {g : State → α × State} (h : IsLocal g) (s : State) :
    (g s).2.log = s.log := by
  have hwithin := h.within s s.log s.environment s.shared
  rw [State.within_self] at hwithin
  exact congrArg (fun e => e.2.log) hwithin

/-- A relation that is passed on, and that holds between the single steps of computations on values
and themselves. -/
class Congruence (R : Relation) : Prop where
  pure {α : Type} (a : α) : R α (pure a) (pure a)
  throw {α : Type} {e : Value} (he : e.fault? = none) : R α (throw e) (throw e)
  diverge {α : Type} : R α diverge diverge
  bind {α β : Type} {r₀ r : Run α} {f₀ f : α → Run β} (hr : R α r₀ r)
    (hf : ∀ a, R β (f₀ a) (f a)) : R β (r₀ >>= f₀) (r >>= f)
  limit {σ α : Type} {step₀ step : σ → Run (σ ⊕ α)}
    (h : ∀ n s, R α (repeatWithin step₀ n s) (repeatWithin step n s)) (s : σ) :
    R α (iterate step₀ s) (iterate step s)
  modifyGet {α : Type} {g : State → α × State} (h : IsLocal g) : R α (modifyGet g) (modifyGet g)

/-! ### What is put together -/

section

variable {R : Relation} [Congruence R] {α β σ : Type}

instance respects_pure (a : α) : Respects R (pure a : Run α) := ⟨Congruence.pure a⟩

instance respects_throw (kind : String) (arguments : List Value) :
    Respects R (throw (.error kind arguments none) : Run α) :=
  ⟨Congruence.throw rfl⟩

instance respects_raise (kind message : String) : Respects R (raise kind message : Run α) :=
  ⟨Congruence.throw rfl⟩

instance respects_raiseIssues (issues : List Issue) : Respects R (raiseIssues issues : Run α) :=
  ⟨Congruence.throw rfl⟩

instance respects_diverge : Respects R (diverge : Run α) := ⟨Congruence.diverge⟩

instance related_bind (r₀ r : Run α) (f₀ f : α → Run β) [hr : Related R r₀ r]
    [hf : ∀ a, Related R (f₀ a) (f a)] : Related R (r₀ >>= f₀) (r >>= f) :=
  ⟨Congruence.bind hr.holds fun a => (hf a).holds⟩

theorem Related.bind {r₀ r : Run α} {f₀ f : α → Run β} (hr : Related R r₀ r)
    (hf : ∀ a, Related R (f₀ a) (f a)) : Related R (r₀ >>= f₀) (r >>= f) :=
  related_bind r₀ r f₀ f

instance related_map (f : α → β) (r₀ r : Run α) [Related R r₀ r] :
    Related R (f <$> r₀) (f <$> r) := by
  rw [map_eq_pure_bind, map_eq_pure_bind]
  infer_instance

instance related_ite (c : Prop) [Decidable c] (r₀ r q₀ q : Run α) [Related R r₀ r]
    [Related R q₀ q] : Related R (if c then r₀ else q₀) (if c then r else q) := by
  split <;> infer_instance

instance related_mapM (f₀ f : α → Run β) [∀ a, Related R (f₀ a) (f a)] (l : List α) :
    Related R (l.mapM f₀) (l.mapM f) := by
  induction l with
  | nil => exact respects_pure []
  | cons a l ih =>
    rw [List.mapM_cons, List.mapM_cons]
    infer_instance

instance related_forM (f₀ f : α → Run PUnit) [∀ a, Related R (f₀ a) (f a)] (l : List α) :
    Related R (l.forM f₀) (l.forM f) := by
  induction l with
  | nil => exact respects_pure _
  | cons a l ih =>
    rw [List.forM_eq_forM, List.forM_cons, List.forM_cons]
    exact .bind inferInstance fun _ => ih

instance related_anyM (f₀ f : α → Run Bool) [∀ a, Related R (f₀ a) (f a)] (l : List α) :
    Related R (l.anyM f₀) (l.anyM f) := by
  induction l with
  | nil => exact respects_pure false
  | cons a l ih =>
    unfold List.anyM
    refine .bind inferInstance fun found => ?_
    cases found <;> infer_instance

instance related_repeatWithin (step₀ step : σ → Run (σ ⊕ α))
    [∀ s, Related R (step₀ s) (step s)] (n : Nat) (s : σ) :
    Related R (repeatWithin step₀ n s) (repeatWithin step n s) := by
  induction n generalizing s with
  | zero => exact respects_diverge
  | succ n ih =>
    refine .bind inferInstance fun result => ?_
    cases result with
    | inl s => exact ih s
    | inr a => infer_instance

instance related_iterate (step₀ step : σ → Run (σ ⊕ α)) [∀ s, Related R (step₀ s) (step s)]
    (s : σ) : Related R (iterate step₀ s) (iterate step s) :=
  ⟨Congruence.limit (fun n s => (related_repeatWithin step₀ step n s).holds) s⟩

/-! ### Parts of the state -/

theorem respects_modifyGet {g : State → α × State}
    (h : ∀ s log environment shared, g (s.within log environment shared) =
      ((g s).1, (g s).2.within log environment shared))
    (hg : ∀ s, (g s).2.compilers = s.compilers)
    (hexposed : ∀ s, s.exposed = true → (g s).2.exposed = true) :
    Respects R (modifyGet g : Run α) :=
  ⟨Congruence.modifyGet ⟨h, hg, hexposed⟩⟩

theorem respects_modify {g : State → State}
    (h : ∀ s log environment shared, g (s.within log environment shared) =
      (g s).within log environment shared) (hg : ∀ s, (g s).compilers = s.compilers)
    (hexposed : ∀ s, s.exposed = true → (g s).exposed = true) :
    Respects R (modify g : Run PUnit) :=
  respects_modifyGet (fun s log environment shared =>
    congrArg (Prod.mk PUnit.unit) (h s log environment shared)) hg hexposed

/-- Looking at a part of the state. -/
theorem respects_get_bind {f : State → α}
    (h : ∀ s log environment shared, f (s.within log environment shared) = f s) :
    Respects R (do return f (← get) : Run α) :=
  respects_modifyGet (R := R) (g := fun s => (f s, s))
    (fun s log environment shared => congrArg (·, _) (h s log environment shared)) (fun _ => rfl)
    fun _ h => h

instance respects_expose : Respects R expose :=
  respects_modify (fun _ _ _ _ => rfl) (fun _ => rfl) fun _ _ => rfl

instance respects_fresh : Respects R fresh :=
  respects_modifyGet (fun _ _ _ _ => rfl) (fun _ => rfl) fun _ h => h

instance respects_alloc (c : Cell) : Respects R (alloc c) :=
  respects_modifyGet (fun _ _ _ _ => rfl) (fun _ => rfl) fun _ h => h

instance respects_cell (address : Nat) : Respects R (cell address) :=
  respects_get_bind fun _ _ _ _ => rfl

instance respects_setCell (address : Nat) (c : Cell) : Respects R (setCell address c) :=
  respects_modify (fun _ _ _ _ => rfl) (fun _ => rfl) fun _ h => h

instance respects_listItems (address : Nat) : Respects R (listItems address) := by
  refine .bind inferInstance fun c => ?_
  cases c <;> infer_instance

instance respects_dictEntries (address : Nat) : Respects R (dictEntries address) := by
  refine .bind inferInstance fun c => ?_
  cases c <;> infer_instance

instance respects_setItems (address : Nat) : Respects R (setItems address) := by
  refine .bind inferInstance fun c => ?_
  cases c <;> infer_instance

instance respects_newList (items : Array Value) : Respects R (newList items) := by
  unfold newList
  infer_instance

instance respects_newDict (entries : Array (Value × Value)) : Respects R (newDict entries) := by
  unfold newDict
  infer_instance

instance respects_newSet (items : Array Value) : Respects R (newSet items) := by
  unfold newSet
  infer_instance

instance respects_newIterator (kind : String) (i : Iterator) :
    Respects R (newIterator kind i) := by
  unfold newIterator
  infer_instance

instance respects_enterFrame (f : Frame) : Respects R (enterFrame f) :=
  respects_modifyGet (fun _ _ _ _ => rfl) (fun _ => rfl) fun _ h => h

instance respects_frame (address : Nat) : Respects R (frame address) :=
  respects_get_bind fun _ _ _ _ => rfl

instance respects_setFrame (address : Nat) (f : Frame) : Respects R (setFrame address f) :=
  respects_modify (fun _ _ _ _ => rfl) (fun _ => rfl) fun _ h => h

end

end Run

end LambdaText
