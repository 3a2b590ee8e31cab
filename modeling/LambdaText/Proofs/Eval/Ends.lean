import LambdaText.Eval.Levels

/-!
# How computations end

A computation that starts in a state ends with a value or an error and the state it leaves, or not
at all. Computations are taken apart by the equations here and not by their definition.
-/

namespace LambdaText

open LambdaText.Function

/-- The entries of the dictionary in a cell, none if it holds something else. -/
def State.dictAt (s : State) (address : Nat) : Array (Value × Value) :=
  match s.cells[address]?.getD (.list #[]) with
  | .dict entries => entries
  | _ => #[]

namespace Run

variable {α β : Type}

/-- How a computation ends, given the state it starts in. -/
def ends (r : Run α) (s : State) : Option (Except Value α × State) := (ExceptT.run r).run s

@[simp] theorem ends_pure (a : α) (s : State) : (pure a : Run α).ends s = some (.ok a, s) := rfl

@[simp] theorem ends_throw (e : Value) (s : State) :
    (throw e : Run α).ends s = some (.error e, s) := rfl

@[simp] theorem ends_diverge (s : State) : (diverge : Run α).ends s = none := rfl

/-- A computation goes on with the value of its first part, unless that fails. -/
theorem ends_bind (r : Run α) (f : α → Run β) (s : State) :
    (r >>= f).ends s = match r.ends s with
      | none => none
      | some (.ok a, t) => (f a).ends t
      | some (.error e, t) => some (.error e, t) := by
  simp only [ends, bind, ExceptT.bind, ExceptT.mk, ExceptT.run, StateT.run, StateT.bind,
    Option.bind]
  cases r s with
  | none => rfl
  | some result =>
    obtain ⟨result, t⟩ := result
    cases result <;> rfl

theorem ends_bind_of_ok {r : Run α} {s t : State} {a : α} (h : r.ends s = some (.ok a, t))
    (f : α → Run β) : (r >>= f).ends s = (f a).ends t := by
  rw [ends_bind, h]

theorem ends_bind_of_error {r : Run α} {s t : State} {e : Value}
    (h : r.ends s = some (.error e, t)) (f : α → Run β) :
    (r >>= f).ends s = some (.error e, t) := by
  rw [ends_bind, h]

/-- A computation ends well, or with an error, or not at all. -/
theorem ends_cases (r : Run α) (s : State) :
    r.ends s = none ∨ (∃ e t, r.ends s = some (.error e, t)) ∨
      ∃ a t, r.ends s = some (.ok a, t) := by
  cases r.ends s with
  | none => exact .inl rfl
  | some result =>
    obtain ⟨result, t⟩ := result
    cases result with
    | error e => exact .inr (.inl ⟨e, t, rfl⟩)
    | ok a => exact .inr (.inr ⟨a, t, rfl⟩)

/-- A computation whose error is handled. -/
theorem ends_tryCatch (r : Run α) (handle : Value → Run α) (s : State) :
    (tryCatch r handle : Run α).ends s = match r.ends s with
      | none => none
      | some (.ok a, t) => some (.ok a, t)
      | some (.error e, t) => (handle e).ends t := by
  simp only [ends, tryCatch, tryCatchThe, MonadExceptOf.tryCatch, ExceptT.tryCatch, ExceptT.mk,
    ExceptT.run, StateT.run, bind, StateT.bind, Option.bind]
  cases r s with
  | none => rfl
  | some result =>
    obtain ⟨result, t⟩ := result
    cases result <;> rfl

/-- Computations with one first part that go on alike. -/
theorem ends_bind_congr {r : Run α} {f g : α → Run β} {s : State}
    (h : ∀ a t, r.ends s = some (.ok a, t) → (f a).ends t = (g a).ends t) :
    (r >>= f).ends s = (r >>= g).ends s := by
  rw [ends_bind, ends_bind]
  split
  · rfl
  · exact h _ _ ‹_›
  · rfl

/-- First parts that end alike, and one way to go on. -/
theorem ends_bind_of_eq {r r' : Run α} {s : State} (h : r.ends s = r'.ends s) (f : α → Run β) :
    (r >>= f).ends s = (r' >>= f).ends s := by
  rw [ends_bind, ends_bind, h]

/-- How a computation ends comes from its first part, if that fails, or else from the second one. -/
theorem ends_bind_cases {r : Run α} {f : α → Run β} {s t : State} {result : Except Value β}
    (h : (r >>= f).ends s = some (result, t)) :
    (∃ e, r.ends s = some (.error e, t) ∧ result = .error e) ∨
      ∃ a u, r.ends s = some (.ok a, u) ∧ (f a).ends u = some (result, t) := by
  rcases r.ends_cases s with hnone | ⟨e, u, herror⟩ | ⟨a, u, hok⟩
  · rw [ends_bind, hnone] at h
    cases h
  · rw [ends_bind_of_error herror] at h
    cases h
    exact .inl ⟨e, herror, rfl⟩
  · rw [ends_bind_of_ok hok] at h
    exact .inr ⟨a, u, hok, h⟩

/-- If a computation ends well, so does its first part. -/
theorem exists_of_ends_bind {r : Run α} {f : α → Run β} {s t : State} {b : β}
    (h : (r >>= f).ends s = some (.ok b, t)) :
    ∃ a u, r.ends s = some (.ok a, u) ∧ (f a).ends u = some (.ok b, t) := by
  obtain ⟨e, -, ⟨⟩⟩ | hok := ends_bind_cases h
  exact hok

@[simp] theorem ends_pure_bind (a : α) (f : α → Run β) (s : State) :
    (pure a >>= f).ends s = (f a).ends s := rfl

@[simp] theorem ends_throw_bind (e : Value) (f : α → Run β) (s : State) :
    (throw e >>= f).ends s = some (.error e, s) := rfl

@[simp] theorem ends_get_bind (f : State → Run β) (s : State) :
    ((get : Run State) >>= f).ends s = (f s).ends s := rfl

@[simp] theorem ends_modify (g : State → State) (s : State) :
    (modify g : Run PUnit).ends s = some (.ok ⟨⟩, g s) := rfl

@[simp] theorem ends_modify_bind (g : State → State) (f : PUnit → Run β) (s : State) :
    ((modify g : Run PUnit) >>= f).ends s = (f ⟨⟩).ends (g s) := rfl

@[simp] theorem ends_modifyGet (g : State → α × State) (s : State) :
    (modifyGet g : Run α).ends s = some (.ok (g s).1, (g s).2) := rfl

@[simp] theorem ends_log (source : String) (level : Log.Level) (message : String) (s : State) :
    (log source level message).ends s =
      some (.ok (), { s with log := s.log.push ⟨source, level, message⟩ }) := rfl

@[simp] theorem ends_fresh (s : State) :
    fresh.ends s = some (.ok s.serial, { s with serial := s.serial + 1 }) := rfl

@[simp] theorem ends_alloc (c : Cell) (s : State) :
    (alloc c).ends s = some (.ok s.cells.size, { s with cells := s.cells.push c }) := rfl

@[simp] theorem ends_enterFrame (f : Frame) (s : State) :
    (enterFrame f).ends s = some (.ok s.frames.size, { s with frames := s.frames.push f }) := rfl

theorem ends_frame (address : Nat) (s : State) :
    (frame address).ends s = some (.ok (s.frames[address]?.getD {}), s) := rfl

theorem ends_cell (address : Nat) (s : State) :
    (cell address).ends s = some (.ok (s.cells[address]?.getD (.list #[])), s) := rfl

theorem ends_dictEntries (address : Nat) (s : State) :
    (dictEntries address).ends s = some (.ok (s.dictAt address), s) := by
  rw [dictEntries, ends_bind_of_ok (ends_cell address s), State.dictAt]
  cases s.cells[address]?.getD (.list #[]) <;> rfl

theorem exists_ends_listItems (address : Nat) (s : State) :
    ∃ items, (listItems address).ends s = some (.ok items, s) := by
  rw [listItems, ends_bind_of_ok (ends_cell address s)]
  cases s.cells[address]?.getD (.list #[]) <;> exact ⟨_, rfl⟩

theorem exists_ends_setItems (address : Nat) (s : State) :
    ∃ items, (setItems address).ends s = some (.ok items, s) := by
  rw [setItems, ends_bind_of_ok (ends_cell address s)]
  cases s.cells[address]?.getD (.list #[]) <;> exact ⟨_, rfl⟩

/-- A computation whose error is caught ends well with what it came to. -/
theorem ends_caught (r : Run α) (s : State) :
    (tryCatch (Except.ok <$> r) fun e => pure (Except.error e) : Run (Except Value α)).ends s =
      (r.ends s).map fun result => (.ok result.1, result.2) := by
  simp only [ends, tryCatch, tryCatchThe, MonadExceptOf.tryCatch, ExceptT.tryCatch, ExceptT.mk,
    ExceptT.run, StateT.run, bind, StateT.bind, Functor.map, ExceptT.map, Option.bind]
  cases r s with
  | none => rfl
  | some result =>
    obtain ⟨result, t⟩ := result
    cases result <;> rfl

/-- A function runs one level deeper, as long as there are levels left. -/
theorem ends_deeper {s : State} (h : s.depth < maxDepth) (r : Run α) :
    (deeper r).ends s = (r.ends { s with depth := s.depth + 1 }).map fun result =>
      (result.1, { result.2 with depth := s.depth }) := by
  have hle : ¬ maxDepth ≤ s.depth := Nat.not_le.2 h
  simp only [deeper, ends_get_bind, hle, if_false, ends_modify_bind]
  rw [ends_bind, ends_caught]
  cases r.ends { s with depth := s.depth + 1 } with
  | none => rfl
  | some result =>
    obtain ⟨result, t⟩ := result
    cases result <;> rfl

/-- Computations that each end well and change nothing do so one after the other. -/
theorem exists_ends_mapM {f : α → Run β} {items : List α} {s : State}
    (h : ∀ a ∈ items, ∃ b, (f a).ends s = some (.ok b, s)) :
    ∃ bs, (items.mapM f).ends s = some (.ok bs, s) := by
  induction items with
  | nil => exact ⟨[], rfl⟩
  | cons a rest ih =>
    obtain ⟨b, hb⟩ := h a (List.mem_cons_self ..)
    obtain ⟨bs, hbs⟩ := ih fun a ha => h a (List.mem_cons_of_mem _ ha)
    refine ⟨b :: bs, ?_⟩
    rw [List.mapM_cons, ends_bind_of_ok hb, ends_bind_of_ok hbs]
    rfl

/-! ### Computations that are carried out -/

/-- Whether a computation comes to a value, which is a number or a text. -/
def comesTo (r : Run Value) (s : State) (v : Value) : Bool :=
  match r.ends s, v with
  | some (.ok (.int m), _), .int n => m == n
  | some (.ok (.text m), _), .text n => m == n
  | _, _ => false

theorem exists_ends_of_comesTo {r : Run Value} {s : State} {v : Value}
    (h : r.comesTo s v = true) : ∃ t, r.ends s = some (.ok v, t) := by
  unfold comesTo at h
  split at h
  · next m t n hends => exact ⟨t, by rw [hends, beq_iff_eq.1 h]⟩
  · next m t n hends => exact ⟨t, by rw [hends, beq_iff_eq.1 h]⟩
  · cases h

/-! ### The same in every state -/

/-- A computation that ends in the same way in every state, and leaves it as it is. -/
def Constant (r : Run α) : Prop := ∃ result, ∀ s, r.ends s = some (result, s)

theorem constant_pure (a : α) : (pure a : Run α).Constant := ⟨.ok a, fun _ => rfl⟩

theorem constant_throw (e : Value) : (throw e : Run α).Constant := ⟨.error e, fun _ => rfl⟩

theorem Constant.bind {r : Run α} {f : α → Run β} (h : r.Constant)
    (hf : ∀ a, (f a).Constant) : (r >>= f).Constant := by
  obtain ⟨result, hresult⟩ := h
  cases result with
  | error e => exact ⟨.error e, fun s => ends_bind_of_error (hresult s) f⟩
  | ok a =>
    obtain ⟨result, ha⟩ := hf a
    exact ⟨result, fun s => (ends_bind_of_ok (hresult s) f).trans (ha s)⟩

theorem Constant.ite {c : Prop} [Decidable c] {r r' : Run α} (h : r.Constant)
    (h' : r'.Constant) : (if c then r else r').Constant := by
  split
  · exact h
  · exact h'

end Run

end LambdaText
