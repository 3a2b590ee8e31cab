import Mathlib.Tactic.Ring
import LambdaText.Library.Operation
import LambdaText.Proofs.Eval.Templates

/-!
# Walks over sequences

A sequence is a text, bytes, a tuple or a range, or a list, which may change while a walk goes over
it. As long as it does not, a walk over the sequence is a walk over its items. Two walks over one
sequence whose steps agree keep in step whatever happens to the sequence.
-/

namespace LambdaText

open LambdaText.Code LambdaText.Function

/-! ### Levels -/

/-- The machine one level above another one, to which it leaves the parts of what it evaluates;
`machineAt (n + 1)` is the one above `machineAt n`. -/
def Machine.above (m : Machine) : Machine where
  expr scope e := exprStep m scope e
  block scope b := blockStep m scope b
  call f positions keywords := callStep m f positions keywords
  advance address := advanceStep m address

/-! ### Sequences -/

/-- Whether a value is a sequence of these items in a state. -/
inductive State.IsSequence (s : State) : Value → List Value → Prop
  | fixed {v : Value} {items : List Value} (h : fixedItems? v = some items) : s.IsSequence v items
  | range (first last step : Int) :
    s.IsSequence (.range first last step) (rangeItems first last step)
  | list {address : Nat} {items : Array Value} (h : s.cells[address]? = some (.list items)) :
    s.IsSequence (.list address) items.toList

namespace State.IsSequence

variable {s t : State} {v : Value} {items : List Value}

theorem tuple (s : State) (items : List Value) : s.IsSequence (.tuple items) items := .fixed rfl

theorem more (h : s.IsSequence v items) (hcells : ∃ more, t.cells = s.cells ++ more) :
    t.IsSequence v items := by
  obtain ⟨more, hcells⟩ := hcells
  cases h with
  | fixed h => exact .fixed h
  | range => exact .range ..
  | list h =>
    refine .list ?_
    rw [hcells, Array.getElem?_append_left (Array.getElem?_eq_some_iff.1 h).1, h]

theorem getElem?_list {address : Nat} (h : s.IsSequence (.list address) items) :
    s.cells[address]? = some (.list items.toArray) := by
  cases h with
  | fixed h => cases h
  | list h => exact h

end State.IsSequence

theorem ends_listItems_of {s : State} {address : Nat} {items : Array Value}
    (h : s.cells[address]? = some (.list items)) :
    (Run.listItems address).ends s = some (.ok items, s) := by
  rw [Run.listItems, Run.ends_bind_of_ok (Run.ends_cell address s), h]
  rfl

/-- The items of a sequence can be had at once. -/
theorem ends_itemsOf {s : State} {v : Value} {items : List Value} (h : s.IsSequence v items)
    (m : Machine) : (itemsOf m v).ends s = some (.ok items, s) := by
  have hhand : (itemsAtHand? v).ends s = some (.ok (some items), s) := by
    cases h with
    | fixed h => cases v <;> cases h <;> rfl
    | range => rfl
    | list h =>
      rw [itemsAtHand?, Run.ends_bind_of_ok (ends_listItems_of h)]
      rfl
  rw [itemsOf, Run.ends_bind_of_ok hhand]
  rfl

/-! ### Walks over the items -/

/-- The steps of a walk over items, without what it gives at their end. -/
def Function.Walk.through {m : Type → Type} [Monad m] {α σ ρ : Type} (w : Walk m α σ ρ) :
    σ → List α → m (σ ⊕ ρ)
  | s, [] => pure (.inl s)
  | s, a :: rest => do
    match ← w.step s a with
    | .inl s => w.through s rest
    | .inr r => pure (.inr r)

section Walks

variable {σ ρ : Type} (w : Walk Run Value σ ρ) (m : Machine)

/-- Whether a value is a sequence of items and stays so as long as a walk goes over them. -/
def StaysDuring (a : σ) (v : Value) (items : List Value) (s : State) : Prop :=
  ∀ front, front <+: items → ∀ b t, (w.through a front).ends s = some (.ok (.inl b), t) →
    t.IsSequence v items

variable {w} {a b : σ} {v x : Value} {items rest : List Value} {s t : State}

theorem StaysDuring.isSequence (h : StaysDuring w a v items s) : s.IsSequence v items :=
  h [] (List.nil_prefix) a s rfl

theorem ends_through_cons (h : (w.step a x).ends s = some (.ok (.inl b), t)) :
    (w.through a (x :: rest)).ends s = (w.through b rest).ends t := by
  rw [Walk.through, Run.ends_bind_of_ok h]

theorem walkRange_eq_over (step i : Int) (n : Nat) (a : σ) :
    walkRange w step i n a =
      w.over a ((List.range n).map fun (k : Nat) => .int (i + k * step)) := by
  induction n generalizing i a with
  | zero => rfl
  | succ n ih =>
    have hrest : ((List.range n).map fun k : Nat => Value.int (i + step + k * step)) =
        (List.range n).map ((fun k : Nat => Value.int (i + k * step)) ∘ Nat.succ) := by
      refine List.map_congr_left fun k _ => ?_
      simp only [Function.comp_apply, Nat.succ_eq_add_one, Nat.cast_add, Nat.cast_one]
      ring_nf
    rw [List.range_succ_eq_map, List.map_cons, List.map_map, ← hrest, walkRange, Walk.over,
      Nat.cast_zero, zero_mul, add_zero]
    refine congrArg (w.step a (.int i) >>= ·) (funext fun next => ?_)
    cases next with
    | inl b => exact ih (i + step) b
    | inr r => rfl

/-- A walk over a list from a position on, as long as nothing changes the list. -/
theorem ends_listSteps (address : Nat) (before rest : List Value) {fuel : Nat}
    (hfuel : rest.length < fuel)
    (h : ∀ front, front <+: rest → ∀ b t, (w.through a front).ends s = some (.ok (.inl b), t) →
      t.cells[address]? = some (.list (before ++ rest).toArray)) :
    (Run.repeatWithin (listStep w address) fuel (before.length, a)).ends s =
      (w.over a rest).ends s := by
  obtain ⟨fuel, rfl⟩ := Nat.exists_eq_succ_of_ne_zero (Nat.ne_zero_of_lt hfuel)
  have hitems := ends_listItems_of (h [] List.nil_prefix a s rfl)
  induction rest generalizing before a s fuel with
  | nil =>
    have hnone : (before ++ []).toArray[before.length]? = none := by simp
    rw [Run.repeatWithin, listStep, bind_assoc, Run.ends_bind_of_ok hitems]
    simp only [hnone, bind_assoc, pure_bind, bind_pure, Walk.over]
  | cons x rest ih =>
    have hsome : (before ++ x :: rest).toArray[before.length]? = some x := by simp
    rw [Run.repeatWithin, listStep, bind_assoc, Run.ends_bind_of_ok hitems]
    simp only [hsome, bind_assoc, Walk.over]
    refine Run.ends_bind_congr fun next t hstep => ?_
    cases next with
    | inr r => exact Run.ends_pure_bind _ _ _
    | inl b =>
      have hlater : ∀ front, front <+: rest → ∀ b' t',
          (w.through b front).ends t = some (.ok (.inl b'), t') →
          t'.cells[address]? = some (.list ((before ++ [x]) ++ rest).toArray) := by
        intro front hfront b' t' hend
        rw [List.append_assoc, List.singleton_append]
        refine h (x :: front) ?_ b' t' ((ends_through_cons hstep).trans hend)
        exact List.cons_prefix_cons.2 ⟨rfl, hfront⟩
      have hlength : rest.length < fuel := by simpa using hfuel
      obtain ⟨fuel, rfl⟩ := Nat.exists_eq_succ_of_ne_zero (Nat.ne_zero_of_lt hlength)
      have hnext := ih (before ++ [x]) hlater fuel hlength
        (ends_listItems_of (hlater [] List.nil_prefix b t rfl))
      rw [List.length_append, List.length_singleton] at hnext
      exact hnext

theorem walkOver_fixed (h : fixedItems? v = some items) (m : Machine) (w : Walk Run Value σ ρ)
    (a : σ) : walkOver m w a v = w.over a items := by
  cases v <;> first | (cases h; done) | simp only [walkOver, h]

/-- A walk over a sequence is one over its items, as long as it stays the sequence of these. -/
theorem ends_walkOver (h : StaysDuring w a v items s) :
    (walkOver m w a v).ends s = (w.over a items).ends s := by
  cases h.isSequence with
  | fixed hfixed => rw [walkOver_fixed hfixed]
  | range first last step => rw [walkOver, walkRange_eq_over, rangeItems]
  | @list address items hlist =>
    have hfuel : items.toList.length < items.size + Run.maxSteps := by simp [Run.maxSteps]
    have hsteps := ends_listSteps (w := w) (a := a) (s := s) address [] items.toList hfuel
      fun front hfront b t hend => (h front hfront b t hend).getElem?_list
    rw [walkOver, walkList, Run.ends_bind_of_ok (ends_listItems_of hlist)]
    exact hsteps

end Walks

/-! ### Walks that keep in step -/

section InStep

variable {α β γ δ σ τ ρ ρ' : Type}

/-- Whether two computations end in the same state, both with one error or with results that compare
in it, or both not at all. -/
inductive InStep (R : State → α → β → Prop) :
    Option (Except Value α × State) → Option (Except Value β × State) → Prop
  | endless : InStep R none none
  | error (e : Value) (t : State) : InStep R (some (.error e, t)) (some (.error e, t))
  | ok {t : State} {a : α} {b : β} (h : R t a b) : InStep R (some (.ok a, t)) (some (.ok b, t))

theorem InStep.bind {R : State → α → β → Prop} {S : State → γ → δ → Prop} {r : Run α}
    {r' : Run β} {f : α → Run γ} {f' : β → Run δ} {s : State}
    (h : InStep R (r.ends s) (r'.ends s))
    (hf : ∀ {t a b}, R t a b → InStep S ((f a).ends t) ((f' b).ends t)) :
    InStep S ((r >>= f).ends s) ((r' >>= f').ends s) := by
  rw [Run.ends_bind, Run.ends_bind]
  generalize r.ends s = e at h
  generalize r'.ends s = e' at h
  cases h with
  | endless => exact .endless
  | error e t => exact .error e t
  | ok h => exact hf h

theorem InStep.pure {S : State → α → β → Prop} {t : State} {a : α} {b : β} (h : S t a b) :
    InStep S ((Pure.pure a : Run α).ends t) ((Pure.pure b : Run β).ends t) :=
  .ok h

/-- Whether two walks keep in step from what compares on, whatever the items are. -/
structure KeepStep (R : State → σ → τ → Prop) (S : State → ρ → ρ' → Prop)
    (w : Walk Run Value σ ρ) (w' : Walk Run Value τ ρ') : Prop where
  step {t : State} {a : σ} {b : τ} (x : Value) (h : R t a b) :
    InStep (fun u => Sum.LiftRel (R u) (S u)) ((w.step a x).ends t) ((w'.step b x).ends t)
  final {t : State} {a : σ} {b : τ} (h : R t a b) :
    InStep S ((w.final a).ends t) ((w'.final b).ends t)

namespace KeepStep

variable {R : State → σ → τ → Prop} {S : State → ρ → ρ' → Prop} {w : Walk Run Value σ ρ}
  {w' : Walk Run Value τ ρ'} (h : KeepStep R S w w') {s : State} {a : σ} {b : τ}

include h

theorem overItems (items : List Value) (hab : R s a b) :
    InStep S ((w.over a items).ends s) ((w'.over b items).ends s) := by
  induction items generalizing s a b with
  | nil => exact h.final hab
  | cons x rest ih =>
    refine (h.step x hab).bind fun hnext => ?_
    cases hnext with
    | inl hab => exact ih hab
    | inr hr => exact .pure hr

theorem walkRange (step i : Int) (n : Nat) (hab : R s a b) :
    InStep S ((LambdaText.walkRange w step i n a).ends s)
      ((LambdaText.walkRange w' step i n b).ends s) := by
  rw [walkRange_eq_over, walkRange_eq_over]
  exact h.overItems _ hab

/-- A list may change between the steps, but it is the same list for both walks. -/
theorem listSteps (address fuel i : Nat) (hab : R s a b) :
    InStep S ((Run.repeatWithin (listStep w address) fuel (i, a)).ends s)
      ((Run.repeatWithin (listStep w' address) fuel (i, b)).ends s) := by
  induction fuel generalizing s a b i with
  | zero => exact .endless
  | succ fuel ih =>
    obtain ⟨look, hlook⟩ := Run.reads_listItems address
    rw [Run.repeatWithin, Run.repeatWithin, listStep, listStep, bind_assoc, bind_assoc,
      Run.ends_bind, Run.ends_bind, hlook]
    cases look s.cells with
    | error e => exact .error e s
    | ok items =>
      dsimp only
      cases items[i]? with
      | none =>
        simp only [bind_assoc, pure_bind, bind_pure]
        exact h.final hab
      | some x =>
        rw [bind_assoc, bind_assoc]
        refine (h.step x hab).bind fun hnext => ?_
        cases hnext with
        | inl hab => exact ih (i + 1) hab
        | inr hr => exact .pure hr

theorem walkOver {v : Value} {items : List Value} (hv : s.IsSequence v items) (m m' : Machine)
    (hab : R s a b) :
    InStep S ((LambdaText.walkOver m w a v).ends s) ((LambdaText.walkOver m' w' b v).ends s) := by
  cases hv with
  | fixed hfixed =>
    rw [walkOver_fixed hfixed, walkOver_fixed hfixed]
    exact h.overItems items hab
  | range first last step => exact h.walkRange step first _ hab
  | @list address items hlist =>
    rw [LambdaText.walkOver, LambdaText.walkOver, walkList, walkList,
      Run.ends_bind_of_ok (ends_listItems_of hlist), Run.ends_bind_of_ok (ends_listItems_of hlist)]
    exact h.listSteps address _ 0 hab

end KeepStep

end InStep

end LambdaText
