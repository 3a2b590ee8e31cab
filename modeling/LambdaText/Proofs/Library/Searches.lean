import LambdaText.Proofs.Eval.Composition
import LambdaText.Proofs.Library.Walks

/-!
# Searches

A search calls a function on the items of a sequence, in order, until a result counts as what is
looked for. Looking for a result that holds and looking for one that does not hold of the opposite
function are the same calls: they stop at the same item, and one finds something if the other does.
-/

namespace LambdaText

open LambdaText.Code LambdaText.Function

/-! ### What counts as true -/

def State.counts (s : State) (v : Value) : Bool :=
  match (truth v).ends s with
  | some (.ok b, _) => b
  | _ => true

theorem ends_truth (v : Value) (s : State) : (truth v).ends s = some (.ok (s.counts v), s) := by
  have hends : ∃ b, (truth v).ends s = some (.ok b, s) := by
    cases v with
    | list address =>
      obtain ⟨items, hitems⟩ := Run.exists_ends_listItems address s
      exact ⟨_, Run.ends_bind_of_ok hitems _⟩
    | set address =>
      obtain ⟨items, hitems⟩ := Run.exists_ends_setItems address s
      exact ⟨_, Run.ends_bind_of_ok hitems _⟩
    | dict address | view _ address =>
      exact ⟨_, Run.ends_bind_of_ok (Run.ends_dictEntries address s) _⟩
    | _ => exact ⟨_, rfl⟩
  obtain ⟨b, hb⟩ := hends
  rw [State.counts, hb]

@[simp] theorem State.counts_bool (s : State) (b : Bool) : s.counts (.bool b) = b := rfl

/-! ### The opposite of a function -/

/-- Calls a function on an item and gives the opposite of its result. -/
def callOpposite (m : Machine) (f x : Value) : Run Value := do
  return .bool !(← truth (← callOn m f [x]))

theorem callOn_negate (m : Machine) (serial : Nat) (f x : Value) :
    callOn m.above (.combined serial (.negate f)) [x] = callOpposite m f x := by
  change callCombined m (.negate f) [x] [] = _
  rw [callCombined, shareCombined_positions rfl rfl, pure_bind]
  rfl

/-! ### Calls up to a decision -/

section

variable (m : Machine) (f : Value) (goal : Bool)

/-- Calls of a function on items, each once and in order, none of which gives what is looked for:
from a state and the last result before to the last result and the state that they leave. -/
inductive Undecided : State → Value → List Value → Value → State → Prop
  | nil (s : State) (last : Value) : Undecided s last [] last s
  | cons {s t u : State} {last x v last' : Value} {rest : List Value}
    (hx : (callOn m f [x]).ends s = some (.ok v, t)) (hv : t.counts v = !goal)
    (hrest : Undecided t v rest last' u) : Undecided s last (x :: rest) last' u

/-- How a search over items ends, and on which of them the function is called for it: on all of
them, if no result is what is looked for; or up to the first one that gives what is looked for, or
on which the call fails, or does not end. -/
inductive SearchEnd (last : Value) (items : List Value) (s : State) :
    List Value → Option (Except Value Value × State) → Prop
  | exhausted {last' : Value} {t : State} (h : Undecided m f goal s last items last' t) :
    SearchEnd last items s items (some (.ok last', t))
  | decided (before : List Value) {after : List Value} {x v last' : Value} {t u : State}
    (hitems : items = before ++ x :: after) (h : Undecided m f goal s last before last' t)
    (hx : (callOn m f [x]).ends t = some (.ok v, u)) (hv : u.counts v = goal) :
    SearchEnd last items s (before ++ [x]) (some (.ok v, u))
  | failed (before : List Value) {after : List Value} {x e last' : Value} {t u : State}
    (hitems : items = before ++ x :: after) (h : Undecided m f goal s last before last' t)
    (hx : (callOn m f [x]).ends t = some (.error e, u)) :
    SearchEnd last items s (before ++ [x]) (some (.error e, u))
  | endless (before : List Value) {after : List Value} {x last' : Value} {t : State}
    (hitems : items = before ++ x :: after) (h : Undecided m f goal s last before last' t)
    (hx : (callOn m f [x]).ends t = none) :
    SearchEnd last items s (before ++ [x]) none

end

variable {m : Machine} {f : Value} {goal : Bool} {s t : State} {last x v : Value}
  {items called : List Value} {e : Option (Except Value Value × State)}

theorem SearchEnd.cons (hx : (callOn m f [x]).ends s = some (.ok v, t)) (hv : t.counts v = !goal)
    (h : SearchEnd m f goal v items t called e) :
    SearchEnd m f goal last (x :: items) s (x :: called) e := by
  cases h with
  | exhausted h => exact .exhausted (.cons hx hv h)
  | decided before hitems h hend hcounts =>
    subst hitems
    exact .decided (x :: before) rfl (.cons hx hv h) hend hcounts
  | failed before hitems h hend =>
    subst hitems
    exact .failed (x :: before) rfl (.cons hx hv h) hend
  | endless before hitems h hend =>
    subst hitems
    exact .endless (x :: before) rfl (.cons hx hv h) hend

theorem SearchEnd.isPrefix (h : SearchEnd m f goal last items s called e) : called <+: items := by
  have hfront (before after : List Value) (x : Value) : before ++ [x] <+: before ++ x :: after :=
    ⟨after, by simp⟩
  cases h with
  | exhausted => exact List.prefix_rfl
  | decided _ hitems | failed _ hitems | endless _ hitems => exact hitems ▸ hfront _ _ _

theorem ends_deciding_step (last : Value) (hx : (callOn m f [x]).ends s = some (.ok v, t)) :
    ((deciding (callOn m) truth goal f).step last x).ends s =
      some (.ok (if t.counts v = goal then .inr v else .inl v), t) := by
  change (callOn m f [x] >>= fun result => _).ends s = _
  rw [Run.ends_bind_of_ok hx, Run.ends_bind_of_ok (ends_truth v t)]
  simp only [beq_iff_eq]
  split <;> rfl

/-- A walk that looks for a result ends as the search does. -/
theorem exists_searchEnd (m : Machine) (f : Value) (goal : Bool) (last : Value)
    (items : List Value) (s : State) :
    ∃ called, SearchEnd m f goal last items s called
      (((deciding (callOn m) truth goal f).over last items).ends s) := by
  induction items generalizing last s with
  | nil => exact ⟨[], .exhausted (.nil s last)⟩
  | cons x rest ih =>
    rw [Walk.over, Run.ends_bind]
    rcases (callOn m f [x]).ends_cases s with hx | ⟨e, t, hx⟩ | ⟨v, t, hx⟩
    · have hstep : ((deciding (callOn m) truth goal f).step last x).ends s = none := by
        change (callOn m f [x] >>= fun result => _).ends s = _
        rw [Run.ends_bind, hx]
      rw [hstep]
      exact ⟨[x], .endless [] rfl (.nil s last) hx⟩
    · have hstep : ((deciding (callOn m) truth goal f).step last x).ends s =
          some (.error e, t) := Run.ends_bind_of_error hx _
      rw [hstep]
      exact ⟨[x], .failed [] rfl (.nil s last) hx⟩
    · rw [ends_deciding_step last hx]
      by_cases hv : t.counts v = goal
      · rw [if_pos hv]
        exact ⟨[x], .decided [] rfl (.nil s last) hx hv⟩
      · rw [if_neg hv]
        obtain ⟨called, h⟩ := ih v t
        exact ⟨x :: called, h.cons hx (Bool.eq_not.2 hv)⟩

theorem undecided_of_through {front : List Value} {last' : Value}
    (h : ((deciding (callOn m) truth goal f).through last front).ends s =
      some (.ok (.inl last'), t)) : Undecided m f goal s last front last' t := by
  induction front generalizing last s with
  | nil =>
    cases h
    exact .nil _ _
  | cons x rest ih =>
    obtain ⟨next, u, hstep, hrest⟩ := Run.exists_of_ends_bind h
    obtain ⟨v, u', hx, -⟩ := Run.exists_of_ends_bind (r := callOn m f [x]) hstep
    rw [ends_deciding_step last hx] at hstep
    split at hstep
    · cases hstep
      cases hrest
    · next hv =>
      cases hstep
      exact .cons hx (Bool.eq_not.2 hv) (ih hrest)

/-! ### Opposite searches -/

/-- Whether a result is the opposite of another one in a state. -/
def IsOpposite (s : State) (v w : Value) : Prop := w = .bool !(s.counts v)

theorem ends_opposite_of_ok (hx : (callOn m f [x]).ends s = some (.ok v, t)) (serial : Nat) :
    (callOn m.above (.combined serial (.negate f)) [x]).ends s =
      some (.ok (.bool !(t.counts v)), t) := by
  rw [callOn_negate, callOpposite, Run.ends_bind_of_ok hx, Run.ends_bind_of_ok (ends_truth v t)]
  rfl

theorem ends_opposite_of_error {e : Value} (hx : (callOn m f [x]).ends s = some (.error e, t))
    (serial : Nat) : (callOn m.above (.combined serial (.negate f)) [x]).ends s =
      some (.error e, t) := by
  rw [callOn_negate, callOpposite, Run.ends_bind_of_error hx]

theorem ends_opposite_of_none (hx : (callOn m f [x]).ends s = none) (serial : Nat) :
    (callOn m.above (.combined serial (.negate f)) [x]).ends s = none := by
  rw [callOn_negate, callOpposite, Run.ends_bind, hx]

theorem inStep_opposite (m : Machine) (f x : Value) (serial : Nat) (s : State) :
    InStep IsOpposite ((callOn m f [x]).ends s)
      ((callOn m.above (.combined serial (.negate f)) [x]).ends s) := by
  rcases (callOn m f [x]).ends_cases s with hx | ⟨e, t, hx⟩ | ⟨v, t, hx⟩
  · rw [hx, ends_opposite_of_none hx]
    exact .endless
  · rw [hx, ends_opposite_of_error hx]
    exact .error e t
  · rw [hx, ends_opposite_of_ok hx]
    exact .ok rfl

/-- Looking for a result, and looking for the opposite one of the opposite function. -/
theorem keepStep_deciding (m : Machine) (f : Value) (goal : Bool) (serial : Nat) :
    KeepStep IsOpposite IsOpposite (deciding (callOn m) truth goal f)
      (deciding (callOn m.above) truth (!goal) (.combined serial (.negate f))) where
  step {s last last'} x h := by
    change InStep _ ((callOn m f [x] >>= fun result => _).ends s)
      ((callOn m.above _ [x] >>= fun result => _).ends s)
    refine (inStep_opposite m f x serial s).bind fun {t v w} hw => ?_
    subst hw
    have hboth : ((!t.counts v) == !goal) = (t.counts v == goal) := by
      cases t.counts v <;> cases goal <;> rfl
    rw [Run.ends_bind_of_ok (ends_truth _ t), Run.ends_bind_of_ok (ends_truth _ t),
      State.counts_bool, hboth]
    split
    · exact .ok (.inr rfl)
    · exact .ok (.inl rfl)
  final h := .ok h

theorem Undecided.opposite {last' w : Value} (h : Undecided m f goal s last items last' t)
    (serial : Nat) (hw : IsOpposite s last w) :
    Undecided m.above (.combined serial (.negate f)) (!goal) s w items
      (.bool !(t.counts last')) t := by
  induction h generalizing w with
  | nil s last =>
    rw [hw]
    exact .nil s _
  | @cons s t u last x v last' rest hx hv hrest ih =>
    refine .cons (ends_opposite_of_ok hx serial) ?_ (ih rfl)
    rw [State.counts_bool, hv]

theorem SearchEnd.opposite {w : Value} {e' : Option (Except Value Value × State)}
    (h : SearchEnd m f goal last items s called e) (serial : Nat) (hw : IsOpposite s last w)
    (he : InStep IsOpposite e e') :
    SearchEnd m.above (.combined serial (.negate f)) (!goal) w items s called e' := by
  cases h with
  | exhausted h =>
    cases he with
    | ok hb =>
      rw [hb]
      exact .exhausted (h.opposite serial hw)
  | decided _ hitems h hx hv =>
    cases he with
    | ok hb =>
      rw [hb]
      refine .decided _ hitems (h.opposite serial hw) (ends_opposite_of_ok hx serial) ?_
      rw [State.counts_bool, hv]
  | failed _ hitems h hx =>
    cases he
    exact .failed _ hitems (h.opposite serial hw) (ends_opposite_of_error hx serial)
  | endless _ hitems h hx =>
    cases he
    exact .endless _ hitems (h.opposite serial hw) (ends_opposite_of_none hx serial)

/-! ### Operations -/

/-- The operation that looks for a result that counts as `goal`. -/
def Operation.searchFor : Bool → Operation
  | true => .someItem
  | false => .everyItem

theorem run_searchFor {f : Value} (hf : f.isCallable = true) (m : Machine) (goal : Bool)
    (v : Value) : (Operation.searchFor goal).run m [f, v] [] =
      walkOver m (deciding (callOn m) truth goal f) (.bool !goal) v := by
  cases goal with
  | true =>
    change LambdaText.someItem m f v = _
    rw [someItem, coerce_eq_pure hf, pure_bind]
    rfl
  | false =>
    change LambdaText.everyItem m f v = _
    rw [everyItem, coerce_eq_pure hf, pure_bind]
    rfl

theorem ends_combineOne {f : Value} (hf : f.isCallable = true) (m : Machine)
    (make : Value → Combinator Value) (s : State) :
    (combineOne m make f).ends s =
      some (.ok (.combined s.serial (make f)), { s with serial := s.serial + 1 }) := by
  rw [combineOne, coerce_eq_pure hf, pure_bind]
  rfl

/-- Looking for a result that holds and looking for one that does not are dual. The opposite of a
function calls it once and gives the opposite truth value. A search of the function for `goal` and
one of its opposite for the other truth value end in the same state, with the same error, or with
opposite results, of which one is what is looked for if the other is, whatever the calls do to the
sequence. As long as they leave its items alone, both searches call their function on the same first
ones of them, each once and in order, up to the first one that decides or fails, and give the result
of the last call; without items they give that nothing is found. -/
theorem searches_dual {f : Value} (hf : f.isCallable = true) (goal : Bool) (s : State) :
    ∃ c, (Operation.negate.run machine [f] []).ends s =
        some (.ok c, { s with serial := s.serial + 1 }) ∧
      (∀ m x, callOn (Machine.above m) c [x] = callOpposite m f x) ∧
      ∀ (m : Machine) (v : Value) (items : List Value) (t : State), t.IsSequence v items →
        let e := ((Operation.searchFor goal).run m [f, v] []).ends t
        let e' := ((Operation.searchFor !goal).run m.above [c, v] []).ends t
        InStep IsOpposite e e' ∧
        (∀ r u, e = some (.ok r, u) →
          (u.counts r = goal ↔ e' = some (.ok (.bool !goal), u))) ∧
        ((∀ front, front <+: items → ∀ last u,
            Undecided m f goal t (.bool !goal) front last u → u.IsSequence v items) →
          ∃ called, called <+: items ∧ SearchEnd m f goal (.bool !goal) items t called e ∧
            SearchEnd m.above c (!goal) (.bool goal) items t called e') := by
  refine ⟨_, ends_combineOne hf machine .negate s, fun m x => callOn_negate m s.serial f x,
    fun m v items t hv => ?_⟩
  intro e e'
  have hopposite : InStep IsOpposite e e' := by
    rw [show e = _ from congrArg (Run.ends · t) (run_searchFor hf m goal v),
      show e' = _ from congrArg (Run.ends · t) (run_searchFor rfl m.above (!goal) v)]
    exact (keepStep_deciding m f goal s.serial).walkOver hv m m.above rfl
  refine ⟨hopposite, fun r u hr => ?_, fun hstays => ?_⟩
  · rw [hr] at hopposite
    generalize e' = e' at hopposite
    cases hopposite with
    | ok hb =>
      rw [hb]
      cases u.counts r <;> cases goal <;> simp
  · have hwalk : e = ((deciding (callOn m) truth goal f).over (.bool !goal) items).ends t := by
      rw [show e = _ from congrArg (Run.ends · t) (run_searchFor hf m goal v)]
      exact ends_walkOver m fun front hfront last u hend =>
        hstays front hfront last u (undecided_of_through hend)
    obtain ⟨called, hcalled⟩ := exists_searchEnd m f goal (.bool !goal) items t
    rw [← hwalk] at hcalled
    refine ⟨called, hcalled.isPrefix, hcalled, hcalled.opposite s.serial ?_ hopposite⟩
    rw [IsOpposite, State.counts_bool, Bool.not_not]

/-- The lengths of texts, of which the second one is empty. -/
theorem searches_dual_lengths :
    ∃ c t called, (Operation.negate.run machine [.builtin "len"] []).ends {} = some (.ok c, t) ∧
      called <+: [Value.text "a", .text "", .text "b"] ∧
      SearchEnd (machineAt 1) (.builtin "len") false (.bool true)
        [.text "a", .text "", .text "b"] {} called (some (.ok (.int 0), {})) ∧
      ((Operation.someItem.run (machineAt 2)
        [c, .tuple [.text "a", .text "", .text "b"]] []).ends {} = some (.ok (.bool true), {})) := by
  have hrun : (Operation.everyItem.run (machineAt 1)
      [.builtin "len", .tuple [.text "a", .text "", .text "b"]] []).ends {} =
        some (.ok (.int 0), {}) := rfl
  obtain ⟨c, hc, -, hsearch⟩ := searches_dual (f := .builtin "len") rfl false {}
  obtain ⟨-, hiff, hstays⟩ := hsearch (machineAt 1)
    (.tuple [.text "a", .text "", .text "b"]) _ {} (.tuple {} _)
  obtain ⟨called, hcalled, hend, -⟩ := hstays fun front hfront last u h => .tuple u _
  exact ⟨c, _, called, hc, hcalled, hrun ▸ hend, (hiff _ _ hrun).1 rfl⟩

end LambdaText
