import LambdaText.Proofs.Library.Searches

/-!
# Folds

A fold calls a function with the result so far and the next item. From the left the calls nest to
the left, from the right they nest to the right, and the innermost call is made first. A fold over
two rows is one fold over each, and a fold from the right is one from the left over the items in the
opposite order, by the function that takes its arguments the other way around.
-/

namespace LambdaText

open LambdaText.Code LambdaText.Function

section

variable (m : Machine) (f : Value)

/-- Calls a function with a result and an item. -/
def callNext (result x : Value) : Run Value := callOn m f [result, x]

/-- Calls a function in nested calls, `f x₁ (f x₂ (… (f xₙ start)))`, from the innermost one on. -/
def callNested (start : Value) : List Value → Run Value
  | [] => pure start
  | x :: rest => do
    let result ← callNested start rest
    callOn m f [x, result]

/-- Whether values are sequences of items, and stay so while a function folds some items from the
left. -/
def StayDuringFold (start : Value) (items : List Value) (s : State)
    (sequences : List (Value × List Value)) : Prop :=
  ∀ front, front <+: items → ∀ result t,
    (front.foldlM (callNext m f) start).ends s = some (.ok result, t) →
      ∀ e ∈ sequences, t.IsSequence e.1 e.2

end

variable {m : Machine} {f start x : Value} {items before after : List Value} {s t u : State}

/-! ### Walks that fold -/

/-- A walk whose steps always go on, each with what one call gives. -/
theorem over_eq_foldlM {w : Walk Run Value Value Value} {next : Value → Value → Run Value}
    (hstep : ∀ result x, w.step result x = Sum.inl <$> next result x) (hfinal : w.final = pure)
    (start : Value) (items : List Value) : w.over start items = items.foldlM next start := by
  induction items generalizing start with
  | nil => rw [Walk.over, hfinal, List.foldlM_nil]
  | cons x rest ih =>
    simp only [Walk.over, hstep, map_eq_pure_bind, bind_assoc, pure_bind, ih, List.foldlM_cons]

theorem through_eq_foldlM {w : Walk Run Value Value Value} {next : Value → Value → Run Value}
    (hstep : ∀ result x, w.step result x = Sum.inl <$> next result x) (start : Value)
    (items : List Value) : w.through start items = Sum.inl <$> items.foldlM next start := by
  induction items generalizing start with
  | nil => rfl
  | cons x rest ih =>
    simp only [Walk.through, hstep, map_eq_pure_bind, bind_assoc, pure_bind, ih, List.foldlM_cons]

theorem folding_step (m : Machine) (f result x : Value) :
    (folding (callOn m) f).step result x = Sum.inl <$> callNext m f result x :=
  (map_eq_pure_bind _ _).symm

theorem foldingBack_step (m : Machine) (f result x : Value) :
    (foldingBack (callOn m) f).step result x = Sum.inl <$> callOn m f [x, result] :=
  (map_eq_pure_bind _ _).symm

theorem callNested_append (m : Machine) (f start : Value) (before after : List Value) :
    callNested m f start (before ++ after) =
      callNested m f start after >>= fun result => callNested m f result before := by
  induction before with
  | nil => exact (bind_pure _).symm
  | cons x before ih => simp only [List.cons_append, callNested, ih, bind_assoc]

/-- The innermost call is the one with the last item. -/
theorem foldlM_reverse_eq (m : Machine) (f start : Value) (items : List Value) :
    items.reverse.foldlM (fun result x => callOn m f [x, result]) start =
      callNested m f start items := by
  induction items with
  | nil => rfl
  | cons x rest ih => simp only [List.reverse_cons, List.foldlM_append, ih, callNested,
      List.foldlM_cons, List.foldlM_nil, bind_pure]

/-- A failing call is the last one that is made. -/
theorem ends_callNested_of_error {result e : Value}
    (hafter : (callNested m f start after).ends s = some (.ok result, t))
    (hx : (callOn m f [x, result]).ends t = some (.error e, u)) :
    (callNested m f start (before ++ x :: after)).ends s = some (.error e, u) := by
  rw [callNested_append]
  refine Run.ends_bind_of_error ?_ _
  rw [callNested, Run.ends_bind_of_ok hafter, hx]

/-! ### Operations that fold -/

theorem ends_foldLeft (hf : f.isCallable = true) {v : Value}
    (h : StayDuringFold m f start items s [(v, items)]) :
    (Operation.foldLeft.run m [f, start, v] []).ends s =
      (items.foldlM (callNext m f) start).ends s := by
  change (LambdaText.foldLeft m f start v).ends s = _
  rw [foldLeft, coerce_eq_pure hf, pure_bind, ← over_eq_foldlM (folding_step m f) rfl]
  refine ends_walkOver m fun front hfront result t hend => ?_
  rw [through_eq_foldlM (folding_step m f), map_eq_pure_bind] at hend
  obtain ⟨result, t, hend, hpure⟩ := Run.exists_of_ends_bind hend
  cases hpure
  exact h front hfront _ _ hend _ (List.mem_singleton_self _)

theorem ends_foldRight (hf : f.isCallable = true) {v : Value} (h : s.IsSequence v items) :
    (Operation.foldRight.run m [f, start, v] []).ends s = (callNested m f start items).ends s := by
  change (LambdaText.foldRight m f start v).ends s = _
  rw [foldRight, coerce_eq_pure hf, pure_bind, Run.ends_bind_of_ok (ends_itemsOf h m),
    over_eq_foldlM (foldingBack_step m f) rfl, foldlM_reverse_eq]

theorem StayDuringFold.front {sequences more : List (Value × List Value)}
    (h : StayDuringFold m f start (before ++ after) s sequences) (hmore : more ⊆ sequences) :
    StayDuringFold m f start before s more := fun front hfront result t hend e he =>
  h front (hfront.trans (List.prefix_append _ _)) result t hend e (hmore he)

theorem StayDuringFold.back {sequences more : List (Value × List Value)} {result : Value}
    (h : StayDuringFold m f start (before ++ after) s sequences)
    (hbefore : (before.foldlM (callNext m f) start).ends s = some (.ok result, t))
    (hmore : more ⊆ sequences) : StayDuringFold m f result after t more := by
  intro front hfront result' t' hend e he
  refine h (before ++ front) ((List.prefix_append_right_inj before).2 hfront) result' t' ?_ e
    (hmore he)
  rw [List.foldlM_append, Run.ends_bind_of_ok hbefore, hend]

/-- The function that takes its arguments the other way around. -/
theorem callOn_flip (m : Machine) (serial : Nat) (f a b : Value) :
    callOn m.above (.combined serial (.flip f)) [a, b] = callOn m f [b, a] := by
  change callCombined m (.flip f) [a, b] [] = _
  rw [callCombined, shareCombined_positions rfl rfl, pure_bind]
  rfl

/-- Folding the items backwards from the left, with the arguments the other way around. -/
theorem foldlM_flip (m : Machine) (serial : Nat) (f start : Value) (items : List Value) :
    items.reverse.foldlM (callNext m.above (.combined serial (.flip f))) start =
      callNested m f start items := by
  have hnext : callNext m.above (.combined serial (.flip f)) =
      fun result x => callOn m f [x, result] := by
    funext result x
    exact callOn_flip m serial f result x
  rw [hnext, foldlM_reverse_eq]

/-- Folds nest, and split anywhere. Wherever the calls leave the sequences alone, with whatever
calls of the function do: folding from the left is calling it with each item in turn; folding two
rows at once is folding one of them and then the other from its result, from the left the first row
and from the right the second row first; folding from the right is the nested application, of which
the first call that fails is the last one that is made; and it is folding the items in the opposite
order from the left, with the function that takes its arguments the other way around. -/
theorem folds_nest {f : Value} (hf : f.isCallable = true) (s : State) :
    (∀ (m : Machine) (start v v₁ v₂ : Value) (items₁ items₂ : List Value) (t : State),
      StayDuringFold m f start (items₁ ++ items₂) t
          [(v, items₁ ++ items₂), (v₁, items₁), (v₂, items₂)] →
        (Operation.foldLeft.run m [f, start, v] []).ends t =
            ((items₁ ++ items₂).foldlM (callNext m f) start).ends t ∧
          (Operation.foldLeft.run m [f, start, v] []).ends t =
            (Operation.foldLeft.run m [f, start, v₁] [] >>= fun result =>
              Operation.foldLeft.run m [f, result, v₂] []).ends t) ∧
    (∀ (m : Machine) (start v v₁ v₂ : Value) (items₁ items₂ : List Value) (t : State),
      t.IsSequence v (items₁ ++ items₂) → t.IsSequence v₂ items₂ →
      (∀ result u, (callNested m f start items₂).ends t = some (.ok result, u) →
        u.IsSequence v₁ items₁) →
      (Operation.foldRight.run m [f, start, v] []).ends t =
        (Operation.foldRight.run m [f, start, v₂] [] >>= fun result =>
          Operation.foldRight.run m [f, result, v₁] []).ends t) ∧
    (∀ (m : Machine) (start v : Value) (items : List Value) (t : State), t.IsSequence v items →
      (Operation.foldRight.run m [f, start, v] []).ends t = (callNested m f start items).ends t ∧
      ∀ before x after result e u u', items = before ++ x :: after →
        (callNested m f start after).ends t = some (.ok result, u) →
        (callOn m f [x, result]).ends u = some (.error e, u') →
        (Operation.foldRight.run m [f, start, v] []).ends t = some (.error e, u')) ∧
    ∃ c, (Operation.flip.run machine [f] []).ends s =
        some (.ok c, { s with serial := s.serial + 1 }) ∧
      (∀ m a b, callOn (Machine.above m) c [a, b] = callOn m f [b, a]) ∧
      ∀ (m : Machine) (start v w : Value) (items : List Value) (t : State),
        t.IsSequence v items →
        StayDuringFold m.above c start items.reverse t [(w, items.reverse)] →
        (Operation.foldRight.run m [f, start, v] []).ends t =
          (Operation.foldLeft.run m.above [c, start, w] []).ends t := by
  refine ⟨fun m start v v₁ v₂ items₁ items₂ t h => ?left,
    fun m start v v₁ v₂ items₁ items₂ t hv hv₂ hv₁ => ?right,
    fun m start v items t hv => ⟨ends_foldRight hf hv, ?fails⟩,
    _, ends_combineOne hf machine .flip s, fun m a b => callOn_flip m s.serial f a b,
    fun m start v w items t hv hw => ?flip⟩
  case left =>
    have hall : (Operation.foldLeft.run m [f, start, v] []).ends t =
        ((items₁ ++ items₂).foldlM (callNext m f) start).ends t :=
      ends_foldLeft hf fun front hfront result u hend e he =>
        h front hfront result u hend e (List.mem_cons.2 (.inl (List.mem_singleton.1 he)))
    refine ⟨hall, hall.trans ?_⟩
    have hfront : StayDuringFold m f start items₁ t [(v₁, items₁)] := h.front (by simp)
    rw [List.foldlM_append, Run.ends_bind_of_eq (ends_foldLeft hf hfront)]
    refine Run.ends_bind_congr fun result u hbefore => ?_
    have hback : StayDuringFold m f result items₂ u [(v₂, items₂)] := h.back hbefore (by simp)
    exact (ends_foldLeft hf hback).symm
  case right =>
    rw [ends_foldRight hf hv, callNested_append, Run.ends_bind_of_eq (ends_foldRight hf hv₂)]
    exact Run.ends_bind_congr fun result u hafter =>
      (ends_foldRight hf (hv₁ result u hafter)).symm
  case fails =>
    rintro before x after result e u u' rfl hafter hx
    rw [ends_foldRight hf hv, ends_callNested_of_error hafter hx]
  case flip => rw [ends_foldRight hf hv, ends_foldLeft rfl hw, foldlM_flip]

/-- Powers, which nest differently from the left and from the right. -/
theorem folds_nest_powers :
    ∃ c s, (Operation.flip.run machine [.builtin "pow"] []).ends {} = some (.ok c, s) ∧
      (Operation.foldLeft.run (machineAt 1) [.builtin "pow", .int 2, .tuple [.int 2]] [] >>=
        fun result => Operation.foldLeft.run (machineAt 1)
          [.builtin "pow", result, .tuple [.int 3]] []).ends {} = some (.ok (.int 64), {}) ∧
      (Operation.foldRight.run (machineAt 1) [.builtin "pow", .int 2, .tuple [.int 3]] [] >>=
        fun result => Operation.foldRight.run (machineAt 1)
          [.builtin "pow", result, .tuple [.int 2]] []).ends {} = some (.ok (.int 512), {}) ∧
      (Operation.foldLeft.run (machineAt 2) [c, .int 2, .tuple [.int 3, .int 2]] []).ends {} =
        some (.ok (.int 512), {}) ∧
      (Operation.foldRight.run (machineAt 1)
        [.builtin "pow", .text "a", .tuple [.int 2, .int 3]] []).ends {} =
          (callNested (machineAt 1) (.builtin "pow") (.text "a") [.int 2, .int 3]).ends {} := by
  have hleft : (Operation.foldLeft.run (machineAt 1)
      [.builtin "pow", .int 2, .tuple [.int 2, .int 3]] []).ends {} =
        some (.ok (.int 64), {}) := rfl
  have hright : (Operation.foldRight.run (machineAt 1)
      [.builtin "pow", .int 2, .tuple [.int 2, .int 3]] []).ends {} =
        some (.ok (.int 512), {}) := rfl
  have hstay (m : Machine) (f : Value) (items : List Value) (rows : List (List Value)) :
      StayDuringFold m f (.int 2) items {} (rows.map fun row => (.tuple row, row)) := by
    intro front _ result t _ e he
    obtain ⟨row, -, rfl⟩ := List.mem_map.1 he
    exact .tuple t row
  obtain ⟨hsplit, hback, hnested, c, hc, -, hflip⟩ :=
    folds_nest (f := .builtin "pow") rfl {}
  refine ⟨c, _, hc, ?_, ?_, ?_, (hnested _ _ (.tuple _) _ {} (.tuple {} _)).1⟩
  · rw [← hleft, (hsplit _ _ (.tuple [.int 2, .int 3]) (.tuple [.int 2]) (.tuple [.int 3])
      [.int 2] [.int 3] {} (hstay _ _ _ [[.int 2, .int 3], [.int 2], [.int 3]])).2]
  · rw [← hright, hback _ _ (.tuple [.int 2, .int 3]) (.tuple [.int 2]) (.tuple [.int 3])
      [.int 2] [.int 3] {} (.tuple {} _) (.tuple {} _) fun _ u _ => .tuple u _]
  · rw [← hright, hflip (machineAt 1) _ (.tuple [.int 2, .int 3]) (.tuple [.int 3, .int 2])
      [.int 2, .int 3] {} (.tuple {} _) (hstay _ _ _ [[.int 3, .int 2]])]
    rfl

end LambdaText
